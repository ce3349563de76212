namespace InputDeck

/-- A number is whole, within 64 bits and a sign, or a double. -/
inductive Number where
  | integer (n : Int64)
  | float (x : Float)
  deriving BEq

def Number.isInteger : Number → Bool
  | integer _ => true
  | float _ => false

def Number.toFloat : Number → Float
  | integer n => n.toFloat
  | float x => x

/-- One literal of a deck. -/
inductive Scalar where
  | bool (b : Bool)
  | number (n : Number)
  | text (s : String)
  deriving BEq

def Scalar.text? : Scalar → Option String
  | text s => some s
  | _ => none

def Scalar.number? : Scalar → Option Number
  | number n => some n
  | _ => none

/-- A link to another entity by its name, and perhaps to one port of it. -/
structure Reference where
  target : String
  port : Option String := none
  deriving DecidableEq

/-- The content of one field. It never holds another entity, only names of some. -/
inductive Value where
  | scalar (s : Scalar)
  | list (items : List Scalar)
  | reference (r : Reference)
  | references (rs : List Reference)
  deriving BEq

namespace Value

def isScalar : Value → Bool
  | scalar _ => true
  | _ => false

/-- Lists of literals and lists of references alike. -/
def isList : Value → Bool
  | list _ | references _ => true
  | scalar _ | reference _ => false

/-- One reference or a list of them. -/
def isReference : Value → Bool
  | reference _ | references _ => true
  | scalar _ | list _ => false

def scalar? : Value → Option Scalar
  | scalar s => some s
  | _ => none

def text? (v : Value) : Option String :=
  v.scalar?.bind Scalar.text?

/-- The names that the value points at, in order. -/
def targets : Value → List String
  | reference r => [r.target]
  | references rs => rs.map Reference.target
  | scalar _ | list _ => []

/-- References without ports. -/
def ofTargets (targets : List String) : Value :=
  references (targets.map fun target => { target })

end Value

/-- How a rendered value is wrapped. -/
inductive Quote where
  /-- lists in double quotes, everything else bare -/
  | auto
  | never
  | double
  | single
  deriving DecidableEq

/-- A value and the way it is quoted. -/
structure Field where
  value : Value
  quote : Quote := .auto
  deriving BEq

end InputDeck
