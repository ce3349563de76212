import InputDeck.Entity
import InputDeck.Producer.Fields

namespace InputDeck

/-- One field that entities of a kind may have. -/
structure FieldRule where
  name : String
  isRequired : Bool
  quote : Quote := .auto
  deriving DecidableEq

def FieldRule.required (name : String) (quote : Quote := .auto) : FieldRule :=
  { name, isRequired := true, quote }

def FieldRule.optional (name : String) (quote : Quote := .auto) : FieldRule :=
  { name, isRequired := false, quote }

/-- The fields that entities of a kind may have, in the order in which they are written. -/
structure Schema where
  kind : String
  rules : List FieldRule
  deriving DecidableEq

/-- The field that holds the kind. -/
def typeField : String :=
  "type"

/-- A quote that the caller chose goes before the one of the table. -/
def FieldRule.quoteFor (rule : FieldRule) (supplied : Quote) : Quote :=
  match supplied with
  | .auto => rule.quote
  | .never | .double | .single => supplied

namespace Schema

def rule? (s : Schema) (name : String) : Option FieldRule :=
  s.rules.find? fun rule => rule.name == name

/-- Moves the supplied values one rule after the other into `built`. -/
def fill (kind entity : String) : List FieldRule → Fields → Fields → Except Fault Fields
  | [], _, built => .ok built
  | rule :: rest, values, built =>
      match values.getThenErase? rule.name with
      | (some field, others) =>
          fill kind entity rest others
            (built.insert rule.name { field with quote := rule.quoteFor field.quote })
      | (none, others) =>
          if rule.isRequired then .error (.missingField kind entity rule.name)
          else fill kind entity rest others built

/-- An entity of this kind: its kind as the first field, then the supplied values in the order of
the table. No value may be foreign to the table and none that it requires may be missing. -/
def build (s : Schema) (name : String) (values : Fields) : Except Fault Entity := do
  let name ← BlockName.ofString "entity" name
  match values.names.find? fun field => (s.rule? field).isNone with
  | some foreign => .error (.unknownField s.kind name.text foreign)
  | none =>
      let kindOnly := Fields.insert ∅ typeField { value := .scalar (.text s.kind) }
      let fields ← fill s.kind name.text s.rules values kindOnly
      return { name, kind := some s.kind, fields }

/-- An entity of this kind whose values come from a producer. -/
def buildFrom (s : Schema) (name : String) (p : Producer) : Except Fault Entity := do
  let values ← p.toFields
  s.build name values

end Schema

end InputDeck
