import InputDeck.BlockName
import InputDeck.Fields

namespace InputDeck

/-- A block that holds fields only. Its kind is for the caller: it is not written. -/
structure Entity where
  name : BlockName
  kind : Option String := none
  fields : Fields := ∅

namespace Entity

/-- An entity without a kind. -/
def ofName (name : String) (fields : Fields) : Except Fault Entity :=
  (BlockName.ofString "entity" name).map fun name => { name, fields }

def withKind (e : Entity) (kind : String) : Entity :=
  { e with kind := some kind }

/-- An entity of the given kind. -/
def tagged (name kind : String) (fields : Fields) : Except Fault Entity :=
  (ofName name fields).map fun e => e.withKind kind

/-- Writes a field into the place its name already has, or behind the others. -/
def withField (e : Entity) (name : String) (value : Value) (quote : Quote := .auto) : Entity :=
  { e with fields := e.fields.insert name { value, quote } }

def value? (e : Entity) (field : String) : Option Value :=
  e.fields.value? field

def beq (a b : Entity) : Bool :=
  a.name == b.name && a.kind == b.kind && a.fields == b.fields

instance : BEq Entity := ⟨beq⟩

/-- The block line by line, without indentation. -/
def lines (resolver : Resolver) (separator : String) (e : Entity) : Except Fault (List String) := do
  let own ← e.fields.lines resolver separator e.name.text
  return e.name.header :: own ++ [closingLine]

end Entity

end InputDeck
