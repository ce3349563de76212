import InputDeck.Entity
import InputDeck.Producer.Value
import InputDeck.Value.Diagnostic

namespace InputDeck

/-- Inserts the value of `p` under `key` if there is one. A value that has no form in a deck is
reported with the name of its field. -/
def Fields.collect (m : Fields) (key : String) (p : Producer) : Except Fault Fields :=
  match p.toValue? with
  | .ok (some v) => .ok (m.insert key { value := v })
  | .ok none => .ok m
  | .error (.unsupported problem) =>
      .error (.unsupported ("field '" ++ key ++ "': " ++ problem))
  | .error fault => .error fault

/-- A skipped field leaves no trace. -/
def Fields.collectEntry (m : Fields) : StructEntry → Except Fault Fields
  | .field key p => m.collect key p
  | .skipped _ => .ok m

/-- What a map has handed over so far: the fields, and the key whose value is still to come. -/
structure MapProgress where
  fields : Fields := ∅
  pending : Option String := none

/-- Keys have to be text. -/
def Producer.toKey (p : Producer) : Except Fault String := do
  match ← p.toValue? with
  | some (.scalar (.text s)) => return s
  | some v => .error (.unsupported ("field names must be strings, found " ++ v.diagnostic))
  | none => .error (.unsupported "field names must be strings, found none")

/-- A value goes under the last key, and uses it up even if the value is absent. A key that is
followed by another one is forgotten. -/
def MapProgress.step (progress : MapProgress) : MapCall → Except Fault MapProgress
  | .key p => p.toKey.map fun key => { progress with pending := some key }
  | .value p =>
      match progress.pending with
      | none => .error (.custom "serialize_value called without serialize_key")
      | some key => (progress.fields.collect key p).map fun fields => { fields }

/-- A single value has no names to go by. -/
def Fault.noFields (what : String) : Fault :=
  .unsupported ("producer must be a struct or map, found " ++ what)

/-- The fields of a struct or a map, in the order in which it hands them over. Absent data has
none, and wrappers of every name are seen through. -/
def Producer.toFields : Producer → Except Fault Fields
  | .absent | .unit | .unitStruct _ => .ok ∅
  | .present inner | .wrapper _ inner => inner.toFields
  | .map calls => (calls.foldlM MapProgress.step {}).map MapProgress.fields
  | .struct _ entries => entries.foldlM Fields.collectEntry ∅
  | .bool _ => .error (.noFields "bool")
  | .integer _ => .error (.noFields "integer")
  | .wide n => .error (.custom n.refusal)
  | .float32 _ | .float64 _ => .error (.noFields "float")
  | .char _ => .error (.noFields "char")
  | .text _ => .error (.noFields "string")
  | .bytes _ => .error (.noFields "bytes")
  | .unitVariant _ | .newtypeVariant _ _ | .tupleVariant _ | .structVariant _ _ =>
      .error (.noFields "enum variant")
  | .sequence .sequence _ => .error (.noFields "sequence")
  | .sequence .tuple _ => .error (.noFields "tuple")
  | .sequence .tupleStruct _ => .error (.noFields "tuple struct")

/-- An entity whose fields come from a producer. -/
def Entity.ofProducer (name : String) (p : Producer) : Except Fault Entity := do
  let fields ← p.toFields
  Entity.ofName name fields

end InputDeck
