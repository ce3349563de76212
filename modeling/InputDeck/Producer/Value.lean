import InputDeck.Fault
import InputDeck.Producer.Basic

namespace InputDeck

/-- A number that a signed 64-bit integer can hold stays whole. What is greater is rounded to the
nearest double; only numbers without sign can be. -/
def MachineInt.toNumber (n : MachineInt) : Number :=
  if n.toInt ≤ Int64.maxValue.toInt then .integer (Int64.ofInt n.toInt)
  else .float (UInt64.ofNat n.toInt.toNat).toFloat

def WideInt.refusal : WideInt → String
  | int128 _ => "i128 is not supported"
  | uint128 _ => "u128 is not supported"

def Value.reference? : Value → Option Reference
  | reference r => some r
  | _ => none

/-- A member of a list of literals. -/
def Value.literal : Value → Except Fault Scalar
  | scalar s => .ok s
  | reference _ => .error (.unsupported "list mixes references and literals")
  | list _ | references _ => .error (.unsupported "nested list")

/-- A list is of references only or of literals only. The empty list is one of literals. -/
def Value.ofElements (elements : List Value) : Except Fault Value :=
  if !elements.isEmpty && elements.all fun v => v.reference?.isSome then
    .ok (.references (elements.filterMap Value.reference?))
  else (elements.mapM Value.literal).map .list

/-- What is left of a value when a wrapper of the given name is taken off. -/
def Value.unwrap (name : String) (inner : Option Value) : Except Fault (Option Value) :=
  if name = referenceToken then
    match inner with
    | some (.scalar (.text target)) => .ok (some (.reference { target }))
    | _ => .error (.unsupported "reference target must be a string")
  else if name = portReferenceToken then
    match inner with
    | some (.list [.text target, .text port]) =>
        .ok (some (.reference { target, port := some port }))
    | _ => .error (.unsupported "port reference must be (target, port)")
  else .ok inner

/-- Structured data is too much for one field. -/
def Fault.notAValue (what : String) : Fault :=
  .unsupported (what ++ " cannot be a field value")

mutual

/-- The value of one field, or nothing if the data is absent. -/
def Producer.toValue? : Producer → Except Fault (Option Value)
  | .bool b => .ok (some (.scalar (.bool b)))
  | .integer n => .ok (some (.scalar (.number n.toNumber)))
  | .wide n => .error (.custom n.refusal)
  | .float32 x => .ok (some (.scalar (.number (.float x.toFloat))))
  | .float64 x => .ok (some (.scalar (.number (.float x))))
  | .char c => .ok (some (.scalar (.text c.toString)))
  | .text s => .ok (some (.scalar (.text s)))
  | .bytes bs => .ok (some (.list (bs.map fun b => .number (.integer b.toUInt64.toInt64))))
  | .absent | .unit | .unitStruct _ => .ok none
  | .present inner => inner.toValue?
  | .wrapper name inner => do
      let found ← inner.toValue?
      Value.unwrap name found
  | .unitVariant variant => .ok (some (.scalar (.text variant)))
  | .newtypeVariant _ _ => .error (.notAValue "newtype variant")
  | .tupleVariant _ => .error (.notAValue "tuple variant")
  | .structVariant _ _ => .error (.notAValue "struct variant")
  | .sequence _ elements => do
      let values ← Producer.toElements elements
      return some (← Value.ofElements values)
  | .map _ => .error (.notAValue "map")
  | .struct name _ => .error (.notAValue ("struct " ++ name))

/-- The values of the members of a list, none of which may be absent. -/
def Producer.toElements : List Producer → Except Fault (List Value)
  | [] => .ok []
  | p :: rest => do
      match ← p.toValue? with
      | none => .error (.unsupported "empty element in list")
      | some v =>
          let others ← Producer.toElements rest
          return v :: others

end

end InputDeck
