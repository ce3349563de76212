import InputDeck.Value.Basic

namespace InputDeck

/-- The types whose values are literals as they stand. -/
class Literal (α : Type u) where
  toScalar : α → Scalar

export Literal (toScalar)

/-- A number without sign stays whole as long as a sign bit leaves room for it. -/
def Number.ofUInt64 (n : UInt64) : Number :=
  if n < 0x8000000000000000 then .integer n.toInt64 else .float n.toFloat

instance : Literal Bool := ⟨.bool⟩
instance : Literal Int32 := ⟨fun n => .number (.integer n.toInt64)⟩
instance : Literal Int64 := ⟨fun n => .number (.integer n)⟩
instance : Literal UInt32 := ⟨fun n => .number (.integer n.toUInt64.toInt64)⟩
instance : Literal UInt64 := ⟨fun n => .number (.ofUInt64 n)⟩
instance : Literal Float32 := ⟨fun x => .number (.float x.toFloat)⟩
instance : Literal Float := ⟨fun x => .number (.float x)⟩
instance : Literal String := ⟨.text⟩
instance : Literal Scalar := ⟨id⟩

namespace Value

def ofLiteral [Literal α] (x : α) : Value :=
  scalar (toScalar x)

def ofLiterals [Literal α] (xs : List α) : Value :=
  list (xs.map toScalar)

end Value

end InputDeck
