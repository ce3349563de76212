import InputDeck.Proofs.ValueGrammar
import InputDeck.Value.Literal

namespace InputDeck

theorem toInt_toInt64_of_lt {n : UInt64} (h : n < 0x8000000000000000) :
    n.toInt64.toInt = n.toNat := by
  apply BitVec.toInt_eq_toNat_of_lt
  have hlt : n.toNat < 0x8000000000000000 := UInt64.lt_iff_toNat_lt.mp h
  change 2 * n.toNat < 0x10000000000000000
  omega

/-- The types whose values are literals and, as data, offer themselves as one value each. -/
inductive LiteralType where
  | bool
  | int32
  | int64
  | uint32
  | uint64
  | float32
  | float64
  | text

namespace LiteralType

def Carrier : LiteralType → Type
  | bool => Bool
  | int32 => Int32
  | int64 => Int64
  | uint32 => UInt32
  | uint64 => UInt64
  | float32 => Float32
  | float64 => Float
  | text => String

instance (t : LiteralType) : Literal t.Carrier :=
  match t with
  | bool => inferInstanceAs (Literal Bool)
  | int32 => inferInstanceAs (Literal Int32)
  | int64 => inferInstanceAs (Literal Int64)
  | uint32 => inferInstanceAs (Literal UInt32)
  | uint64 => inferInstanceAs (Literal UInt64)
  | float32 => inferInstanceAs (Literal Float32)
  | float64 => inferInstanceAs (Literal Float)
  | text => inferInstanceAs (Literal String)

/-- A value of the type as data. -/
def toProducer : (t : LiteralType) → t.Carrier → Producer
  | bool, b => .bool b
  | int32, n => .integer (.int32 n)
  | int64, n => .integer (.int64 n)
  | uint32, n => .integer (.uint32 n)
  | uint64, n => .integer (.uint64 n)
  | float32, x => .float32 x
  | float64, x => .float64 x
  | text, s => .text s

end LiteralType

namespace Producer

theorem scalarForm_uint32 (n : UInt32) :
    ScalarForm (.integer (.uint32 n)) (.number (.integer n.toUInt64.toInt64)) := by
  apply ScalarForm.integer
  rw [toInt_toInt64_of_lt, UInt32.toNat_toUInt64]
  · rfl
  · rw [UInt64.lt_iff_toNat_lt, UInt32.toNat_toUInt64]
    exact Nat.lt_trans n.toNat_lt (by decide)

/-- The bound on what stays whole is the same for a literal and for data. -/
theorem scalarForm_uint64 (n : UInt64) :
    ScalarForm (.integer (.uint64 n)) (.number (.ofUInt64 n)) := by
  unfold Number.ofUInt64
  split
  · next h => exact .integer (toInt_toInt64_of_lt h)
  · next h =>
      apply ScalarForm.large
      have hle : 0x8000000000000000 ≤ n.toNat := UInt64.le_iff_toNat_le.mp (UInt64.not_lt.mp h)
      rw [Int64.toInt_maxValue]
      omega

theorem isScalar_toProducer (t : LiteralType) (x : t.Carrier) :
    (t.toProducer x).IsScalar (toScalar x) := by
  cases t with
  | bool => exact ScalarForm.bool x
  | int32 => exact ScalarForm.integer (Int32.toInt_toInt64 x)
  | int64 => exact ScalarForm.integer rfl
  | uint32 => exact scalarForm_uint32 x
  | uint64 => exact scalarForm_uint64 x
  | float32 => exact ScalarForm.float32 x
  | float64 => exact ScalarForm.float64 x
  | text => exact ScalarForm.text x

theorem isList_sequence {shape : SequenceShape} {toProducer : α → Producer} {item : α → Scalar}
    (h : ∀ x, (toProducer x).IsScalar (item x)) (xs : List α) :
    (Producer.sequence shape (xs.map toProducer)).IsList (xs.map item) := by
  refine ListForm.sequence ?_
  rw [List.forall₂_map_left_iff, List.forall₂_map_right_iff, List.forall₂_same]
  exact fun x _ => h x

theorem isScalar_byte (b : UInt8) :
    (Producer.integer (.uint8 b)).IsScalar (.number (.integer (Int64.ofNat b.toNat))) := by
  refine ScalarForm.integer (Int64.toInt_ofNat_of_lt ?_)
  exact Nat.lt_trans b.toNat_lt (by decide)

theorem isScalar_of_le {n : MachineInt} (h : n.toInt ≤ Int64.maxValue.toInt) :
    ∃ i : Int64, i.toInt = n.toInt ∧ (Producer.integer n).IsScalar (.number (.integer i)) := by
  obtain ⟨i, hi, -⟩ := MachineInt.toNumber_of_le h
  exact ⟨i, hi, .integer hi⟩

/-- Literals and lists of literals are the same values whether they are made as such or read from
data. Bytes are read as the list of them. A whole number of any type keeps its value as long as a
sign bit leaves room for it, and the greater ones are rounded either way. -/
theorem toValue?_literal :
    (∀ (t : LiteralType) (x : t.Carrier),
      (t.toProducer x).toValue? = .ok (some (.ofLiteral x))) ∧
    (∀ (t : LiteralType) (shape : SequenceShape) (xs : List t.Carrier),
      (Producer.sequence shape (xs.map t.toProducer)).toValue? = .ok (some (.ofLiterals xs))) ∧
    (∀ (shape : SequenceShape) (bs : List UInt8), ∃ items,
      (Producer.bytes bs).toValue? = .ok (some (.list items)) ∧
        (Producer.sequence shape (bs.map fun b => .integer (.uint8 b))).toValue? =
          .ok (some (.list items))) ∧
    (∀ n : MachineInt, n.toInt ≤ Int64.maxValue.toInt → ∃ i : Int64, i.toInt = n.toInt ∧
      (Producer.integer n).toValue? = .ok (some (.scalar (.number (.integer i)))) ∧
        ∀ (t : LiteralType) (x : t.Carrier), t.toProducer x = .integer n →
          Value.ofLiteral x = .scalar (.number (.integer i))) ∧
    ∀ n : UInt64, Int64.maxValue.toInt < n.toNat →
      (Producer.integer (.uint64 n)).toValue? = .ok (some (.scalar (.number (.float n.toFloat)))) ∧
        Value.ofLiteral n = .scalar (.number (.float n.toFloat)) := by
  have hliteral : ∀ (t : LiteralType) (x : t.Carrier),
      (t.toProducer x).toValue? = .ok (some (.ofLiteral x)) :=
    fun t x => toValue?_eq_scalar_iff.mpr (isScalar_toProducer t x)
  refine ⟨hliteral, ?_, ?_, ?_, ?_⟩
  · intro t shape xs
    exact toValue?_eq_list_iff.mpr (isList_sequence (isScalar_toProducer t) xs)
  · intro shape bs
    refine ⟨_, toValue?_bytes bs, ?_⟩
    exact toValue?_eq_list_iff.mpr (isList_sequence isScalar_byte bs)
  · intro n hn
    obtain ⟨i, hi, hscalar⟩ := isScalar_of_le hn
    have hvalue := toValue?_eq_scalar_iff.mpr hscalar
    refine ⟨i, hi, hvalue, ?_⟩
    intro t x hx
    have h := hliteral t x
    rw [hx, hvalue] at h
    exact (Option.some.inj (Except.ok.inj h)).symm
  · intro n hn
    have hvalue : (Producer.integer (.uint64 n)).toValue? =
        .ok (some (.scalar (.number (.float n.toFloat)))) :=
      toValue?_eq_scalar_iff.mpr (.large hn)
    refine ⟨hvalue, ?_⟩
    have h := (hliteral .uint64 n).symm.trans hvalue
    exact Option.some.inj (Except.ok.inj h)

theorem toValue?_literal_of_boundary :
    (∃ i : Int64, i.toInt = 9223372036854775807 ∧
      (Producer.integer (.uint64 9223372036854775807)).toValue? =
        .ok (some (.scalar (.number (.integer i)))) ∧
      Value.ofLiteral (9223372036854775807 : UInt64) = .scalar (.number (.integer i))) ∧
    (Producer.integer (.uint64 9223372036854775808)).toValue? =
      .ok (some (.scalar (.number (.float (UInt64.toFloat 9223372036854775808))))) ∧
    Value.ofLiteral (9223372036854775808 : UInt64) =
      .scalar (.number (.float (UInt64.toFloat 9223372036854775808))) := by
  obtain ⟨-, -, -, hwhole, hrounded⟩ := toValue?_literal
  constructor
  · obtain ⟨i, hi, hvalue, hliteral⟩ := hwhole (.uint64 9223372036854775807) (by decide)
    exact ⟨i, hi, hvalue, hliteral .uint64 (9223372036854775807 : UInt64) rfl⟩
  · exact hrounded 9223372036854775808 (by decide)

end Producer

end InputDeck
