import InputDeck.Decimal.FloatText
import InputDeck.Proofs.EqualDoubles
import InputDeck.Proofs.KeyedLists
import InputDeck.Value.Basic

namespace InputDeck

/-- Of two doubles that are equal and yet not the same, one is this. -/
def Number.isNegativeZero : Number → Bool
  | integer _ => false
  | float x => x == 0 && Decimal.isNegative x

def Scalar.isNegativeZero : Scalar → Bool
  | number n => n.isNegativeZero
  | bool _ | text _ => false

namespace Value

def scalars : Value → List Scalar
  | scalar s => [s]
  | list items => items
  | reference _ | references _ => []

/-- For each literal whether it is the negative zero. -/
def negativeZeros (v : Value) : List Bool :=
  v.scalars.map Scalar.isNegativeZero

end Value

theorem Number.eq_of_beq {n m : Number} (h : (n == m) = true)
    (hzero : n.isNegativeZero = m.isNegativeZero) : n = m := by
  have hpositive : isNegativeZero (.float 0) = false := by decide
  have hnegative : isNegativeZero (.float (-0)) = true := by decide
  cases n with
  | integer i =>
      cases m with
      | integer j => exact congrArg integer (LawfulBEq.eq_of_beq h)
      | float y => cases h
  | float x =>
      cases m with
      | integer j => cases h
      | float y =>
          obtain rfl | ⟨rfl | rfl, rfl | rfl⟩ := Decimal.eq_or_zeros_of_beq h
          · rfl
          · rfl
          · rw [hpositive, hnegative] at hzero
            cases hzero
          · rw [hpositive, hnegative] at hzero
            cases hzero
          · rfl

theorem Scalar.eq_of_beq {s t : Scalar} (h : (s == t) = true)
    (hzero : s.isNegativeZero = t.isNegativeZero) : s = t := by
  cases s with
  | bool b =>
      cases t with
      | bool b' => exact congrArg bool (LawfulBEq.eq_of_beq h)
      | number _ | text _ => cases h
  | number n =>
      cases t with
      | number m => exact congrArg number (Number.eq_of_beq h hzero)
      | bool _ | text _ => cases h
  | text x =>
      cases t with
      | text y => exact congrArg text (LawfulBEq.eq_of_beq h)
      | bool _ | number _ => cases h

theorem Scalar.eq_of_forall₂_beq {items others : List Scalar}
    (h : List.Forall₂ (fun s t => (s == t) = true) items others)
    (hzeros : items.map isNegativeZero = others.map isNegativeZero) : items = others := by
  induction h with
  | nil => rfl
  | cons hbeq _ ih =>
      obtain ⟨hzero, hrest⟩ := List.cons.inj hzeros
      rw [eq_of_beq hbeq hzero, ih hrest]

/-- Equal values are of one sort, and only their literals may differ. -/
inductive Value.Alike : Value → Value → Prop
  | scalar {s t : Scalar} (h : (s == t) = true) : Alike (.scalar s) (.scalar t)
  | list {items others : List Scalar}
      (h : List.Forall₂ (fun s t => (s == t) = true) items others) :
      Alike (.list items) (.list others)
  | reference (r : Reference) : Alike (.reference r) (.reference r)
  | references (rs : List Reference) : Alike (.references rs) (.references rs)

namespace Value

theorem alike_of_beq {v w : Value} (h : (v == w) = true) : v.Alike w := by
  cases v with
  | scalar s =>
      cases w with
      | scalar t => exact .scalar h
      | list _ | reference _ | references _ => cases h
  | list items =>
      cases w with
      | list others => exact .list (forall₂_of_beq h)
      | scalar _ | reference _ | references _ => cases h
  | reference r =>
      cases w with
      | reference r' =>
          obtain rfl : r = r' := LawfulBEq.eq_of_beq h
          exact .reference r
      | scalar _ | list _ | references _ => cases h
  | references rs =>
      cases w with
      | references rs' =>
          obtain rfl : rs = rs' := LawfulBEq.eq_of_beq h
          exact .references rs
      | scalar _ | list _ | reference _ => cases h

namespace Alike

variable {v w : Value}

theorem scalars (h : v.Alike w) :
    List.Forall₂ (fun s t => (s == t) = true) v.scalars w.scalars := by
  cases h with
  | scalar h => exact .cons h .nil
  | list h => exact h
  | reference r => exact .nil
  | references rs => exact .nil

theorem targets_eq (h : v.Alike w) : v.targets = w.targets := by
  cases h <;> rfl

theorem eq_of_negativeZeros (h : v.Alike w) (hzeros : v.negativeZeros = w.negativeZeros) :
    v = w := by
  have hscalars := Scalar.eq_of_forall₂_beq h.scalars hzeros
  cases h with
  | scalar h => exact congrArg Value.scalar (List.singleton_inj.mp hscalars)
  | list h => exact congrArg Value.list hscalars
  | reference r => rfl
  | references rs => rfl

theorem negativeZeros_eq (h : v.Alike w) (hv : true ∉ v.negativeZeros)
    (hw : true ∉ w.negativeZeros) : v.negativeZeros = w.negativeZeros := by
  have hlength : v.negativeZeros.length = w.negativeZeros.length := by
    rw [negativeZeros, negativeZeros, List.length_map, List.length_map, h.scalars.length_eq]
  have hplain : ∀ {zeros : List Bool}, true ∉ zeros →
      zeros = List.replicate zeros.length false := by
    intro zeros hzeros
    refine List.eq_replicate_of_mem fun zero hzero => ?_
    cases zero with
    | false => rfl
    | true => exact absurd hzero hzeros
  rw [hplain hv, hplain hw, hlength]

end Alike

end Value

namespace Field

theorem beq_iff {a b : Field} :
    (a == b) = true ↔ (a.value == b.value) = true ∧ a.quote = b.quote := by
  have hbeq : (a == b) = ((a.value == b.value) && (a.quote == b.quote)) := rfl
  rw [hbeq, Bool.and_eq_true, @beq_iff_eq Quote]

theorem eq_of_beq {a b : Field} (h : (a == b) = true)
    (hzeros : a.value.negativeZeros = b.value.negativeZeros) : a = b := by
  obtain ⟨hvalue, hquote⟩ := beq_iff.mp h
  obtain ⟨v, q⟩ := a
  obtain ⟨w, r⟩ := b
  obtain rfl : v = w := (Value.alike_of_beq hvalue).eq_of_negativeZeros hzeros
  obtain rfl : q = r := hquote
  rfl

end Field

end InputDeck
