import Mathlib.Algebra.Group.Nat.Defs

open Float.Model (Format UnpackedFloat)
open Float.Model.UnpackedFloat (Sign unpackSign unpackExponent unpackMantissa)

namespace InputDeck.Decimal

def signWord : Sign → Nat
  | .positive => 0
  | .negative => 2 ^ 63

/-- The bits of a double, from what it stands for. A mantissa without the leading bit goes with the
least exponent. -/
def word : UnpackedFloat → Nat
  | .notANumber => 2047 * 2 ^ 52 + 2 ^ 51
  | .infinity s => signWord s + 2047 * 2 ^ 52
  | .zero s => signWord s
  | .finite s m e _ =>
      signWord s + if m < 2 ^ 52 then m else (e + 1075).toNat * 2 ^ 52 + (m - 2 ^ 52)

theorem word_finite (s : Sign) (m : Nat) (e : Int) (hm : 0 < m) :
    word (.finite s m e hm) =
      signWord s + if m < 2 ^ 52 then m else (e + 1075).toNat * 2 ^ 52 + (m - 2 ^ 52) :=
  rfl

theorem signWord_ofBitVec (v : BitVec 1) : signWord (Sign.ofBitVec v) = v.toNat * 2 ^ 63 := by
  rcases BitVec.eq_zero_or_eq_one v with rfl | rfl <;> rfl

theorem toNat_eq_parts (b : BitVec Format.binary64.numBits) :
    b.toNat = signWord (Sign.ofBitVec (unpackSign b)) + (unpackExponent b).toNat * 2 ^ 52 +
      (unpackMantissa b).toNat := by
  have hb : b.toNat < 2 ^ 64 := b.isLt
  unfold unpackSign unpackExponent unpackMantissa
  simp only [signWord_ofBitVec, BitVec.toNat_cast, BitVec.extractLsb_toNat,
    Nat.shiftRight_eq_div_pow]
  omega

theorem toNat_leadingBit_append (m : BitVec 52) : (1#1 ++ m).toNat = 2 ^ 52 + m.toNat := by
  have hm := Nat.two_pow_add_eq_or_of_lt m.isLt 1
  rw [Nat.mul_one] at hm
  exact hm.symm

theorem word_unpack {b : BitVec Format.binary64.numBits} (h : Format.binary64.Valid b) :
    word (UnpackedFloat.unpack .binary64 b) = b.toNat := by
  have hparts := toNat_eq_parts b
  have hmantissa : (unpackMantissa b).toNat < 2 ^ 52 := (unpackMantissa b).isLt
  unfold UnpackedFloat.unpack
  dsimp only
  by_cases hones : unpackExponent b = -1#_
  · rw [if_pos hones]
    by_cases hnone : unpackMantissa b = 0#_
    · rw [if_pos hnone, hparts, hones, hnone]
      rfl
    · rw [if_neg hnone, h.eq_packedNaN hones hnone]
      rfl
  · rw [if_neg hones]
    by_cases hzero : unpackExponent b = 0#_
    · rw [hzero] at hparts
      rw [if_pos hzero]
      by_cases hnone : unpackMantissa b = 0#_
      · rw [dif_pos hnone, hparts, hnone]
        rfl
      · rw [dif_neg hnone, word_finite, if_pos hmantissa, hparts]
        rfl
    · have hbias : (Format.binary64.exponentBias : Int) = 1023 := rfl
      have hwidth : (Format.binary64.mantissaBitsWithoutImplicit : Int) = 52 := rfl
      rw [if_neg hzero, word_finite, toNat_leadingBit_append, if_neg (by omega), hparts, hbias,
        hwidth]
      omega

/-- There is one pattern of bits for what is not a number, so that every double is known by what it
stands for. -/
theorem eq_of_unpack_eq {x y : Float} (h : x.toModel.unpack = y.toModel.unpack) : x = y := by
  obtain ⟨⟨bits, hx⟩⟩ := x
  obtain ⟨⟨others, hy⟩⟩ := y
  have hword := congrArg word h
  rw [Float.Model.unpack, Float.Model.unpack, word_unpack hx, word_unpack hy] at hword
  obtain rfl : bits = others := UInt64.toNat_inj.mp hword
  rfl

theorem eq_zero_of_unpack {x : Float} {s : Sign} (h : x.toModel.unpack = .zero s) :
    x = 0 ∨ x = -0 := by
  cases s with
  | positive => exact .inl (eq_of_unpack_eq h)
  | negative => exact .inr (eq_of_unpack_eq h)

theorem eq_of_compare_then {m n : Nat} {e k : Int}
    (h : (compare e k).then (compare m n) = .eq) : e = k ∧ m = n := by
  rw [Ordering.then_eq_eq] at h
  exact ⟨Std.compare_eq_iff_eq.mp h.1, Std.compare_eq_iff_eq.mp h.2⟩

theorem eq_or_zeros_of_compare {f g : UnpackedFloat} (h : f.compare g = some .eq) :
    f = g ∨ ∃ s t, f = .zero s ∧ g = .zero t := by
  cases f with
  | notANumber => cases h
  | infinity s =>
      cases g with
      | infinity t =>
          cases s <;> cases t
          · exact .inl rfl
          · cases h
          · cases h
          · exact .inl rfl
      | notANumber | zero _ | finite _ _ _ _ => cases s <;> cases h
  | zero s =>
      cases g with
      | zero t => exact .inr ⟨s, t, rfl, rfl⟩
      | notANumber => cases h
      | infinity t | finite t _ _ _ => cases t <;> cases h
  | finite s m e hm =>
      cases g with
      | finite t n k hn =>
          have hparts : s = t ∧ e = k ∧ m = n := by
            cases s <;> cases t
            · exact ⟨rfl, eq_of_compare_then (Ordering.swap_eq_eq.mp (Option.some.inj h))⟩
            · cases h
            · cases h
            · exact ⟨rfl, eq_of_compare_then (Option.some.inj h)⟩
          obtain ⟨rfl, rfl, rfl⟩ := hparts
          exact .inl rfl
      | notANumber | zero _ => cases s <;> cases h
      | infinity t => cases s <;> cases t <;> cases h

-- `Float.beq_iff_ne_nan_and_eq` says more, and comes only with all of Mathlib.
/-- Of two doubles that are equal and yet not the same, each is a zero. -/
theorem eq_or_zeros_of_beq {x y : Float} (h : (x == y) = true) :
    x = y ∨ (x = 0 ∨ x = -0) ∧ (y = 0 ∨ y = -0) := by
  rcases eq_or_zeros_of_compare (beq_iff_eq.mp h) with hsame | ⟨s, t, hx, hy⟩
  · exact .inl (eq_of_unpack_eq hsame)
  · exact .inr ⟨eq_zero_of_unpack hx, eq_zero_of_unpack hy⟩

end InputDeck.Decimal
