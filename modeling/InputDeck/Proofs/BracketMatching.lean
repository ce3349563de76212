import InputDeck.Proofs.StrictPass

namespace InputDeck

theorem NeverBelow.take {depth : Int} {items : List (List Char)} (hnever : NeverBelow depth items)
    (n : Nat) : NeverBelow depth (items.take n) := by
  rw [← List.take_append_drop n items, neverBelow_append] at hnever
  exact hnever.1

instance decidableNeverBelow (depth : Int) :
    (items : List (List Char)) → Decidable (NeverBelow depth items)
  | [] => .isTrue trivial
  | _ :: rest => @instDecidableAnd _ _ _ (decidableNeverBelow _ rest)

/-- No closing line is one too many, and none is missing. -/
def Paired (items : List (List Char)) : Prop :=
  NeverBelow 0 items ∧ rise items = 0

def MarkedAt (marker : Marker) (items : List (List Char)) (k : Nat) : Prop :=
  items[k]?.map Marker.ofLine = some marker

/-- The closing line `j` belongs to the opening line `i`: what stands between the two is paired. -/
def Matches (items : List (List Char)) (i j : Nat) : Prop :=
  i < j ∧ MarkedAt .opening items i ∧ MarkedAt .closing items j ∧
    Paired ((items.take j).drop (i + 1))

/-- An opening line that no closing line belongs to. -/
def LeftOpen (items : List (List Char)) (i : Nat) : Prop :=
  MarkedAt .opening items i ∧ ∀ j < items.length, ¬ Matches items i j

/-- A closing line that belongs to no opening line. -/
def Unopened (items : List (List Char)) (j : Nat) : Prop :=
  MarkedAt .closing items j ∧ ∀ i < j, ¬ Matches items i j

instance (items : List (List Char)) : Decidable (Paired items) :=
  inferInstanceAs (Decidable (_ ∧ _))

instance (marker : Marker) (items : List (List Char)) (k : Nat) :
    Decidable (MarkedAt marker items k) :=
  inferInstanceAs (Decidable (_ = _))

instance (items : List (List Char)) (i j : Nat) : Decidable (Matches items i j) :=
  inferInstanceAs (Decidable (_ ∧ _))

instance (items : List (List Char)) (i : Nat) : Decidable (LeftOpen items i) :=
  inferInstanceAs (Decidable (_ ∧ _))

instance (items : List (List Char)) (j : Nat) : Decidable (Unopened items j) :=
  inferInstanceAs (Decidable (_ ∧ _))

/-- The positions of the opening lines that no closing line belongs to. -/
def openPositions (items : List (List Char)) : List Nat :=
  (List.range items.length).filter fun i => LeftOpen items i

def firstUnopened? (items : List (List Char)) : Option Nat :=
  (List.range items.length).find? fun j => Unopened items j

theorem markedAt_append {marker : Marker} {before behind : List (List Char)} {item : List Char} :
    MarkedAt marker (before ++ item :: behind) before.length ↔ Marker.ofLine item = marker := by
  simp [MarkedAt]

theorem MarkedAt.exists_split {marker : Marker} {items : List (List Char)} {k : Nat}
    (h : MarkedAt marker items k) :
    ∃ before item behind, items = before ++ item :: behind ∧ before.length = k ∧
      Marker.ofLine item = marker := by
  unfold MarkedAt at h
  rw [Option.map_eq_some_iff] at h
  obtain ⟨item, hitem, hmarker⟩ := h
  obtain ⟨hk, rfl⟩ := List.getElem?_eq_some_iff.mp hitem
  refine ⟨items.take k, items[k], items.drop (k + 1), ?_, ?_, hmarker⟩
  · simp
  · rw [List.length_take]
    omega

theorem matches_append {before inner behind : List (List Char)} {first last : List Char}
    (hfirst : Marker.ofLine first = .opening) (hinner : Paired inner)
    (hlast : Marker.ofLine last = .closing) :
    Matches (before ++ first :: (inner ++ last :: behind)) before.length
      (before.length + 1 + inner.length) := by
  have hsplit : before ++ first :: (inner ++ last :: behind) =
      (before ++ first :: inner) ++ last :: behind := by
    simp
  have hlength : before.length + 1 + inner.length = (before ++ first :: inner).length := by
    simp [Nat.add_assoc, Nat.add_comm 1]
  refine ⟨by omega, markedAt_append.mpr hfirst, ?_, ?_⟩
  · rw [hsplit, hlength]
    exact markedAt_append.mpr hlast
  · rw [hsplit, hlength, List.take_left]
    simpa using hinner

/-- What stands behind an opening line closes it as soon as it closes too much. -/
theorem leftOpen_iff {items : List (List Char)} {i : Nat} :
    LeftOpen items i ↔ MarkedAt .opening items i ∧ NeverBelow 0 (items.drop (i + 1)) := by
  constructor
  · rintro ⟨hmarked, hnone⟩
    refine ⟨hmarked, ?_⟩
    by_contra hbelow
    obtain ⟨before, first, behind, rfl, rfl, hfirst⟩ := hmarked.exists_split
    have hbehind : ¬ NeverBelow 0 behind := by simpa using hbelow
    obtain ⟨inner, last, rest, rfl, hinner, hzero, hlast⟩ :=
      exists_first_below (Int.le_refl 0) hbehind
    rw [Int.zero_add] at hzero
    refine hnone _ ?_ (matches_append hfirst ⟨hinner, hzero⟩ hlast)
    simp only [List.length_append, List.length_cons]
    omega
  · rintro ⟨hmarked, hnever⟩
    refine ⟨hmarked, ?_⟩
    rintro j - ⟨hlt, -, hclosing, hpaired⟩
    obtain ⟨before, last, behind, rfl, rfl, hlast⟩ := hclosing.exists_split
    rw [List.take_left] at hpaired
    rw [List.drop_append_of_le_length hlt, neverBelow_append, hpaired.2] at hnever
    have hhere := hnever.2.1
    rw [hlast] at hhere
    exact absurd hhere (by decide)

/-- How many of the closing lines among the items have to close something in front of them. -/
def unmet : List (List Char) → Nat
  | [] => 0
  | item :: rest =>
      match Marker.ofLine item with
      | .opening => unmet rest - 1
      | .closing => unmet rest + 1
      | .body => unmet rest

theorem unmet_le_iff {items : List (List Char)} {depth : Nat} :
    unmet items ≤ depth ↔ NeverBelow depth items := by
  induction items generalizing depth with
  | nil => simp [unmet, NeverBelow]
  | cons item rest ih =>
      rw [unmet, NeverBelow]
      cases Marker.ofLine item with
      | opening =>
          have hdeeper : (depth : Int) + Marker.opening.rise = (depth + 1 : Nat) := rfl
          simp only [hdeeper, ← ih]
          omega
      | closing =>
          simp only [Marker.rise]
          cases depth with
          | zero => simp
          | succ outer =>
              have houter : ((outer + 1 : Nat) : Int) + -1 = outer := by omega
              simp only [houter, ← ih]
              omega
      | body =>
          simp only [Marker.rise, Int.add_zero, ← ih]
          omega

theorem unmet_eq_zero_iff {items : List (List Char)} : unmet items = 0 ↔ NeverBelow 0 items := by
  rw [← Nat.le_zero]
  exact unmet_le_iff

theorem leftOpen_cons_zero {item : List Char} {rest : List (List Char)} :
    LeftOpen (item :: rest) 0 ↔ Marker.ofLine item = .opening ∧ unmet rest = 0 := by
  simp [leftOpen_iff, MarkedAt, unmet_eq_zero_iff]

theorem leftOpen_cons_succ {item : List Char} {rest : List (List Char)} {i : Nat} :
    LeftOpen (item :: rest) (i + 1) ↔ LeftOpen rest i := by
  simp [leftOpen_iff, MarkedAt]

theorem openPositions_cons (item : List Char) (rest : List (List Char)) :
    openPositions (item :: rest) =
      (if Marker.ofLine item = .opening ∧ unmet rest = 0 then [0] else []) ++
        (openPositions rest).map Nat.succ := by
  simp only [openPositions, List.length_cons, List.range_succ_eq_map, List.filter_cons,
    List.filter_map, Function.comp_def, leftOpen_cons_zero, leftOpen_cons_succ, Nat.succ_eq_add_one,
    decide_eq_true_eq]
  split <;> rfl

theorem length_openPositions (items : List (List Char)) :
    (openPositions items).length = rise items + unmet items := by
  induction items with
  | nil => rfl
  | cons item rest ih =>
      rw [openPositions_cons, List.length_append, List.length_map, rise_cons, unmet]
      cases Marker.ofLine item with
      | opening =>
          simp only [Marker.rise, true_and]
          split
          · simp only [List.length_singleton]
            omega
          · simp only [List.length_nil]
            omega
      | closing =>
          simp only [Marker.rise, reduceCtorEq, false_and, if_false, List.length_nil]
          omega
      | body =>
          simp only [Marker.rise, reduceCtorEq, false_and, if_false, List.length_nil]
          omega

theorem paired_iff {items : List (List Char)} :
    Paired items ↔ unmet items = 0 ∧ openPositions items = [] := by
  have hlength := length_openPositions items
  rw [Paired, ← unmet_eq_zero_iff, ← List.length_eq_zero_iff]
  omega

/-- The last line that is left open has paired brackets behind it. -/
theorem getLast?_openPositions_iff {items : List (List Char)} {i : Nat} :
    (openPositions items).getLast? = some i ↔
      MarkedAt .opening items i ∧ Paired (items.drop (i + 1)) := by
  induction items generalizing i with
  | nil => simp [openPositions, MarkedAt]
  | cons item rest ih =>
      rw [openPositions_cons, List.getLast?_append, List.getLast?_map]
      cases i with
      | zero =>
          simp only [MarkedAt, List.getElem?_cons_zero, Option.map_some, Option.some.injEq,
            List.drop_succ_cons, List.drop_zero, paired_iff]
          cases hlast : (openPositions rest).getLast? with
          | none =>
              rw [List.getLast?_eq_none_iff] at hlast
              split
              · next hopen => simp [hopen, hlast]
              · next hopen => simpa [hlast] using hopen
          | some last =>
              have hne : openPositions rest ≠ [] := by
                rintro hnil
                simp [hnil] at hlast
              simp [hne]
      | succ i =>
          have hshift : MarkedAt .opening (item :: rest) (i + 1) ↔ MarkedAt .opening rest i :=
            Iff.rfl
          rw [hshift, List.drop_succ_cons, ← ih]
          cases (openPositions rest).getLast? with
          | none => split <;> simp
          | some last => simp

/-- The lines whose numbers are still pending are those that are left open, innermost first, and
behind them what was pending before and has not been closed. -/
theorem pending_past (nesting : Nesting) (line : Nat) (items : List (List Char)) :
    (nesting.past line items).pending =
      ((openPositions items).map (line + ·)).reverse ++ nesting.pending.drop (unmet items) := by
  induction items generalizing nesting line with
  | nil => rfl
  | cons item rest ih =>
      have hshift : ((openPositions rest).map Nat.succ).map (line + ·) =
          (openPositions rest).map (line + 1 + ·) := by
        rw [List.map_map]
        refine List.map_congr_left fun k _ => ?_
        simp only [Function.comp_apply]
        omega
      rw [Nesting.past, ih, openPositions_cons, List.map_append, hshift, List.reverse_append,
        List.append_assoc, unmet]
      congr 1
      cases Marker.ofLine item with
      | opening =>
          -- the closing lines behind the new opening take it first
          cases unmet rest with
          | zero => simp [Nesting.before, Nesting.after]
          | succ n => simp [Nesting.before, Nesting.after]
      | closing => simp [Nesting.before, Nesting.after]
      | body => simp [Nesting.before, Nesting.after]

theorem markedAt_take {marker : Marker} {items : List (List Char)} {i j : Nat} :
    MarkedAt marker (items.take j) i ↔ i < j ∧ MarkedAt marker items i := by
  unfold MarkedAt
  rw [List.getElem?_take]
  split
  · next hlt => simp [hlt]
  · next hle => simp [hle]

/-- A closing line belongs to the last opening line in front of it that none has closed so far. -/
theorem matches_iff_getLast? {items : List (List Char)} {i j : Nat} :
    Matches items i j ↔
      MarkedAt .closing items j ∧ (openPositions (items.take j)).getLast? = some i := by
  rw [getLast?_openPositions_iff, markedAt_take]
  constructor
  · rintro ⟨hlt, hopening, hclosing, hpaired⟩
    exact ⟨hclosing, ⟨hlt, hopening⟩, hpaired⟩
  · rintro ⟨hclosing, ⟨hlt, hopening⟩, hpaired⟩
    exact ⟨hlt, hopening, hclosing, hpaired⟩

theorem unopened_iff {items : List (List Char)} {j : Nat} :
    Unopened items j ↔ MarkedAt .closing items j ∧ openPositions (items.take j) = [] := by
  constructor
  · rintro ⟨hclosing, hnone⟩
    refine ⟨hclosing, ?_⟩
    rw [← List.getLast?_eq_none_iff, Option.eq_none_iff_forall_ne_some]
    intro i hi
    have hmatches := matches_iff_getLast?.mpr ⟨hclosing, hi⟩
    exact hnone i hmatches.1 hmatches
  · rintro ⟨hclosing, hnil⟩
    refine ⟨hclosing, ?_⟩
    intro i _ hmatches
    rw [matches_iff_getLast?, hnil] at hmatches
    cases hmatches.2

theorem not_unopened_of_neverBelow {items : List (List Char)} {j : Nat}
    (hnever : NeverBelow 0 (items.take (j + 1))) : ¬ Unopened items j := by
  intro hunopened
  obtain ⟨hclosing, hnil⟩ := unopened_iff.mp hunopened
  obtain ⟨before, last, behind, rfl, rfl, hlast⟩ := hclosing.exists_split
  have htake : (before ++ last :: behind).take (before.length + 1) = before ++ [last] := by
    rw [List.take_length_add_append]
    rfl
  rw [htake, neverBelow_append] at hnever
  have hhere := hnever.2.1
  have hlength := length_openPositions before
  rw [List.take_left] at hnil
  simp only [hlast, Marker.rise] at hhere
  simp only [hnil, List.length_nil] at hlength
  omega

theorem unopened_append {before : List (List Char)} {last : List Char}
    (behind : List (List Char)) (hpaired : Paired before) (hlast : Marker.ofLine last = .closing) :
    Unopened (before ++ last :: behind) before.length := by
  rw [unopened_iff, List.take_left]
  exact ⟨markedAt_append.mpr hlast, (paired_iff.mp hpaired).2⟩

theorem firstUnopened?_of_neverBelow {items : List (List Char)} (hnever : NeverBelow 0 items) :
    firstUnopened? items = none := by
  rw [firstUnopened?, List.find?_eq_none]
  intro j _
  rw [decide_eq_true_eq]
  apply not_unopened_of_neverBelow
  exact hnever.take (j + 1)

theorem firstUnopened?_append {before : List (List Char)} {last : List Char}
    (behind : List (List Char)) (hpaired : Paired before) (hlast : Marker.ofLine last = .closing) :
    firstUnopened? (before ++ last :: behind) = some before.length := by
  rw [firstUnopened?, List.find?_range_eq_some]
  refine ⟨by simpa using unopened_append behind hpaired hlast, by simp, ?_⟩
  intro j hj
  have hprefix : (before ++ last :: behind).take (j + 1) = before.take (j + 1) :=
    List.take_append_of_le_length hj
  have hnever := hpaired.1.take (j + 1)
  rw [← hprefix] at hnever
  simpa using not_unopened_of_neverBelow hnever

theorem headD_pending_past {items : List (List Char)} {i : Nat}
    (hlast : (openPositions items).getLast? = some i) :
    (({} : Nesting).past 1 items).pending.headD 0 = i + 1 := by
  rw [pending_past, List.headD_eq_head?_getD, List.head?_append, List.head?_reverse,
    List.getLast?_map, hlast]
  exact Nat.add_comm 1 i

theorem paired_of_getLast?_eq_none {items : List (List Char)} (hnever : NeverBelow 0 items)
    (hnone : (openPositions items).getLast? = none) : Paired items := by
  rw [paired_iff, unmet_eq_zero_iff]
  exact ⟨hnever, List.getLast?_eq_none_iff.mp hnone⟩

/-- What a strict pass finds wrong, told from the pairs of brackets alone: the first closing line
that belongs to no opening line, or else the last opening line that no closing line belongs to. A
closing line belongs to the last opening line in front of it that is still open. -/
theorem indentItems_of_strict {layout : Layout} (hstrict : layout.balance = .strict)
    (items : List String) :
    let lines := items.map String.toList
    (∀ i j, Matches lines i j ↔
      MarkedAt .closing lines j ∧ (openPositions (lines.take j)).getLast? = some i) ∧
    match firstUnopened? lines, (openPositions lines).getLast? with
    | some j, _ =>
        indentItems layout items = { result := .error (.malformed (j + 1) unmatchedClose) }
    | none, some i =>
        indentItems layout items =
          { result := .error (.malformed (i + 1) (leftOpen (openPositions lines).length)) }
    | none, none => ∃ text, indentItems layout items = { result := .ok text } := by
  intro lines
  refine ⟨fun i j => matches_iff_getLast?, ?_⟩
  by_cases hnever : NeverBelow 0 lines
  · rw [firstUnopened?_of_neverBelow hnever]
    cases hlast : (openPositions lines).getLast? with
    | none =>
        have hpaired := paired_of_getLast?_eq_none hnever hlast
        have hpass := @indentFrom_of_neverBelow layout lines 1 {} hnever
          ((Int.zero_add _).trans hpaired.2)
        rw [indentItems, hpass]
        exact ⟨_, rfl⟩
    | some i =>
        have hrise : ({} : Nesting).depth + rise lines = (openPositions lines).length := by
          rw [length_openPositions, unmet_eq_zero_iff.mpr hnever]
          exact Int.add_comm _ _
        have hne : openPositions lines ≠ [] := by
          rintro hnil
          simp [hnil] at hlast
        have hpass := @indentFrom_leftOpen layout lines {} 1 hstrict hnever (by
          rw [hrise]
          exact Int.natCast_pos.mpr (List.length_pos_iff.mpr hne))
        rw [hrise, headD_pending_past hlast] at hpass
        rw [indentItems, hpass]
        rfl
  · obtain ⟨before, last, behind, hsplit, hbefore, hzero, hlast⟩ :=
      exists_first_below (Int.le_refl 0) hnever
    have hpaired : Paired before := ⟨hbefore, (Int.zero_add _).symm.trans hzero⟩
    have hpass := @indentFrom_unmatched layout before {} 1 hstrict last behind hbefore hzero hlast
    rw [← hsplit, Nat.add_comm] at hpass
    rw [hsplit, firstUnopened?_append behind hpaired hlast, indentItems, hpass]
    rfl

/-- The lines 1 and 4 are left open; the last opening line is not. -/
theorem indentItems_of_strict_leftOpen :
    indentItems {} ["[a]", "[b]", "[]", "[c]", "[d]", "[../]"] =
      { result := .error (.malformed 4 "2 block(s) left open at end of document") } :=
  (@indentItems_of_strict {} rfl ["[a]", "[b]", "[]", "[c]", "[d]", "[../]"]).2

end InputDeck
