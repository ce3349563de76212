import InputDeck.Balance
import InputDeck.Proofs.ClampedPass
import InputDeck.Proofs.KeyedLists
import InputDeck.Proofs.StrictPass
import Mathlib.Order.Bounds.Defs

namespace InputDeck

theorem balanceFrom_opening {line : List Char} (h : Marker.ofLine line = .opening)
    (count depth deepest : Nat) (rest : List (List Char)) :
    balanceFrom count depth deepest (line :: rest) =
      balanceFrom (count + 1) (depth + 1) (max deepest (depth + 1)) rest := by
  simp only [balanceFrom, h]

theorem balanceFrom_closing {line : List Char} (h : Marker.ofLine line = .closing)
    (count depth deepest : Nat) (rest : List (List Char)) :
    balanceFrom count (depth + 1) deepest (line :: rest) =
      balanceFrom (count + 1) depth deepest rest := by
  simp only [balanceFrom, h]

theorem balanceFrom_body {lines : List (List Char)}
    (hbody : ∀ line ∈ lines, Marker.ofLine line = .body) (count depth deepest : Nat)
    (rest : List (List Char)) :
    balanceFrom count depth deepest (lines ++ rest) =
      balanceFrom (count + lines.length) depth deepest rest := by
  induction lines generalizing count with
  | nil => rfl
  | cons line others ih =>
      have hline : Marker.ofLine line = .body := hbody line (by simp)
      simp only [List.cons_append, balanceFrom, hline,
        ih fun other hother => hbody other (by simp [hother]), List.length_cons,
        Nat.add_assoc, Nat.add_comm 1]

theorem balanceFrom_congr {lines others : List (List Char)}
    (h : lines.map Text.trim = others.map Text.trim) (count depth deepest : Nat) :
    balanceFrom count depth deepest lines = balanceFrom count depth deepest others := by
  have hpairs := forall₂_of_map_eq h
  clear h
  induction hpairs generalizing count depth deepest with
  | nil => rfl
  | cons hline _ ih => simp only [balanceFrom, Marker.ofLine_congr hline, ih]

/-- The greatest rise of any beginning of the lines, be it the empty one. -/
def crest : List (List Char) → Int
  | [] => 0
  | line :: rest => max 0 ((Marker.ofLine line).rise + crest rest)

theorem crest_nonneg (lines : List (List Char)) : 0 ≤ crest lines := by
  cases lines with
  | nil => exact Int.le_refl 0
  | cons line rest => exact Int.le_max_left 0 _

theorem exists_rise_eq_crest (lines : List (List Char)) :
    ∃ front, front <+: lines ∧ rise front = crest lines := by
  induction lines with
  | nil => exact ⟨[], List.nil_prefix, rfl⟩
  | cons line rest ih =>
      obtain ⟨front, hfront, hcrest⟩ := ih
      by_cases hlow : (Marker.ofLine line).rise + crest rest ≤ 0
      · refine ⟨[], List.nil_prefix, ?_⟩
        rw [rise_nil, crest]
        omega
      · refine ⟨line :: front, (List.prefix_cons_inj line).mpr hfront, ?_⟩
        rw [rise_cons, hcrest, crest]
        omega

theorem rise_le_crest {front lines : List (List Char)} (h : front <+: lines) :
    rise front ≤ crest lines := by
  induction lines generalizing front with
  | nil =>
      rw [List.prefix_nil.mp h]
      exact Int.le_refl 0
  | cons line rest ih =>
      cases front with
      | nil => exact crest_nonneg _
      | cons first front =>
          obtain ⟨rfl, hfront⟩ := List.cons_prefix_cons.mp h
          have hrest := ih hfront
          rw [rise_cons, crest]
          omega

theorem isGreatest_crest (lines : List (List Char)) :
    IsGreatest {depth | ∃ front, front <+: lines ∧ totalDepth front = depth} (crest lines) := by
  constructor
  · obtain ⟨front, hfront, hcrest⟩ := exists_rise_eq_crest lines
    exact ⟨front, hfront, (totalDepth_eq_rise front).trans hcrest⟩
  · rintro depth ⟨front, hfront, rfl⟩
    rw [totalDepth_eq_rise]
    exact rise_le_crest hfront

variable {lines : List (List Char)} {depth deepest : Nat} (count : Nat)

theorem balanceFrom_cons {line : List Char}
    (hhere : 0 ≤ (depth : Int) + (Marker.ofLine line).rise) (hdeepest : depth ≤ deepest)
    (rest : List (List Char)) :
    balanceFrom count depth deepest (line :: rest) =
      balanceFrom (count + 1) ((depth : Int) + (Marker.ofLine line).rise).toNat
        (max deepest ((depth : Int) + (Marker.ofLine line).rise).toNat) rest := by
  cases hmarker : Marker.ofLine line with
  | opening =>
      rw [balanceFrom_opening hmarker]
      rfl
  | closing =>
      rw [hmarker] at hhere
      obtain _ | outer := depth
      -- the check would stop here, but so would the depth fall below zero
      · exact absurd hhere (by decide)
      · have houter : (((outer + 1 : Nat) : Int) + Marker.closing.rise).toNat = outer := by
          simp only [Marker.rise]
          omega
        rw [balanceFrom_closing hmarker, houter, Nat.max_eq_left (by omega)]
  | body =>
      have hsame : ((depth : Int) + Marker.body.rise).toNat = depth := by
        simp only [Marker.rise]
        omega
      rw [hsame, Nat.max_eq_left hdeepest]
      have hline : ∀ other ∈ [line], Marker.ofLine other = .body := by simp [hmarker]
      exact balanceFrom_body hline count depth deepest rest

/-- The check gets over lines that close no block but those that are open, and keeps in mind how
deep it has been. -/
theorem balanceFrom_append (hnever : NeverBelow depth lines) (hdeepest : depth ≤ deepest)
    (others : List (List Char)) :
    balanceFrom count depth deepest (lines ++ others) =
      balanceFrom (count + lines.length) ((depth : Int) + rise lines).toNat
        (max deepest ((depth : Int) + crest lines).toNat) others := by
  induction lines generalizing count depth deepest with
  | nil =>
      rw [rise_nil, crest, Int.add_zero, Int.toNat_natCast, Nat.max_eq_left hdeepest]
      rfl
  | cons line rest ih =>
      obtain ⟨hhere, hrest⟩ := hnever
      have hcrest := crest_nonneg rest
      rw [← Int.toNat_of_nonneg hhere] at hrest
      rw [List.cons_append, balanceFrom_cons count hhere hdeepest,
        ih (count + 1) hrest (Nat.le_max_right _ _), List.length_cons, rise_cons, crest]
      congr 1
      · omega
      · omega
      · omega

theorem balanceFrom_unmatched {last : List Char} (behind : List (List Char))
    (hnever : NeverBelow depth lines) (hdeepest : depth ≤ deepest)
    (hzero : (depth : Int) + rise lines = 0) (hlast : Marker.ofLine last = .closing) :
    balanceFrom count depth deepest (lines ++ last :: behind) =
      .error (.malformed (count + lines.length + 1) unmatchedClose) := by
  rw [balanceFrom_append count hnever hdeepest, hzero]
  simp only [balanceFrom, hlast, Int.toNat_zero]

theorem balanceFrom_closed (hnever : NeverBelow depth lines) (hdeepest : depth ≤ deepest)
    (hclosed : (depth : Int) + rise lines = 0) :
    balanceFrom count depth deepest lines =
      .ok (max deepest ((depth : Int) + crest lines).toNat) := by
  have happend := balanceFrom_append count hnever hdeepest []
  rw [List.append_nil, hclosed] at happend
  exact happend

theorem balanceFrom_leftOpen (hnever : NeverBelow depth lines) (hdeepest : depth ≤ deepest)
    (hopen : 0 < (depth : Int) + rise lines) :
    balanceFrom count depth deepest lines =
      .error (.malformed (count + lines.length) (leftOpen ((depth : Int) + rise lines))) := by
  have happend := balanceFrom_append count hnever hdeepest []
  rw [List.append_nil] at happend
  rw [happend, balanceFrom, if_neg (by omega), Int.toNat_of_nonneg (Int.le_of_lt hopen)]

theorem Nesting.lt_of_mem_pending_past {nesting : Nesting} {line : Nat}
    (hpending : ∀ opened ∈ nesting.pending, opened < line) (items : List (List Char)) :
    ∀ opened ∈ (nesting.past line items).pending, opened < line + items.length := by
  induction items generalizing nesting line with
  | nil => exact hpending
  | cons item rest ih =>
      have hafter : ∀ opened ∈
          ((nesting.before (Marker.ofLine item)).after line (Marker.ofLine item)).pending,
          opened < line + 1 := by
        intro opened hopened
        cases hmarker : Marker.ofLine item with
        | opening =>
            rw [hmarker] at hopened
            rcases List.mem_cons.mp hopened with rfl | hopened
            · exact Nat.lt_succ_self opened
            · exact Nat.lt_succ_of_lt (hpending opened hopened)
        | closing =>
            rw [hmarker] at hopened
            exact Nat.lt_succ_of_lt (hpending opened (List.mem_of_mem_tail hopened))
        | body =>
            rw [hmarker] at hopened
            exact Nat.lt_succ_of_lt (hpending opened hopened)
      intro opened hopened
      have hrest := ih hafter opened hopened
      rw [List.length_cons]
      omega

/-- Whatever the lines, a strict pass and the balance check come to the same end. -/
theorem indentFrom_balanceFrom {layout : Layout} (hstrict : layout.balance = .strict)
    (lines : List (List Char)) :
    (∃ text, (indentFrom layout 1 {} lines).result = .ok text ∧
      balanceFrom 0 0 0 lines = .ok (crest lines).toNat) ∨
    (∃ line, (indentFrom layout 1 {} lines).result = .error (.malformed line unmatchedClose) ∧
      balanceFrom 0 0 0 lines = .error (.malformed line unmatchedClose)) ∨
    ∃ line last depth, line ≤ last ∧
      (indentFrom layout 1 {} lines).result = .error (.malformed line (leftOpen depth)) ∧
      balanceFrom 0 0 0 lines = .error (.malformed last (leftOpen depth)) := by
  by_cases hnever : NeverBelow ({} : Nesting).depth lines
  · have hnonneg := hnever.add_rise_nonneg (Int.le_refl 0)
    by_cases hopen : 0 < ({} : Nesting).depth + rise lines
    · refine .inr (.inr ⟨_, _, _, ?_,
        congrArg Logged.result (indentFrom_leftOpen hstrict hnever hopen),
        balanceFrom_leftOpen 0 hnever (Nat.le_refl 0) hopen⟩)
      -- the pass names the innermost opening that is left, the check the last line of all
      have hnone : ∀ opened ∈ ({} : Nesting).pending, opened < 1 := by simp
      have hpending := Nesting.lt_of_mem_pending_past hnone lines
      cases hopened : ((({} : Nesting).past 1 lines).pending) with
      | nil => exact Nat.zero_le _
      | cons opened others =>
          have hline := hpending opened (by simp [hopened])
          rw [List.headD_cons]
          omega
    · have hclosed : ({} : Nesting).depth + rise lines = 0 := by omega
      refine .inl ⟨_, congrArg Logged.result (indentFrom_of_neverBelow layout 1 hnever hclosed), ?_⟩
      rw [balanceFrom_closed 0 hnever (Nat.le_refl 0) hclosed, Nat.zero_max]
      exact congrArg (fun depth : Int => Except.ok depth.toNat) (Int.zero_add _)
  · obtain ⟨before, last, behind, rfl, hbefore, hzero, hlast⟩ :=
      exists_first_below (Int.le_refl 0) hnever
    refine .inr (.inl ⟨_,
      congrArg Logged.result (indentFrom_unmatched hstrict behind hbefore hzero hlast), ?_⟩)
    rw [balanceFrom_unmatched 0 behind hbefore (Nat.le_refl 0) hzero hlast, Nat.zero_add,
      Nat.add_comm]

/-- The strict pass over a text and the balance check of it agree: they accept the same texts and
make the same complaints of the others. The check tells how deep the brackets go at most. -/
theorem indentText_checkBalance {layout : Layout} (hstrict : layout.balance = .strict)
    (text : String) :
    let pass := (indentText layout text).result
    let check := checkBalance text
    ((∃ written, pass = .ok written) ↔ ∃ deepest, check = .ok deepest) ∧
    (∀ line, pass = .error (.malformed line unmatchedClose) ↔
      check = .error (.malformed line unmatchedClose)) ∧
    (∀ depth, (∃ line, pass = .error (.malformed line (leftOpen depth))) ↔
      ∃ last, check = .error (.malformed last (leftOpen depth))) ∧
    (∀ line last depth, pass = .error (.malformed line (leftOpen depth)) →
      check = .error (.malformed last (leftOpen depth)) → line ≤ last) ∧
    (∀ fault, pass = .error fault ∨ check = .error fault →
      ∃ line, fault = .malformed line unmatchedClose ∨
        ∃ depth, fault = .malformed line (leftOpen depth)) ∧
    ∀ deepest : Nat, check = .ok deepest →
      IsGreatest {depth | ∃ front, front <+: Text.lines text.toList ∧ totalDepth front = depth}
        (deepest : Int) := by
  intro pass check
  have hpass : pass = (indentFrom layout 1 {} (Text.lines text.toList)).result.map String.ofList :=
    rfl
  have hcheck : check = balanceFrom 0 0 0 (Text.lines text.toList) := rfl
  have hcomplaints := fun depth => (unmatchedClose_ne_leftOpen depth).symm
  rcases indentFrom_balanceFrom hstrict (Text.lines text.toList) with
    ⟨written, hindent, hbalance⟩ | ⟨line, hindent, hbalance⟩ |
      ⟨line, last, depth, hle, hindent, hbalance⟩
  · have hgreatest := isGreatest_crest (Text.lines text.toList)
    rw [← Int.toNat_of_nonneg (crest_nonneg _)] at hgreatest
    rw [hpass, hcheck, hindent, hbalance]
    simpa [Except.map] using hgreatest
  · rw [hpass, hcheck, hindent, hbalance]
    simp [Except.map, unmatchedClose_ne_leftOpen]
  · rw [hpass, hcheck, hindent, hbalance]
    simp only [Except.map]
    refine ⟨by simp, by simp [hcomplaints], by simp, ?_, ?_, by simp⟩
    · intro found others depth' hfound hend
      rw [← (Fault.malformed.inj (Except.error.inj hfound)).1,
        ← (Fault.malformed.inj (Except.error.inj hend)).1]
      exact hle
    · rintro fault (hfault | hfault)
      · exact ⟨line, .inr ⟨depth, (Except.error.inj hfault).symm⟩⟩
      · exact ⟨last, .inr ⟨depth, (Except.error.inj hfault).symm⟩⟩

theorem indentText_checkBalance_of_dotted_close :
    (∃ last, checkBalance "[a]\r\n[b]\n [ ../ ]\nx = 1" = .error (.malformed last (leftOpen 1))) ∧
      IsGreatest
        {depth | ∃ front,
          front <+: Text.lines "[a]\n[b]\n[../]\n[c]\n[]\n[]".toList ∧ totalDepth front = depth}
        (2 : Nat) := by
  constructor
  · obtain ⟨-, -, hleftOpen, -⟩ :=
      @indentText_checkBalance {} rfl "[a]\r\n[b]\n [ ../ ]\nx = 1"
    exact (hleftOpen 1).mp ⟨1, rfl⟩
  · obtain ⟨-, -, -, -, -, hdeepest⟩ :=
      @indentText_checkBalance {} rfl "[a]\n[b]\n[../]\n[c]\n[]\n[]"
    exact hdeepest 2 rfl

end InputDeck
