import InputDeck.Proofs.RunningDepth

namespace InputDeck

variable {layout : Layout} {items : List (List Char)} {nesting : Nesting} {line : Nat}

/-- The two complaints of a strict pass end in different letters. -/
theorem unmatchedClose_ne_leftOpen (depth : Int) : unmatchedClose ≠ leftOpen depth := by
  intro h
  have hlast := congrArg (fun s : String => s.toList.getLast?) h
  simp only [unmatchedClose, leftOpen, String.toList_append] at hlast
  rw [List.getLast?_append_of_ne_nil _ (by decide)] at hlast
  exact absurd hlast (by decide)

theorem Logged.exists_of_map_eq_ok {r : Logged (Except Fault α)} {f : α → β} {b : β}
    (h : (r.map (Except.map f)).result = .ok b) : ∃ a, r.result = .ok a ∧ f a = b := by
  cases hresult : r.result with
  | error fault =>
      simp only [Logged.map, hresult, Except.map, reduceCtorEq] at h
  | ok a =>
      simp only [Logged.map, hresult, Except.map, Except.ok.injEq] at h
      exact ⟨a, rfl, h⟩

theorem Logged.map_map (r : Logged (Except Fault α)) (f : α → β) (g : β → γ) :
    (r.map (Except.map f)).map (Except.map g) = r.map (Except.map (g ∘ f)) := by
  cases hresult : r.result <;> simp only [Logged.map, hresult, Except.map, Function.comp_apply]

theorem NeverBelow.add_rise_nonneg {depth : Int} (hnever : NeverBelow depth items)
    (hdepth : 0 ≤ depth) : 0 ≤ depth + rise items := by
  induction items generalizing depth with
  | nil => simpa using hdepth
  | cons item rest ih =>
      have hrest := ih hnever.2 hnever.1
      rwa [rise_cons, ← Int.add_assoc]

theorem Marker.eq_closing_of_below {marker : Marker} {depth : Int} (hdepth : 0 ≤ depth)
    (hbelow : depth + marker.rise < 0) : marker = .closing ∧ depth = 0 := by
  cases marker with
  | opening =>
      simp only [rise] at hbelow
      omega
  | closing =>
      simp only [rise] at hbelow
      exact ⟨rfl, by omega⟩
  | body =>
      simp only [rise] at hbelow
      omega

/-- Items that close too much do so first at a closing line that stands outside all blocks. -/
theorem exists_first_below {depth : Int} (hdepth : 0 ≤ depth) (hbelow : ¬ NeverBelow depth items) :
    ∃ before last behind, items = before ++ last :: behind ∧ NeverBelow depth before ∧
      depth + rise before = 0 ∧ Marker.ofLine last = .closing := by
  induction items generalizing depth with
  | nil => exact absurd trivial hbelow
  | cons item rest ih =>
      by_cases hhere : 0 ≤ depth + (Marker.ofLine item).rise
      · obtain ⟨before, last, behind, rfl, hnever, hzero, hlast⟩ :=
          ih hhere fun hrest => hbelow ⟨hhere, hrest⟩
        refine ⟨item :: before, last, behind, rfl, ⟨hhere, hnever⟩, ?_, hlast⟩
        rwa [rise_cons, ← Int.add_assoc]
      · obtain ⟨hclosing, hzero⟩ := Marker.eq_closing_of_below hdepth (Int.not_le.mp hhere)
        refine ⟨[], item, rest, rfl, trivial, ?_, hclosing⟩
        rw [rise_nil, Int.add_zero, hzero]

/-- The nesting behind items of which the first is line `line`. -/
def Nesting.past (nesting : Nesting) (line : Nat) : List (List Char) → Nesting
  | [] => nesting
  | item :: rest =>
      ((nesting.before (Marker.ofLine item)).after line (Marker.ofLine item)).past (line + 1) rest

theorem Nesting.depth_past (nesting : Nesting) (line : Nat) (items : List (List Char)) :
    (nesting.past line items).depth = nesting.depth + rise items := by
  induction items generalizing nesting line with
  | nil => exact (Int.add_zero _).symm
  | cons item rest ih =>
      rw [past, ih, nesting.depth_after_before, rise_cons, Int.add_assoc]

/-- A pass gets over items that close no block but those that are open, with nothing to report. -/
theorem exists_indentFrom_append (layout : Layout) (line : Nat)
    (hnever : NeverBelow nesting.depth items) (others : List (List Char)) :
    ∃ write : List Char → List Char,
      indentFrom layout line nesting (items ++ others) =
        (indentFrom layout (line + items.length) (nesting.past line items) others).map
          (Except.map write) := by
  induction items generalizing line nesting with
  | nil =>
      refine ⟨id, ?_⟩
      rw [Except.map_id]
      rfl
  | cons item rest ih =>
      obtain ⟨hhere, hrest⟩ := hnever
      rw [← nesting.depth_after_before line (Marker.ofLine item)] at hrest
      obtain ⟨write, hwrite⟩ := ih (line + 1) hrest
      rw [List.cons_append, indentFrom_cons_of_rise layout line _ hhere, hwrite, Logged.map_map,
        List.length_cons, Nat.add_comm rest.length, ← Nat.add_assoc]
      exact ⟨_, rfl⟩

/-- A strict pass stops at the first closing line that has no block to close. -/
theorem indentFrom_unmatched (hstrict : layout.balance = .strict) {last : List Char}
    (behind : List (List Char)) (hnever : NeverBelow nesting.depth items)
    (hzero : nesting.depth + rise items = 0) (hlast : Marker.ofLine last = .closing) :
    indentFrom layout line nesting (items ++ last :: behind) =
      { result := .error (.malformed (line + items.length) unmatchedClose) } := by
  obtain ⟨write, hwrite⟩ := exists_indentFrom_append layout line hnever (last :: behind)
  have hbelow : (nesting.past line items).depth + (Marker.ofLine last).outdent < 0 := by
    rw [nesting.depth_past, hzero, hlast]
    decide
  rw [hwrite]
  simp only [indentFrom, Marker.ofLine_trimItem, (nesting.past line items).depth_before, hstrict,
    if_pos (And.intro hlast hbelow)]
  rfl

/-- A strict pass over items that close no block but their own counts those which they leave
open, and reports the innermost of them. -/
theorem indentFrom_leftOpen (hstrict : layout.balance = .strict)
    (hnever : NeverBelow nesting.depth items) (hopen : 0 < nesting.depth + rise items) :
    indentFrom layout line nesting items =
      { result := .error (.malformed ((nesting.past line items).pending.headD 0)
          (leftOpen (nesting.depth + rise items))) } := by
  obtain ⟨write, hwrite⟩ := exists_indentFrom_append layout line hnever []
  rw [List.append_nil] at hwrite
  rw [← nesting.depth_past line] at hopen ⊢
  rw [hwrite, indentFrom, if_neg (by omega)]
  simp only [hstrict]
  rfl

/-- A strict pass that gets through has closed every block that it met, and no other. -/
theorem neverBelow_of_strict (hstrict : layout.balance = .strict) (hdepth : 0 ≤ nesting.depth)
    {text : List Char} (hok : (indentFrom layout line nesting items).result = .ok text) :
    NeverBelow nesting.depth items ∧ nesting.depth + rise items = 0 := by
  have hnever : NeverBelow nesting.depth items := by
    by_contra hbelow
    obtain ⟨before, last, behind, rfl, hnever, hzero, hlast⟩ := exists_first_below hdepth hbelow
    rw [indentFrom_unmatched hstrict behind hnever hzero hlast] at hok
    cases hok
  have hnonneg := hnever.add_rise_nonneg hdepth
  refine ⟨hnever, ?_⟩
  by_contra hne
  rw [indentFrom_leftOpen hstrict hnever (by omega)] at hok
  cases hok

end InputDeck
