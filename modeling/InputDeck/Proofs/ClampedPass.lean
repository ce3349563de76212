import InputDeck.Proofs.RunningDepth

namespace InputDeck

/-- The openings in front of item `k` less the closings up to it and including it. The items are
numbered from zero. -/
def depthAt (items : List (List Char)) (k : Nat) : Int :=
  ((items.take k).countP fun item => Marker.ofLine item = .opening) -
    ((items.take (k + 1)).countP fun item => Marker.ofLine item = .closing)

/-- All openings less all closings. -/
def totalDepth (items : List (List Char)) : Int :=
  (items.countP fun item => Marker.ofLine item = .opening) -
    (items.countP fun item => Marker.ofLine item = .closing)

/-- An item as it is written at a depth. Nothing is put in front of an empty one, and an item that
holds a line feed inside keeps the blanks at its end. -/
def Layout.lineAt (layout : Layout) (depth : Int) (item : List Char) : List Char :=
  let bare := if '\n' ∈ Text.trimStart item then Text.trimStart item else Text.trim item
  if bare = [] then [] else List.replicate (layout.indent * (max 0 depth).toNat) ' ' ++ bare

/-- What is logged of an item that is written at a depth. -/
def Event.ofClosing (line : Nat) (depth : Int) (item : List Char) : List Event :=
  if Marker.ofLine item = .closing ∧ depth < 0 then [.unmatchedClose line depth] else []

/-- What is logged when the items have come to an end. -/
def Event.ofEnd (depth : Int) : List Event :=
  if 0 < depth then [.leftOpen depth] else []

theorem depthAt_zero (item : List Char) (rest : List (List Char)) :
    depthAt (item :: rest) 0 = (Marker.ofLine item).outdent := by
  simp only [depthAt, List.take_zero, List.countP_nil, List.take_succ_cons, List.countP_singleton]
  cases Marker.ofLine item <;> rfl

theorem depthAt_succ (item : List Char) (rest : List (List Char)) (k : Nat) :
    depthAt (item :: rest) (k + 1) = (Marker.ofLine item).rise + depthAt rest k := by
  simp only [depthAt, List.take_succ_cons, List.countP_cons]
  cases Marker.ofLine item <;> simp only [Marker.rise] <;> simp <;> omega

theorem totalDepth_eq_rise (items : List (List Char)) : totalDepth items = rise items := by
  induction items with
  | nil => rfl
  | cons item rest ih =>
      rw [rise_cons, ← ih]
      simp only [totalDepth, List.countP_cons]
      cases Marker.ofLine item <;> simp only [Marker.rise] <;> simp <;> omega

theorem Layout.lineAt_eq (layout : Layout) (depth : Int) (item : List Char) :
    layout.lineAt depth item = indentItem layout.indent depth (trimItem item) := by
  have hmax : (max 0 depth).toNat = depth.toNat := by omega
  have hbare : (if '\n' ∈ Text.trimStart item then Text.trimStart item else Text.trim item) =
      trimItem item := by
    simp [trimItem, Text.trim]
  simp only [lineAt, indentItem, hbare, hmax, List.isEmpty_iff]

theorem indentedFrom_eq_mapIdx (layout : Layout) (depth : Int) (items : List (List Char)) :
    indentedFrom layout.indent depth items =
      items.mapIdx fun k item => layout.lineAt (depth + depthAt items k) item := by
  induction items generalizing depth with
  | nil => rfl
  | cons item rest ih =>
      rw [indentedFrom, ih, List.mapIdx_cons, depthAt_zero, layout.lineAt_eq]
      simp only [depthAt_succ, Int.add_assoc]

/-- The warnings about closing lines that have nothing to close, from line `line` on. -/
def unmatchedFrom (line : Nat) (depth : Int) : List (List Char) → List Event
  | [] => []
  | item :: rest =>
      Event.ofClosing line (depth + (Marker.ofLine item).outdent) item ++
        unmatchedFrom (line + 1) (depth + (Marker.ofLine item).rise) rest

theorem unmatchedFrom_eq_mapIdx (line : Nat) (depth : Int) (items : List (List Char)) :
    unmatchedFrom line depth items =
      (items.mapIdx fun k item =>
        Event.ofClosing (line + k) (depth + depthAt items k) item).flatten := by
  induction items generalizing line depth with
  | nil => rfl
  | cons item rest ih =>
      rw [unmatchedFrom, ih, List.mapIdx_cons, depthAt_zero, List.flatten_cons]
      simp only [depthAt_succ, Int.add_assoc, Nat.add_assoc, Nat.add_comm 1, Nat.add_zero]

theorem unmatchedFrom_append (line : Nat) (depth : Int) (items others : List (List Char)) :
    unmatchedFrom line depth (items ++ others) =
      unmatchedFrom line depth items ++
        unmatchedFrom (line + items.length) (depth + rise items) others := by
  induction items generalizing line depth with
  | nil => simp [unmatchedFrom]
  | cons item rest ih =>
      simp only [List.cons_append, unmatchedFrom, ih, rise_cons, List.length_cons, Int.add_assoc,
        List.append_assoc, Nat.add_assoc, Nat.add_comm 1]

theorem unmatchedFrom_of_neverBelow {items : List (List Char)} (line : Nat) {depth : Int}
    (hnever : NeverBelow depth items) : unmatchedFrom line depth items = [] := by
  induction items generalizing line depth with
  | nil => rfl
  | cons item rest ih =>
      obtain ⟨hhere, hrest⟩ := hnever
      have hpass : ¬ (Marker.ofLine item = .closing ∧
          depth + (Marker.ofLine item).outdent < 0) := by
        rintro ⟨hclosing, hbelow⟩
        simp only [hclosing, Marker.rise, Marker.outdent] at hhere hbelow
        omega
      rw [unmatchedFrom, ih (line + 1) hrest, Event.ofClosing, if_neg hpass, List.append_nil]

theorem indentFrom_cons_of_clamp {layout : Layout} (hclamp : layout.balance = .clamp) (line : Nat)
    (nesting : Nesting) (item : List Char) (rest : List (List Char)) :
    indentFrom layout line nesting (item :: rest) =
      let onwards := indentFrom layout (line + 1)
        ((nesting.before (Marker.ofLine item)).after line (Marker.ofLine item)) rest
      { result := onwards.result.map
          (indentItem layout.indent (nesting.depth + (Marker.ofLine item).outdent)
              (trimItem item) ++
            (if rest.isEmpty && !layout.trailingNewline then [] else ['\n']) ++ ·)
        events := Event.ofClosing line (nesting.depth + (Marker.ofLine item).outdent) item ++
          onwards.events } := by
  simp only [indentFrom, Marker.ofLine_trimItem, nesting.depth_before, hclamp, Event.ofClosing]
  split
  · rfl
  · rfl

/-- Clamping writes every item, and warns where brackets do not pair up. -/
theorem indentFrom_of_clamp {layout : Layout} (hclamp : layout.balance = .clamp) (line : Nat)
    (nesting : Nesting) (items : List (List Char)) :
    indentFrom layout line nesting items =
      { result := .ok (layout.joinLines (indentedFrom layout.indent nesting.depth items))
        events := unmatchedFrom line nesting.depth items ++
          Event.ofEnd (nesting.depth + rise items) } := by
  induction items generalizing line nesting with
  | nil =>
      rw [rise_nil, Int.add_zero]
      simp only [indentFrom, indentedFrom, Layout.joinLines_nil, unmatchedFrom, List.nil_append,
        Event.ofEnd, hclamp]
      by_cases hdepth : nesting.depth ≤ 0
      · rw [if_pos hdepth, if_neg (by omega)]
      · rw [if_neg hdepth, if_pos (by omega)]
  | cons item rest ih =>
      have hafter := nesting.depth_after_before line (Marker.ofLine item)
      rw [indentFrom_cons_of_clamp hclamp, ih]
      simp only [hafter, Except.map, indentedFrom, Layout.joinLines_cons, isEmpty_indentedFrom,
        unmatchedFrom, rise_cons, Int.add_assoc, List.append_assoc]

/-- The clamping pass in closed form. Every item is written, in order, at its depth or at the left
margin, and what is logged is one warning for each closing line below the margin and one for what
is left open in the end. The running depth itself is never clamped. -/
theorem indentItems_of_clamp {layout : Layout} (hclamp : layout.balance = .clamp)
    (items : List String) :
    let lines := items.map String.toList
    indentItems layout items =
      { result := .ok (String.ofList
          (layout.joinLines (lines.mapIdx fun k item => layout.lineAt (depthAt lines k) item)))
        events :=
          (lines.mapIdx fun k item => Event.ofClosing (k + 1) (depthAt lines k) item).flatten ++
            Event.ofEnd (totalDepth lines) } := by
  intro lines
  have hpass := indentFrom_of_clamp hclamp 1 {} lines
  rw [indentedFrom_eq_mapIdx, unmatchedFrom_eq_mapIdx] at hpass
  rw [indentItems, hpass, totalDepth_eq_rise]
  simp only [Int.zero_add, Nat.add_comm 1]
  rfl

/-- The first line has nothing to close, and what stands behind it is one level further left. -/
theorem indentItems_of_clamp_surplus :
    indentItems { balance := .clamp, trailingNewline := false }
        ["[../]", "x = 1 ", "[a]", "[b]", "y = 2\n 3 ", " [ ]", "[c]"] =
      { result := .ok "[../]\nx = 1\n[a]\n[b]\n  y = 2\n 3 \n[ ]\n[c]"
        events := [.unmatchedClose 1 (-1), .leftOpen 1] } := by
  refine (indentItems_of_clamp rfl _).trans ?_
  rfl

end InputDeck
