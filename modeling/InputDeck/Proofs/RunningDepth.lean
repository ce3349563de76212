import InputDeck.Proofs.Trimming

namespace InputDeck

def Marker.rise : Marker → Int
  | opening => 1
  | closing => -1
  | body => 0

/-- A closing line already stands outside its block. -/
def Marker.outdent : Marker → Int
  | opening | body => 0
  | closing => -1

def rise : List (List Char) → Int
  | [] => 0
  | item :: rest => (Marker.ofLine item).rise + rise rest

@[simp] theorem rise_nil : rise [] = 0 := rfl

@[simp] theorem rise_cons (item : List Char) (rest : List (List Char)) :
    rise (item :: rest) = (Marker.ofLine item).rise + rise rest := rfl

@[simp] theorem rise_append (items others : List (List Char)) :
    rise (items ++ others) = rise items + rise others := by
  induction items with
  | nil => exact (Int.zero_add _).symm
  | cons item rest ih => rw [List.cons_append, rise_cons, rise_cons, ih, Int.add_assoc]

/-- Started at `depth`, the items never close a block that is not open. -/
def NeverBelow (depth : Int) : List (List Char) → Prop
  | [] => True
  | item :: rest =>
      0 ≤ depth + (Marker.ofLine item).rise ∧ NeverBelow (depth + (Marker.ofLine item).rise) rest

theorem neverBelow_append {depth : Int} {items others : List (List Char)} :
    NeverBelow depth (items ++ others) ↔
      NeverBelow depth items ∧ NeverBelow (depth + rise items) others := by
  induction items generalizing depth with
  | nil => simp [NeverBelow]
  | cons item rest ih =>
      simp only [List.cons_append, NeverBelow, ih, rise_cons, and_assoc, Int.add_assoc]

theorem rise_block {head last : List Char} {items : List (List Char)}
    (hhead : Marker.ofLine head = .opening) (hlast : Marker.ofLine last = .closing) :
    rise (head :: items ++ [last]) = rise items := by
  simp only [List.cons_append, rise_append, rise_cons, rise_nil, hhead, hlast, Marker.rise]
  omega

theorem neverBelow_block {depth : Int} {head last : List Char} {items : List (List Char)}
    (hhead : Marker.ofLine head = .opening) (hlast : Marker.ofLine last = .closing)
    (hdepth : 0 ≤ depth) (hitems : NeverBelow (depth + 1) items) (hrise : 0 ≤ rise items) :
    NeverBelow depth (head :: items ++ [last]) := by
  simp only [List.cons_append, NeverBelow, neverBelow_append, hhead, hlast, Marker.rise]
  refine ⟨by omega, hitems, by omega, trivial⟩

def indentedFrom (indent : Nat) (depth : Int) : List (List Char) → List (List Char)
  | [] => []
  | item :: rest =>
      indentItem indent (depth + (Marker.ofLine item).outdent) (trimItem item) ::
        indentedFrom indent (depth + (Marker.ofLine item).rise) rest

theorem indentedFrom_append (indent : Nat) (depth : Int) (items others : List (List Char)) :
    indentedFrom indent depth (items ++ others) =
      indentedFrom indent depth items ++ indentedFrom indent (depth + rise items) others := by
  induction items generalizing depth with
  | nil => simp [indentedFrom]
  | cons item rest ih =>
      simp only [List.cons_append, indentedFrom, ih, rise_cons, Int.add_assoc]

theorem isEmpty_indentedFrom (indent : Nat) (depth : Int) (items : List (List Char)) :
    (indentedFrom indent depth items).isEmpty = items.isEmpty := by
  cases items <;> rfl

/-- The text of these lines: a line feed behind each, where the layout may leave out the last. -/
def Layout.joinLines (layout : Layout) (lines : List (List Char)) : List Char :=
  if layout.trailingNewline then lines.flatMap (· ++ ['\n']) else ['\n'].intercalate lines

namespace Layout

variable (layout : Layout)

@[simp] theorem joinLines_nil : layout.joinLines [] = [] := by
  simp [joinLines]

theorem joinLines_cons (line : List Char) (rest : List (List Char)) :
    layout.joinLines (line :: rest) =
      line ++ (if rest.isEmpty && !layout.trailingNewline then [] else ['\n']) ++
        layout.joinLines rest := by
  cases hnewline : layout.trailingNewline with
  | true => simp [joinLines, hnewline]
  | false =>
      cases rest with
      | nil => simp [joinLines, hnewline]
      | cons next others => simp [joinLines, hnewline, List.intercalate, List.intersperse]

theorem joinLines_append (lines others : List (List Char)) :
    layout.joinLines (lines ++ others) =
      layout.joinLines lines ++
        (if layout.trailingNewline || lines.isEmpty || others.isEmpty then [] else ['\n']) ++
        layout.joinLines others := by
  induction lines with
  | nil => simp
  | cons line rest ih =>
      rw [List.cons_append, joinLines_cons, joinLines_cons, ih]
      cases layout.trailingNewline <;> cases rest <;> cases others <;> simp

end Layout

theorem Nesting.depth_before (nesting : Nesting) (marker : Marker) :
    (nesting.before marker).depth = nesting.depth + marker.outdent := by
  cases marker with
  | opening => exact (Int.add_zero _).symm
  | closing => rfl
  | body => exact (Int.add_zero _).symm

theorem Nesting.depth_after_before (nesting : Nesting) (line : Nat) (marker : Marker) :
    ((nesting.before marker).after line marker).depth = nesting.depth + marker.rise := by
  cases marker with
  | opening => rfl
  | closing => rfl
  | body => exact (Int.add_zero _).symm

theorem indentFrom_cons_of_rise (layout : Layout) (line : Nat) {nesting : Nesting}
    {item : List Char} (rest : List (List Char))
    (hhere : 0 ≤ nesting.depth + (Marker.ofLine item).rise) :
    indentFrom layout line nesting (item :: rest) =
      (indentFrom layout (line + 1)
          ((nesting.before (Marker.ofLine item)).after line (Marker.ofLine item)) rest).map
        (Except.map
          (indentItem layout.indent (nesting.depth + (Marker.ofLine item).outdent) (trimItem item) ++
            (if rest.isEmpty && !layout.trailingNewline then [] else ['\n']) ++ ·)) := by
  have hpass : ¬ (Marker.ofLine item = .closing ∧
      nesting.depth + (Marker.ofLine item).outdent < 0) := by
    rintro ⟨hclosing, hbelow⟩
    simp only [hclosing, Marker.rise, Marker.outdent] at hhere hbelow
    omega
  simp only [indentFrom, Marker.ofLine_trimItem, nesting.depth_before, if_neg hpass]

/-- Items whose brackets pair up are written one by one at their depths, under either policy and
with nothing to report. -/
theorem indentFrom_of_neverBelow (layout : Layout) {items : List (List Char)} (line : Nat)
    {nesting : Nesting} (hnever : NeverBelow nesting.depth items)
    (hclosed : nesting.depth + rise items = 0) :
    indentFrom layout line nesting items =
      { result := .ok (layout.joinLines (indentedFrom layout.indent nesting.depth items)) } := by
  induction items generalizing line nesting with
  | nil =>
      have hdepth : nesting.depth ≤ 0 := by
        simp only [rise_nil] at hclosed
        omega
      simp [indentFrom, indentedFrom, hdepth]
  | cons item rest ih =>
      obtain ⟨hhere, hrest⟩ := hnever
      have hafter := nesting.depth_after_before line (Marker.ofLine item)
      have honwards := @ih (line + 1)
        ((nesting.before (Marker.ofLine item)).after line (Marker.ofLine item))
        (by rwa [hafter])
        (by rw [hafter, Int.add_assoc, ← rise_cons]; exact hclosed)
      rw [indentFrom_cons_of_rise layout line rest hhere, honwards]
      simp only [hafter, indentedFrom, Layout.joinLines_cons, isEmpty_indentedFrom, Logged.map,
        Except.map]

/-- The brackets among the items pair up, and at `depth` the items are written as the lines. -/
structure WrittenAt (indent depth : Nat) (items lines : List (List Char)) : Prop where
  neverBelow : NeverBelow depth items
  rise_eq : rise items = 0
  indented : indentedFrom indent depth items = lines

namespace WrittenAt

variable {indent depth : Nat} {items others lines otherLines : List (List Char)}

theorem nil : WrittenAt indent depth [] [] :=
  ⟨trivial, rfl, rfl⟩

theorem append (h : WrittenAt indent depth items lines)
    (h' : WrittenAt indent depth others otherLines) :
    WrittenAt indent depth (items ++ others) (lines ++ otherLines) := by
  refine ⟨?_, ?_, ?_⟩
  · rw [neverBelow_append, h.rise_eq, Int.add_zero]
    exact ⟨h.neverBelow, h'.neverBelow⟩
  · rw [rise_append, h.rise_eq, h'.rise_eq, Int.add_zero]
  · rw [indentedFrom_append, h.rise_eq, Int.add_zero, h.indented, h'.indented]

theorem of_body (h : ∀ item ∈ items, Marker.ofLine item = .body) :
    WrittenAt indent depth items
      (items.map fun item => indentItem indent depth (trimItem item)) := by
  induction items with
  | nil => exact nil
  | cons item rest ih =>
      have hitem : Marker.ofLine item = .body := h item (by simp)
      obtain ⟨hnever, hrise, hindented⟩ := ih fun other hother => h other (by simp [hother])
      refine ⟨?_, ?_, ?_⟩
      · simpa [NeverBelow, hitem, Marker.rise] using hnever
      · simp [hitem, Marker.rise, hrise]
      · simp [indentedFrom, hitem, Marker.rise, Marker.outdent, hindented]

/-- What stands between an opening and a closing line is written one level deeper. -/
theorem block {head last : List Char} (hhead : Marker.ofLine head = .opening)
    (hlast : Marker.ofLine last = .closing) (h : WrittenAt indent (depth + 1) items lines) :
    WrittenAt indent depth (head :: items ++ [last])
      (indentItem indent depth (trimItem head) :: lines ++
        [indentItem indent depth (trimItem last)]) := by
  obtain ⟨hnever, hrise, hindented⟩ := h
  rw [Int.natCast_add, Int.natCast_one] at hnever hindented
  refine ⟨?_, ?_, ?_⟩
  · exact neverBelow_block hhead hlast (Int.natCast_nonneg depth) hnever (Int.le_of_eq hrise.symm)
  · rw [rise_block hhead hlast, hrise]
  · simp only [List.cons_append, indentedFrom, indentedFrom_append, hhead, hlast, hrise,
      hindented, Marker.rise, Marker.outdent, Int.add_zero, Int.add_neg_cancel_right]

end WrittenAt

theorem indentItems_of_writtenAt {layout : Layout} {items : List String}
    {lines : List (List Char)}
    (h : WrittenAt layout.indent 0 (items.map String.toList) lines) :
    indentItems layout items = { result := .ok (String.ofList (layout.joinLines lines)) } := by
  have hclosed : ({} : Nesting).depth + rise (items.map String.toList) = 0 := by
    rw [h.rise_eq]
    rfl
  have hpass := @indentFrom_of_neverBelow layout _ 1 {} h.neverBelow hclosed
  have hlines : indentedFrom layout.indent ({} : Nesting).depth (items.map String.toList) = lines :=
    h.indented
  rw [indentItems, hpass, hlines]
  rfl

end InputDeck
