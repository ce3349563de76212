import InputDeck.Proofs.RunningDepth

namespace InputDeck

namespace Text

theorem lines_cons {c : Char} {cs : List Char} (hfeed : c ≠ '\n')
    (hreturn : c = '\r' → cs.head? ≠ some '\n') :
    lines (c :: cs) =
      match lines cs with
      | [] => [[c]]
      | line :: others => (c :: line) :: others := by
  apply lines.eq_4
  · exact hfeed
  · rintro rest hc rfl
    exact hreturn hc rfl

/-- What stands in front of a line break is one line, unless it ends in a carriage return that would
be taken for a part of the break. -/
theorem lines_append_of_break {line rest : List Char} {others : List (List Char)}
    (hfeed : '\n' ∉ line) (hreturn : line.getLast? = some '\r' → rest.head? ≠ some '\n')
    (hbreak : lines rest = [] :: others) : lines (line ++ rest) = line :: others := by
  induction line with
  | nil => exact hbreak
  | cons c cs ih =>
      have hcs : '\n' ∉ cs := fun h => hfeed (List.mem_cons_of_mem _ h)
      have hhead : c = '\r' → (cs ++ rest).head? ≠ some '\n' := by
        rintro rfl
        cases cs with
        | nil => exact hreturn rfl
        | cons d ds => exact fun h => hcs (List.mem_of_head? h)
      have hlast : cs.getLast? = some '\r' → rest.head? ≠ some '\n' := by
        intro h
        exact hreturn (by simp [List.getLast?_cons, h])
      rw [List.cons_append, lines_cons (fun h => hfeed (by simp [h])) hhead, ih hcs hlast]

theorem lines_append_lineFeed {line : List Char} (hfeed : '\n' ∉ line)
    (hreturn : line.getLast? ≠ some '\r') (rest : List Char) :
    lines (line ++ '\n' :: rest) = line :: lines rest :=
  lines_append_of_break hfeed (fun h => absurd h hreturn) rfl

theorem lines_append_returnAndLineFeed {line : List Char} (hfeed : '\n' ∉ line)
    (rest : List Char) : lines (line ++ '\r' :: '\n' :: rest) = line :: lines rest :=
  lines_append_of_break hfeed (fun _ => by simp) rfl

theorem lines_of_not_mem {line : List Char} (hfeed : '\n' ∉ line) (hne : line ≠ []) :
    lines line = [line] := by
  induction line with
  | nil => exact absurd rfl hne
  | cons c cs ih =>
      have hcs : '\n' ∉ cs := fun h => hfeed (List.mem_cons_of_mem _ h)
      have hhead : c = '\r' → cs.head? ≠ some '\n' := fun _ h => hcs (List.mem_of_head? h)
      rw [lines_cons (fun h => hfeed (by simp [h])) hhead]
      cases cs with
      | nil => rfl
      | cons d ds => rw [ih hcs (List.cons_ne_nil d ds)]

end Text

/-- Characters that splitting a text into lines keeps together and as they are. -/
def OneLine (line : List Char) : Prop :=
  '\n' ∉ line ∧ line.getLast? ≠ some '\r'

theorem oneLine_trimItem {item : List Char} (hfeed : '\n' ∉ item) : OneLine (trimItem item) := by
  rw [trimItem_of_not_mem hfeed]
  refine ⟨fun h => hfeed (Text.mem_of_mem_trim h), ?_⟩
  intro h
  exact absurd (Text.isBlank_of_getLast?_trim h) (by decide)

theorem oneLine_indentItem {item : List Char} (h : OneLine item) (indent : Nat) (depth : Int) :
    OneLine (indentItem indent depth item) := by
  obtain ⟨hfeed, hreturn⟩ := h
  unfold indentItem
  split
  · exact ⟨List.not_mem_nil, by simp⟩
  · next hempty =>
      refine ⟨?_, ?_⟩
      · intro hmem
        rcases List.mem_append.mp hmem with hmargin | hmem
        · exact absurd (List.eq_of_mem_replicate hmargin) (by decide)
        · exact hfeed hmem
      · rwa [List.getLast?_append_of_ne_nil _ (by simpa using hempty)]

theorem oneLine_of_mem_indentedFrom {indent : Nat} {depth : Int} {items : List (List Char)}
    (hfeed : ∀ item ∈ items, '\n' ∉ item) :
    ∀ line ∈ indentedFrom indent depth items, OneLine line := by
  induction items generalizing depth with
  | nil => simp [indentedFrom]
  | cons item rest ih =>
      intro line hline
      rcases List.mem_cons.mp hline with rfl | hline
      · exact oneLine_indentItem (oneLine_trimItem (hfeed item (by simp))) _ _
      · exact ih (fun other hother => hfeed other (by simp [hother])) line hline

theorem map_trim_indentedFrom (indent : Nat) (depth : Int) (items : List (List Char)) :
    (indentedFrom indent depth items).map Text.trim = items.map Text.trim := by
  induction items generalizing depth with
  | nil => rfl
  | cons item rest ih =>
      rw [indentedFrom, List.map_cons, List.map_cons, ih, trim_indentItem, trim_trimItem]

/-- Lines that are joined are told apart again. Only an empty last line could get lost. -/
theorem lines_joinLines (layout : Layout) {lines : List (List Char)}
    (hlines : ∀ line ∈ lines, OneLine line) (hlast : lines.getLast? ≠ some []) :
    Text.lines (layout.joinLines lines) = lines := by
  induction lines with
  | nil => simp [Text.lines]
  | cons line rest ih =>
      obtain ⟨hfeed, hreturn⟩ := hlines line (by simp)
      rw [Layout.joinLines_cons]
      cases rest with
      | nil =>
          have hne : line ≠ [] := by simpa using hlast
          cases hnewline : layout.trailingNewline with
          | true => simpa [Text.lines] using Text.lines_append_lineFeed hfeed hreturn []
          | false => simpa using Text.lines_of_not_mem hfeed hne
      | cons next others =>
          have hrest := ih (fun l hl => hlines l (List.mem_cons_of_mem _ hl))
            (by simpa [List.getLast?_cons] using hlast)
          simpa [hrest] using
            Text.lines_append_lineFeed hfeed hreturn (layout.joinLines (next :: others))

end InputDeck
