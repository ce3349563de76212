import InputDeck.Proofs.BalanceCheck
import InputDeck.Proofs.TerminatedLines

namespace InputDeck

theorem Text.not_mem_of_mem_lines {cs line : List Char} (h : line ∈ lines cs) : '\n' ∉ line := by
  fun_induction lines cs generalizing line with
  | case1 => cases h
  | case2 rest ih =>
      rcases List.mem_cons.mp h with rfl | h
      · exact List.not_mem_nil
      · exact ih h
  | case3 rest ih =>
      rcases List.mem_cons.mp h with rfl | h
      · exact List.not_mem_nil
      · exact ih h
  | case4 c rest hfeed hreturn hnil ih =>
      rw [List.mem_singleton.mp h, List.mem_singleton]
      exact fun hc => hfeed hc.symm
  | case5 c rest hfeed hreturn first others hlines ih =>
      rw [hlines] at ih
      rcases List.mem_cons.mp h with rfl | h
      · rw [List.mem_cons, not_or]
        exact ⟨fun hc => hfeed hc.symm, ih List.mem_cons_self⟩
      · exact ih (List.mem_cons_of_mem first h)

/-- A pass that gets through has written all items, whatever the policy. -/
theorem eq_joinLines_of_indentFrom {layout : Layout} {items : List (List Char)}
    {written : List Char} (hok : (indentFrom layout 1 {} items).result = .ok written) :
    written = layout.joinLines (indentedFrom layout.indent 0 items) := by
  cases hbalance : layout.balance with
  | strict =>
      obtain ⟨hnever, hclosed⟩ := neverBelow_of_strict hbalance (Int.le_refl 0) hok
      rw [indentFrom_of_neverBelow layout 1 hnever hclosed] at hok
      exact (Except.ok.inj hok).symm
  | clamp =>
      rw [indentFrom_of_clamp hbalance] at hok
      exact (Except.ok.inj hok).symm

theorem Layout.joinLines_eq_terminated {layout : Layout} (hnewline : layout.trailingNewline = true)
    (lines : List (List Char)) :
    layout.joinLines lines = Text.terminated (lines.map fun line => (line, .lineFeed)) := by
  rw [joinLines, if_pos hnewline, Text.terminated, List.flatMap_map]
  rfl

theorem map_trimItem_indentedFrom {items : List (List Char)} (hfeed : ∀ item ∈ items, '\n' ∉ item)
    (indent : Nat) (depth : Int) :
    (indentedFrom indent depth items).map trimItem = items.map trimItem := by
  have hlines := @oneLine_of_mem_indentedFrom indent depth items hfeed
  calc
    (indentedFrom indent depth items).map trimItem
      = (indentedFrom indent depth items).map Text.trim :=
        List.map_congr_left fun line hline => trimItem_of_not_mem (hlines line hline).1
    _ = items.map Text.trim := map_trim_indentedFrom indent depth items
    _ = items.map trimItem :=
        List.map_congr_left fun item hitem => (trimItem_of_not_mem (hfeed item hitem)).symm

/-- Split into lines again, an indented text is what it was made from, but for the blanks around
its lines. -/
theorem map_trimItem_lines_of_indentFrom {layout : Layout}
    (hnewline : layout.trailingNewline = true) {text written : List Char}
    (hok : (indentFrom layout 1 {} (Text.lines text)).result = .ok written) :
    (Text.lines written).map trimItem = (Text.lines text).map trimItem := by
  have hfeed : ∀ line ∈ Text.lines text, '\n' ∉ line := fun _ => Text.not_mem_of_mem_lines
  have hpieces : ∀ piece ∈ (indentedFrom layout.indent 0 (Text.lines text)).map
      fun line => (line, LineEnding.lineFeed), '\n' ∉ piece.1 := by
    rw [List.forall_mem_map]
    exact fun line hline => (oneLine_of_mem_indentedFrom hfeed line hline).1
  have hfst : ∀ lines : List (List Char),
      (lines.map fun line => (line, LineEnding.lineFeed)).map Prod.fst = lines := by
    intro lines
    rw [List.map_map]
    exact List.map_id lines
  rw [eq_joinLines_of_indentFrom hok, Layout.joinLines_eq_terminated hnewline,
    map_trimItem_lines_terminated hpieces, hfst]
  exact map_trimItem_indentedFrom hfeed layout.indent 0

/-- An indented text that ends in a line feed stands for the one it was made from: both are indented
alike, with the same complaints, and the balance check tells no difference. -/
theorem indentText_reindented {first : Layout} (hnewline : first.trailingNewline = true)
    {text written : String} (hok : (indentText first text).result = .ok written) :
    (∀ second : Layout, indentText second written = indentText second text) ∧
      checkBalance written = checkBalance text ∧
      (indentText first written).result = .ok written := by
  obtain ⟨chars, hchars, rfl⟩ := Logged.exists_of_map_eq_ok hok
  have htrim := map_trimItem_lines_of_indentFrom hnewline hchars
  have hindent : ∀ second : Layout,
      indentText second (String.ofList chars) = indentText second text := by
    intro second
    unfold indentText
    rw [String.toList_ofList, indentFrom_congr htrim]
  refine ⟨hindent, ?_, ?_⟩
  · have hbare := congrArg (List.map Text.trim) htrim
    simp only [List.map_map, Function.comp_def, trim_trimItem] at hbare
    unfold checkBalance
    rw [String.toList_ofList]
    exact balanceFrom_congr hbare 0 0 0
  · rw [hindent]
    exact hok

theorem indentText_reindented_of_surplus :
    let written := "[a]\n   x = 1\n\n[]\n[../]\n"
    (indentText { indent := 3, balance := .clamp } "\t[a]\r\nx = 1 \r\r\n\u2003\n []\n[../]").result =
        .ok written ∧
      indentText {} written = indentText {} "\t[a]\r\nx = 1 \r\r\n\u2003\n []\n[../]" ∧
      checkBalance written = checkBalance "\t[a]\r\nx = 1 \r\r\n\u2003\n []\n[../]" := by
  intro written
  have hok :
      (indentText { indent := 3, balance := .clamp }
        "\t[a]\r\nx = 1 \r\r\n\u2003\n []\n[../]").result = .ok written := by
    rfl
  obtain ⟨hsecond, hbalance, -⟩ := indentText_reindented rfl hok
  exact ⟨hok, hsecond {}, hbalance⟩

end InputDeck
