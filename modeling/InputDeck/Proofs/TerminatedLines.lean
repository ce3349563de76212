import InputDeck.Proofs.JoinedLines
import InputDeck.Proofs.KeyedLists
import InputDeck.Proofs.Mentions

namespace InputDeck

/-- What ends a line of a text. -/
inductive LineEnding where
  | lineFeed
  | returnAndLineFeed

def LineEnding.chars : LineEnding → List Char
  | lineFeed => ['\n']
  | returnAndLineFeed => ['\r', '\n']

namespace Text

def terminated (items : List (List Char × LineEnding)) : List Char :=
  items.flatMap fun item => item.1 ++ item.2.chars

/-- An ended line is read as one line, though not always as itself: with a line feed goes the
carriage return that stood last in it. -/
theorem exists_lines_append_ending {line : List Char} (hfeed : '\n' ∉ line) (ending : LineEnding)
    (rest : List Char) :
    ∃ read, lines (line ++ ending.chars ++ rest) = read :: lines rest ∧ '\n' ∉ read ∧
      trim read = trim line := by
  rw [List.append_assoc]
  cases ending with
  | returnAndLineFeed => exact ⟨line, lines_append_returnAndLineFeed hfeed rest, hfeed, rfl⟩
  | lineFeed =>
      by_cases hreturn : line.getLast? = some '\r'
      · obtain ⟨read, rfl⟩ := List.getLast?_eq_some_iff.mp hreturn
        have hread : '\n' ∉ read := fun h => hfeed (List.mem_append_left _ h)
        -- the return is read as a part of the break, but trimming would have dropped it anyway
        have hblank : ∀ c ∈ ['\r'], isBlank c = true := List.forall_mem_singleton.mpr rfl
        refine ⟨read, ?_, hread, (trim_append_blanks hblank read).symm⟩
        rw [List.append_assoc]
        exact lines_append_returnAndLineFeed hread rest
      · exact ⟨line, lines_append_lineFeed hfeed hreturn rest, hfeed, rfl⟩

end Text

theorem map_trimItem_lines_terminated {items : List (List Char × LineEnding)}
    (hfeed : ∀ item ∈ items, '\n' ∉ item.1) :
    (Text.lines (Text.terminated items)).map trimItem = (items.map Prod.fst).map trimItem := by
  induction items with
  | nil => rfl
  | cons item rest ih =>
      have hitem : '\n' ∉ item.1 := hfeed item (by simp)
      obtain ⟨read, hlines, hread, htrim⟩ :=
        Text.exists_lines_append_ending hitem item.2 (Text.terminated rest)
      have hrest := ih fun other hother => hfeed other (List.mem_cons_of_mem _ hother)
      change (Text.lines (item.1 ++ item.2.chars ++ Text.terminated rest)).map trimItem = _
      rw [hlines, List.map_cons, hrest, trimItem_of_not_mem hread, htrim,
        ← trimItem_of_not_mem hitem]
      rfl

/-- The pass sees nothing of an item but what trimming leaves of it. -/
theorem indentFrom_congr {items others : List (List Char)}
    (h : items.map trimItem = others.map trimItem) (layout : Layout) (line : Nat)
    (nesting : Nesting) :
    indentFrom layout line nesting items = indentFrom layout line nesting others := by
  have hpairs := forall₂_of_map_eq h
  clear h
  induction hpairs generalizing line nesting with
  | nil => rfl
  | @cons item other rest others hitem hrest ih =>
      have hempty : rest.isEmpty = others.isEmpty := by
        cases hrest <;> rfl
      simp only [indentFrom, hitem, hempty, ih]

theorem Resolver.eq_of_vouch_eq_ok {resolver : Resolver} {ms : List Mention} {answer a : α}
    (h : resolver.vouch ms answer = .ok a) : a = answer := by
  unfold vouch at h
  split at h
  · cases h
  · exact (Except.ok.inj h).symm

/-- The text of items that are ended one by one, each in its own way. -/
def terminated (items : List (String × LineEnding)) : String :=
  String.ofList (Text.terminated (items.map fun item => (item.1.toList, item.2)))

theorem indentText_eq_indentItems (layout : Layout) {items : List (String × LineEnding)}
    (hfeed : ∀ item ∈ items, '\n' ∉ item.1.toList) :
    indentText layout (terminated items) = indentItems layout (items.map Prod.fst) := by
  have hpieces : ∀ piece ∈ items.map fun item => (item.1.toList, item.2), '\n' ∉ piece.1 :=
    List.forall_mem_map.mpr hfeed
  have htrim := map_trimItem_lines_terminated hpieces
  unfold indentText indentItems terminated
  rw [String.toList_ofList, indentFrom_congr htrim, List.map_map, List.map_map]
  rfl

/-- Items that hold no line feed are indented alike as items and as the lines of a text, whichever
way each of them is ended there. So a deck whose fields have one line each may be indented as a
text. -/
theorem indentText_terminated (layout : Layout) :
    (∀ items : List (String × LineEnding), (∀ item ∈ items, '\n' ∉ item.1.toList) →
      indentText layout (terminated items) = indentItems layout (items.map Prod.fst)) ∧
    ∀ (d : Deck) (lines : List String),
      d.lines d.namespaceOf.resolver layout.separator = .ok lines →
      (∀ line ∈ d.fieldLines layout.separator, '\n' ∉ line.toList) →
      ∀ items : List (String × LineEnding), items.map Prod.fst = lines →
        d.render layout =
          (indentText layout (terminated items)).after
            (.rendered d.size d.namespaceOf.size lines.length) := by
  refine ⟨fun items => indentText_eq_indentItems layout, ?_⟩
  intro d lines hlines hfields items hmap
  have hplain : lines = d.plainLines layout.separator := by
    rw [Deck.lines_eq_vouch] at hlines
    exact Resolver.eq_of_vouch_eq_ok hlines
  have hfeeds : ∀ item ∈ (d.plainLines layout.separator).map String.toList, '\n' ∉ item :=
    Block.forall_mem_plainLinesOfAll BlockName.not_mem_header (by decide)
      (Deck.forall_mem_fieldLines.mp hfields)
  have hitems : ∀ item ∈ items, '\n' ∉ item.1.toList := by
    intro item hitem
    apply hfeeds
    apply List.mem_map_of_mem
    rw [← hplain, ← hmap]
    exact List.mem_map_of_mem hitem
  rw [indentText_eq_indentItems layout hitems, hmap]
  simp only [Deck.render, hlines]

theorem indentText_terminated_of_returns :
    indentText { balance := .clamp, trailingNewline := false }
        (terminated [("[a]\r", .lineFeed), ("\tx = 1 \r", .returnAndLineFeed), ("[]", .lineFeed),
          ("", .returnAndLineFeed), ("[ ]\u2003", .lineFeed)]) =
      indentItems { balance := .clamp, trailingNewline := false }
        ["[a]\r", "\tx = 1 \r", "[]", "", "[ ]\u2003"] ∧
    Deck.render {}
        { blocks :=
            [.entity
              { name := ⟨"a", by decide⟩
                fields := { entries := [("x", { value := .scalar (.text "1\r") })] } }] } =
      (indentText {}
        (terminated [("[a]", .lineFeed), ("x = 1\r", .returnAndLineFeed), ("[]", .lineFeed)])).after
          (.rendered 1 1 3) := by
  constructor
  · apply (indentText_terminated { balance := .clamp, trailingNewline := false }).1
    decide
  · apply (indentText_terminated {}).2 _ ["[a]", "x = 1\r", "[]"]
    · rfl
    · decide
    · rfl

end InputDeck
