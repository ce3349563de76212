import InputDeck.Proofs.Mentions
import InputDeck.Proofs.StrictPass

namespace InputDeck

instance : Append Deck := ⟨fun d e => { blocks := d.blocks ++ e.blocks }⟩

namespace Block

variable (blocks others : List Block)

theorem innermostFirstOfAll_append :
    innermostFirstOfAll (blocks ++ others) =
      innermostFirstOfAll blocks ++ innermostFirstOfAll others := by
  induction blocks with
  | nil => rfl
  | cons b rest ih =>
      simp only [List.cons_append, innermostFirstOfAll_cons, ih, List.append_assoc]

theorem plainLinesOfAll_append (separator : String) :
    plainLinesOfAll separator (blocks ++ others) =
      plainLinesOfAll separator blocks ++ plainLinesOfAll separator others := by
  induction blocks with
  | nil => rfl
  | cons b rest ih =>
      simp only [List.cons_append, plainLinesOfAll_cons, ih, List.append_assoc]

end Block

namespace Deck

variable {layout : Layout} (d e : Deck)

theorem allBlocks_append : (d ++ e).allBlocks = d.allBlocks ++ e.allBlocks :=
  Block.innermostFirstOfAll_append d.blocks e.blocks

theorem mentions_append : (d ++ e).mentions = d.mentions ++ e.mentions := by
  rw [mentions, allBlocks_append, List.flatMap_append]
  rfl

theorem plainLines_append (separator : String) :
    (d ++ e).plainLines separator = d.plainLines separator ++ e.plainLines separator :=
  Block.plainLinesOfAll_append d.blocks e.blocks separator

theorem contains_namespaceOf_append_iff {name : String} :
    (d ++ e).namespaceOf.contains name = true ↔
      d.namespaceOf.contains name = true ∨ e.namespaceOf.contains name = true := by
  simp only [contains_namespaceOf_iff, allBlocks_append, List.mem_append, or_and_right, exists_or]

theorem isEmpty_plainLines (separator : String) :
    (d.plainLines separator).isEmpty = d.isEmpty := by
  unfold plainLines isEmpty
  cases d.blocks with
  | nil => rfl
  | cons b rest =>
      rw [Block.plainLinesOfAll_cons]
      rfl

variable {d e}

/-- Under the strict policy a deck is written only if its brackets pair up, and then all of its
references lead to its own entities. -/
theorem writtenAt_of_render (hstrict : layout.balance = .strict) {text : String}
    (hok : (d.render layout).result = .ok text) :
    (∀ m ∈ d.mentions, d.namespaceOf.contains m.target = true) ∧
      ∃ lines, WrittenAt layout.indent 0 ((d.plainLines layout.separator).map String.toList) lines ∧
        lines.isEmpty = d.isEmpty ∧ text = String.ofList (layout.joinLines lines) := by
  have hresolved : ∀ m ∈ d.mentions, d.namespaceOf.contains m.target = true := by
    intro m hm
    by_contra hdangling
    obtain ⟨first, hfirst⟩ := exists_first_unresolved hm hdangling
    rw [render_of_first_unresolved hfirst] at hok
    cases hok
  rw [render_of_resolved hresolved] at hok
  obtain ⟨written, hwritten, rfl⟩ := Logged.exists_of_map_eq_ok hok
  obtain ⟨hnever, hclosed⟩ := neverBelow_of_strict hstrict (Int.le_refl 0) hwritten
  rw [indentFrom_of_neverBelow layout 1 hnever hclosed] at hwritten
  obtain rfl := Except.ok.inj hwritten
  refine ⟨hresolved, _, ⟨hnever, ?_, rfl⟩, ?_, rfl⟩
  · rwa [Int.zero_add] at hclosed
  · rw [isEmpty_indentedFrom, List.isEmpty_map, isEmpty_plainLines]

/-- Two decks that can be written can be written behind each other, and that is the one text behind
the other: neither the names nor the brackets of the first reach into the second. -/
theorem render_append (hstrict : layout.balance = .strict) {s t : String}
    (hd : (d.render layout).result = .ok s) (he : (e.render layout).result = .ok t) :
    ((d ++ e).render layout).result =
      .ok (s ++ (if layout.trailingNewline || d.isEmpty || e.isEmpty then "" else "\n") ++ t) := by
  obtain ⟨hresolved, lines, hwritten, hempty, rfl⟩ := writtenAt_of_render hstrict hd
  obtain ⟨hresolved', lines', hwritten', hempty', rfl⟩ := writtenAt_of_render hstrict he
  have hboth : ∀ m ∈ (d ++ e).mentions, (d ++ e).namespaceOf.contains m.target = true := by
    intro m hm
    rw [mentions_append, List.mem_append] at hm
    rw [contains_namespaceOf_append_iff]
    rcases hm with hm | hm
    · exact .inl (hresolved m hm)
    · exact .inr (hresolved' m hm)
  have hjoined := hwritten.append hwritten'
  rw [← List.map_append, ← plainLines_append] at hjoined
  rw [render_of_resolved hboth, indentItems_of_writtenAt hjoined, layout.joinLines_append, hempty,
    hempty']
  simp only [Logged.after, String.ofList_append]
  split <;> rfl

/-- The two fields of the first deck are read as a header and a closing line. -/
theorem render_append_of_bracket_fields :
    ((({ blocks :=
          [.entity
            { name := ⟨"u", by decide⟩
              fields :=
                { entries :=
                    [("[x", { value := .scalar (.text "]") }),
                      ("[", { value := .scalar (.text "]") })] } }] } : Deck) ++
        { blocks :=
          [.entity
            { name := ⟨"v", by decide⟩
              fields :=
                { entries := [("of", { value := .reference { target := "v" } })] } }] }).render
        { separator := "", trailingNewline := false }).result =
      .ok "[u]\n  [x]\n  []\n[]\n[v]\n  ofv\n[]" :=
  @render_append _ _ _ rfl "[u]\n  [x]\n  []\n[]" "[v]\n  ofv\n[]" rfl rfl

end Deck

end InputDeck
