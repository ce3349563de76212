import InputDeck.Proofs.BracketedFields

namespace InputDeck

open Text

/-- What is written as one line, or as several where a value has line feeds in it. -/
inductive Part where
  | header (name : BlockName)
  | field (name : String) (field : Field)
  | closing

namespace Part

def item (separator : String) : Part → List Char
  | header name => name.header.toList
  | field name own => (own.plainLine separator name).toList
  | closing => closingLine.toList

def field? : Part → Option (String × Field)
  | field name own => some (name, own)
  | header _ | closing => none

/-- The part as it stands in the text, up to the line feed that ends it. -/
def written (layout : Layout) (depth : Nat) (part : Part) : List Char :=
  indentItem layout.indent depth (trimItem (part.item layout.separator))

end Part

def Fields.parts (depth : Nat) (m : Fields) : List (Nat × Part) :=
  m.entries.map fun entry => (depth, .field entry.1 entry.2)

namespace Block

mutual

/-- The parts of a block with their depths in the tree. -/
def parts (depth : Nat) : Block → List (Nat × Part)
  | entity e => (depth, .header e.name) :: e.fields.parts (depth + 1) ++ [(depth, .closing)]
  | nested label _ children fields =>
      (depth, .header label) :: (partsOfAll (depth + 1) children ++ fields.parts (depth + 1)) ++
        [(depth, .closing)]

def partsOfAll (depth : Nat) : List Block → List (Nat × Part)
  | [] => []
  | b :: rest => b.parts depth ++ partsOfAll depth rest

end

theorem partsOfAll_cons (depth : Nat) (b : Block) (rest : List Block) :
    partsOfAll depth (b :: rest) =
      (depth, .header b.name) ::
          (partsOfAll (depth + 1) b.children ++ b.fields.parts (depth + 1)) ++
        [(depth, .closing)] ++ partsOfAll depth rest := by
  cases b <;> rfl

end Block

def Deck.parts (d : Deck) : List (Nat × Part) :=
  Block.partsOfAll 0 d.blocks

theorem Fields.map_written_parts (layout : Layout) (depth : Nat) (m : Fields) :
    (m.parts depth).map (fun part => part.2.written layout part.1) = m.laidOut layout depth := by
  rw [laidOut_eq]
  simp only [parts, plainLines, List.map_map]
  rfl

theorem Fields.filterMap_field?_parts (depth : Nat) (m : Fields) :
    (m.parts depth).filterMap (fun part => part.2.field?) = m.entries := by
  rw [parts, List.filterMap_map]
  exact List.filterMap_some

namespace Block

theorem map_written_partsOfAll (layout : Layout) (depth : Nat) (blocks : List Block) :
    (partsOfAll depth blocks).map (fun part => part.2.written layout part.1) =
      laidOutOfAll layout depth blocks := by
  induction blocks using forestInduction generalizing depth with
  | nil => rfl
  | cons b rest ihChildren ihRest =>
      have hheader : Part.written layout depth (.header b.name) =
          layout.margin depth ++ b.name.header.toList := indentItem_header layout depth b.name
      have hclosing : Part.written layout depth .closing =
          layout.margin depth ++ closingLine.toList := indentItem_closingLine layout depth
      simp only [partsOfAll_cons, laidOutOfAll_cons, List.map_append, List.map_cons, List.map_nil,
        hheader, hclosing, ihChildren, Fields.map_written_parts, ihRest]

theorem filterMap_field?_partsOfAll (depth : Nat) (blocks : List Block) :
    (partsOfAll depth blocks).filterMap (fun part => part.2.field?) =
      (innermostFirstOfAll blocks).flatMap fun b => b.fields.entries := by
  induction blocks using forestInduction generalizing depth with
  | nil => rfl
  | cons b rest ihChildren ihRest =>
      have hheader : (Part.header b.name).field? = none := rfl
      have hclosing : Part.closing.field? = none := rfl
      simp only [partsOfAll_cons, innermostFirstOfAll_cons, List.filterMap_append,
        List.filterMap_cons, List.filterMap_nil, List.flatMap_append, List.flatMap_singleton,
        hheader, hclosing, ihChildren, Fields.filterMap_field?_parts, ihRest, List.append_nil]

end Block

/-- What trimming leaves of a text that is the last thing in its item. -/
def keptText (text : List Char) : List Char :=
  if '\n' ∈ text then text else trimEnd text

theorem keptText_eq_self_iff {text : List Char} :
    text ≠ [] ∧ keptText text = text ↔
      '\n' ∈ text ∨ ∃ c ∈ text.getLast?, isBlank c = false := by
  unfold keptText
  split
  · next hfeed => simp [hfeed, List.ne_nil_of_mem hfeed]
  · next hfeed =>
      have hself : trimEnd text = text ↔ ∀ h : text ≠ [], ¬ isBlank (text.getLast h) = true :=
        List.rdropWhile_eq_self_iff
      rw [hself, or_iff_right hfeed]
      constructor
      · rintro ⟨hne, hlast⟩
        exact ⟨_, List.getLast?_eq_some_getLast hne, by simpa using hlast hne⟩
      · rintro ⟨c, hc, hblank⟩
        obtain ⟨front, rfl⟩ := List.getLast?_eq_some_iff.mp hc
        simp [hblank]

theorem trimItem_field {name : List Char} (hne : name ≠ [])
    (hblank : ∀ c ∈ name, isBlank c = false) (text : List Char) :
    trimItem (name ++ [' ', '=', ' '] ++ text) =
      name ++ if (keptText text).isEmpty then [' ', '='] else [' ', '=', ' '] ++ keptText text := by
  obtain ⟨c, rest, rfl⟩ := List.exists_cons_of_ne_nil hne
  -- the name shows and is one line, so that all depends on the text
  have hstart : trimStart (c :: rest ++ [' ', '=', ' '] ++ text) =
      c :: rest ++ [' ', '=', ' '] ++ text := trimStart_cons (hblank c (by simp)) _
  have hfeed : '\n' ∈ c :: rest ++ [' ', '=', ' '] ++ text ↔ '\n' ∈ text := by
    have hname : '\n' ∉ c :: rest := fun h => absurd (hblank _ h) (by decide)
    simp only [List.mem_append, hname, false_or]
    exact or_iff_right (by decide)
  have hsign : trimEnd (c :: rest ++ [' ', '=', ' ']) = c :: rest ++ [' ', '='] := by
    rw [trimEnd_append]
    rfl
  simp only [trimItem, hstart, List.contains_iff_mem, hfeed, keptText]
  split
  · next htext => simp [List.ne_nil_of_mem htext]
  · rw [trimEnd_append]
    split
    · exact hsign
    · rw [List.append_assoc]

theorem Part.written_text {name : String} (hne : name ≠ "")
    (hblank : ∀ c ∈ name.toList, isBlank c = false) {quote : Quote}
    (hquote : quote = .auto ∨ quote = .never) (depth : Nat) (text : String) :
    written {} depth (.field name { value := .scalar (.text text), quote }) =
      Layout.margin {} depth ++ name.toList ++
        if (keptText text.toList).isEmpty then [' ', '=']
        else [' ', '=', ' '] ++ keptText text.toList := by
  have hwrap : quote.wrap (.scalar (.text text)) text = text := by
    rcases hquote with rfl | rfl <;> rfl
  have hitem : item " = " (.field name { value := .scalar (.text text), quote }) =
      name.toList ++ [' ', '=', ' '] ++ text.toList := by
    change (name ++ " = " ++ quote.wrap (.scalar (.text text)) text).toList = _
    rw [hwrap, String.toList_append, String.toList_append]
    rfl
  have hchars : name.toList ≠ [] := fun h => hne (String.toList_eq_nil_iff.mp h)
  obtain ⟨c, rest, hname⟩ := List.exists_cons_of_ne_nil hchars
  rw [written, hitem, trimItem_field hchars hblank, hname, List.cons_append, indentItem_eq,
    List.append_assoc (Layout.margin {} depth)]
  rfl

theorem signAndKept_eq_iff {text : List Char} :
    (if (keptText text).isEmpty then [' ', '='] else [' ', '=', ' '] ++ keptText text) =
        [' ', '=', ' '] ++ text ↔
      '\n' ∈ text ∨ ∃ c ∈ text.getLast?, isBlank c = false := by
  rw [← keptText_eq_self_iff]
  split
  · next hempty =>
      rw [List.isEmpty_iff] at hempty
      constructor
      · intro h
        simp at h
      · rintro ⟨hne, hself⟩
        exact absurd (hself.symm.trans hempty) hne
  · next hempty =>
      rw [List.append_cancel_left_eq]
      constructor
      · intro hself
        rw [hself, List.isEmpty_iff] at hempty
        exact ⟨hempty, hself⟩
      · exact And.right

namespace Deck

theorem directText_of_render_default {d : Deck} {text : String}
    (hrender : (d.render {}).result = .ok text) : text = d.directText {} := by
  obtain ⟨-, hdefault⟩ := d.render_default
  split at hdefault
  · rw [hrender] at hdefault
    cases hdefault
  · split at hdefault
    · rw [hrender] at hdefault
      exact Except.ok.inj hdefault
    · obtain ⟨line, hfault⟩ := hdefault
      rw [hrender] at hfault
      cases hfault

/-- Under the usual layout a deck is written part by part at the depths of its tree, with a line
feed behind each part, and every field is one of them. A bare text stands in its part behind margin,
name and sign, as it is if it has a line feed in it or ends in something that shows. Otherwise the
blanks at its end are lost, and if nothing is left of it, so is the one behind the sign. -/
theorem render_eq_parts {d : Deck} {text : String} (hrender : (d.render {}).result = .ok text) :
    text.toList = d.parts.flatMap (fun part => part.2.written {} part.1 ++ ['\n']) ∧
      d.parts.filterMap (fun part => part.2.field?) =
        d.allBlocks.flatMap (fun b => b.fields.entries) ∧
      ∀ (depth : Nat) (name content : String) (quote : Quote), name ≠ "" →
        (∀ c ∈ name.toList, isBlank c = false) → quote = .auto ∨ quote = .never →
        let written := Part.written {} depth
          (.field name { value := .scalar (.text content), quote })
        let lead := Layout.margin {} depth ++ name.toList
        let kept := keptText content.toList
        written = lead ++ (if kept.isEmpty then [' ', '='] else [' ', '=', ' '] ++ kept) ∧
          (written = lead ++ ([' ', '=', ' '] ++ content.toList) ↔
            '\n' ∈ content.toList ∨ ∃ c ∈ content.toList.getLast?, isBlank c = false) := by
  refine ⟨?_, Block.filterMap_field?_partsOfAll 0 d.blocks, ?_⟩
  · rw [directText_of_render_default hrender, directText, String.toList_ofList,
      Layout.joinLines, if_pos rfl, ← Block.map_written_partsOfAll, List.flatMap_map]
    rfl
  · intro depth name content quote hname hblank hquote written lead kept
    have hwritten : written =
        lead ++ if kept.isEmpty then [' ', '='] else [' ', '=', ' '] ++ kept :=
      Part.written_text hname hblank hquote depth content
    refine ⟨hwritten, ?_⟩
    rw [hwritten, List.append_cancel_left_eq]
    exact signAndKept_eq_iff

theorem render_eq_parts_of_expression :
    Part.written {} 2 (.field "expression" { value := .scalar (.text "x + \n 1 ") }) =
      "    expression = x + \n 1 ".toList := by
  have hrender : (render {}
      { blocks :=
          [.nested ⟨"Functions", by decide⟩ .keepFirst
            [.entity
              { name := ⟨"f", by decide⟩
                fields :=
                  { entries := [("expression", { value := .scalar (.text "x + \n 1 ") })] } }]
            ∅] }).result =
      .ok "[Functions]\n  [f]\n    expression = x + \n 1 \n  []\n[]\n" := by
    rfl
  obtain ⟨-, -, hfields⟩ := render_eq_parts hrender
  have hblank : ∀ c ∈ "expression".toList, isBlank c = false := by
    have hall : "expression".toList.all (fun c => !isBlank c) = true := by decide
    simpa using hall
  obtain ⟨-, hverbatim⟩ := hfields 2 "expression" "x + \n 1 " .auto (by decide) hblank (.inl rfl)
  exact hverbatim.mpr (.inl (by decide))

/-- The blank at the end of the text is not written. -/
theorem render_of_blank_behind_text :
    (render {}
        { blocks :=
            [.entity
              { name := ⟨"e", by decide⟩
                fields := { entries := [("k", { value := .scalar (.text "a ") })] } }] }).result =
      .ok "[e]\n  k = a\n[]\n" := by
  rfl

end Deck

end InputDeck
