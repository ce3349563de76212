import InputDeck.Proofs.BalanceCheck
import InputDeck.Proofs.DirectWriting
import InputDeck.Proofs.JoinedLines
import InputDeck.Proofs.KeyedLists

namespace InputDeck

/-- A block as it can be told from the lines of a text: the name in its header, how many lines of
fields are its own, and the blocks in it. -/
inductive Outline where
  | block (name : String) (fieldLines : Nat) (inner : List Outline)

inductive OutlineFault where
  | closingOutside
  | fieldOutside
  | leftOpen

/-- A block whose closing line is still to come. -/
structure OpenBlock where
  name : String
  fieldLines : Nat := 0
  inner : List Outline := []

/-- The open blocks, innermost first, and the complete ones outside of them. -/
structure OutlineReader where
  pending : List OpenBlock := []
  done : List Outline := []

namespace OutlineReader

def add (r : OutlineReader) (blocks : List Outline) : OutlineReader :=
  match r.pending with
  | [] => { r with done := r.done ++ blocks }
  | b :: outer => { r with pending := { b with inner := b.inner ++ blocks } :: outer }

def readLine (r : OutlineReader) (line : List Char) : Except OutlineFault OutlineReader :=
  match Marker.ofLine line, r.pending with
  | .opening, pending =>
      .ok { r with pending := { name := String.ofList (Text.trim line).tail.dropLast } :: pending }
  | .closing, b :: outer =>
      .ok (add { r with pending := outer } [.block b.name b.fieldLines b.inner])
  | .body, b :: outer =>
      .ok { r with pending := { b with fieldLines := b.fieldLines + 1 } :: outer }
  | .closing, [] => .error .closingOutside
  | .body, [] => .error .fieldOutside

end OutlineReader

/-- The blocks of a text, read line by line. -/
def Outline.ofText (text : String) : Except OutlineFault (List Outline) := do
  let r ← (Text.lines text.toList).foldlM OutlineReader.readLine {}
  if r.pending.isEmpty then return r.done else throw .leftOpen

namespace Block

mutual

def outline : Block → Outline
  | entity e => .block e.name.text e.fields.size []
  | nested label _ children fields => .block label.text fields.size (outlineOfAll children)

def outlineOfAll : List Block → List Outline
  | [] => []
  | b :: rest => b.outline :: outlineOfAll rest

end

mutual

/-- How many blocks of a row are nested in each other at most. -/
def height : Block → Nat
  | entity _ => 1
  | nested _ _ children _ => heightOfAll children + 1

def heightOfAll : List Block → Nat
  | [] => 0
  | b :: rest => max b.height (heightOfAll rest)

end

end Block

namespace OutlineReader

theorem add_nil (r : OutlineReader) : r.add [] = r := by
  obtain ⟨pending, done⟩ := r
  cases pending <;> simp [add]

theorem add_add (r : OutlineReader) (blocks others : List Outline) :
    (r.add blocks).add others = r.add (blocks ++ others) := by
  obtain ⟨pending, done⟩ := r
  cases pending <;> simp [add]

theorem readLine_congr {line other : List Char} (h : Text.trim line = Text.trim other)
    (r : OutlineReader) : r.readLine line = r.readLine other := by
  simp only [readLine, Marker.ofLine_congr h, h]

theorem foldlM_readLine_congr {lines others : List (List Char)}
    (h : lines.map Text.trim = others.map Text.trim) (r : OutlineReader) :
    lines.foldlM readLine r = others.foldlM readLine r := by
  have hpairs := forall₂_of_map_eq h
  clear h
  induction hpairs generalizing r with
  | nil => rfl
  | cons hline _ ih => simp only [List.foldlM_cons, readLine_congr hline, ih]

theorem readLine_header (r : OutlineReader) (name : BlockName) :
    r.readLine name.header.toList =
      .ok { r with pending := { name := name.text } :: r.pending } := by
  have hmarker := name.ofLine_header
  rw [name.toList_header] at hmarker ⊢
  simp [readLine, hmarker, Text.trim_bracketed]

theorem foldlM_readLine_body {lines : List (List Char)}
    (hbody : ∀ line ∈ lines, Marker.ofLine line = .body) (b : OpenBlock) (outer : List OpenBlock)
    (done : List Outline) :
    lines.foldlM readLine { pending := b :: outer, done } =
      .ok { pending := { b with fieldLines := b.fieldLines + lines.length } :: outer, done } := by
  induction lines generalizing b with
  | nil => rfl
  | cons line rest ih =>
      have hline : Marker.ofLine line = .body := hbody line (by simp)
      have hrest := fun b => ih (fun other hother => hbody other (by simp [hother])) b
      simp only [List.foldlM_cons, readLine, hline, bind, Except.bind, hrest, List.length_cons,
        Nat.add_assoc, Nat.add_comm 1]

/-- Reading a block line by line leaves the reader where it was, with the block behind what it had
read before. -/
theorem foldlM_readLine_block (r : OutlineReader) (name : BlockName)
    {inner own : List (List Char)} {outlines : List Outline}
    (hinner : ∀ r : OutlineReader, inner.foldlM readLine r = .ok (r.add outlines))
    (hown : ∀ line ∈ own, Marker.ofLine line = .body) :
    (name.header.toList :: (inner ++ own) ++ [closingLine.toList]).foldlM readLine r =
      .ok (r.add [.block name.text own.length outlines]) := by
  have hopen : add { r with pending := { name := name.text } :: r.pending } outlines =
      { r with pending := { name := name.text, inner := outlines } :: r.pending } := by
    simp [add]
  have hclosing : ∀ b : OpenBlock,
      readLine { r with pending := b :: r.pending } closingLine.toList =
        .ok (r.add [.block b.name b.fieldLines b.inner]) := by
    intro b
    simp only [readLine, ofLine_closingLine]
  simp only [List.cons_append, List.foldlM_cons, List.foldlM_append, List.foldlM_nil,
    readLine_header, hinner, hopen, foldlM_readLine_body hown, hclosing, bind, Except.bind, pure,
    Except.pure, Nat.zero_add]

end OutlineReader

namespace Block

theorem outlineOfAll_cons (b : Block) (rest : List Block) :
    outlineOfAll (b :: rest) =
      .block b.key b.fields.size (outlineOfAll b.children) :: outlineOfAll rest := by
  cases b <;> rfl

theorem heightOfAll_cons (b : Block) (rest : List Block) :
    heightOfAll (b :: rest) = max (heightOfAll b.children + 1) (heightOfAll rest) := by
  cases b <;> rfl

theorem foldlM_readLine_plainLinesOfAll {separator : String} {blocks : List Block}
    (hbody : ∀ b ∈ innermostFirstOfAll blocks,
      ∀ item ∈ (b.fields.plainLines separator).map String.toList, Marker.ofLine item = .body)
    (r : OutlineReader) :
    ((plainLinesOfAll separator blocks).map String.toList).foldlM OutlineReader.readLine r =
      .ok (r.add (outlineOfAll blocks)) := by
  induction blocks using forestInduction generalizing r with
  | nil => exact congrArg Except.ok r.add_nil.symm
  | cons b rest ihChildren ihRest =>
      obtain ⟨hchildren, hb, hrest⟩ := forall_mem_innermostFirstOfAll_cons.mp hbody
      have hblock := r.foldlM_readLine_block b.name (ihChildren hchildren) hb
      have hsize : ((b.fields.plainLines separator).map String.toList).length = b.fields.size := by
        simp [Fields.plainLines, Fields.size]
      rw [hsize] at hblock
      rw [map_toList_plainLinesOfAll_cons, List.foldlM_append, hblock]
      change ((plainLinesOfAll separator rest).map String.toList).foldlM OutlineReader.readLine
        (r.add _) = _
      rw [ihRest hrest, OutlineReader.add_add, outlineOfAll_cons]
      rfl

/-- The balance check goes as deep as the blocks are nested, and comes back. -/
theorem balanceFrom_plainLinesOfAll {separator : String} {blocks : List Block}
    (hbody : ∀ b ∈ innermostFirstOfAll blocks,
      ∀ item ∈ (b.fields.plainLines separator).map String.toList, Marker.ofLine item = .body)
    (count depth deepest : Nat) (hdepth : depth ≤ deepest) (rest : List (List Char)) :
    balanceFrom count depth deepest
        ((plainLinesOfAll separator blocks).map String.toList ++ rest) =
      balanceFrom (count + (plainLinesOfAll separator blocks).length) depth
        (max deepest (depth + heightOfAll blocks)) rest := by
  induction blocks using forestInduction generalizing count depth deepest rest with
  | nil => simp [plainLinesOfAll, heightOfAll, hdepth]
  | cons b others ihChildren ihRest =>
      obtain ⟨hchildren, hb, hrest⟩ := forall_mem_innermostFirstOfAll_cons.mp hbody
      rw [map_toList_plainLinesOfAll_cons]
      simp only [List.cons_append, List.append_assoc, List.nil_append]
      rw [balanceFrom_opening b.name.ofLine_header,
        ihChildren hchildren _ _ _ (Nat.le_max_right _ _), balanceFrom_body hb,
        balanceFrom_closing ofLine_closingLine, ihRest hrest _ _ _ (by omega)]
      congr 1
      · simp only [plainLinesOfAll_cons, List.length_append, List.length_cons, List.length_nil,
          List.length_map]
        omega
      · rw [heightOfAll_cons]
        omega

end Block

namespace Deck

theorem lines_directText {layout : Layout} {d : Deck}
    (hfeed : ∀ line ∈ d.fieldLines layout.separator, '\n' ∉ line.toList)
    (hbody : ∀ line ∈ d.fieldLines layout.separator, Marker.ofLine line.toList = .body) :
    Text.lines (d.directText layout).toList =
      indentedFrom layout.indent 0 ((d.plainLines layout.separator).map String.toList) := by
  have hwritten := Block.writtenAt (forall_mem_fieldLines.mp hbody) 0
  have hfeeds : ∀ item ∈ (d.plainLines layout.separator).map String.toList, '\n' ∉ item := by
    refine Block.forall_mem_plainLinesOfAll BlockName.not_mem_header (by decide) ?_
    exact forall_mem_fieldLines.mp hfeed
  have hlast : (indentedFrom layout.indent 0
      ((d.plainLines layout.separator).map String.toList)).getLast? ≠ some [] := by
    intro h
    have htrim := congrArg List.getLast? (map_trim_indentedFrom layout.indent 0
      ((d.plainLines layout.separator).map String.toList))
    rw [List.getLast?_map, h, List.getLast?_map, List.getLast?_map, plainLines,
      Block.getLast?_plainLinesOfAll] at htrim
    split at htrim
    · cases htrim
    · rw [Option.map_some, Option.map_some, Option.map_some, toList_closingLine,
        Text.trim_bracketed] at htrim
      cases htrim
  rw [directText, String.toList_ofList, ← hwritten.indented]
  exact lines_joinLines layout (oneLine_of_mem_indentedFrom hfeeds) hlast

/-- What a deck is written as can be read back: the same blocks under the same names, nested and
ordered as they were, with as many fields. The balance check finds how deep they are nested. -/
theorem ofText_render {layout : Layout} {d : Deck}
    (hresolved : ∀ m ∈ d.mentions, d.namespaceOf.contains m.target = true)
    (hlines : ∀ line ∈ d.fieldLines layout.separator,
      '\n' ∉ line.toList ∧ Marker.ofLine line.toList = .body) :
    ∃ text : String,
      (d.render layout).result = .ok text ∧
        Outline.ofText text = .ok (Block.outlineOfAll d.blocks) ∧
        checkBalance text = .ok (Block.heightOfAll d.blocks) := by
  have hbody := fun line hline => (hlines line hline).2
  have hitems := lines_directText (fun line hline => (hlines line hline).1) hbody
  have htrim := map_trim_indentedFrom layout.indent 0
    ((d.plainLines layout.separator).map String.toList)
  refine ⟨d.directText layout, ?_, ?_, ?_⟩
  · rw [render_of_resolved hresolved, indentItems_plainLines hbody]
    rfl
  · have hread := Block.foldlM_readLine_plainLinesOfAll (forall_mem_fieldLines.mp hbody) {}
    rw [Outline.ofText, hitems, OutlineReader.foldlM_readLine_congr htrim]
    change (do
      let r ← ((Block.plainLinesOfAll layout.separator d.blocks).map String.toList).foldlM
        OutlineReader.readLine {}
      if r.pending.isEmpty then return r.done else throw OutlineFault.leftOpen) = _
    rw [hread]
    rfl
  · have hbalance := Block.balanceFrom_plainLinesOfAll (forall_mem_fieldLines.mp hbody) 0 0 0
      (Nat.le_refl 0) []
    rw [List.append_nil] at hbalance
    rw [checkBalance, hitems, balanceFrom_congr htrim, plainLines, hbalance]
    simp [balanceFrom]

theorem ofText_render_of_section :
    ∃ text : String,
      (render {}
          { blocks :=
              [.nested ⟨" Variables ", by decide⟩ .replace
                [.entity
                  { name := ⟨"u", by decide⟩
                    fields := { entries := [("initial", { value := .scalar (.text "[0]") })] } }]
                { entries := [("active", { value := .reference { target := "u" } })] }] }).result =
          .ok text ∧
        Outline.ofText text = .ok [.block " Variables " 1 [.block "u" 1 []]] ∧
        checkBalance text = .ok 2 := by
  refine ofText_render ?_ ?_
  · decide
  · decide

end Deck

end InputDeck
