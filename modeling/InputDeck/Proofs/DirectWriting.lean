import InputDeck.Proofs.Mentions
import InputDeck.Proofs.RunningDepth

namespace InputDeck

def Layout.margin (layout : Layout) (depth : Nat) : List Char :=
  List.replicate (layout.indent * depth) ' '

/-- The lines of fields at a depth, trimmed. One that holds a line feed inside keeps the blanks at
its end and has a margin at its start only. An empty one has no margin. -/
def Fields.laidOut (layout : Layout) (depth : Nat) (m : Fields) : List (List Char) :=
  (m.plainLines layout.separator).map fun line =>
    match trimItem line.toList with
    | [] => []
    | c :: rest => layout.margin depth ++ c :: rest

namespace Block

mutual

/-- The lines of a block at a depth of the tree: header, children, own fields, closing line. -/
def laidOut (layout : Layout) (depth : Nat) : Block → List (List Char)
  | entity e =>
      (layout.margin depth ++ e.name.header.toList) :: e.fields.laidOut layout (depth + 1) ++
        [layout.margin depth ++ closingLine.toList]
  | nested label _ children fields =>
      (layout.margin depth ++ label.header.toList) ::
          (laidOutOfAll layout (depth + 1) children ++ fields.laidOut layout (depth + 1)) ++
        [layout.margin depth ++ closingLine.toList]

def laidOutOfAll (layout : Layout) (depth : Nat) : List Block → List (List Char)
  | [] => []
  | b :: rest => b.laidOut layout depth ++ laidOutOfAll layout depth rest

end

end Block

/-- The text of a deck, written from its tree alone. -/
def Deck.directText (layout : Layout) (d : Deck) : String :=
  String.ofList (layout.joinLines (Block.laidOutOfAll layout 0 d.blocks))

theorem indentItem_eq (layout : Layout) (depth : Nat) (c : Char) (rest : List Char) :
    indentItem layout.indent depth (c :: rest) = layout.margin depth ++ c :: rest := by
  simp [indentItem, Layout.margin]

theorem indentItem_header (layout : Layout) (depth : Nat) (name : BlockName) :
    indentItem layout.indent depth (trimItem name.header.toList) =
      layout.margin depth ++ name.header.toList := by
  rw [name.toList_header, trimItem_bracketed, indentItem_eq]

theorem indentItem_closingLine (layout : Layout) (depth : Nat) :
    indentItem layout.indent depth (trimItem closingLine.toList) =
      layout.margin depth ++ closingLine.toList := by
  rw [toList_closingLine, trimItem_bracketed, indentItem_eq]

theorem Fields.laidOut_eq (layout : Layout) (depth : Nat) (m : Fields) :
    m.laidOut layout depth =
      ((m.plainLines layout.separator).map String.toList).map fun item =>
        indentItem layout.indent depth (trimItem item) := by
  unfold laidOut
  rw [List.map_map]
  refine List.map_congr_left fun line _ => ?_
  cases h : trimItem line.toList with
  | nil => simp [indentItem, h]
  | cons c rest => rw [Function.comp_apply, h, indentItem_eq]

namespace Block

theorem laidOutOfAll_cons (layout : Layout) (depth : Nat) (b : Block) (rest : List Block) :
    laidOutOfAll layout depth (b :: rest) =
      (layout.margin depth ++ b.name.header.toList) ::
          (laidOutOfAll layout (depth + 1) b.children ++ b.fields.laidOut layout (depth + 1)) ++
        [layout.margin depth ++ closingLine.toList] ++ laidOutOfAll layout depth rest := by
  cases b <;> rfl

/-- Headers and closing lines nest as the tree does, so that the depth at which the bracket pass
stands is the depth in the tree. -/
theorem writtenAt {layout : Layout} {blocks : List Block}
    (hbody : ∀ b ∈ innermostFirstOfAll blocks,
      ∀ item ∈ (b.fields.plainLines layout.separator).map String.toList,
        Marker.ofLine item = .body)
    (depth : Nat) :
    WrittenAt layout.indent depth ((plainLinesOfAll layout.separator blocks).map String.toList)
      (laidOutOfAll layout depth blocks) := by
  induction blocks using forestInduction generalizing depth with
  | nil => exact WrittenAt.nil
  | cons b rest ihChildren ihRest =>
      obtain ⟨hchildren, hb, hrest⟩ := forall_mem_innermostFirstOfAll_cons.mp hbody
      have hown := @WrittenAt.of_body layout.indent (depth + 1) _ hb
      have hblock := WrittenAt.block b.name.ofLine_header ofLine_closingLine
        ((ihChildren hchildren (depth + 1)).append hown)
      rw [indentItem_header, indentItem_closingLine, ← Fields.laidOut_eq] at hblock
      simpa [plainLinesOfAll_cons, laidOutOfAll_cons] using hblock.append (ihRest hrest depth)

end Block

namespace Deck

theorem indentItems_plainLines {layout : Layout} {d : Deck}
    (hbody : ∀ line ∈ d.fieldLines layout.separator, Marker.ofLine line.toList = .body) :
    indentItems layout (d.plainLines layout.separator) = { result := .ok (d.directText layout) } :=
  indentItems_of_writtenAt (Block.writtenAt (forall_mem_fieldLines.mp hbody) 0)

end Deck

end InputDeck
