import InputDeck.Indentation
import InputDeck.Section

namespace InputDeck

/-- A whole input deck: its top-level blocks in order. Names may repeat at this level. -/
structure Deck where
  blocks : List Block := []

namespace Deck

instance : EmptyCollection Deck := ⟨{}⟩

def push (d : Deck) (b : Block) : Deck :=
  { blocks := d.blocks ++ [b] }

def size (d : Deck) : Nat :=
  d.blocks.length

def isEmpty (d : Deck) : Bool :=
  d.blocks.isEmpty

/-- The first top-level section with that label. -/
def findSection? (d : Deck) (label : String) : Option Section :=
  d.blocks.findSome? fun b => b.toSection?.filter fun s => s.label.text == label

/-- The names that references of the deck may point at: those of all its entities. -/
def namespaceOf (d : Deck) : Namespace :=
  Block.recordNamesOfAll ∅ d.blocks

/-- The deck line by line, without indentation. -/
def lines (resolver : Resolver) (separator : String) (d : Deck) : Except Fault (List String) :=
  Block.linesOfAll resolver separator d.blocks

/-- The text of the deck. References have to point into the deck itself. -/
def render (layout : Layout) (d : Deck) : Logged (Except Fault String) :=
  let names := d.namespaceOf
  match d.lines names.resolver layout.separator with
  | .error fault => { result := .error fault }
  | .ok lines =>
      (indentItems layout lines).after (.rendered d.size names.size lines.length)

instance : BEq Deck := ⟨fun a b => a.blocks == b.blocks⟩

end Deck

end InputDeck
