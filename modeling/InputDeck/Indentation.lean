import InputDeck.Fault
import InputDeck.Layout
import InputDeck.Logged
import InputDeck.Marker
import InputDeck.Text.Lines

namespace InputDeck

/-- Says that a closing line has no block to close. -/
def unmatchedClose : String :=
  "close marker without matching open"

/-- Says that so many blocks were never closed. -/
def leftOpen (depth : Int) : String :=
  toString depth ++ " block(s) left open at end of document"

/-- Where a pass over the lines stands. -/
structure Nesting where
  /-- openings less closings so far, which may fall below zero -/
  depth : Int := 0
  /-- the lines of the openings that no closing has taken, innermost first -/
  pending : List Nat := []

namespace Nesting

/-- The nesting at which a line is written: a closing line already stands outside its block. -/
def before (nesting : Nesting) : Marker → Nesting
  | .closing => { depth := nesting.depth - 1, pending := nesting.pending.tail }
  | .opening | .body => nesting

/-- The nesting of what follows line `line`. -/
def after (nesting : Nesting) (line : Nat) : Marker → Nesting
  | .opening => { depth := nesting.depth + 1, pending := line :: nesting.pending }
  | .closing | .body => nesting

end Nesting

/-- An item without the blanks around it. If it still spans several lines, the blanks at its end
belong to its content and stay. -/
def trimItem (item : List Char) : List Char :=
  let bare := Text.trimStart item
  if bare.contains '\n' then bare else Text.trimEnd bare

/-- An item at its depth; an empty one stays empty. -/
def indentItem (indent : Nat) (depth : Int) (item : List Char) : List Char :=
  if item.isEmpty then [] else List.replicate (indent * depth.toNat) ' ' ++ item

/-- The rest of the indentation pass, from line `line` on. -/
def indentFrom (layout : Layout) (line : Nat) (nesting : Nesting) :
    List (List Char) → Logged (Except Fault (List Char))
  | [] =>
      if nesting.depth ≤ 0 then { result := .ok [] }
      else
        match layout.balance with
        | .strict =>
            { result := .error (.malformed (nesting.pending.headD 0) (leftOpen nesting.depth)) }
        | .clamp => { result := .ok [], events := [.leftOpen nesting.depth] }
  | item :: rest =>
      let bare := trimItem item
      let marker := Marker.ofLine bare
      let here := nesting.before marker
      let lineEnd := if rest.isEmpty && !layout.trailingNewline then [] else ['\n']
      let onwards := (indentFrom layout (line + 1) (here.after line marker) rest).map
        (Except.map (indentItem layout.indent here.depth bare ++ lineEnd ++ ·))
      if marker = .closing ∧ here.depth < 0 then
        match layout.balance with
        | .strict => { result := .error (.malformed line unmatchedClose) }
        | .clamp => onwards.after (.unmatchedClose line here.depth)
      else onwards

/-- Indents items by the brackets among them. An item may hold line feeds: they are written as they
are, and what follows them is neither indented nor read for brackets. -/
def indentItems (layout : Layout) (items : List String) : Logged (Except Fault String) :=
  (indentFrom layout 1 {} (items.map String.toList)).map (Except.map String.ofList)

/-- Indents a text line by line. -/
def indentText (layout : Layout) (text : String) : Logged (Except Fault String) :=
  (indentFrom layout 1 {} (Text.lines text.toList)).map (Except.map String.ofList)

end InputDeck
