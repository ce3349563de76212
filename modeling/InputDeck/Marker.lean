import InputDeck.Text.Blank

namespace InputDeck

/-- What a line does to the nesting of blocks. -/
inductive Marker where
  | opening
  | closing
  | body
  deriving DecidableEq

/-- What stands between a bracket at the very start and one at the very end. -/
def bracketed? : List Char → Option (List Char)
  | '[' :: rest => if rest.getLast? = some ']' then some rest.dropLast else none
  | _ => none

/-- A line in brackets opens a block, unless there is nothing between them or the dots of the old
closing line `[../]`. Blanks around the brackets and inside an empty pair do not count. -/
def Marker.ofLine (line : List Char) : Marker :=
  match bracketed? (Text.trim line) with
  | none => .body
  | some inner =>
      let bare := Text.trim inner
      if bare = [] ∨ bare = ['.', '.', '/'] then .closing else .opening

end InputDeck
