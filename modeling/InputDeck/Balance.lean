import InputDeck.Indentation

namespace InputDeck

/-- Goes on behind `count` lines with `depth` open blocks, having seen `deepest` of them at once. -/
def balanceFrom (count depth deepest : Nat) : List (List Char) → Except Fault Nat
  | [] => if depth = 0 then .ok deepest else .error (.malformed count (leftOpen depth))
  | line :: rest =>
      match Marker.ofLine line with
      | .opening => balanceFrom (count + 1) (depth + 1) (max deepest (depth + 1)) rest
      | .closing =>
          match depth with
          | 0 => .error (.malformed (count + 1) unmatchedClose)
          | outer + 1 => balanceFrom (count + 1) outer deepest rest
      | .body => balanceFrom (count + 1) depth deepest rest

/-- The greatest number of blocks that a text nests, if its brackets pair up. -/
def checkBalance (text : String) : Except Fault Nat :=
  balanceFrom 0 0 0 (Text.lines text.toList)

end InputDeck
