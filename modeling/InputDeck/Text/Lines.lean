namespace InputDeck.Text

/-- The lines of a text. A line ends at a line feed, which takes one carriage return right before
it along; a carriage return on its own belongs to its line, and text after the last line feed is a
line only if there is some. -/
def lines : List Char → List (List Char)
  | [] => []
  | '\n' :: rest => [] :: lines rest
  | '\r' :: '\n' :: rest => [] :: lines rest
  | c :: rest =>
      match lines rest with
      | [] => [[c]]
      | line :: others => (c :: line) :: others

end InputDeck.Text
