namespace InputDeck

/-- What the indentation pass does with brackets that do not pair up. -/
inductive Balance where
  /-- refuse the text -/
  | strict
  /-- write at no less than the left margin, warn and go on -/
  | clamp
  deriving DecidableEq

/-- How a deck is written. -/
structure Layout where
  /-- spaces per level of nesting -/
  indent : Nat := 2
  /-- what stands between a field's name and its value -/
  separator : String := " = "
  balance : Balance := .strict
  /-- whether the last line ends in a line feed like the others -/
  trailingNewline : Bool := true

/-- Fields without space around the sign. -/
def Layout.compact : Layout :=
  { separator := "=" }

end InputDeck
