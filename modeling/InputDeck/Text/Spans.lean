namespace InputDeck.Text

/-- Whether `c` lies in one of the spans, each given by its first and its last code point. -/
def inSpans (spans : List (Nat × Nat)) (c : Char) : Bool :=
  spans.any fun span => span.1 ≤ c.toNat && c.toNat ≤ span.2

end InputDeck.Text
