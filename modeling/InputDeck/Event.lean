namespace InputDeck

/-- What a section does with a newcomer whose name is taken. -/
inductive DuplicatePolicy where
  | keepFirst
  | replace
  deriving DecidableEq

/-- Something worth telling the reader of a log, with its particulars. -/
inductive Event where
  | duplicateName (label name : String) (policy : DuplicatePolicy)
  | unmatchedClose (line : Nat) (depth : Int)
  | leftOpen (depth : Int)
  | rendered (items names lines : Nat)
  deriving DecidableEq

/-- A warning says that the caller's input was mended or dropped, a debug event that work was
done. -/
inductive Severity where
  | warning
  | debug
  deriving DecidableEq

def Event.severity : Event → Severity
  | .duplicateName .. | .unmatchedClose .. | .leftOpen .. => .warning
  | .rendered .. => .debug

def Event.message : Event → String
  | .duplicateName .. => "duplicate name"
  | .unmatchedClose .. => "unmatched close marker, clamping"
  | .leftOpen .. => "blocks left open at end of document"
  | .rendered .. => "rendered document"

end InputDeck
