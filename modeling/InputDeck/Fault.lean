import InputDeck.Text.Quoted

namespace InputDeck

/-- The ways in which building or rendering a deck fails. -/
inductive Fault where
  /-- `name` cannot stand in the header of a `what` -/
  | invalidName (what name reason : String)
  | duplicateName (label name : String)
  /-- the field `field` of the block `owner` refers to an entity that there is not -/
  | danglingReference (owner field target : String)
  | malformed (line : Nat) (problem : String)
  | missingField (kind entity field : String)
  | unknownField (kind entity field : String)
  | unsupported (problem : String)
  | io (problem : String)
  | custom (problem : String)
  deriving DecidableEq

namespace Fault

def message : Fault → String
  | invalidName what name reason =>
      "Invalid name " ++ Text.quoted name ++ " for " ++ what ++ ": " ++ reason
  | duplicateName label name => "Duplicate name '" ++ name ++ "' in [" ++ label ++ "]"
  | danglingReference owner field target =>
      "Dangling reference in [" ++ owner ++ "] field '" ++ field ++ "': no entity named '" ++
        target ++ "'"
  | malformed line problem => "Malformed document at line " ++ toString line ++ ": " ++ problem
  | missingField kind entity field =>
      "Missing required field '" ++ field ++ "' for " ++ kind ++ " '" ++ entity ++ "'"
  | unknownField kind entity field =>
      "Unknown field '" ++ field ++ "' for " ++ kind ++ " '" ++ entity ++ "'"
  | unsupported problem => "Unsupported type: " ++ problem
  | io problem => "IO error: " ++ problem
  | custom problem => "Error: " ++ problem

/-- A fault met while a part is being built, which leaves what is already assembled as it was: the
caller may skip the part or rename it and go on. -/
def isRecoverable : Fault → Bool
  | invalidName .. | duplicateName .. | missingField .. | unknownField .. | unsupported .. => true
  | danglingReference .. | malformed .. | io .. | custom .. => false

end Fault

end InputDeck
