import InputDeck.Decimal.FloatText
import InputDeck.Text.Quoted
import InputDeck.Value.Basic

namespace InputDeck

private def among (items : List String) : String :=
  "[" ++ ", ".intercalate items ++ "]"

/-- The form of a number that tells whole numbers and doubles apart. -/
def Number.diagnostic : Number → String
  | integer n => "Integer(" ++ toString n.toInt ++ ")"
  | float x => "Float(" ++ Decimal.floatText .diagnostic x ++ ")"

def Scalar.diagnostic : Scalar → String
  | bool b => "Bool(" ++ (if b then "true" else "false") ++ ")"
  | number n => "Number(" ++ n.diagnostic ++ ")"
  | text s => "Text(" ++ Text.quoted s ++ ")"

def Reference.diagnostic (r : Reference) : String :=
  let port := match r.port with
    | some port => "Some(" ++ Text.quoted port ++ ")"
    | none => "None"
  "Reference \x7b target: " ++ Text.quoted r.target ++ ", port: " ++ port ++ " \x7d"

/-- A value spelled out for the reader of a message, which shows of what kind its parts are. -/
def Value.diagnostic : Value → String
  | scalar s => "Scalar(" ++ s.diagnostic ++ ")"
  | list items => "List(" ++ among (items.map Scalar.diagnostic) ++ ")"
  | reference r => "Reference(" ++ r.diagnostic ++ ")"
  | references rs => "References(" ++ among (rs.map Reference.diagnostic) ++ ")"

end InputDeck
