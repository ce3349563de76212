import InputDeck.Decimal.FloatText
import InputDeck.Resolver
import InputDeck.Text.JsonString
import InputDeck.Value.Basic

namespace InputDeck

/-- The target of a reference that no entity answers to. -/
structure Unresolved where
  target : String
  deriving DecidableEq

def Number.written : Number → String
  | integer n => toString n.toInt
  | float x => Decimal.floatText .plain x

def Scalar.written : Scalar → String
  | bool b => if b then "true" else "false"
  | number n => n.written
  | text s => s

namespace Reference

def written (r : Reference) : String :=
  match r.port with
  | some port => r.target ++ ":" ++ port
  | none => r.target

/-- A port is not looked up: the entity alone has to exist. -/
def resolve (resolver : Resolver) (r : Reference) : Except Unresolved String :=
  if resolver r.target then .ok r.written else .error ⟨r.target⟩

/-- The target, or the target and the port, in JSON. -/
def json (r : Reference) : String :=
  match r.port with
  | some port => "[" ++ Text.jsonString r.target ++ "," ++ Text.jsonString port ++ "]"
  | none => Text.jsonString r.target

end Reference

/-- The value without quotes: a space stands between the members of a list. Of several targets
that nothing answers to, the first is reported. -/
def Value.written (resolver : Resolver) : Value → Except Unresolved String
  | scalar s => .ok s.written
  | list items => .ok (" ".intercalate (items.map Scalar.written))
  | reference r => r.resolve resolver
  | references rs => (rs.mapM (Reference.resolve resolver)).map fun names =>
      " ".intercalate names

/-- Wraps the text of `value`. Quotes inside the text are left alone. -/
def Quote.wrap (quote : Quote) (value : Value) (text : String) : String :=
  match quote with
  | auto => if value.isList then "\"" ++ text ++ "\"" else text
  | never => text
  | double => "\"" ++ text ++ "\""
  | single => "'" ++ text ++ "'"

def Field.written (resolver : Resolver) (field : Field) : Except Unresolved String :=
  (field.value.written resolver).map (field.quote.wrap field.value)

end InputDeck
