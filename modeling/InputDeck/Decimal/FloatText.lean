import InputDeck.Decimal.Shortest

namespace InputDeck.Decimal

/-- What a double stands for. -/
inductive Magnitude where
  | notANumber
  | infinite
  | zero
  | positive (b : Binary)

def isNegative (x : Float) : Bool :=
  x.toBits.toNat / Nat.pow 2 63 == 1

/-- The sign bit aside, eleven bits hold the exponent and 52 the mantissa, whose leading bit is
left out unless the exponent field is zero. -/
def magnitude (x : Float) : Magnitude :=
  let bits : Nat := x.toBits.toNat
  let fraction : Nat := bits % Nat.pow 2 52
  let field : Nat := bits / Nat.pow 2 52 % Nat.pow 2 11
  if field = 2047 then if fraction = 0 then .infinite else .notANumber
  else if field = 0 then if fraction = 0 then .zero else .positive ⟨fraction, -1074, false⟩
  else .positive ⟨Nat.pow 2 52 + fraction, (field : Int) - 1075, fraction == 0⟩

/-- The choices that a way of writing doubles makes. -/
structure FloatStyle where
  /-- what follows a number without a fraction -/
  wholeMark : List Char
  /-- whether `0.d₁d₂… * 10 ^ point` is written with an exponent -/
  exponential : Int → Bool

/-- Values in a deck: always positional, whole numbers without a fraction. -/
def FloatStyle.plain : FloatStyle where
  wholeMark := []
  exponential := fun _ => false

/-- Values in a diagnostic: whole numbers keep a zero behind the point, and an exponent is used
below `0.0001` and from `10 ^ 16` on. -/
def FloatStyle.diagnostic : FloatStyle where
  wholeMark := ['.', '0']
  exponential := fun point => point < -3 || 16 < point

def positional (wholeMark : List Char) (d : Digits) : List Char :=
  let count := d.digits.length
  if d.point ≤ 0 then ['0', '.'] ++ List.replicate (-d.point).toNat '0' ++ d.digits
  else if count ≤ d.point.toNat then
    d.digits ++ List.replicate (d.point.toNat - count) '0' ++ wholeMark
  else d.digits.take d.point.toNat ++ '.' :: d.digits.drop d.point.toNat

def scientific (d : Digits) : List Char :=
  let exponent := (toString (d.point - 1)).toList
  match d.digits with
  | [] => []
  | [first] => first :: 'e' :: exponent
  | first :: others => first :: '.' :: others ++ 'e' :: exponent

def FloatStyle.write (style : FloatStyle) (d : Digits) : List Char :=
  if style.exponential d.point then scientific d else positional style.wholeMark d

/-- The text of a double: its shortest digits in the given style. The sign of zero shows, that of
what is not a number does not. -/
def floatText (style : FloatStyle) (x : Float) : String :=
  let signed (cs : List Char) : String :=
    String.ofList (if isNegative x then '-' :: cs else cs)
  match magnitude x with
  | .notANumber => "NaN"
  | .infinite => signed ['i', 'n', 'f']
  | .zero => signed ('0' :: style.wholeMark)
  | .positive b => signed (style.write b.shortest)

end InputDeck.Decimal
