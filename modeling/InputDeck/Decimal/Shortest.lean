namespace InputDeck.Decimal

/-- The positive number `mantissa * 2 ^ exponent` as one of the numbers that a binary format can
hold. Halfway to its neighbours the format rounds to the even mantissa. The gap below is half the
gap above where `mantissa` is the least one of its exponent. -/
structure Binary where
  mantissa : Nat
  exponent : Int
  leastMantissa : Bool

/-- The positive number `0.d₁d₂… * 10 ^ point`, by its digits. -/
structure Digits where
  digits : List Char
  point : Int

/-- A binary number and the ends of the interval that rounds to it, all three counted in units of
`10 ^ -scale`. -/
structure Interval where
  low : Nat
  value : Nat
  high : Nat
  scale : Nat
  /-- whether the two ends round to the value as well -/
  closed : Bool

/-- Every binary number ends after finitely many decimal places, since
`2 ^ -k = 5 ^ k * 10 ^ -k`. A quarter of the upper gap is the unit in which the value and both
midpoints are whole. -/
def Binary.interval (b : Binary) : Interval :=
  let quarter := b.exponent - 2
  let scale := (-quarter).toNat
  let unit := Nat.pow 2 quarter.toNat * Nat.pow 5 scale
  { low := (4 * b.mantissa - if b.leastMantissa then 1 else 2) * unit
    value := 4 * b.mantissa * unit
    high := (4 * b.mantissa + 2) * unit
    scale := scale
    closed := b.mantissa % 2 == 0 }

def Interval.holds (i : Interval) (n : Nat) : Bool :=
  if i.closed then i.low ≤ n && n ≤ i.high else i.low < n && n < i.high

/-- The multiple of `step` closest to the value among those in the interval, as the multiplier; of
two that are equally close, the upper one. Only the value's two neighbours can be closest. -/
def Interval.closest? (i : Interval) (step : Nat) : Option Nat :=
  let below := i.value / step
  let above := below + 1
  match i.holds (below * step), i.holds (above * step) with
  | true, true =>
      some (if i.value - below * step < above * step - i.value then below else above)
  | true, false => some below
  | false, true => some above
  | false, false => none

/-- The fewest digits that read back as `b`, and of these the closest to it. Seventeen always
suffice for a mantissa of 53 bits. -/
def Binary.shortest (b : Binary) : Digits :=
  let i := b.interval
  let places := (Nat.toDigits 10 i.value).length
  let candidate? (count : Nat) : Option Digits :=
    let dropped := places - (count + 1)
    (i.closest? (Nat.pow 10 dropped)).map fun n =>
      let digits := Nat.toDigits 10 n
      { digits := (digits.reverse.dropWhile (· == '0')).reverse
        point := digits.length + dropped - i.scale }
  ((List.range 17).findSome? candidate?).getD
    { digits := Nat.toDigits 10 i.value, point := places - i.scale }

end InputDeck.Decimal
