/-!
# The shortest decimal of a floating-point number

A finite number other than zero is `significand * 2 ^ exponent`. The reals nearer to it than
to any other number of its kind form an interval around it; its ends belong to it when the
significand is even. Among the decimals in that interval the ones with the fewest digits are
wanted, and of these the nearest to the number. On the grid of decimals of a given number of
digits only the two neighbours of the number have to be looked at: if any point of the grid
lies in the interval, one of these does.

All arithmetic is exact, on natural numbers over a common denominator.
-/
namespace KotlinContract.Decimal

/-- A number and the reals that are read as it, all three over the same denominator. -/
structure Interval where
  /-- The lower end. -/
  lower : Nat
  /-- The number itself. -/
  value : Nat
  /-- The upper end. -/
  upper : Nat
  /-- The common denominator. -/
  denominator : Nat
  /-- Whether the ends belong to the interval. -/
  closed : Bool

/-- The interval around `significand * 2 ^ exponent`. The gap below a power of two is half as
wide as the one above, unless the number is among the least that there are. -/
def Interval.around (significand : Nat) (exponent : Int) : Interval :=
  let narrow := significand = Nat.pow 2 52 && exponent > -1074
  let scale := Nat.pow 2 (exponent - 2).toNat
  { lower := (4 * significand - if narrow then 1 else 2) * scale
    value := 4 * significand * scale
    upper := (4 * significand + 2) * scale
    denominator := Nat.pow 2 (2 - exponent).toNat
    closed := significand % 2 = 0 }

/-- Digits and the place of the last one: `digits * 10 ^ exponent`. -/
structure ScaledDigits where
  /-- The digits read as one number. -/
  digits : Nat
  /-- The power of ten that the last digit counts. -/
  exponent : Int
  deriving DecidableEq

/-- Whether a decimal lies in the interval. -/
def Interval.contains (interval : Interval) (decimal : ScaledDigits) : Bool :=
  let up := Nat.pow 10 decimal.exponent.toNat
  let down := Nat.pow 10 (-decimal.exponent).toNat
  let point := decimal.digits * up * interval.denominator
  if interval.closed then
    interval.lower * down ≤ point && point ≤ interval.upper * down
  else interval.lower * down < point && point < interval.upper * down

/-- The greatest power of ten that is not above the number. -/
def Interval.magnitude (interval : Interval) : Int :=
  let bits := (interval.value.log2 : Int) - interval.denominator.log2
  let guess := (bits * 30103).fdiv 100000
  if interval.denominator * Nat.pow 10 (guess + 1).toNat ≤
      interval.value * Nat.pow 10 (-(guess + 1)).toNat then guess + 1
  else guess

/-- The decimal of so many digits that is wanted, if the interval holds one: the neighbour of
the number on the grid, the nearer one if both are in the interval, the even one at equal
distance. -/
def Interval.onGrid (interval : Interval) (count : Nat) : Option ScaledDigits :=
  let place := interval.magnitude + 1 - count
  let up := Nat.pow 10 place.toNat
  let down := Nat.pow 10 (-place).toNat
  let number := interval.value * down
  let unit := interval.denominator * up
  let below := number / unit
  let low : ScaledDigits := ⟨below, place⟩
  let high : ScaledDigits := ⟨below + 1, place⟩
  match interval.contains low, interval.contains high with
  | false, false => none
  | true, false => some low
  | false, true => some high
  | true, true =>
    let remainder := 2 * (number % unit)
    if remainder < unit || (remainder = unit && below % 2 = 0) then some low else some high

/-- The shortest decimal of a finite number other than zero; seventeen digits always do. -/
def shortest (significand : Nat) (exponent : Int) : ScaledDigits :=
  let interval := Interval.around significand exponent
  ((List.range 17).findSome? fun fewer => interval.onGrid (fewer + 1)).getD
    ⟨significand, exponent⟩

end KotlinContract.Decimal
