import KotlinContract.Decimal.Shortest

/-!
# Decimal text of a floating-point number

The text holds the shortest decimal that is read back as the number. Numbers from `1e-4` up to
below `1e16` are written positionally and always show a fractional part; the others are written
with one digit before the point and an exponent of at least two digits that always has a sign.
-/
namespace KotlinContract.Decimal

/-- The parts of a floating-point number. -/
inductive Parts where
  /-- Not a number. -/
  | nan
  /-- Beyond every number. -/
  | infinite (negative : Bool)
  /-- Zero, of either sign. -/
  | zero (negative : Bool)
  /-- The number `significand * 2 ^ exponent`. -/
  | finite (negative : Bool) (significand : Nat) (exponent : Int)
  deriving DecidableEq

/-- The parts of the number that 64 bits encode. -/
def Parts.ofBits (bits : Nat) : Parts :=
  let negative := bits / Nat.pow 2 63 % 2 == 1
  let biased : Nat := bits / Nat.pow 2 52 % Nat.pow 2 11
  let fraction : Nat := bits % Nat.pow 2 52
  if biased = 2047 then if fraction = 0 then .infinite negative else .nan
  else if biased = 0 then
    if fraction = 0 then .zero negative else .finite negative fraction (-1074)
  else .finite negative (fraction + Nat.pow 2 52) ((biased : Int) - 1075)

/-- The parts of a floating-point number. -/
def Parts.ofFloat (number : Float) : Parts := .ofBits number.toBits.toNat

/-- The digits of a natural number in base ten. -/
def digitsOf (n : Nat) : List Char := Nat.toDigits 10 n

/-- A list without the zeros at its end. -/
def dropTrailingZeros (digits : List Char) : List Char :=
  (digits.reverse.dropWhile (· == '0')).reverse

/-- Numbers of this magnitude and above have an exponent. -/
def leastLargeMagnitude : Int := 16

/-- Numbers below this magnitude have an exponent. -/
def leastPlainMagnitude : Int := -4

/-- The exponent part: a sign and at least two digits. -/
def exponentText (exponent : Int) : List Char :=
  let digits := digitsOf exponent.natAbs
  'e' :: (if exponent < 0 then '-' else '+') ::
    if digits.length < 2 then '0' :: digits else digits

/-- The text of digits of which the first one counts `10 ^ magnitude`. -/
def placed (digits : List Char) (magnitude : Int) : List Char :=
  if leastLargeMagnitude ≤ magnitude || magnitude < leastPlainMagnitude then
    match digits with
    | [] => []
    | [digit] => digit :: exponentText magnitude
    | digit :: others => digit :: '.' :: others ++ exponentText magnitude
  else if magnitude < 0 then
    '0' :: '.' :: List.replicate (-magnitude - 1).toNat '0' ++ digits
  else
    let whole := magnitude.toNat + 1
    if digits.length ≤ whole then
      digits ++ List.replicate (whole - digits.length) '0' ++ ['.', '0']
    else digits.take whole ++ '.' :: digits.drop whole

/-- The text of a sign. -/
def signText (negative : Bool) : List Char := if negative then ['-'] else []

/-- The characters of a number. -/
def Parts.chars : Parts → List Char
  | .nan => "nan".toList
  | .infinite negative => signText negative ++ "inf".toList
  | .zero negative => signText negative ++ "0.0".toList
  | .finite negative significand exponent =>
    let decimal := shortest significand exponent
    let digits := digitsOf decimal.digits
    let magnitude := decimal.exponent + digits.length - 1
    signText negative ++ placed (dropTrailingZeros digits) magnitude

/-- The decimal text of a floating-point number. -/
def realText (number : Float) : String := String.ofList (Parts.ofFloat number).chars

/-- The decimal text of a whole number. -/
def integerText (number : Int) : String :=
  String.ofList (signText (number < 0) ++ digitsOf number.natAbs)

end KotlinContract.Decimal
