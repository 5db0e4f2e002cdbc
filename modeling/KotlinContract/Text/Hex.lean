/-!
# Hexadecimal text

Hexadecimal digits in lower case, in a field of fixed width.
-/
namespace KotlinContract.Text

/-- The hexadecimal digit of a number; only the last four bits count. -/
def hexDigit (n : Nat) : Char :=
  let digit := n % 16
  if digit < 10 then Char.ofNat (0x30 + digit) else Char.ofNat (0x57 + digit)

/-- The last `width` hexadecimal digits of a number. -/
def hexDigits : (width : Nat) → Nat → List Char
  | 0, _ => []
  | width + 1, n => hexDigits width (n / 16) ++ [hexDigit n]

/-- The number of digits is the width asked for. -/
@[simp] theorem length_hexDigits (width n : Nat) : (hexDigits width n).length = width := by
  induction width generalizing n with
  | zero => rfl
  | succ width hypothesis => simp [hexDigits, hypothesis]

/-- The value of a hexadecimal digit of either case. -/
def hexValue? (c : Char) : Option Nat :=
  if '0' ≤ c && c ≤ '9' then some (c.toNat - 0x30)
  else if 'a' ≤ c && c ≤ 'f' then some (c.toNat - 0x57)
  else if 'A' ≤ c && c ≤ 'F' then some (c.toNat - 0x37)
  else none

/-- Reading back a hexadecimal digit gives its value. -/
theorem hexValue?_hexDigit (n : Nat) : hexValue? (hexDigit n) = some (n % 16) := by
  have small : n % 16 < 16 := Nat.mod_lt _ (by decide)
  have every : ∀ digit : Fin 16, hexValue? (hexDigit digit.val) = some digit.val := by decide
  have found := every ⟨n % 16, small⟩
  simpa [hexDigit] using found

/-- The bytes that pairs of hexadecimal digits stand for, if the text consists of such pairs. -/
def hexBytes? : List Char → Option (List UInt8)
  | [] => some []
  | high :: low :: rest => do
    let high ← hexValue? high
    let low ← hexValue? low
    return UInt8.ofNat (16 * high + low) :: (← hexBytes? rest)
  | [_] => none

end KotlinContract.Text
