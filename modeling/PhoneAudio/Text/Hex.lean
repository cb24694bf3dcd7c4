/-!
# Hexadecimal digits

Numbers are written in lower case, either in the fewest digits or in a fixed
width, and read in either case.
-/

namespace PhoneAudio.Text.Hex

/-- The lowest `width` digits of a number, highest first. -/
def fixed : Nat → Nat → List Char
  | 0, _ => []
  | width + 1, n => fixed width (n / 16) ++ [Nat.digitChar (n % 16)]

/-- The fewest digits that write a number; zero is one digit. -/
def shortest (n : Nat) : List Char := Nat.toDigits 16 n

/-- The value of a digit in either case. -/
def digitValue? (c : Char) : Option Nat :=
  if '0' ≤ c ∧ c ≤ '9' then some (c.toNat - '0'.toNat)
  else if 'a' ≤ c ∧ c ≤ 'f' then some (c.toNat - 'a'.toNat + 10)
  else if 'A' ≤ c ∧ c ≤ 'F' then some (c.toNat - 'A'.toNat + 10)
  else none

/-- The number that a run of digits writes; no other character is skipped. -/
def read? (digits : List Char) : Option Nat :=
  digits.foldlM (fun n c => (digitValue? c).map (n * 16 + ·)) 0

@[simp] theorem length_fixed (width n : Nat) : (fixed width n).length = width := by
  induction width generalizing n with
  | zero => rfl
  | succ width ih => simp [fixed, ih]

theorem digitValue?_digitChar {d : Nat} (h : d < 16) :
    digitValue? (Nat.digitChar d) = some d := by
  revert h d
  decide

theorem read?_append_digit (digits : List Char) (c : Char) :
    read? (digits ++ [c]) =
      (read? digits).bind fun n => (digitValue? c).map (n * 16 + ·) := by
  cases h : digits.foldlM (fun n c => (digitValue? c).map (n * 16 + ·)) 0 <;>
    cases hc : digitValue? c <;> simp [read?, h, hc]

/-- A fixed width keeps a number that fits in it. -/
theorem read?_fixed (width n : Nat) : read? (fixed width n) = some (n % Nat.pow 16 width) := by
  induction width generalizing n with
  | zero => simp [fixed, read?, Nat.mod_one]
  | succ width ih =>
    have hd : n % 16 < 16 := Nat.mod_lt _ (by decide)
    rw [fixed, read?_append_digit, ih, digitValue?_digitChar hd]
    simp only [Option.bind_some, Option.map_some, Option.some.injEq]
    have hpow : Nat.pow 16 (width + 1) = 16 * Nat.pow 16 width := Nat.mul_comm _ _
    rw [hpow, Nat.mod_mul]
    omega

end PhoneAudio.Text.Hex
