/-!
# Decimal digits

Numbers written in ASCII digits, and the one form of them that a pattern of
durations admits.
-/

namespace PhoneAudio.Text

/-- The value of a decimal digit; digits of other scripts are none. -/
def digitValue? (c : Char) : Option Nat :=
  if '0' ≤ c ∧ c ≤ '9' then some (c.toNat - '0'.toNat) else none

/-- The number that a run of decimal digits writes, highest first. -/
def ofDigits (digits : List Nat) : Nat :=
  digits.foldl (fun n d => n * 10 + d) 0

/-- A number written as one or more digits and nothing else. -/
def number? (text : List Char) : Option Nat :=
  match text with
  | [] => none
  | _ :: _ => (text.mapM digitValue?).map ofDigits

/-- A number with an optional plus sign that fits in sixty-four bits. -/
def word? (text : List Char) : Option Nat :=
  let digits := match text with
    | '+' :: rest => rest
    | _ => text
  (number? digits).filter (· < UInt64.size)

example : word? "+007".toList = some 7 := by decide
example : word? "18446744073709551616".toList = none := by decide +kernel
example : word? "+".toList = none := by decide

end PhoneAudio.Text
