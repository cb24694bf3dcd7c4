import PhoneAudio.Number.Binary
import PhoneAudio.Text.Digits

/-!
# Decimal literals as binary numbers

A literal is read in two steps. As many of its digits as fit in a sixty-four-bit
word make up the significand; further digits only count towards the power of
ten. The significand is then scaled by that power in double precision, with one
rounding for the significand, one for the power and one for each scaling step.
So the result can differ from the double nearest to the literal, and a literal
out of the range of doubles has no value at all.
-/

namespace PhoneAudio.Number

/-- An unsigned literal: the digits before and after the point, and the exponent. -/
structure Decimal where
  whole : List Nat
  fraction : List Nat
  exponent : Int
deriving DecidableEq

namespace Decimal

/-- Appends digits to a word for as long as it stays below two to the power
sixty-four, and returns the digits that did not fit. -/
def accumulate : Nat → List Nat → Nat × List Nat
  | word, [] => (word, [])
  | word, digit :: rest =>
    if word * 10 + digit < UInt64.size then accumulate (word * 10 + digit) rest
    else (word, digit :: rest)

/-- The significand and the power of ten that scales it. Digits of the whole part
that did not fit raise the power, digits of the fraction that did lower it. -/
def significand (x : Decimal) : Nat × Int :=
  let (word, dropped) := accumulate 0 x.whole
  let (word, ignored) := accumulate word x.fraction
  (word, x.exponent + dropped.length - (x.fraction.length - ignored.length : Nat))

/-- The largest power of ten that a double scales by in one step. -/
def widestStep : Nat := 308

def powerOfTen? (n : Nat) : Option Dyadic := Format.double.ofNat? (Nat.pow 10 n)

/-- Divides by the widest power of ten `steps` times; zero stays zero. -/
def shrink? : Nat → Dyadic → Option Dyadic
  | 0, x => some x
  | steps + 1, x =>
    if x.units = 0 then some x
    else do shrink? steps (← Format.double.div? x (← powerOfTen? widestStep))

/-- Scales a double by a power of ten, unless the result is out of range. -/
def scale? (x : Dyadic) (power : Int) : Option Dyadic :=
  if x.units = 0 then some x
  else if 0 ≤ power then
    if power ≤ widestStep then do Format.double.mul? x (← powerOfTen? power.toNat)
    else none
  else
    -- whole steps first, and a last one of at most the widest
    let steps := ((-power).toNat - 1) / widestStep
    do
      let y ← shrink? steps x
      Format.double.div? y (← powerOfTen? ((-power).toNat - steps * widestStep))

/-- The double that a literal stands for, unless it is out of range. -/
def double? (x : Decimal) : Option Dyadic := do
  let (word, power) := x.significand
  scale? (← Format.double.ofNat? word) power

end Decimal

example : Decimal.double? ⟨[1], [], 400⟩ = none := by decide +kernel

end PhoneAudio.Number
