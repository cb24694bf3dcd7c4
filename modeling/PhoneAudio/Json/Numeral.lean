import PhoneAudio.Number.Decimal
import PhoneAudio.Number.Single

/-!
# Numerals

A numeral keeps the digits it is written with. What number it stands for depends
on who asks: a count takes whole numerals only, a volume takes every numeral
that is in the range of doubles.
-/

namespace PhoneAudio.Json

open Number

/-- A number as it is written. -/
structure Numeral where
  negative : Bool
  whole : List Nat
  fraction : Option (List Nat)
  exponent : Option Int
deriving DecidableEq

namespace Numeral

/-- Written with neither a point nor an exponent. -/
def isWhole (x : Numeral) : Bool := x.fraction.isNone && x.exponent.isNone

/-- The value of the whole part. -/
def size (x : Numeral) : Nat := Text.ofDigits x.whole

/-- The numeral of a natural number. -/
def ofNat (n : Nat) : Numeral :=
  ⟨false, (Nat.toDigits 10 n).map fun c => c.toNat - '0'.toNat, none, none⟩

/-- The natural number below a bound that the numeral writes. A sign is not
accepted, not even before zero. -/
def below? (bound : Nat) (x : Numeral) : Option Nat :=
  if x.isWhole && !x.negative && x.size < bound then some x.size else none

/-- The signed number that the numeral writes, within sixty-four bits. -/
def integer? (x : Numeral) : Option Int :=
  if !x.isWhole then none
  else if x.negative then
    if 0 < x.size && x.size ≤ Nat.pow 2 63 then some (-x.size) else none
  else if x.size < UInt64.size then some x.size else none

def decimal (x : Numeral) : Decimal :=
  ⟨x.whole, x.fraction.getD [], x.exponent.getD 0⟩

/-- The single-precision number that the numeral stands for. A whole numeral
within sixty-four bits is rounded once; every other one goes through a double,
and one out of the range of doubles stands for none. -/
def single? (x : Numeral) : Option Single :=
  match x.integer? with
  | some n => some (Single.ofNat (n < 0) n.natAbs)
  | none => x.decimal.double?.map (Single.ofDyadic x.negative)

end Numeral

end PhoneAudio.Json
