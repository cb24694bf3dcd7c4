import PhoneAudio.Number.Binary

/-!
# Single-precision numbers

A single-precision number is its pattern of bits, so that infinities, both zeros
and what is no number at all stay apart.
-/

namespace PhoneAudio.Number

/-- A single-precision number, as the pattern of its bits. -/
structure Single where
  bits : UInt32
deriving DecidableEq

namespace Single

def signBit : Nat := Nat.pow 2 31

/-- The pattern of a number of the format. A unit of the smallest scale is the
pattern one, and each doubling of the unit adds one to the exponent field. -/
def magnitude (x : Dyadic) : Nat :=
  (x.scale - Format.single.least).toNat * Nat.pow 2 23 + x.units

/-- The pattern that stands for every magnitude out of range. -/
def infinity : Nat := 0x7F800000

/-- A sign and a rounded magnitude; out of range becomes infinite. -/
def assemble (negative : Bool) (x : Option Dyadic) : Single :=
  let size := match x with
    | none => infinity
    | some x => magnitude x
  ⟨UInt32.ofNat (if negative then signBit + size else size)⟩

/-- The nearest single-precision number to a whole one. -/
def ofNat (negative : Bool) (n : Nat) : Single :=
  assemble negative (Format.single.ofNat? n)

/-- The nearest single-precision number to a double. -/
def ofDyadic (negative : Bool) (x : Dyadic) : Single :=
  assemble negative (Format.single.convert? x)

def zero : Single := ⟨0⟩

def one : Single := ⟨0x3F800000⟩

/-- Whether the number lies between zero and one, both included. Patterns of
numbers of one sign grow with the number; of the negative ones only the zero
lies in the range, and what is no number lies above one. -/
def inUnit (x : Single) : Bool := x.bits ≤ one.bits || x.bits == 0x80000000

end Single

example : Single.ofNat false 1 = Single.one := by decide +kernel

end PhoneAudio.Number
