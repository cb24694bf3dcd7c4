/-!
# Binary rounding

A finite binary number is a whole number of units, each unit a power of two. A
format fixes how many binary digits a number may have, how small a unit may get
and where the range ends. Every quotient of natural numbers is rounded to the
nearest number of the format in exact arithmetic, a tie to the even neighbour.
-/

namespace PhoneAudio.Number

/-- The number `units * 2 ^ scale`. -/
structure Dyadic where
  units : Nat
  scale : Int
deriving DecidableEq

namespace Dyadic

def numerator (x : Dyadic) : Nat := x.units * Nat.pow 2 x.scale.toNat

def denominator (x : Dyadic) : Nat := Nat.pow 2 (-x.scale).toNat

end Dyadic

/-- The nearest whole number to a quotient, the even one of two equally near. -/
def nearestWhole (num den : Nat) : Nat :=
  let quotient := num / den
  let rest := num % den
  if 2 * rest < den then quotient
  else if den < 2 * rest then quotient + 1
  else if quotient % 2 = 0 then quotient
  else quotient + 1

/-- The exponent of the highest power of two that is at most `num / den`. -/
def floorLog (num den : Nat) : Int :=
  let guess : Int := (num.log2 : Int) - den.log2
  if den * Nat.pow 2 guess.toNat ≤ num * Nat.pow 2 (-guess).toNat then guess else guess - 1

/-- A binary format. -/
structure Format where
  /-- Binary digits of a number. -/
  precision : Nat
  /-- The scale of the smallest unit. -/
  least : Int
  /-- Numbers from `2 ^ limit` on are out of range. -/
  limit : Int

namespace Format

/-- Fifty-three digits, up to two to the power 1024. -/
def double : Format := ⟨53, -1074, 1024⟩

/-- Twenty-four digits, up to two to the power 128. -/
def single : Format := ⟨24, -149, 128⟩

/-- The scale of the numbers of the format around `num / den`: the smallest at which
the precision suffices. Zero is written in the smallest units there are. -/
def scaleFor (format : Format) (num den : Nat) : Int :=
  if num = 0 then format.least
  else max format.least (floorLog num den - (format.precision - 1))

/-- The number of the format nearest to `num / den`, unless it is out of range. -/
def nearest? (format : Format) (num den : Nat) : Option Dyadic :=
  let scale := format.scaleFor num den
  let units := nearestWhole (num * Nat.pow 2 (-scale).toNat) (den * Nat.pow 2 scale.toNat)
  if units * Nat.pow 2 (scale - format.least).toNat <
      Nat.pow 2 (format.limit - format.least).toNat then
    some ⟨units, scale⟩
  else none

def ofNat? (format : Format) (n : Nat) : Option Dyadic := format.nearest? n 1

def convert? (format : Format) (x : Dyadic) : Option Dyadic :=
  format.nearest? x.numerator x.denominator

def mul? (format : Format) (x y : Dyadic) : Option Dyadic :=
  format.nearest? (x.numerator * y.numerator) (x.denominator * y.denominator)

def div? (format : Format) (x y : Dyadic) : Option Dyadic :=
  format.nearest? (x.numerator * y.denominator) (x.denominator * y.numerator)

end Format

/-- The rounded quotient is within half a unit of the exact one. -/
theorem nearestWhole_near (num den : Nat) (h : 0 < den) :
    2 * num ≤ (2 * nearestWhole num den + 1) * den ∧
      2 * nearestWhole num den * den ≤ 2 * num + den := by
  have hdiv := Nat.div_add_mod num den
  have hlt := Nat.mod_lt num h
  have hstep : ∀ q, (2 * (q + 1) + 1) * den = 2 * (den * q) + 3 * den := by
    intro q; simp only [Nat.add_mul, Nat.mul_add, Nat.mul_comm q den, Nat.mul_assoc]; omega
  have hbase : ∀ q, (2 * q + 1) * den = 2 * (den * q) + den := by
    intro q; simp only [Nat.add_mul, Nat.mul_comm q den, Nat.mul_assoc]; omega
  have htop : ∀ q, 2 * (q + 1) * den = 2 * (den * q) + 2 * den := by
    intro q; simp only [Nat.add_mul, Nat.mul_add, Nat.mul_comm q den, Nat.mul_assoc]; omega
  have hlow : ∀ q, 2 * q * den = 2 * (den * q) := by
    intro q; simp only [Nat.mul_comm q den, Nat.mul_assoc]
  unfold nearestWhole
  simp only
  split
  · rw [hbase, hlow]; omega
  · split
    · rw [hstep, htop]; omega
    · split
      · rw [hbase, hlow]; omega
      · rw [hstep, htop]; omega

example : nearestWhole 5 2 = 2 ∧ nearestWhole 7 2 = 4 ∧ nearestWhole 8 3 = 3 := by decide
example : Format.single.nearest? 1 10 = some ⟨13421773, -27⟩ := by decide +kernel

end PhoneAudio.Number
