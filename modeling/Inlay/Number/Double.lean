import Inlay.Text.Basic

/-!
# Doubles and decimals

The double nearest to a quotient, and the shortest decimal that only one double is nearest to.  Both
are computed on natural numbers alone.

A positive double is `m · 2^q` with `q ≥ -1074` and `m < 2^53`; its bits are
`(q + 1074) · 2^52 + m`, where a carry out of `m` is the next exponent.
-/

namespace Inlay.Number

def infinityBits : Nat := 2047 * Nat.pow 2 52

def roundDiv (num den : Nat) : Nat :=
  let q := num / den
  let r := num % den
  if den < 2 * r ∨ (2 * r = den ∧ q % 2 = 1) then q + 1 else q

def scaled (base num den : Nat) (e : Int) : Nat × Nat :=
  if 0 ≤ e then (num, den * Nat.pow base e.toNat) else (num * Nat.pow base (-e).toNat, den)

def nearestBits (num den : Nat) : Nat :=
  if num = 0 then 0
  else
    let guess : Int := (num.log2 : Int) - den.log2 - 52
    let (n, d) := scaled 2 num den guess
    let e := max (if n < Nat.pow 2 52 * d then guess - 1 else guess) (-1074)
    let (n, d) := scaled 2 num den e
    min ((e + 1074).toNat * Nat.pow 2 52 + roundDiv n d) infinityBits

def ofBits (negative : Bool) (bits : Nat) : Float :=
  Float.ofBits (UInt64.ofNat (bits + if negative then Nat.pow 2 63 else 0))

def digitCount (n : Nat) : Nat := (Nat.toDigits 10 n).length

/-- The bits of the double nearest to `m · 10^e`.  Exponents far out of range are decided by the
number of digits. -/
def nearestDecimal (m : Nat) (e : Int) : Nat :=
  let top := e + digitCount m
  if m = 0 ∨ top < -400 then 0
  else if 400 < top then infinityBits
  else if 0 ≤ e then nearestBits (m * Nat.pow 10 e.toNat) 1
  else nearestBits m (Nat.pow 10 (-e).toNat)

structure Decimal where
  digits : Nat
  exponent : Int
deriving DecidableEq

def parts (bits : Nat) : Nat × Int :=
  let e : Nat := bits / Nat.pow 2 52
  if e = 0 then (bits, -1074) else (bits % Nat.pow 2 52 + Nat.pow 2 52, (e : Int) - 1075)

def isFiniteProduct (a b : Nat) : Bool :=
  let (m, p) := parts a
  let (n, q) := parts b
  let (num, den) := scaled 2 (m * n) 1 (-(p + q))
  nearestBits num den != infinityBits

def readsBack (bits : Nat) (d : Decimal) : Bool := nearestDecimal d.digits d.exponent == bits

/-- The decimal with some digits that is nearest to a positive double among those that read back; a
half goes up. -/
def decimalWith? (bits : Nat) (top : Int) (count : Nat) : Option Decimal :=
  let (m, q) := parts bits
  let e := top - count
  let (num, den) := scaled 2 m 1 (-q)
  let (num, den) := scaled 10 num den e
  let below : Decimal := ⟨num / den, e⟩
  let above : Decimal := ⟨num / den + 1, e⟩
  let nearer := if 2 * (num % den) < den then [below, above] else [above, below]
  nearer.find? (readsBack bits)

def topDigit (num den : Nat) : Int :=
  if den ≤ num then
    let whole : Nat := num / den
    digitCount whole
  else
    let inverse : Nat := den / num
    let lost := digitCount inverse
    if num * Nat.pow 10 (lost - 1) = den then 2 - (lost : Int) else 1 - (lost : Int)

def shortest (bits : Nat) : Decimal :=
  let (m, q) := parts bits
  let (num, den) := scaled 2 m 1 (-q)
  let top := topDigit num den
  ((List.range 17).findSome? fun n => decimalWith? bits top (n + 1)).getD ⟨m, 0⟩

def Decimal.point (d : Decimal) : Text × Int :=
  let digits := Nat.toDigits 10 d.digits
  (Text.dropEnd (· == '0') digits, d.exponent + digits.length)

end Inlay.Number
