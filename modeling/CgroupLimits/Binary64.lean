/-!
# Binary64 arithmetic

A CPU quota is a quotient of two integers, held as an IEEE 754 binary64
number. Every finite magnitude is a whole number of units of 2^-1074, so
decoding gives a natural number and nothing is lost; a quotient of magnitudes
does not depend on the unit. Rounding is to nearest, ties to even.
-/

set_option autoImplicit false

namespace CgroupLimits

structure Binary64 where
  bits : UInt64
  deriving DecidableEq, Repr

namespace Binary64

inductive Value where
  | finite (negative : Bool) (units : Nat)
  | infinite (negative : Bool)
  | nan
  deriving DecidableEq, Repr

def twoTo (n : Nat) : Nat := Nat.pow 2 n

def unitsPerOne : Nat := twoTo 1074

def exponentLimit : Nat := 2047

def decode (x : Binary64) : Value :=
  let negative := decide (twoTo 63 ≤ x.bits.toNat)
  let exponent := x.bits.toNat / twoTo 52 % twoTo 11
  let fraction := x.bits.toNat % twoTo 52
  if exponent = exponentLimit then
    if fraction = 0 then .infinite negative else .nan
  else if exponent = 0 then .finite negative fraction
  else .finite negative ((twoTo 52+fraction) * twoTo (exponent-1))

/-- The nearest integer to a quotient, the even one of two. -/
def nearest (num den : Nat) : Nat :=
  let remainder := num % den
  if 2*remainder < den then num / den
  else if den < 2*remainder then num / den + 1
  else num / den + num / den % 2

def excess (units : Nat) : Nat := units.log2 - 52

/-- Exponent and fraction fields of the number nearest to `num / den`. A
significand of full width adds its leading digit to the exponent field, and so
does one that rounding carries to the next power of two; past the largest
finite number stands infinity. -/
def magnitudeBits (num den : Nat) : Nat :=
  let shift := excess (num*unitsPerOne / den)
  min (shift * twoTo 52 + nearest (num*unitsPerOne) (den * twoTo shift)) (exponentLimit * twoTo 52)

def withSign (negative : Bool) (magnitude : Nat) : Binary64 :=
  ⟨UInt64.ofNat ((if negative then twoTo 63 else 0) + magnitude)⟩

def infinity (negative : Bool) : Binary64 := withSign negative (exponentLimit * twoTo 52)

def quietNan : Binary64 := withSign false (exponentLimit * twoTo 52 + twoTo 51)

def ofInt (n : Int) : Binary64 := withSign (decide (n < 0)) (magnitudeBits n.natAbs 1)

def div (x y : Binary64) : Binary64 :=
  match x.decode, y.decode with
  | .finite s m, .finite t n =>
    if n = 0 then if m = 0 then quietNan else infinity (s != t)
    else withSign (s != t) (magnitudeBits m n)
  | .finite s _, .infinite t => withSign (s != t) 0
  | .infinite s, .finite t _ => infinity (s != t)
  | .infinite _, .infinite _ => quietNan
  | .nan, _ => quietNan
  | _, .nan => quietNan

end Binary64
end CgroupLimits
