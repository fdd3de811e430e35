import PageBuilder.Number.Power

set_option autoImplicit false

/-!
# Binary64 numbers

A number in the 64-bit binary format by its three fields. A finite number is a whole count of the
smallest step `2 ^ -1074`, so numbers are compared and rounded in exact whole arithmetic.
-/

namespace PageBuilder

/-- Sign, biased exponent and fraction; the largest exponent holds the infinities and the NaNs. -/
structure Binary64 where
  negative : Bool
  exponent : Fin 2048
  fraction : Fin 4503599627370496
deriving DecidableEq

namespace Binary64

def isFinite (x : Binary64) : Bool := x.exponent.val != 2047

def isNaN (x : Binary64) : Bool := x.exponent.val == 2047 && x.fraction.val != 0

/-- Subnormal numbers have no leading one. -/
def significand (x : Binary64) : Nat :=
  if x.exponent.val = 0 then x.fraction.val else pow2 52 + x.fraction.val

/-- One unit of the significand is `2 ^ scale` steps. -/
def scale (x : Binary64) : Nat := x.exponent.val - 1

def magnitude (x : Binary64) : Nat := x.significand * pow2 x.scale

/-- The value of a finite number in steps; both zeros have none. -/
def steps (x : Binary64) : Int := if x.negative then -(x.magnitude : Int) else x.magnitude

def isZero (x : Binary64) : Bool := x.magnitude == 0 && x.isFinite

def neg (x : Binary64) : Binary64 := { x with negative := !x.negative }

def infinity (negative : Bool) : Binary64 := ⟨negative, 2047, 0⟩

def nan : Binary64 := ⟨false, 2047, 2251799813685248⟩

/-- The number `significand · 2 ^ scale` steps, for a significand of at most 53 bits or `2 ^ 53`. -/
def pack (negative : Bool) (significand scale : Nat) : Binary64 :=
  if significand < pow2 52 then ⟨negative, 0, Fin.ofNat _ significand⟩
  else
    let (m, p) :=
      if significand < pow2 53 then (significand, scale) else (significand / 2, scale + 1)
    if p < 2046 then ⟨negative, Fin.ofNat _ (p + 1), Fin.ofNat _ (m - pow2 52)⟩
    else infinity negative

def divEven (num den : Nat) : Nat :=
  let q := num / den
  let r := num % den
  if 2 * r < den then q else if 2 * r > den then q + 1 else q + q % 2

/-- The nearest number to `num / den`, a tie going to the even significand. -/
def ofRatio (negative : Bool) (num den : Nat) : Binary64 :=
  let a := num * pow2 1074
  let scale := (a / den).log2 - 52
  pack negative (divEven a (den * pow2 scale)) scale

def ofNat (n : Nat) : Binary64 := ofRatio false n 1

def ofInt (n : Int) : Binary64 := ofRatio (n < 0) n.natAbs 1

def mul (x y : Binary64) : Binary64 :=
  ofRatio (x.negative != y.negative) (x.magnitude * y.magnitude) (pow2 2148)

def div (x y : Binary64) : Binary64 :=
  ofRatio (x.negative != y.negative) x.magnitude y.magnitude

def same (x y : Binary64) : Bool := x.steps == y.steps

def less (x y : Binary64) : Bool := decide (x.steps < y.steps)

def isWhole (x : Binary64) : Bool := x.isFinite && x.magnitude % pow2 1074 == 0

def truncate (x : Binary64) : Int :=
  if x.negative then -((x.magnitude / pow2 1074 : Nat) : Int) else (x.magnitude / pow2 1074 : Nat)

end Binary64
end PageBuilder
