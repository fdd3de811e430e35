import PageBuilder.Number.Binary64

set_option autoImplicit false

/-!
# Shortest decimals

The decimal with the fewest digits that reads back as a given number. The reals that read back as
`m · 2 ^ p` steps form an interval around it, whose ends count when `m` is even.
-/

namespace PageBuilder

structure Decimal where
  coefficient : Nat
  exponent : Int
deriving DecidableEq

/-- Where a value halfway between two shortest decimals goes. -/
inductive Tie where
  | even
  | up
deriving DecidableEq

namespace Binary64

/-- The greatest `e` with `10 ^ e ≤ num / den`, downward from a guess that is not too low. -/
def decimalPlaceBelow (num den : Nat) : Nat → Int → Int
  | 0, e => e
  | fuel + 1, e =>
    if pow10 e.toNat * den ≤ num * pow10 (-e).toNat then e
    else decimalPlaceBelow num den fuel (e - 1)

def decimalPlace (num den : Nat) : Int :=
  let bits : Int := (num.log2 : Int) - den.log2 + 1
  decimalPlaceBelow num den 4 (bits * 30103 / 100000 + 1)

/-- The better of the two neighbours with `places` decimals that reads back as `x`, if one does. -/
def neighbour (x : Binary64) (tie : Tie) (places : Int) : Option Decimal :=
  let up := pow10 places.toNat
  let den := pow2 1074 * pow10 (-places).toNat
  let num := x.magnitude * up
  let gap := pow2 x.scale * up
  let above := 2 * gap
  let below := if x.fraction.val = 0 ∧ 1 < x.exponent.val then gap else 2 * gap
  let inside (c : Nat) : Bool :=
    let v := 4 * c * den
    if x.significand % 2 = 0 then 4 * num ≤ v + below && v ≤ 4 * num + above
    else 4 * num < v + below && v < 4 * num + above
  let q := num / den
  let r := num % den
  let lower := Decimal.mk q (-places)
  let upper := Decimal.mk (q + 1) (-places)
  if r = 0 then some lower
  else if inside q then
    if inside (q + 1) then
      if 2 * r < den then some lower
      else if den < 2 * r then some upper
      else match tie with
        | .even => some (if q % 2 = 0 then lower else upper)
        | .up => some upper
    else some lower
  else if inside (q + 1) then some upper
  else none

def shortestFrom (x : Binary64) (tie : Tie) (top : Int) : Nat → Nat → Decimal
  | 0, digits => ⟨x.magnitude * pow10 (digits - 1 - top).toNat / pow2 1074, top + 1 - digits⟩
  | fuel + 1, digits =>
    match x.neighbour tie (digits - 1 - top) with
    | some d => d
    | none => x.shortestFrom tie top fuel (digits + 1)

/-- Trailing zeros of the coefficient go into the exponent. -/
def trim : Nat → Decimal → Decimal
  | 0, d => d
  | fuel + 1, d =>
    if d.coefficient % 10 = 0 ∧ d.coefficient ≠ 0 then
      trim fuel ⟨d.coefficient / 10, d.exponent + 1⟩
    else d

/-- Seventeen digits always suffice to read a binary64 number back. -/
def shortest (x : Binary64) (tie : Tie) : Decimal :=
  trim 20 (x.shortestFrom tie (decimalPlace x.magnitude (pow2 1074)) 17 1)

end Binary64
end PageBuilder
