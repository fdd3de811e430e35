import PageBuilder.Json.Basic
import PageBuilder.Json.SyntaxError

set_option autoImplicit false

/-!
# Numerals

A numeral is a number as its text spells it. Whole numerals within the 64-bit ranges keep their
value. Any other numeral gathers its digits in a 64-bit significand as long as they fit and scales
it once by a power of ten, both steps rounded.
-/

namespace PageBuilder.Json

/-- The digits before and after the point, and the sign and digits of the exponent. -/
structure Numeral where
  negative : Bool
  whole : List Char
  fraction : List Char
  exponent : Option (Bool × List Char)
deriving DecidableEq

namespace Numeral

def digitValue (c : Char) : Nat := c.toNat - 48

def digitsValue (digits : List Char) : Nat := digits.foldl (fun n c => 10 * n + digitValue c) 0

/-- Takes digits into a significand below `2 ^ 64`; the rest starts where one does not fit. -/
def gather (significand : Nat) : List Char → Nat × List Char
  | [] => (significand, [])
  | c :: rest =>
    let next := 10 * significand + digitValue c
    if next < pow2 64 then gather next rest else (significand, c :: rest)

def powerOfTen (n : Nat) : Binary64 := .ofNat (pow10 n)

/-- Scales by `10 ^ power`; powers below `-308` are applied in steps until the value vanishes. -/
def scaled (x : Binary64) (power : Int) : Nat → Except SyntaxError Binary64
  | 0 => .ok x
  | fuel + 1 =>
    if power.natAbs ≤ 308 then
      if power < 0 then .ok (x.div (powerOfTen power.natAbs))
      else
        let y := x.mul (powerOfTen power.natAbs)
        if y.isFinite then .ok y else .error .numberOutOfRange
    else if x.isZero then .ok x
    else if power < 0 then scaled (x.div (powerOfTen 308)) (power + 308) fuel
    else .error .numberOutOfRange

def exponentValue : Option (Bool × List Char) → Int
  | none => 0
  | some (true, digits) => -(digitsValue digits : Int)
  | some (false, digits) => digitsValue digits

/-- Whole digits that do not fit count as a factor ten each, fraction digits as nothing. -/
def toBinary64 (n : Numeral) : Except SyntaxError Binary64 := do
  let (significand, skipped) := gather 0 n.whole
  let (significand, dropped) := gather significand n.fraction
  let taken := n.fraction.length - dropped.length
  let power := exponentValue n.exponent + skipped.length - taken
  let x ← scaled (.ofNat significand) power 4
  return if n.negative then x.neg else x

/-- A negative zero and whole numerals outside the 64-bit ranges are binary64 numbers. -/
def toNumber (n : Numeral) : Except SyntaxError Number :=
  let value := digitsValue n.whole
  let plain := n.fraction.isEmpty && n.exponent.isNone
  if plain && !n.negative && value < pow2 64 then .ok (.whole value)
  else if plain && n.negative && value ≠ 0 && value ≤ pow2 63 then .ok (.whole (-value))
  else n.toBinary64.map .real

end Numeral
end PageBuilder.Json
