import PageBuilder.Number.Shortest

set_option autoImplicit false

namespace PageBuilder

def natText (n : Nat) : String := String.ofList (Nat.toDigits 10 n)

def intText (n : Int) : String := if n < 0 then "-" ++ natText n.natAbs else natText n.natAbs

/-- The `point` of `0.d₁d₂… · 10 ^ point` decides whether it is written without an exponent. -/
structure NumberStyle where
  positional : Int → Bool
  wholePoint : Bool
  tie : Tie

namespace NumberStyle

/-- JSON numbers are positional from `0.00001` to below `10 ^ 16`, and a real keeps its point. -/
def json : NumberStyle := ⟨fun point => -5 < point && point ≤ 16, true, .even⟩

/-- Plain numbers never have an exponent, and whole ones no point. -/
def plain : NumberStyle := ⟨fun _ => true, false, .up⟩

def positionalText (style : NumberStyle) (digits : List Char) (point : Int) : List Char :=
  if point ≤ 0 then '0' :: '.' :: List.replicate point.natAbs '0' ++ digits
  else if point < digits.length then digits.take point.toNat ++ '.' :: digits.drop point.toNat
  else
    digits ++ List.replicate (point.toNat - digits.length) '0' ++
      (if style.wholePoint then ['.', '0'] else [])

/-- One digit before the point, and an exponent with its sign. -/
def exponentText (digits : List Char) (point : Int) : List Char :=
  let power := point - 1
  let tail := 'e' :: (if power < 0 then '-' else '+') :: Nat.toDigits 10 power.natAbs
  match digits with
  | [] => tail
  | [d] => d :: tail
  | d :: rest => d :: '.' :: rest ++ tail

def magnitudeText (style : NumberStyle) (x : Binary64) : List Char :=
  let d := x.shortest style.tie
  let digits := Nat.toDigits 10 d.coefficient
  let point := digits.length + d.exponent
  if style.positional point then style.positionalText digits point else exponentText digits point

def write (style : NumberStyle) (x : Binary64) : List Char :=
  if x.isNaN then "NaN".toList
  else
    let body :=
      if !x.isFinite then "inf".toList
      else if x.isZero then '0' :: (if style.wholePoint then ['.', '0'] else [])
      else style.magnitudeText x
    if x.negative then '-' :: body else body

end NumberStyle
end PageBuilder
