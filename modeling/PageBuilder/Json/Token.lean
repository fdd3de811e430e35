import PageBuilder.Json.Numeral
import PageBuilder.Json.Literal

set_option autoImplicit false

namespace PageBuilder.Json

/-- What is wrong with a broken token: it is cut off by the end of the text, or goes on wrongly. -/
inductive Fault where
  | character
  | word (cut : Bool)
  | numeral (cut : Bool)
  | string (letters : List Letter) (stop : StringStop)
deriving DecidableEq

inductive Token where
  | openList
  | closeList
  | openObject
  | closeObject
  | colon
  | comma
  | null
  | bool (value : Bool)
  | number (numeral : Numeral)
  | string (letters : List Letter)
  | broken (fault : Fault)
deriving DecidableEq

inductive NumeralStage where
  | sign
  | zero
  | whole
  | point
  | fraction
  | mark
  | markSign
  | exponent

/--
What is being read; digits and letters are gathered last first. The digits of an escape by code are
counted in bytes, and judged once all four are there.
-/
inductive Reading where
  | nothing
  | word (token : Token) (missing : List Char)
  | numeral (stage : NumeralStage) (read : Numeral)
  | string (letters : List Letter)
  | escape (letters : List Letter)
  | hex (letters : List Letter) (left : Nat) (value : Option Nat)
  | stopped

namespace Numeral

def empty (negative : Bool) : Numeral := ⟨negative, [], [], none⟩

def pushWhole (n : Numeral) (c : Char) : Numeral := { n with whole := c :: n.whole }

def pushFraction (n : Numeral) (c : Char) : Numeral := { n with fraction := c :: n.fraction }

def openExponent (n : Numeral) (negative : Bool) : Numeral :=
  { n with exponent := some (negative, []) }

def pushExponent (n : Numeral) (c : Char) : Numeral :=
  { n with exponent := n.exponent.map fun (negative, digits) => (negative, c :: digits) }

def finish (n : Numeral) : Numeral :=
  { n with
    whole := n.whole.reverse
    fraction := n.fraction.reverse
    exponent := n.exponent.map fun (negative, digits) => (negative, digits.reverse) }

end Numeral

namespace Reading

def isSpace (c : Char) : Bool := c = ' ' || c = '\n' || c = '\t' || c = '\r'

def hexValue? (c : Char) : Option Nat :=
  if c.isDigit then some (c.toNat - 48)
  else if 'a' ≤ c && c ≤ 'f' then some (c.toNat - 87)
  else if 'A' ≤ c && c ≤ 'F' then some (c.toNat - 55)
  else none

def start (c : Char) : List Token × Reading :=
  if isSpace c then ([], .nothing)
  else if c = '[' then ([.openList], .nothing)
  else if c = ']' then ([.closeList], .nothing)
  else if c = '\x7b' then ([.openObject], .nothing)
  else if c = '\x7d' then ([.closeObject], .nothing)
  else if c = ':' then ([.colon], .nothing)
  else if c = ',' then ([.comma], .nothing)
  else if c = '"' then ([], .string [])
  else if c = 'n' then ([], .word .null ['u', 'l', 'l'])
  else if c = 't' then ([], .word (.bool true) ['r', 'u', 'e'])
  else if c = 'f' then ([], .word (.bool false) ['a', 'l', 's', 'e'])
  else if c = '-' then ([], .numeral .sign (.empty true))
  else if c = '0' then ([], .numeral .zero ((Numeral.empty false).pushWhole c))
  else if c.isDigit then ([], .numeral .whole ((Numeral.empty false).pushWhole c))
  else ([.broken .character], .stopped)

def shortEscape? (c : Char) : Option Char :=
  if c = '"' || c = '\\' || c = '/' then some c
  else if c = 'b' then some '\x08'
  else if c = 'f' then some '\x0c'
  else if c = 'n' then some '\n'
  else if c = 'r' then some '\r'
  else if c = 't' then some '\t'
  else none

def numeralNext (stage : NumeralStage) (n : Numeral) (c : Char) : List Token × Reading :=
  let isMark := c = 'e' || c = 'E'
  let wrong : List Token × Reading := ([.broken (.numeral false)], .stopped)
  let done : List Token × Reading :=
    let (tokens, reading) := start c
    (.number n.finish :: tokens, reading)
  match stage with
  | .sign =>
    if c = '0' then ([], .numeral .zero (n.pushWhole c))
    else if c.isDigit then ([], .numeral .whole (n.pushWhole c))
    else wrong
  | .zero =>
    if c.isDigit then wrong
    else if c = '.' then ([], .numeral .point n)
    else if isMark then ([], .numeral .mark (n.openExponent false))
    else done
  | .whole =>
    if c.isDigit then ([], .numeral .whole (n.pushWhole c))
    else if c = '.' then ([], .numeral .point n)
    else if isMark then ([], .numeral .mark (n.openExponent false))
    else done
  | .point => if c.isDigit then ([], .numeral .fraction (n.pushFraction c)) else wrong
  | .fraction =>
    if c.isDigit then ([], .numeral .fraction (n.pushFraction c))
    else if isMark then ([], .numeral .mark (n.openExponent false))
    else done
  | .mark =>
    if c.isDigit then ([], .numeral .exponent (n.pushExponent c))
    else if c = '+' then ([], .numeral .markSign (n.openExponent false))
    else if c = '-' then ([], .numeral .markSign (n.openExponent true))
    else wrong
  | .markSign => if c.isDigit then ([], .numeral .exponent (n.pushExponent c)) else wrong
  | .exponent => if c.isDigit then ([], .numeral .exponent (n.pushExponent c)) else done

/-- The tokens that a character completes, and what is being read after it. -/
def next (c : Char) : Reading → List Token × Reading
  | .nothing => start c
  | .word token [] =>
    let (tokens, reading) := start c
    (token :: tokens, reading)
  | .word token (l :: missing) =>
    if c ≠ l then ([.broken (.word false)], .stopped)
    else if missing.isEmpty then ([token], .nothing)
    else ([], .word token missing)
  | .numeral stage n => numeralNext stage n c
  | .string letters =>
    if c = '"' then ([.string letters.reverse], .nothing)
    else if c = '\\' then ([], .escape letters)
    else if c.toNat < 32 then ([.broken (.string letters.reverse .control)], .stopped)
    else ([], .string (.char c :: letters))
  | .escape letters =>
    if c = 'u' then ([], .hex letters 4 (some 0))
    else match shortEscape? c with
      | some c => ([], .string (.char c :: letters))
      | none => ([.broken (.string letters.reverse .badEscape)], .stopped)
  | .hex letters left value =>
    let value := do return 16 * (← value) + (← hexValue? c)
    if c.utf8Size < left then ([], .hex letters (left - c.utf8Size) value)
    else match value with
      | some code => ([], .string (.unit code :: letters))
      | none => ([.broken (.string letters.reverse .badDigits)], .stopped)
  | .stopped => ([], .stopped)

def finish : Reading → List Token
  | .nothing => []
  | .word _ _ => [.broken (.word true)]
  | .numeral .zero n | .numeral .whole n | .numeral .fraction n | .numeral .exponent n =>
    [.number n.finish]
  | .numeral _ _ => [.broken (.numeral true)]
  | .string letters | .escape letters | .hex letters _ _ =>
    [.broken (.string letters.reverse .textEnd)]
  | .stopped => []

/-- The tokens of a text, from what is being read at its start. -/
def tokens (reading : Reading) : List Char → List Token
  | [] => reading.finish
  | c :: rest =>
    let (found, reading) := reading.next c
    found ++ tokens reading rest

end Reading

def tokens (text : List Char) : List Token := Reading.nothing.tokens text

end PageBuilder.Json
