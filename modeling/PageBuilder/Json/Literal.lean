import PageBuilder.Json.SyntaxError

set_option autoImplicit false

namespace PageBuilder.Json

/-- A character, written as itself or by a short escape, or an escape by its code. -/
inductive Letter where
  | char (c : Char)
  | unit (code : Nat)
deriving DecidableEq

inductive StringStop where
  | textEnd
  | badEscape
  | badDigits
  | control
deriving DecidableEq

def StringStop.error : StringStop → SyntaxError
  | .textEnd => .endInString
  | .badEscape | .badDigits => .invalidEscape
  | .control => .controlCharacter

def StringStop.surrogateError : Option StringStop → SyntaxError
  | some .textEnd => .endInString
  | some .badDigits => .invalidEscape
  | _ => .unpairedSurrogate

/-- Joins pairs of surrogates, up to the end of a string or the place where it breaks off. -/
def joinLetters (stop : Option StringStop) : List Letter → Except SyntaxError (List Char)
  | [] =>
    match stop with
    | none => .ok []
    | some stop => .error stop.error
  | .char c :: rest => return c :: (← joinLetters stop rest)
  | .unit a :: rest =>
    if a < 0xD800 || 0xDFFF < a then return Char.ofNat a :: (← joinLetters stop rest)
    else if 0xDC00 ≤ a then .error .loneSurrogate
    else match rest with
      | [] => .error (StringStop.surrogateError stop)
      | .char _ :: _ => .error .unpairedSurrogate
      | .unit b :: rest =>
        if 0xDC00 ≤ b && b ≤ 0xDFFF then
          return Char.ofNat (0x10000 + 0x400 * (a - 0xD800) + (b - 0xDC00)) ::
            (← joinLetters stop rest)
        else .error .loneSurrogate

def stringOf (letters : List Letter) : Except SyntaxError String :=
  (joinLetters none letters).map String.ofList

def brokenStringError (letters : List Letter) (stop : StringStop) : SyntaxError :=
  match joinLetters (some stop) letters with
  | .error e => e
  | .ok _ => stop.error

end PageBuilder.Json
