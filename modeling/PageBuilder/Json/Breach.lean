import PageBuilder.Json.Token

set_option autoImplicit false

/-!
# Breaches

A breach is the place where a text stops being JSON: what may stand there, and what does. Its error
depends on what is made of the text: a value that is kept, a value that is passed over, a variant,
or nothing more because all fields of a record are read.
-/

namespace PageBuilder.Json

inductive Expecting where
  | value
  | firstItem
  | item
  | firstKey
  | key
  | colon
  | nextItem
  | nextMember
deriving DecidableEq

/-- The token where something else is expected; none at the end of the text. -/
structure Breach where
  expecting : Expecting
  token : Option Token
deriving DecidableEq

namespace Fault

def error : Fault → SyntaxError
  | .character => .expectedValue
  | .word true | .numeral true => .endInValue
  | .word false => .expectedWord
  | .numeral false => .invalidNumber
  | .string letters stop => brokenStringError letters stop

def skimmedError : Fault → SyntaxError
  | .character => .expectedValue
  | .word true => .endInValue
  | .word false => .expectedWord
  | .numeral _ => .invalidNumber
  | .string _ stop => stop.error

end Fault

namespace Breach

def error (b : Breach) : SyntaxError :=
  match b.expecting, b.token with
  | .value, none | .item, none | .key, none => .endInValue
  | .firstItem, none | .nextItem, none => .endInList
  | .firstKey, none | .colon, none | .nextMember, none => .endInObject
  | .item, some .closeList | .key, some .closeObject => .trailingComma
  | .value, some (.broken fault) | .firstItem, some (.broken fault)
  | .item, some (.broken fault) => fault.error
  | .value, some _ | .firstItem, some _ | .item, some _ => .expectedValue
  | .firstKey, some (.broken (.string letters stop))
  | .key, some (.broken (.string letters stop)) => brokenStringError letters stop
  | .firstKey, some _ | .key, some _ => .keyNotString
  | .colon, some _ => .expectedColon
  | .nextItem, some _ => .expectedListComma
  | .nextMember, some _ => .expectedObjectComma

def skimmedError (b : Breach) : SyntaxError :=
  match b.expecting, b.token with
  | .value, none | .item, none => .endInValue
  | .firstItem, none | .nextItem, none => .endInList
  | .firstKey, none | .key, none | .colon, none | .nextMember, none => .endInObject
  | .value, some (.broken fault) | .firstItem, some (.broken fault)
  | .item, some (.broken fault) => fault.skimmedError
  | .value, some _ | .firstItem, some _ | .item, some _ => .expectedValue
  | .firstKey, some (.broken (.string _ stop)) | .key, some (.broken (.string _ stop)) => stop.error
  | .firstKey, some _ | .key, some _ => .keyNotString
  | .colon, some _ => .expectedColon
  | .nextItem, some _ => .expectedListComma
  | .nextMember, some _ => .expectedObjectComma

def variantError (b : Breach) : SyntaxError :=
  match b.expecting, b.token with
  | .colon, _ => b.error
  | _, some (.broken (.word _)) | _, some (.broken (.numeral _)) => .expectedValue
  | _, _ => b.error

/-- The error in a list after the last field of a record. -/
def surplusError (b : Breach) : SyntaxError :=
  match b.expecting, b.token with
  | .nextItem, none => .endInList
  | .item, some .closeList => .trailingComma
  | _, _ => .trailingCharacters

end Breach
end PageBuilder.Json
