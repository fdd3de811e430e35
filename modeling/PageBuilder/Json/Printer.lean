import PageBuilder.Json.Basic
import PageBuilder.Number.Style

set_option autoImplicit false

namespace PageBuilder.Json

def escapeChar (c : Char) : List Char :=
  if c = '"' then ['\\', '"']
  else if c = '\\' then ['\\', '\\']
  else if c = '\n' then ['\\', 'n']
  else if c = '\r' then ['\\', 'r']
  else if c = '\t' then ['\\', 't']
  else if c = '\x08' then ['\\', 'b']
  else if c = '\x0c' then ['\\', 'f']
  else if c.toNat < 32 then
    ['\\', 'u', '0', '0', Nat.digitChar (c.toNat / 16), Nat.digitChar (c.toNat % 16)]
  else [c]

def quoteChars (s : String) : List Char := '"' :: s.toList.flatMap escapeChar ++ ['"']

def quote (s : String) : String := String.ofList (quoteChars s)

def numberChars : Number → List Char
  | .whole n => (intText n).toList
  | .real x => NumberStyle.json.write x

mutual

def compactChars : Json → List Char
  | .null => "null".toList
  | .bool b => (if b then "true" else "false").toList
  | .number n => numberChars n
  | .string s => quoteChars s
  | .array items => '[' :: compactItems items ++ [']']
  | .object members => '{' :: compactMembers members ++ ['}']

def compactItems : List Json → List Char
  | [] => []
  | [v] => v.compactChars
  | v :: rest => v.compactChars ++ ',' :: compactItems rest

def compactMembers : List (String × Json) → List Char
  | [] => []
  | [(k, v)] => quoteChars k ++ ':' :: v.compactChars
  | (k, v) :: rest => quoteChars k ++ ':' :: v.compactChars ++ ',' :: compactMembers rest

end

def compact (v : Json) : String := String.ofList v.compactChars

def lineBreak (depth : Nat) : List Char := '\n' :: List.replicate (2 * depth) ' '

mutual

/-- An empty container stays on its line; each item of another gets a line of its own. -/
def prettyChars (depth : Nat) : Json → List Char
  | .array [] => ['[', ']']
  | .array (v :: rest) =>
    '[' :: lineBreak (depth + 1) ++ v.prettyChars (depth + 1) ++ prettyItems depth rest
  | .object [] => ['{', '}']
  | .object ((k, v) :: rest) =>
    '{' :: lineBreak (depth + 1) ++ quoteChars k ++ ':' :: ' ' :: v.prettyChars (depth + 1) ++
      prettyMembers depth rest
  | v => v.compactChars

def prettyItems (depth : Nat) : List Json → List Char
  | [] => lineBreak depth ++ [']']
  | v :: rest => ',' :: lineBreak (depth + 1) ++ v.prettyChars (depth + 1) ++ prettyItems depth rest

def prettyMembers (depth : Nat) : List (String × Json) → List Char
  | [] => lineBreak depth ++ ['}']
  | (k, v) :: rest =>
    ',' :: lineBreak (depth + 1) ++ quoteChars k ++ ':' :: ' ' :: v.prettyChars (depth + 1) ++
      prettyMembers depth rest

end

def pretty (v : Json) : String := String.ofList (v.prettyChars 0)

end PageBuilder.Json
