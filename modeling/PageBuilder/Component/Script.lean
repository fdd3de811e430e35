import PageBuilder.Page.Expr
import PageBuilder.Json.Printer

set_option autoImplicit false

namespace PageBuilder

def clampToWord (n : Int) : Int := max (-9223372036854775808) (min n 9223372036854775807)

/-- A number literal; a whole number is written as a 64-bit integer. -/
def numberLiteral (x : Binary64) : String :=
  if x.isWhole then intText (clampToWord x.truncate) else String.ofList (NumberStyle.plain.write x)

/-- Backslashes, backquotes and the opening of a substitution. -/
def escapeTemplate : List Char → List Char
  | [] => []
  | '\\' :: rest => '\\' :: '\\' :: escapeTemplate rest
  | '\x60' :: rest => '\\' :: '\x60' :: escapeTemplate rest
  | '$' :: '\x7b' :: rest => '\\' :: '$' :: '\x7b' :: escapeTemplate rest
  | c :: rest => c :: escapeTemplate rest

def operation (left operator right : String) : String :=
  "(" ++ left ++ " " ++ operator ++ " " ++ right ++ ")"

namespace Expr

mutual

def script : Expr → String
  | .literal text => Json.quote text
  | .number x => numberLiteral x
  | .field binding path => ".".intercalate (binding :: path)
  | .template parts => "\x60" ++ templateScript parts ++ "\x60"
  | .or a b => operation a.script "||" b.script
  | .equals a b => operation a.script "===" b.script
  | .lessThan a b => operation a.script "<" b.script
  | .ternary c a b => "(" ++ c.script ++ " ? " ++ a.script ++ " : " ++ b.script ++ ")"

/-- The parts of a template: literal text, and substitutions for the rest. -/
def templateScript : List Expr → String
  | [] => ""
  | .literal text :: rest => String.ofList (escapeTemplate text.toList) ++ templateScript rest
  | part :: rest => "$\x7b" ++ part.script ++ "\x7d" ++ templateScript rest

end

def container (e : Expr) : String := "\x7b" ++ e.script ++ "\x7d"

end Expr

/-- The characters that a quoted attribute cannot show. -/
def isUnsafeInAttribute (c : Char) : Bool := ['"', '\\', '&', '\x7b', '\x7d', '\n'].contains c

/-- A quoted attribute where that is safe, else a string literal in braces. -/
def attributeLiteral (value : String) : String :=
  if value.toList.any isUnsafeInAttribute then (Expr.literal value).container
  else "\"" ++ value ++ "\""

end PageBuilder
