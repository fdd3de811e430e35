import PageBuilder.Json.Tree
import PageBuilder.Json.Printer
import PageBuilder.Text.Quoted

set_option autoImplicit false

/-!
# Sources of decoding

What a typed value is decoded from: a JSON value, or a text tree inside a number of containers.
A text shows its members in text order with their repetitions, a value in the order of the keys.
-/

namespace PageBuilder.Json

/-- What stands where something else was expected. -/
inductive Found where
  | null
  | bool (value : Bool)
  | number (value : Number)
  | string (value : String)
  | sequence
  | map
  | unitVariant
deriving DecidableEq

def Found.describe : Found → String
  | .null => "null"
  | .bool b => "boolean `" ++ (if b then "true" else "false") ++ "`"
  | .number (.whole n) => "integer `" ++ intText n ++ "`"
  | .number (.real x) => "floating point `" ++ String.ofList (NumberStyle.json.write x) ++ "`"
  | .string s => "string " ++ Text.quoted s
  | .sequence => "sequence"
  | .map => "map"
  | .unitVariant => "unit variant"

inductive DecodeError where
  | malformed (error : SyntaxError)
  | wrongType (found : Found) (expected : String)
  | wrongValue (found : Found) (expected : String)
  | wrongLength (length : Nat) (expected : String)
  | unknownVariant (name : String) (known : List String)
  | missingField (key : String)
  | duplicateField (key : String)
  | unknownKind (tag : String)
deriving DecidableEq

namespace DecodeError

def backquoted (name : String) : String := "`" ++ name ++ "`"

/-- The names that were possible, two of them joined by `or`. -/
def choices : List String → String
  | [a, b] => backquoted a ++ " or " ++ backquoted b
  | [a] => backquoted a
  | names => "one of " ++ ", ".intercalate (names.map backquoted)

def message : DecodeError → String
  | .malformed e => e.message
  | .wrongType found expected => "invalid type: " ++ found.describe ++ ", expected " ++ expected
  | .wrongValue found expected => "invalid value: " ++ found.describe ++ ", expected " ++ expected
  | .wrongLength n expected => "invalid length " ++ natText n ++ ", expected " ++ expected
  | .unknownVariant name known =>
    "unknown variant " ++ backquoted name ++ ", expected " ++ choices known
  | .missingField key => "missing field " ++ backquoted key
  | .duplicateField key => "duplicate field " ++ backquoted key
  | .unknownKind tag => "Unknown block kind: " ++ tag

/-- Whether the text itself is at fault, and not the shape of its value. -/
def isMalformed : DecodeError → Bool
  | .malformed _ => true
  | _ => false

end DecodeError

abbrev Decoded (α : Type) := Except DecodeError α

def Decoded.ofSyntax {α : Type} (result : Except SyntaxError α) : Decoded α :=
  result.mapError .malformed

inductive Source where
  | value (v : Json)
  | text (tree : Tree) (depth : Nat)

namespace Source

def foundIn : Json → Found
  | .null => .null
  | .bool b => .bool b
  | .number n => .number n
  | .string s => .string s
  | .array _ => .sequence
  | .object _ => .map

def found : Source → Decoded Found
  | .value v => .ok (foundIn v)
  | .text .null _ => .ok .null
  | .text (.bool b) _ => .ok (.bool b)
  | .text (.number n) _ => .ofSyntax (n.toNumber.map .number)
  | .text (.string letters) _ => .ofSyntax ((stringOf letters).map .string)
  | .text (.list _ _) _ => .ok .sequence
  | .text (.object _ _) _ => .ok .map
  | .text (.broken breach) _ => .error (.malformed breach.error)

def mismatch {α : Type} (source : Source) (expected : String) : Decoded α := do
  let found ← source.found
  throw (.wrongType found expected)

def toJson : Source → Decoded Json
  | .value v => .ok v
  | .text tree depth => .ofSyntax (tree.toJson depth)

def isNull : Source → Bool
  | .value .null | .text .null _ => true
  | _ => false

def string (source : Source) (expected : String) : Decoded String :=
  match source with
  | .value (.string s) => .ok s
  | .text (.string letters) _ => .ofSyntax (stringOf letters)
  | _ => source.mismatch expected

def number (source : Source) (expected : String) : Decoded Number :=
  match source with
  | .value (.number n) => .ok n
  | .text (.number n) _ => .ofSyntax n.toNumber
  | _ => source.mismatch expected

def bool (source : Source) : Decoded Bool :=
  match source with
  | .value (.bool b) | .text (.bool b) _ => .ok b
  | _ => source.mismatch "a boolean"

def natural (source : Source) (bound : Nat) (expected : String) : Decoded Nat := do
  match ← source.number expected with
  | .whole n =>
    if 0 ≤ n ∧ n ≤ bound then return n.toNat
    else throw (.wrongValue (.number (.whole n)) expected)
  | .real x => throw (.wrongType (.number (.real x)) expected)

def list {α : Type} (decode : Source → Decoded α) (source : Source) : Decoded (List α) :=
  match source with
  | .value (.array items) => items.mapM fun v => decode (.value v)
  | .text (.list items ending) depth => do
    let depth ← .ofSyntax (enter depth)
    let values ← items.mapM fun t => decode (.text t depth)
    Decoded.ofSyntax (endingOf ending)
    return values
  | _ => source.mismatch "a sequence"

def endOfVariant (more : Bool) : Option Breach → Decoded Unit
  | none => if more then .error (.malformed .expectedValue) else .ok ()
  | some ⟨.nextMember, none⟩ => .error (.malformed (if more then .expectedValue else .endInObject))
  | some _ => .error (.malformed .expectedValue)

/-- Decodes a variant, given by its name alone or as the only member of an object. -/
def variant {α : Type} (decode : String → Option Source → Decoded α) : Source → Decoded α
  | .value (.string name) => decode name none
  | .value (.object [(name, v)]) => decode name (some (.value v))
  | .value (.object _) => .error (.wrongValue .map "map with a single key")
  | .value v => (Source.value v).mismatch "string or map"
  | .text (.string letters) _ => do decode (← .ofSyntax (stringOf letters)) none
  | .text (.object members ending) depth => do
    let depth ← .ofSyntax (enter depth)
    match members with
    | [] =>
      Decoded.ofSyntax (endingOf ending)
      throw (.malformed .expectedValue)
    | (letters, v) :: rest =>
      let x ← decode (← .ofSyntax (stringOf letters)) (some (.text v depth))
      endOfVariant (!rest.isEmpty) ending
      return x
  | .text (.broken breach) _ => .error (.malformed breach.variantError)
  | .text _ _ => .error (.malformed .expectedValue)

def noContent : Option Source → Decoded Unit
  | none => .ok ()
  | some content => if content.isNull then .ok () else content.mismatch "unit"

end Source
end PageBuilder.Json
