import PageBuilder.Json.Printer

set_option autoImplicit false

/-!
# Expressions over list items

The values in a page. Block fields are literals; item fields are read from bindings. Evaluation
never fails: a missing binding or member reads as null.
-/

namespace PageBuilder

inductive Expr where
  | literal (text : String)
  | number (value : Binary64)
  /-- A member of a bound item, or the item itself for an empty path. -/
  | field (binding : String) (path : List String)
  | template (parts : List Expr)
  | or (left right : Expr)
  | equals (left right : Expr)
  | lessThan (left right : Expr)
  | ternary (condition yes no : Expr)

/-- Bindings with their items, the innermost first. -/
abbrev Scope := List (String × Json)

namespace Scope

def get? (scope : Scope) (binding : String) : Option Json := List.lookup binding scope

/-- Binds a name to an item; an outer item of that name is not seen until the next `pop`. -/
def push (scope : Scope) (binding : String) (item : Json) : Scope := (binding, item) :: scope

def pop (scope : Scope) : Scope := scope.tail

end Scope

namespace Json

def display : Json → String
  | .string s => s
  | .null => ""
  | v => v.compact

def holds : Json → Bool
  | .bool b => b
  | .null => false
  | .string s => !s.isEmpty
  | .number n => !n.toBinary64.isZero
  | .array _ | .object _ => true

def number? : Json → Option Number
  | .number n => some n
  | _ => none

def follow : List String → Json → Json
  | [], v => v
  | key :: path, v =>
    match v.get? key with
    | some next => next.follow path
    | none => .null

/-- The order of two numbers as binary64; nothing else is less than anything. -/
def less (a b : Json) : Bool :=
  match a.number?, b.number? with
  | some x, some y => x.toBinary64.less y.toBinary64
  | _, _ => false

end Json

namespace Expr

instance : Coe String Expr := ⟨.literal⟩

def pathOf (path : String) : List String :=
  ((path.toList.splitOnP (· = '.')).filter (!·.isEmpty)).map String.ofList

def member (binding path : String) : Expr := .field binding (pathOf path)

mutual

/-- Whether an expression reads no binding. -/
def isStatic : Expr → Bool
  | .literal _ | .number _ => true
  | .field _ _ => false
  | .template parts => areStatic parts
  | .or a b | .equals a b | .lessThan a b => a.isStatic && b.isStatic
  | .ternary c a b => c.isStatic && a.isStatic && b.isStatic

def areStatic : List Expr → Bool
  | [] => true
  | e :: rest => e.isStatic && areStatic rest

end

mutual

/-- The value of an expression; a number that is not finite is null. -/
def eval (scope : Scope) : Expr → Json
  | .literal s => .string s
  | .number x => if x.isFinite then .number (.real x) else .null
  | .field binding path =>
    match scope.get? binding with
    | some item => item.follow path
    | none => .null
  | .template parts => .string (displayAll scope parts)
  | .or a b =>
    let left := a.eval scope
    if left.holds then left else b.eval scope
  | .equals a b => .bool ((a.eval scope).same (b.eval scope))
  | .lessThan a b => .bool ((a.eval scope).less (b.eval scope))
  | .ternary c a b => if (c.eval scope).holds then a.eval scope else b.eval scope

def displayAll (scope : Scope) : List Expr → String
  | [] => ""
  | e :: rest => (e.eval scope).display ++ displayAll scope rest

end

def display (scope : Scope) (e : Expr) : String := (e.eval scope).display

end Expr
end PageBuilder
