import PageBuilder.Component.Tree
import PageBuilder.Markup.Piece
import PageBuilder.Proofs.Component.Values

set_option autoImplicit false

/-!
# Rendering components

The element tree that a component puts into a page. Nothing is rendered where the language throws,
or where a rule that is not described here would apply.
-/

namespace PageBuilder

inductive Rendered where
  | text (content : String)
  | raw (content : String)
  | element (tag : String) (attributes : List Attribute) (styles : List Declaration)
    (children : List Rendered)

namespace Rendered

def valued (styles : List Declaration) : List Declaration := styles.filter fun d => !d.2.isEmpty

mutual

def ofMarkup : Markup → Rendered
  | .text s => .text s
  | .raw s => .raw s
  | .rule selector declarations =>
    .raw (Piece.write ((Markup.rule selector declarations).pieces none))
  | .element tag attributes styles body => .element tag attributes (valued styles) (ofBody body)

def ofBody : Body → List Rendered
  | .void => []
  | .inline nodes | .block nodes => ofAll nodes

def ofAll : List Markup → List Rendered
  | [] => []
  | node :: rest => ofMarkup node :: ofAll rest

end

end Rendered

def domName (property : String) : String :=
  if property = "className" then "class"
  else if property = "htmlFor" then "for"
  else if property = "frameBorder" then "frameborder"
  else if property = "tabIndex" then "tabindex"
  else property

/-- The properties that set no attribute of their own, or not as it stands. -/
def specialProperties : List String :=
  ["key", "ref", "style", "children", "dangerouslySetInnerHTML", "value", "defaultValue", "checked",
    "defaultChecked"]

def flagProperties : List String :=
  ["allowFullScreen", "async", "autoFocus", "autoPlay", "controls", "default", "defer", "disabled",
    "formNoValidate", "hidden", "itemScope", "loop", "noModule", "noValidate", "open",
    "playsInline", "readOnly", "required", "reversed", "scoped", "seamless"]

/-- A capital of a style key stands for a dash and the letter. -/
def dashed (c : Char) : List Char := if c.isUpper then ['-', c.toLower] else [c]

def cssName (key : String) : String :=
  if isCustomProperty key then key else String.ofList (key.toList.flatMap dashed)

namespace Value

def attributes? (property : String) (v : Value) : Option (List Attribute) :=
  if property ∈ specialProperties then none
  else if property ∈ flagProperties then
    some (if v.isTruthy then [⟨domName property, none⟩] else [])
  else match v with
    | .undefined | .null => some []
    | .string s => some [⟨domName property, some s⟩]
    | .bool _ | .number _ | .array _ | .object _ => none

def declarations? (key : String) : Value → Option (List Declaration)
  | .undefined | .null | .bool _ => some []
  | .string s => some (if s.isEmpty then [] else [(cssName key, s)])
  | .number _ | .array _ | .object _ => none

def nodes? : Value → Option (List Rendered)
  | .undefined | .null | .bool _ => some []
  | .string s => some [.text s]
  | .number _ | .array _ | .object _ => none

def markup? : Value → Option (List Rendered)
  | .undefined | .null => some []
  | .string s => some [.raw s]
  | .bool _ | .number _ | .array _ | .object _ => none

end Value

/-- Makes something of every entry of a property list that names nothing twice. -/
def entries? {α : Type} (env : Environment) (make : String → Value → Option (List α))
    (entries : List (String × Expr)) : Option (List α) := do
  guard (entries.map Prod.fst).Nodup
  return (← entries.mapM fun a => (a.2.run? env).bind (make a.1)).flatten

def Items.values? (env : Environment) : Items → Option (List Value)
  | .inline list =>
    match Value.ofJson list with
    | .array items => some items
    | _ => none
  | .of list => do
    match ← list.run? env with
    | .undefined | .null => some []
    | .array items => some items
    | _ => none
  | .range count => some ((List.range count).map fun n => .number (.ofNat n))

def renderEach? (make : Nat → Value → Option (List Rendered)) (first : Nat) :
    List Value → Option (List Rendered)
  | [] => some []
  | v :: rest => do return (← make first v) ++ (← renderEach? make (first + 1) rest)

def Environment.withItem (env : Environment) (binding : String) (index : Nat) (v : Value) :
    Environment :=
  (binding, v) :: (binding ++ "Index", .number (.ofNat index)) :: env

mutual

def Component.render? (env : Environment) : Component → Option (List Rendered)
  | .comment _ => some []
  | .text e => do (← e.run? env).nodes?
  | .element tag properties styles inside => do
    return [.element tag (← entries? env Value.attributes? properties)
      (← entries? env Value.declarations? styles) (← inside.render? env (isVoidTag tag))]
  | .list binding items body => do
    renderEach? (fun index v => renderAll? (env.withItem binding index v) body) 0
      (← items.values? env)
  | .choice condition yes no => do
    if (← condition.run? env).isTruthy then renderAll? env yes else renderAll? env no

def Inside.render? (env : Environment) (void : Bool) : Inside → Option (List Rendered)
  | .none => some []
  | .trusted e => if void then none else do (← e.run? env).markup?
  | .line texts =>
    if void then none else do return (← texts.mapM fun e => do (← e.run? env).nodes?).flatten
  | .block nodes => if void then none else renderAll? env nodes

def renderAll? (env : Environment) : List Component → Option (List Rendered)
  | [] => some []
  | node :: rest => do return (← node.render? env) ++ (← renderAll? env rest)

end

theorem domName_propertyName : ∀ name ∈ attributeNames, domName (propertyName name) = name := by
  decide

theorem propertyName_plain : ∀ name ∈ attributeNames, propertyName name ∉ specialProperties := by
  decide

theorem propertyName_flag : ∀ name ∈ attributeNames,
    (propertyName name ∈ flagProperties ↔ name ∈ flagNames) := by
  decide

theorem cssName_styleKey : ∀ property ∈ styleNames, cssName (styleKey property) = property := by
  decide

theorem index_not_binding : ∀ binding ∈ bindingNames, binding ++ "Index" ∉ bindingNames := by
  decide

end PageBuilder
