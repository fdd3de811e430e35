import PageBuilder.Markup.Tree
import PageBuilder.Page.Node

set_option autoImplicit false

namespace PageBuilder

/-- The items of a repetition; what is no list has none. -/
def Items.toList (scope : Scope) : Items → List Json
  | .inline (.array items) => items
  | .inline _ => []
  | .of list =>
    match list.eval scope with
    | .array items => items
    | _ => []
  | .range count => (List.range count).map fun n => .whole (n : Nat)

/-- True sets an attribute without a value; false and null leave it out. -/
def Attribute.ofValue? (name : String) : Json → Option Attribute
  | .bool true => some ⟨name, none⟩
  | .bool false | .null => none
  | v => some ⟨name, some v.display⟩

def attributesOf (scope : Scope) (attributes : List (String × Expr)) : List Attribute :=
  attributes.filterMap fun (name, e) => Attribute.ofValue? name (e.eval scope)

def stylesOf (scope : Scope) (styles : List (String × Expr)) : List Declaration :=
  (styles.map fun (property, e) => (property, e.display scope)).filter fun d => !d.2.isEmpty

mutual

/-- An element with a text among its children is laid out inline. -/
def Element.unroll (scope : Scope) : Element → Markup
  | { tag, attributes, styles, markup, children } =>
    .element tag (attributesOf scope attributes) (stylesOf scope styles) <|
      if isVoidTag tag then .void
      else match markup with
        | some e => .inline [.raw (e.display scope)]
        | none =>
          let nodes := unrollAll scope children
          if children.isEmpty || children.any Node.isText then .inline nodes else .block nodes

def Node.unroll (scope : Scope) : Node → List Markup
  | .element e => [e.unroll scope]
  | .text e => [.text (e.display scope)]
  | .repeat binding items body =>
    (items.toList scope).flatMap fun item => unrollAll (scope.push binding item) body
  | .choice condition yes no =>
    if (condition.eval scope).holds then unrollAll scope yes else unrollAll scope no

def unrollAll (scope : Scope) : List Node → List Markup
  | [] => []
  | node :: rest => node.unroll scope ++ unrollAll scope rest

end
end PageBuilder
