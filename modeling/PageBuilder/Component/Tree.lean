import PageBuilder.Page.Section

set_option autoImplicit false

namespace PageBuilder

mutual

inductive Component where
  | comment (content : String)
  | text (value : Expr)
  | element (tag : String) (properties styles : List (String × Expr)) (inside : Inside)
  /-- The body once for each item, bound to a name. -/
  | list (binding : String) (items : Items) (body : List Component)
  | choice (condition : Expr) (yes no : List Component)

inductive Inside where
  | none
  | trusted (markup : Expr)
  | line (texts : List Expr)
  | block (nodes : List Component)

end

def propertyName (name : String) : String :=
  if name = "class" then "className"
  else if name = "for" then "htmlFor"
  else if name = "frameborder" then "frameBorder"
  else if name = "tabindex" then "tabIndex"
  else name

def isCustomProperty (name : String) : Bool := ['-', '-'].isPrefixOf name.toList

/-- Dashes are dropped, and the first letter after them is a capital. -/
def camelCase (afterDash : Bool) : List Char → List Char
  | [] => []
  | '-' :: rest => camelCase true rest
  | c :: rest => (if afterDash then c.toUpper else c) :: camelCase false rest

/-- The key of a style property; custom properties keep their name. -/
def styleKey (name : String) : String :=
  if isCustomProperty name then name else String.ofList (camelCase false name.toList)

mutual

def Element.component : Element → Component
  | { tag, attributes, styles, markup, children } =>
    .element tag (attributes.map fun (name, e) => (propertyName name, e))
      (styles.map fun (name, e) => (styleKey name, e)) <|
      match markup with
      | some e => .trusted e
      | none =>
        if children.isEmpty then .none
        else match textsOf? children with
          | some texts => .line texts
          | none => .block (componentsOf children)

def Node.component : Node → Component
  | .element e => e.component
  | .text e => .text e
  | .repeat binding items body => .list binding items (componentsOf body)
  | .choice condition yes no => .choice condition (componentsOf yes) (componentsOf no)

def componentsOf : List Node → List Component
  | [] => []
  | node :: rest => node.component :: componentsOf rest

end

/-- A comment that names the kind, and the element of a section. -/
def Section.components (s : Section) : List Component :=
  [.comment s.kind,
    .element "section"
      ((s.anchor.map fun anchor => ("id", .literal anchor)).toList ++
        [("className", .literal s.style.className)])
      (s.style.background.map fun d => (styleKey d.1, .literal d.2))
      (.block (componentsOf s.body))]

end PageBuilder
