import PageBuilder.Page.Expr
import PageBuilder.Text.Blank

set_option autoImplicit false

namespace PageBuilder

inductive Items where
  | inline (value : Json)
  | of (list : Expr)
  | range (count : Nat)

mutual

structure Element where
  tag : String
  attributes : List (String × Expr)
  styles : List (String × Expr)
  markup : Option Expr
  children : List Node

inductive Node where
  | element (e : Element)
  | text (value : Expr)
  | repeat (binding : String) (items : Items) (body : List Node)
  | choice (condition : Expr) (yes no : List Node)

end

namespace Node

def isText : Node → Bool
  | .text _ => true
  | _ => false

instance : Coe Element Node := ⟨.element⟩

end Node

def textsOf? : List Node → Option (List Expr)
  | [] => some []
  | .text e :: rest => (textsOf? rest).map (e :: ·)
  | _ => none

namespace Element

def new (tag : String) : Element := ⟨tag, [], [], none, []⟩

def attr (e : Element) (name : String) (value : Expr) : Element :=
  { e with attributes := e.attributes ++ [(name, value)] }

/-- Sets the classes, with blanks collapsed; no classes set nothing. -/
def withClass (e : Element) (classes : String) : Element :=
  let classes := Text.collapse classes
  if classes.isEmpty then e else e.attr "class" (.literal classes)

def style (e : Element) (property : String) (value : Expr) : Element :=
  { e with styles := e.styles ++ [(property, value)] }

def html (e : Element) (markup : Expr) : Element := { e with markup := some markup }

def child (e : Element) (node : Node) : Element := { e with children := e.children ++ [node] }

def append (e : Element) (nodes : List Node) : Element := { e with children := e.children ++ nodes }

def text (e : Element) (value : Expr) : Element := e.child (.text value)

def classed (tag classes : String) : Element := (new tag).withClass classes

def literalAttribute? (e : Element) (name : String) : Option String :=
  e.attributes.findSome? fun
    | (key, .literal text) => if key = name then some text else none
    | _ => none

end Element
end PageBuilder
