import PageBuilder.Page.Style

set_option autoImplicit false

namespace PageBuilder

/-- An attribute that is present, with a value or by its name alone. -/
structure Attribute where
  name : String
  value : Option String
deriving DecidableEq

mutual

inductive Markup where
  | text (content : String)
  /-- Markup and style text that is written as it is. -/
  | raw (content : String)
  /-- A rule of a stylesheet. -/
  | rule (selector : String) (declarations : List Declaration)
  | element (tag : String) (attributes : List Attribute) (styles : List Declaration) (body : Body)

/-- The inside of an element; white space may be added to a block, but not inline. -/
inductive Body where
  /-- Neither inside nor closing tag. -/
  | void
  | inline (nodes : List Markup)
  | block (nodes : List Markup)

end

def Declaration.text (d : Declaration) : String := d.1 ++ ": " ++ d.2 ++ ";"

def styleAttribute (styles : List Declaration) : List Attribute :=
  if styles.isEmpty then [] else [⟨"style", some (" ".intercalate (styles.map Declaration.text))⟩]

def isVoidTag (tag : String) : Bool :=
  ["img", "input", "br", "hr", "meta", "link", "area", "base", "col", "embed", "source",
    "wbr"].contains tag

end PageBuilder
