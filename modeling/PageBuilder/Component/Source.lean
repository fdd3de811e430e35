import PageBuilder.Component.Script
import PageBuilder.Component.Tree

set_option autoImplicit false

namespace PageBuilder

/-- Whether the source has types. -/
inductive Dialect where
  | typed
  | untyped
deriving DecidableEq

structure Line where
  depth : Nat
  text : String
deriving DecidableEq

def Line.write (lines : List Line) : String :=
  String.join (lines.map fun l => String.join (List.replicate l.depth "  ") ++ l.text ++ "\n")

def propertySource : String × Expr → String
  | (name, .literal value) => " " ++ name ++ "=" ++ attributeLiteral value
  | (name, e) => " " ++ name ++ "=" ++ e.container

def styleEntry (entry : String × Expr) : String :=
  (if isCustomProperty entry.1 then Json.quote entry.1 else entry.1) ++ ": " ++ entry.2.script

def styleSource (cast : String) (entries : List (String × Expr)) : String :=
  if entries.isEmpty then ""
  else
    " style=\x7b\x7b " ++ ", ".intercalate (entries.map styleEntry) ++ " \x7d" ++ cast ++ "\x7d"

def openingSource (tag : String) (properties styles : List (String × Expr)) : String :=
  "<" ++ tag ++ String.join (properties.map propertySource) ++ styleSource "" styles

def closingSource (tag : String) : String := "</" ++ tag ++ ">"

def Items.script : Items → String
  | .inline value => value.compact
  | .of list => list.script ++ "?"
  | .range count => "Array.from(\x7b length: " ++ natText count ++ " \x7d, (_, i) => i)"

def Dialect.parameters (dialect : Dialect) (binding : String) : String :=
  match dialect with
  | .typed => binding ++ ": any, " ++ binding ++ "Index: number"
  | .untyped => binding ++ ", " ++ binding ++ "Index"

def withoutCommentEnds : List Char → List Char
  | [] => []
  | '*' :: '/' :: rest => withoutCommentEnds rest
  | c :: rest => c :: withoutCommentEnds rest

def commentSource (content : String) : String :=
  "\x7b/* " ++ String.ofList (withoutCommentEnds content.toList) ++ " */\x7d"

def fragment (depth : Nat) (nodes : List Line) : List Line :=
  ⟨depth, "<>"⟩ :: nodes ++ [⟨depth, "</>"⟩]

mutual

def Component.lines (dialect : Dialect) (depth : Nat) : Component → List Line
  | .comment content => [⟨depth, commentSource content⟩]
  | .text e => [⟨depth, e.container⟩]
  | .element tag properties styles inside =>
    inside.lines dialect depth tag (openingSource tag properties styles)
  | .list binding items body =>
    [⟨depth, "\x7b" ++ items.script ++ ".map((" ++ dialect.parameters binding ++ ") => ("⟩,
      ⟨depth + 1, "<React.Fragment key=\x7b" ++ binding ++ "Index\x7d>"⟩] ++
    linesOfAll dialect (depth + 2) body ++
    [⟨depth + 1, "</React.Fragment>"⟩, ⟨depth, "))\x7d"⟩]
  | .choice condition yes no =>
    ⟨depth, "\x7b" ++ condition.script ++ " ? ("⟩ ::
      fragment (depth + 1) (linesOfAll dialect (depth + 2) yes) ++
      if no.isEmpty then [⟨depth, ") : null\x7d"⟩]
      else
        ⟨depth, ") : ("⟩ :: fragment (depth + 1) (linesOfAll dialect (depth + 2) no) ++
          [⟨depth, ")\x7d"⟩]

def Inside.lines (dialect : Dialect) (depth : Nat) (tag opening : String) : Inside → List Line
  | .none => [⟨depth, opening ++ " />"⟩]
  | .trusted e =>
    [⟨depth, opening ++ " dangerouslySetInnerHTML=\x7b\x7b __html: " ++ e.script ++
      " \x7d\x7d />"⟩]
  | .line texts =>
    [⟨depth, opening ++ ">" ++ String.join (texts.map Expr.container) ++ closingSource tag⟩]
  | .block nodes =>
    ⟨depth, opening ++ ">"⟩ :: linesOfAll dialect (depth + 1) nodes ++ [⟨depth, closingSource tag⟩]

def linesOfAll (dialect : Dialect) (depth : Nat) : List Component → List Line
  | [] => []
  | node :: rest => node.lines dialect depth ++ linesOfAll dialect depth rest

end

namespace Page

/-- The style of the root element, which holds the palette. -/
def rootStyle (settings : Settings) : List (String × Expr) :=
  (settings.palette ++ [("backgroundColor", "var(--color-bg)"), ("color", "var(--color-text)"),
    ("fontFamily", settings.fontStack)]).map fun d => (d.1, .literal d.2)

def styleCast : Dialect → String
  | .typed => " as React.CSSProperties"
  | .untyped => ""

def rootSource (dialect : Dialect) (settings : Settings) : String :=
  "<div className=\"min-h-screen\"" ++ styleSource (styleCast dialect) (rootStyle settings) ++ ">"

def header : Dialect → String
  | .typed => "const Page: React.FC = () => \x7b"
  | .untyped => "const Page = () => \x7b"

def lines (dialect : Dialect) (page : Page) : List Line :=
  [⟨0, "import React from \"react\";"⟩, ⟨0, ""⟩, ⟨0, header dialect⟩, ⟨1, "return ("⟩,
    ⟨2, rootSource dialect page.settings⟩] ++
  page.sections.flatMap (fun s => linesOfAll dialect 3 s.components) ++
  [⟨2, closingSource "div"⟩, ⟨1, ");"⟩, ⟨0, "\x7d;"⟩, ⟨0, ""⟩, ⟨0, "export default Page;"⟩]

end Page
end PageBuilder
