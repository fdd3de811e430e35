import PageBuilder.Component.Source
import PageBuilder.Page.Section

set_option autoImplicit false

namespace PageBuilder

structure SourceWriter where
  dialect : Dialect
  depth : Nat := 0
  buffer : String := ""

namespace SourceWriter

def add (text : String) (w : SourceWriter) : SourceWriter := { w with buffer := w.buffer ++ text }

def addLine (text : String) (w : SourceWriter) : SourceWriter :=
  w.add (String.join (List.replicate w.depth "  ") ++ text) |>.add "\n"

def deeper (w : SourceWriter) : SourceWriter := { w with depth := w.depth + 1 }

def higher (w : SourceWriter) : SourceWriter := { w with depth := w.depth - 1 }

def nested (inside : SourceWriter → SourceWriter) (w : SourceWriter) : SourceWriter :=
  (inside w.deeper).higher

def between (opening closing : String) (inside : SourceWriter → SourceWriter) (w : SourceWriter) :
    SourceWriter :=
  (w.addLine opening).nested inside |>.addLine closing

def fragment (nodes : SourceWriter → SourceWriter) : SourceWriter → SourceWriter :=
  nested (between "<>" "</>" nodes)

end SourceWriter

mutual

def Element.writeSource : Element → SourceWriter → SourceWriter
  | { tag, attributes, styles, markup, children }, w =>
    let opening := openingSource tag (attributes.map fun (name, e) => (propertyName name, e))
      (styles.map fun (name, e) => (styleKey name, e))
    match markup with
    | some e =>
      w.addLine (opening ++ " dangerouslySetInnerHTML=\x7b\x7b __html: " ++ e.script ++
        " \x7d\x7d />")
    | none =>
      if children.isEmpty then w.addLine (opening ++ " />")
      else match textsOf? children with
        | some texts =>
          w.addLine (opening ++ ">" ++ String.join (texts.map Expr.container) ++ closingSource tag)
        | none => w.between (opening ++ ">") (closingSource tag) (writeSources children)

def Node.writeSource : Node → SourceWriter → SourceWriter
  | .element e, w => e.writeSource w
  | .text e, w => w.addLine e.container
  | .repeat binding items body, w =>
    let opening := "\x7b" ++ items.script ++ ".map((" ++ w.dialect.parameters binding ++ ") => ("
    let key := "<React.Fragment key=\x7b" ++ binding ++ "Index\x7d>"
    w.between opening "))\x7d" (.between key "</React.Fragment>" (writeSources body))
  | .choice condition yes no, w =>
    let w := (w.addLine ("\x7b" ++ condition.script ++ " ? (")).fragment (writeSources yes)
    if no.isEmpty then w.addLine ") : null\x7d"
    else (w.addLine ") : (").fragment (writeSources no) |>.addLine ")\x7d"

def writeSources : List Node → SourceWriter → SourceWriter
  | [], w => w
  | node :: rest, w => writeSources rest (node.writeSource w)

end

def Section.writeSource (s : Section) (w : SourceWriter) : SourceWriter :=
  let properties := (s.anchor.map fun anchor => ("id", .literal anchor)).toList ++
    [("className", .literal s.style.className)]
  let styles := s.style.background.map fun d => (styleKey d.1, .literal d.2)
  w.addLine (commentSource s.kind)
    |>.between (openingSource "section" properties styles ++ ">") (closingSource "section")
      (writeSources s.body)

namespace Page

def writeSectionSources (page : Page) (w : SourceWriter) : SourceWriter :=
  page.sections.foldl (fun w s => s.writeSource w) w

def component (dialect : Dialect) (page : Page) : String :=
  let root := rootSource dialect page.settings
  let w : SourceWriter := { dialect }
  w.addLine "import React from \"react\";"
    |>.add "\n"
    |>.between (header dialect) "\x7d;" (.between "return (" ");"
      (.between root (closingSource "div") page.writeSectionSources))
    |>.add "\n"
    |>.addLine "export default Page;"
    |>.buffer

end Page
end PageBuilder
