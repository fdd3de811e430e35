import PageBuilder.Markup.Document
import PageBuilder.Markup.Piece

set_option autoImplicit false

namespace PageBuilder

structure MarkupWriter where
  /-- The indentation of one level, if there are lines at all. -/
  indent : Option String
  depth : Nat := 0
  /-- How many inline contents are around what is written. -/
  inline : Nat := 0
  buffer : String := ""
  scope : Scope := []

def escapedText (s : String) : String := String.ofList (s.toList.flatMap Piece.escapeText)

def escapedValue (s : String) : String := String.ofList (s.toList.flatMap Piece.escapeValue)

namespace MarkupWriter

def add (text : String) (w : MarkupWriter) : MarkupWriter := { w with buffer := w.buffer ++ text }

def layout? (w : MarkupWriter) : Option String := if w.inline = 0 then w.indent else none

def addIndent (w : MarkupWriter) : MarkupWriter :=
  match w.layout? with
  | none => w
  | some indent => w.add (String.join (List.replicate w.depth indent))

def newline (w : MarkupWriter) : MarkupWriter :=
  match w.layout? with
  | none => w
  | some _ => w.add "\n"

def addLine (text : String) (w : MarkupWriter) : MarkupWriter := w.addIndent.add text |>.newline

def deeper (w : MarkupWriter) : MarkupWriter := { w with depth := w.depth + 1 }

def higher (w : MarkupWriter) : MarkupWriter := { w with depth := w.depth - 1 }

def nested (inside : MarkupWriter → MarkupWriter) (w : MarkupWriter) : MarkupWriter :=
  (inside w.deeper).higher

def between (opening closing : String) (inside : MarkupWriter → MarkupWriter) (w : MarkupWriter) :
    MarkupWriter :=
  (w.addLine opening).nested inside |>.addLine closing

def inlined (inside : MarkupWriter → MarkupWriter) (w : MarkupWriter) : MarkupWriter :=
  let w := inside { w with inline := w.inline + 1 }
  { w with inline := w.inline - 1 }

def bound (binding : String) (item : Json) (inside : MarkupWriter → MarkupWriter)
    (w : MarkupWriter) : MarkupWriter :=
  let w := inside { w with scope := w.scope.push binding item }
  { w with scope := w.scope.pop }

def addAttribute (name : String) (value : Expr) (w : MarkupWriter) : MarkupWriter :=
  match value.eval w.scope with
  | .bool true => w.add (" " ++ name)
  | .bool false | .null => w
  | v => w.add (" " ++ name ++ "=\"" ++ escapedValue v.display ++ "\"")

def addStyles (styles : List Declaration) (w : MarkupWriter) : MarkupWriter :=
  if styles.isEmpty then w
  else
    w.add (" style=\"" ++ escapedValue (" ".intercalate (styles.map Declaration.text)) ++ "\"")

def addAttributes (attributes styles : List (String × Expr)) (w : MarkupWriter) : MarkupWriter :=
  let w := attributes.foldl (fun w a => w.addAttribute a.1 a.2) w
  w.addStyles (stylesOf w.scope styles)

end MarkupWriter

def inlineText? (scope : Scope) (children : List Node) : Option String :=
  if children.isEmpty then none
  else (textsOf? children).map fun texts => String.join (texts.map fun e => e.display scope)

/-- Texts next to elements, where a line break would show. -/
def hasMixedContent (children : List Node) : Bool :=
  children.any Node.isText && children.any fun node => !node.isText

/-- Children that are all text stand on the line of their element, and so do texts next to
elements. -/
def MarkupWriter.addChildren (children : List Node) (nodes : MarkupWriter → MarkupWriter)
    (w : MarkupWriter) : MarkupWriter :=
  match inlineText? w.scope children with
  | some text => w.add (escapedText text)
  | none =>
    if hasMixedContent children then w.inlined nodes
    else if children.isEmpty then w
    else (w.newline.nested nodes).addIndent

mutual

def Element.write : Element → MarkupWriter → MarkupWriter
  | { tag, attributes, styles, markup, children }, w =>
    let w := (w.addIndent.add ("<" ++ tag)).addAttributes attributes styles |>.add ">"
    if isVoidTag tag then w.newline
    else
      let w := match markup with
        | some e => w.add (e.display w.scope)
        | none => w.addChildren children (writeNodes children)
      w.add ("</" ++ tag ++ ">") |>.newline

def Node.write : Node → MarkupWriter → MarkupWriter
  | .element e, w => e.write w
  | .text e, w => w.addLine (escapedText (e.display w.scope))
  | .repeat binding items body, w =>
    (items.toList w.scope).foldl (fun w item => w.bound binding item (writeNodes body)) w
  | .choice condition yes no, w =>
    if (condition.eval w.scope).holds then writeNodes yes w else writeNodes no w

def writeNodes : List Node → MarkupWriter → MarkupWriter
  | [], w => w
  | node :: rest, w => writeNodes rest (node.write w)

end

def MarkupWriter.addAnchor (anchor : Option String) (w : MarkupWriter) : MarkupWriter :=
  match anchor with
  | none => w
  | some a => w.add (" id=\"" ++ escapedValue a ++ "\"")

/-- The classes of a section are written as they are. -/
def Section.writeOpening (s : Section) (w : MarkupWriter) : MarkupWriter :=
  (w.addIndent.add "<section").addAnchor s.anchor
    |>.add (" class=\"" ++ s.style.className ++ "\"")
    |>.addStyles s.style.background
    |>.add ">"
    |>.newline

def Section.write (s : Section) (w : MarkupWriter) : MarkupWriter :=
  (s.writeOpening w).nested (writeNodes s.body) |>.addLine "</section>"

namespace MarkupWriter

def addMetadata (key name content : String) (w : MarkupWriter) : MarkupWriter :=
  w.addLine ("<meta " ++ key ++ "=\"" ++ name ++ "\" content=\"" ++ escapedValue content ++ "\">")

def addMetadataIfSet (key name content : String) (w : MarkupWriter) : MarkupWriter :=
  if content.isEmpty then w else w.addMetadata key name content

def addStylesheet (address : String) (w : MarkupWriter) : MarkupWriter :=
  w.addLine ("<link rel=\"stylesheet\" href=\"" ++ address ++ "\">")

end MarkupWriter

namespace Settings

def writeMetadata (settings : Settings) (w : MarkupWriter) : MarkupWriter :=
  w.addLine "<meta charset=\"UTF-8\">"
    |>.addLine "<meta name=\"viewport\" content=\"width=device-width, initial-scale=1.0\">"
    |>.addLine ("<title>" ++ escapedText settings.title ++ "</title>")
    |>.addMetadata "name" "description" settings.description
    |>.addMetadataIfSet "name" "keywords" settings.keywords
    |>.addMetadataIfSet "name" "author" settings.author
    |>.addMetadataIfSet "name" "robots" settings.robots
    |>.addMetadata "property" "og:title" settings.title
    |>.addMetadata "property" "og:description" settings.description
    |>.addMetadataIfSet "property" "og:image" settings.ogImage

def writeResources (settings : Settings) (w : MarkupWriter) : MarkupWriter :=
  w.addLine "<script src=\"https://cdn.tailwindcss.com\"></script>"
    |>.addStylesheet ("https://fonts.googleapis.com/css2?family=Material+Symbols+Outlined" ++
      ":opsz,wght,FILL,GRAD@20..48,100..700,0..1,-50..200")
    |>.addStylesheet "https://cdnjs.cloudflare.com/ajax/libs/animate.css/4.1.1/animate.min.css"
    |>.addStylesheet (escapedValue settings.fontFamily.stylesheet)

def writePalette (settings : Settings) (w : MarkupWriter) : MarkupWriter :=
  settings.palette.foldl (fun w (d : Declaration) => w.addLine d.text) w

def writeRules (settings : Settings) (w : MarkupWriter) : MarkupWriter :=
  w.between ":root \x7b" "\x7d" settings.writePalette
    |>.addLine ("body \x7b font-family: " ++ settings.fontStack ++
      "; background-color: var(--color-bg); color: var(--color-text); \x7d")
    |>.addLine (".material-symbols-outlined \x7b font-variation-settings: " ++
      "'FILL' 0, 'wght' 400, 'GRAD' 0, 'opsz' 24; \x7d")

def writeHead (settings : Settings) : MarkupWriter → MarkupWriter :=
  .between "<head>" "</head>" fun w =>
    settings.writeResources (settings.writeMetadata w)
      |>.between "<style>" "</style>" settings.writeRules

end Settings

namespace Page

def writeSections (page : Page) (w : MarkupWriter) : MarkupWriter :=
  page.sections.foldl (fun w s => s.write w) w

def html (indent : Option String) (page : Page) : String :=
  let w : MarkupWriter := { indent }
  w.addLine "<!DOCTYPE html>"
    |>.between "<html lang=\"en\">" "</html>" (fun w =>
      page.settings.writeHead w |>.between "<body>" "</body>" page.writeSections)
    |>.buffer

end Page
end PageBuilder
