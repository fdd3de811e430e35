import PageBuilder.Markup.Unrolled
import PageBuilder.Page.Section

set_option autoImplicit false

namespace PageBuilder

open Markup (text raw rule element)

namespace Markup

def metadata (key name content : String) : Markup :=
  element "meta" [⟨key, some name⟩, ⟨"content", some content⟩] [] .void

def metadataIfSet (key name content : String) : List Markup :=
  if content.isEmpty then [] else [metadata key name content]

def stylesheet (address : String) : Markup :=
  element "link" [⟨"rel", some "stylesheet"⟩, ⟨"href", some address⟩] [] .void

def script (address : String) : Markup :=
  element "script" [⟨"src", some address⟩] [] (.inline [])

end Markup

open Markup (metadataIfSet stylesheet script)

namespace Settings

def metadata (settings : Settings) : List Markup :=
  [element "meta" [⟨"charset", some "UTF-8"⟩] [] .void,
    .metadata "name" "viewport" "width=device-width, initial-scale=1.0",
    element "title" [] [] (.inline [text settings.title]),
    .metadata "name" "description" settings.description] ++
  metadataIfSet "name" "keywords" settings.keywords ++
  metadataIfSet "name" "author" settings.author ++
  metadataIfSet "name" "robots" settings.robots ++
  [.metadata "property" "og:title" settings.title,
    .metadata "property" "og:description" settings.description] ++
  metadataIfSet "property" "og:image" settings.ogImage

/-- The script and the stylesheets that the classes of a page need. -/
def resources (settings : Settings) : List Markup :=
  [script "https://cdn.tailwindcss.com",
    stylesheet ("https://fonts.googleapis.com/css2?family=Material+Symbols+Outlined" ++
      ":opsz,wght,FILL,GRAD@20..48,100..700,0..1,-50..200"),
    stylesheet "https://cdnjs.cloudflare.com/ajax/libs/animate.css/4.1.1/animate.min.css",
    stylesheet settings.fontFamily.stylesheet]

/-- The palette stands in the rules as it is. -/
def rules (settings : Settings) : List Markup :=
  [rule ":root" settings.palette,
    raw ("body \x7b font-family: " ++ settings.fontStack ++
      "; background-color: var(--color-bg); color: var(--color-text); \x7d"),
    raw (".material-symbols-outlined \x7b font-variation-settings: " ++
      "'FILL' 0, 'wght' 400, 'GRAD' 0, 'opsz' 24; \x7d")]

def head (settings : Settings) : Markup :=
  element "head" [] [] (.block (settings.metadata ++ settings.resources ++
    [element "style" [] [] (.block settings.rules)]))

end Settings

def Section.markup (s : Section) : Markup :=
  element "section"
    ((s.anchor.map fun anchor => ⟨"id", some anchor⟩).toList ++ [⟨"class", some s.style.className⟩])
    s.style.background (.block (unrollAll [] s.body))

def Page.markup (page : Page) : List Markup :=
  [raw "<!DOCTYPE html>",
    element "html" [⟨"lang", some "en"⟩] [] (.block
      [page.settings.head, element "body" [] [] (.block (page.sections.map Section.markup))])]

end PageBuilder
