import PageBuilder.Component.Writer
import PageBuilder.Markup.Writer
import PageBuilder.Page.OfDocument

set_option autoImplicit false

namespace PageBuilder

structure Artifact where
  fileName : String
  mimeType : String
  contents : String
deriving DecidableEq

def Dialect.fileName : Dialect → String
  | .typed => "Page.tsx"
  | .untyped => "Page.jsx"

namespace Artifact

def indent : String := "  "

def html (document : Document) : Artifact :=
  ⟨"index.html", "text/html", (Page.ofDocument document).html (some indent)⟩

def component (dialect : Dialect) (document : Document) : Artifact :=
  ⟨dialect.fileName, "text/plain", (Page.ofDocument document).component dialect⟩

end Artifact
end PageBuilder
