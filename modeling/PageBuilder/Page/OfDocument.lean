import PageBuilder.Document
import PageBuilder.Page.Section
import PageBuilder.Page.Templates.Atoms
import PageBuilder.Page.Templates.Layout
import PageBuilder.Page.Templates.Marketing

set_option autoImplicit false

namespace PageBuilder

namespace Content

/-- The corners of the main surface, for the kinds that have one. -/
def radius? : Content → Option Radius
  | .navigation c => some c.buttonRadius
  | .hero c => some c.buttonRadius
  | .feature c => some c.cardRadius
  | .cta c => some c.buttonRadius
  | .form c => some c.buttonRadius
  | .image c => some c.borderRadius
  | .button c => some c.radius
  | .pricing c => some c.radius
  | .testimonial c => some c.radius
  | .team c => some c.radius
  | .footer _ | .split _ | .map _ | .text _ | .divider _ | .faq _ | .unsupported _ => none

def placeholder (tag : String) : Element :=
  Element.container "py-12"
    |>.child (Element.classed "h2" "text-2xl font-bold" |>.text (.literal ("Block Type: " ++ tag)))

def root (background : Background) : Content → Element
  | .navigation c => c.root
  | .hero c => c.root
  | .feature c => c.root
  | .cta c => c.root
  | .footer c => c.root
  | .split c => c.root
  | .map c => c.root
  | .form c => c.root background
  | .image c => c.root
  | .text c => c.root
  | .button c => c.root
  | .divider c => c.root
  | .pricing c => c.root
  | .testimonial c => c.root
  | .team c => c.root
  | .faq c => c.root
  | .unsupported tag => placeholder tag

end Content

def Section.ofBlock (block : Block) : Section where
  kind := block.content.tag
  instanceId := block.instanceId
  anchor := block.base.anchor
  style := .ofBase block.base block.content.radius?
  body := [block.content.root block.base.background]

def Page.ofDocument (document : Document) : Page where
  settings := document.settings
  sections := document.blocks.map .ofBlock

end PageBuilder
