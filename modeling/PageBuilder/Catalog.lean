import PageBuilder.Block

set_option autoImplicit false

namespace PageBuilder.BlockKind

def label : BlockKind → String
  | .navigation => "Navigation"
  | .hero => "Hero"
  | .feature => "Features"
  | .cta => "Call to Action"
  | .footer => "Footer"
  | .split => "Split Content"
  | .map => "Map"
  | .form => "Contact Form"
  | .image => "Image"
  | .text => "Text"
  | .button => "Button"
  | .divider => "Divider"
  | .pricing => "Pricing"
  | .testimonial => "Testimonials"
  | .team => "Team"
  | .faq => "FAQ"

def templateBase : BlockKind → Base
  | .navigation =>
    { id := "nav", anchorId := some "nav", background := .solid "#FFFFFF", paddingTop := .sm,
      paddingBottom := .sm }
  | .hero => { id := "hero", anchorId := some "hero", paddingTop := .xl, paddingBottom := .xl }
  | .feature => { id := "feature", anchorId := some "features" }
  | .cta =>
    { id := "cta", anchorId := some "cta", background := .catalogGradient, paddingTop := .xl,
      paddingBottom := .xl }
  | .footer =>
    { id := "footer", anchorId := some "footer", background := .solid "#111827", paddingTop := .lg,
      paddingBottom := .lg }
  | .split => { id := "split", anchorId := some "split" }
  | .map => { id := "map", anchorId := some "location" }
  | .form => { id := "form", anchorId := some "contact", background := .solid "var(--color-bg)" }
  | .image => { id := "img" }
  | .text => { id := "txt" }
  | .button => { id := "btn" }
  | .divider => { id := "div", paddingTop := .none, paddingBottom := .none }
  | .pricing => { id := "pricing", anchorId := some "pricing" }
  | .testimonial => { id := "testimonial", anchorId := some "reviews" }
  | .team => { id := "team", anchorId := some "team" }
  | .faq => { id := "faq", anchorId := some "faq" }

def template (kind : BlockKind) : Block := ⟨kind.templateBase, .ofKind kind⟩

end PageBuilder.BlockKind
