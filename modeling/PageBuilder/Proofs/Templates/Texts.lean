import PageBuilder.Page.OfDocument
import PageBuilder.Proofs.Templates.Fits

set_option autoImplicit false

namespace PageBuilder

mutual

/-- Texts stand right in elements, and not in the body of a repetition or a choice. -/
def Element.Firm : Element → Prop
  | { children, .. } => FirmAll children

def Node.Firm : Node → Prop
  | .element e => e.Firm
  | .text _ => True
  | .repeat _ _ body => (∀ node ∈ body, node.isText = false) ∧ FirmAll body
  | .choice _ yes no =>
    (∀ node ∈ yes ++ no, node.isText = false) ∧ FirmAll yes ∧ FirmAll no

def FirmAll : List Node → Prop
  | [] => True
  | node :: rest => node.Firm ∧ FirmAll rest

end

@[simp]
theorem firmAll_nil : FirmAll [] := trivial

@[simp]
theorem firmAll_cons (node : Node) (nodes : List Node) :
    FirmAll (node :: nodes) ↔ node.Firm ∧ FirmAll nodes := Iff.rfl

@[simp]
theorem firmAll_append (nodes others : List Node) :
    FirmAll (nodes ++ others) ↔ FirmAll nodes ∧ FirmAll others := by
  induction nodes with
  | nil => simp
  | cons node nodes ih => rw [List.cons_append, firmAll_cons, firmAll_cons, ih, and_assoc]

namespace Node

@[simp]
theorem firm_element (e : Element) : (element e).Firm ↔ e.Firm := Iff.rfl

@[simp]
theorem firm_text (value : Expr) : (text value).Firm := trivial

@[simp]
theorem firm_repeat (binding : String) (items : Items) (e : Element) :
    (Node.repeat binding items [e]).Firm ↔ e.Firm := by
  simp [Firm, FirmAll, isText]

@[simp]
theorem firm_each {α : Type} [Json.Codec α] (binding : String) (list : List α) (e : Element) :
    (Node.each binding list e).Firm ↔ e.Firm := firm_repeat binding (.ofList list) e

@[simp]
theorem firm_choice (condition : Expr) (yes no : Element) :
    (choice condition [yes] [no]).Firm ↔ yes.Firm ∧ no.Firm := by
  simp [Firm, FirmAll, isText]

@[simp]
theorem firm_choice_nil (condition : Expr) (yes : Element) :
    (choice condition [yes] []).Firm ↔ yes.Firm := by
  simp [Firm, FirmAll, isText]

end Node

namespace Element

theorem firm_iff (e : Element) : e.Firm ↔ FirmAll e.children := by
  cases e
  rfl

@[simp]
theorem firm_new (tag : String) : (new tag).Firm := trivial

@[simp]
theorem firm_attr (e : Element) (name : String) (value : Expr) :
    (e.attr name value).Firm ↔ e.Firm := by
  rw [firm_iff, firm_iff, attr]

@[simp]
theorem firm_style (e : Element) (property : String) (value : Expr) :
    (e.style property value).Firm ↔ e.Firm := by
  rw [firm_iff, firm_iff, style]

@[simp]
theorem firm_html (e : Element) (value : Expr) : (e.html value).Firm ↔ e.Firm := by
  rw [firm_iff, firm_iff, html]

@[simp]
theorem firm_append (e : Element) (nodes : List Node) :
    (e.append nodes).Firm ↔ e.Firm ∧ FirmAll nodes := by
  rw [firm_iff, firm_iff, append, firmAll_append]

@[simp]
theorem firm_child (e : Element) (node : Node) : (e.child node).Firm ↔ e.Firm ∧ node.Firm := by
  change (e.append [node]).Firm ↔ _
  rw [firm_append, firmAll_cons, and_iff_left firmAll_nil]

@[simp]
theorem firm_text (e : Element) (value : Expr) : (e.text value).Firm ↔ e.Firm := by
  rw [text, firm_child, and_iff_left (Node.firm_text value)]

@[simp]
theorem firm_classed (tag classes : String) : (classed tag classes).Firm := by
  unfold classed
  rcases withClass_eq (new tag) classes with same | ⟨c, same⟩ <;> rw [same] <;> simp

@[simp]
theorem firm_container (classes : String) : (container classes).Firm := firm_classed _ _

@[simp]
theorem firm_colored (tag classes : String) (color value : Expr) :
    (colored tag classes color value).Firm := by
  simp [colored]

@[simp]
theorem firm_picture (classes : String) (source alt : Expr) :
    (picture classes source alt).Firm := by
  simp [picture]

@[simp]
theorem firm_symbol (classes : String) (name : Expr) : (symbol classes name).Firm := by
  simp [symbol]

@[simp]
theorem firm_filledLink (classes : String) (address background color value : Expr) :
    (filledLink classes address background color value).Firm := by
  simp [filledLink]

end Element

-- The lemmas above read the builders of a root, which must not be evaluated to its children.
attribute [irreducible] Element.Firm

theorem Navigation.root_firm (c : Navigation) : c.root.Firm := by
  have logo : c.logo.Firm := by
    unfold logo
    split <;> simp
  have button : FirmAll c.button := by
    unfold button
    split <;> simp
  unfold root
  split <;> simp [linkList, logo, button]

theorem Hero.root_firm (c : Hero) : c.root.Firm := by
  have first : FirmAll c.firstButton := by
    unfold firstButton
    split <;> simp
  have second : FirmAll c.secondButton := by
    unfold secondButton
    split <;> simp
  simp [root, first, second]

theorem CallToAction.root_firm (c : CallToAction) : c.root.Firm := by
  have button : FirmAll c.button := by
    unfold button
    split <;> simp
  have overlay : FirmAll c.overlay := by
    unfold overlay
    split <;> simp
  simp [root, button, overlay]

theorem Picture.root_firm (c : Picture) : c.root.Firm := by
  have image : c.image.Firm := by
    unfold image
    split <;> simp
  have caption : FirmAll c.captionLine := by
    unfold captionLine
    split <;> simp
  simp [root, image, caption]

theorem Divider.root_firm (c : Divider) : c.root.Firm := by
  have line : FirmAll c.line := by
    unfold line
    split <;> simp
  simp [root, line]

theorem Features.root_firm (c : Features) : c.root.Firm := by
  simp [root, card]

theorem Footer.root_firm (c : Footer) : c.root.Firm := by
  simp [root]

theorem Split.root_firm (c : Split) : c.root.Firm := by
  simp [root]

theorem MapEmbed.root_firm (c : MapEmbed) : c.root.Firm := by
  simp [root]

theorem ContactForm.root_firm (c : ContactForm) (background : Background) :
    (c.root background).Firm := by
  simp [root, field, area, input, dressed, submit]

theorem Prose.root_firm (c : Prose) : c.root.Firm := by
  simp [root]

theorem ButtonLink.root_firm (c : ButtonLink) : c.root.Firm := by
  simp [root]

theorem Pricing.root_firm (c : Pricing) : c.root.Firm := by
  simp [root, card, badge, feature, link]

theorem Testimonials.root_firm (c : Testimonials) : c.root.Firm := by
  simp [root, card, star, avatar]

theorem Team.root_firm (c : Team) : c.root.Firm := by
  simp [root, card]

theorem Faq.root_firm (c : Faq) : c.root.Firm := by
  simp [root, entry]

theorem Content.placeholder_firm (tag : String) : (placeholder tag).Firm := by
  simp [placeholder]

theorem Content.root_firm (c : Content) (background : Background) : (c.root background).Firm := by
  cases c with
  | navigation c => exact c.root_firm
  | hero c => exact c.root_firm
  | feature c => exact c.root_firm
  | cta c => exact c.root_firm
  | footer c => exact c.root_firm
  | split c => exact c.root_firm
  | map c => exact c.root_firm
  | form c => exact c.root_firm background
  | image c => exact c.root_firm
  | text c => exact c.root_firm
  | button c => exact c.root_firm
  | divider c => exact c.root_firm
  | pricing c => exact c.root_firm
  | testimonial c => exact c.root_firm
  | team c => exact c.root_firm
  | faq c => exact c.root_firm
  | unsupported tag => exact placeholder_firm tag

end PageBuilder
