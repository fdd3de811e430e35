import PageBuilder.Page.OfDocument
import PageBuilder.Proofs.Templates.Fits

set_option autoImplicit false

namespace PageBuilder

variable {trusted : Bool} {shapes : Shapes}

namespace Navigation

theorem logo_fits (c : Navigation) : c.logo.Fits trusted shapes := by
  unfold logo
  cases c.logoType <;> simp [isVoidTag, tagNames, StyleFits, styleNames, Element.picture,
    AttributeFits, attributeNames, flagNames]

theorem linkList_fits (c : Navigation) (classes : String) :
    (c.linkList classes).Fits trusted shapes := by
  refine Node.fits_each (by decide) c.links ?_
  have label : (Expr.member "link" "label").IsText (("link", Shaped.shape NavLink) :: shapes) :=
    ⟨rfl, rfl⟩
  have href : (Expr.member "link" "href").IsText (("link", Shaped.shape NavLink) :: shapes) :=
    ⟨rfl, rfl⟩
  simp [Element.colored, isVoidTag, tagNames, StyleFits, styleNames, AttributeFits, attributeNames,
    flagNames, label, href]

theorem button_fits (c : Navigation) : FitAll trusted shapes c.button := by
  unfold button
  split <;> simp

theorem root_fits (c : Navigation) : c.root.Fits trusted shapes := by
  unfold root
  cases c.layoutStyle <;>
    simp [isVoidTag, tagNames, StyleFits, styleNames, logo_fits, linkList_fits, button_fits]

end Navigation

namespace Hero

theorem firstButton_fits (c : Hero) : FitAll trusted shapes c.firstButton := by
  unfold firstButton
  split <;> simp

theorem secondButton_fits (c : Hero) : FitAll trusted shapes c.secondButton := by
  unfold secondButton
  split <;> simp [Element.filledLink, isVoidTag, tagNames, StyleFits, styleNames, AttributeFits,
    attributeNames, flagNames]

theorem root_fits (c : Hero) : c.root.Fits trusted shapes := by
  simp [root, isVoidTag, tagNames, firstButton_fits, secondButton_fits]

end Hero

namespace Features

theorem cards_fit (c : Features) :
    (Node.each "feature" c.features c.card).Fits trusted shapes := by
  refine Node.fits_each (by decide) c.features ?_
  have icon : (Expr.member "feature" "icon").IsText
      (("feature", Shaped.shape FeatureItem) :: shapes) := ⟨rfl, rfl⟩
  have title : (Expr.member "feature" "title").IsText
      (("feature", Shaped.shape FeatureItem) :: shapes) := ⟨rfl, rfl⟩
  have description : (Expr.member "feature" "description").IsText
      (("feature", Shaped.shape FeatureItem) :: shapes) := ⟨rfl, rfl⟩
  simp [card, isVoidTag, tagNames, StyleFits, styleNames, icon, title, description]

theorem root_fits (c : Features) : c.root.Fits trusted shapes := by
  simp [root, isVoidTag, tagNames, cards_fit]

end Features

namespace CallToAction

theorem button_fits (c : CallToAction) : FitAll trusted shapes c.button := by
  unfold button
  split <;> simp

theorem overlay_fits (c : CallToAction) : FitAll trusted shapes c.overlay := by
  unfold overlay
  split <;> simp [tagNames, StyleFits, styleNames]

theorem root_fits (c : CallToAction) : c.root.Fits trusted shapes := by
  simp [root, isVoidTag, tagNames, overlay_fits, button_fits]

end CallToAction

theorem Footer.root_fits (c : Footer) : c.root.Fits trusted shapes := by
  have links : (Node.each "social" c.socialLinks
      (Element.colored "a" "capitalize" c.iconColor (.member "social" "platform")
        |>.attr "href" (.member "social" "url"))).Fits trusted shapes := by
    refine Node.fits_each (by decide) c.socialLinks ?_
    have platform : (Expr.member "social" "platform").IsText
        (("social", Shaped.shape SocialLink) :: shapes) := ⟨rfl, rfl⟩
    have url : (Expr.member "social" "url").IsText
        (("social", Shaped.shape SocialLink) :: shapes) := ⟨rfl, rfl⟩
    simp [Element.colored, isVoidTag, tagNames, StyleFits, styleNames, AttributeFits,
      attributeNames, flagNames, platform, url]
  simp [root, isVoidTag, tagNames, links]

theorem Split.root_fits (c : Split) : c.root.Fits true shapes := by
  simp [root, isVoidTag, tagNames, StyleFits, styleNames]

theorem MapEmbed.root_fits (c : MapEmbed) : c.root.Fits trusted shapes := by
  simp [root, isVoidTag, tagNames, StyleFits, styleNames, AttributeFits, attributeNames, flagNames]

namespace ContactForm

theorem dressed_fits (c : ContactForm) {e : Element}
    (fits : e.Fits trusted (("field", Shaped.shape FormField) :: shapes))
    (unnamed : "placeholder" ∉ e.attributes.map Prod.fst ∧ "required" ∉ e.attributes.map Prod.fst)
    (plain : e.styles = []) :
    (c.dressed e).Fits trusted (("field", Shaped.shape FormField) :: shapes) := by
  have placeholder : (Expr.member "field" "placeholder").IsText
      (("field", Shaped.shape FormField) :: shapes) := ⟨rfl, rfl⟩
  have required : (Expr.member "field" "required").IsFlag
      (("field", Shaped.shape FormField) :: shapes) := ⟨rfl, rfl⟩
  simp only [List.mem_map, Prod.exists, exists_and_right, exists_eq_right, not_exists] at unnamed
  simp [dressed, StyleFits, styleNames, AttributeFits, attributeNames, flagNames, fits, unnamed,
    plain, placeholder, required]

theorem fields_fit (c : ContactForm) :
    (Node.each "field" c.fields c.field).Fits trusted shapes := by
  refine Node.fits_each (by decide) c.fields ?_
  have label : (Expr.member "field" "label").IsText
      (("field", Shaped.shape FormField) :: shapes) := ⟨rfl, rfl⟩
  have type : (Expr.member "field" "type").IsText
      (("field", Shaped.shape FormField) :: shapes) := ⟨rfl, rfl⟩
  have isArea : (Expr.equals (.member "field" "type") "textarea").IsFlag
      (("field", Shaped.shape FormField) :: shapes) := ⟨rfl, rfl⟩
  have area : c.area.Fits trusted (("field", Shaped.shape FormField) :: shapes) :=
    c.dressed_fits (by simp [tagNames]) ⟨by simp, by simp⟩ (by simp)
  have input : c.input.Fits trusted (("field", Shaped.shape FormField) :: shapes) :=
    c.dressed_fits (by simp [tagNames, AttributeFits, attributeNames, flagNames, type])
      ⟨by simp, by simp⟩ (by simp)
  simp [field, isVoidTag, tagNames, label, isArea, area, input]

theorem submit_fits (c : ContactForm) : c.submit.Fits trusted shapes := by
  simp [submit, isVoidTag, tagNames, StyleFits, styleNames, AttributeFits, attributeNames,
    flagNames]

theorem root_fits (c : ContactForm) (background : Background) :
    (c.root background).Fits trusted shapes := by
  simp [root, isVoidTag, tagNames, StyleFits, styleNames, fields_fit, submit_fits]

end ContactForm

theorem Picture.root_fits (c : Picture) : c.root.Fits trusted shapes := by
  have image : c.image.Fits trusted shapes := by
    unfold image
    split <;> simp [Element.picture, tagNames, StyleFits, styleNames, AttributeFits,
      attributeNames, flagNames]
  have caption : FitAll trusted shapes c.captionLine := by
    unfold captionLine
    split <;> simp [isVoidTag, tagNames]
  simp [root, isVoidTag, tagNames, image, caption]

theorem Prose.root_fits (c : Prose) : c.root.Fits true shapes := by
  have known : Token.text c.tag ∈ tagNames := by cases c.tag <;> decide
  have inside : isVoidTag (Token.text c.tag) = false := by cases c.tag <;> decide
  unfold root
  rw [Element.fits_child (by simp [isVoidTag])]
  simp [StyleFits, styleNames, known, inside]

theorem ButtonLink.root_fits (c : ButtonLink) : c.root.Fits trusted shapes := by
  simp [root, Element.filledLink, isVoidTag, tagNames, StyleFits, styleNames, AttributeFits,
    attributeNames, flagNames]

theorem Divider.root_fits (c : Divider) : c.root.Fits trusted shapes := by
  have line : FitAll trusted shapes c.line := by
    unfold line
    split <;> simp [tagNames, StyleFits, styleNames]
  simp [root, isVoidTag, line]

namespace Pricing

theorem card_fits (c : Pricing) :
    c.card.Fits trusted (("plan", Shaped.shape PricingPlan) :: shapes) := by
  have name : (Expr.member "plan" "name").IsText
      (("plan", Shaped.shape PricingPlan) :: shapes) := ⟨rfl, rfl⟩
  have price : (Expr.member "plan" "price").IsText
      (("plan", Shaped.shape PricingPlan) :: shapes) := ⟨rfl, rfl⟩
  have period : (Expr.member "plan" "period").IsText
      (("plan", Shaped.shape PricingPlan) :: shapes) := ⟨rfl, rfl⟩
  have popular : isPopular.IsFlag (("plan", Shaped.shape PricingPlan) :: shapes) := ⟨rfl, rfl⟩
  have badge : c.badge.Fits trusted (("plan", Shaped.shape PricingPlan) :: shapes) := by
    have text : (Expr.or (.member "plan" "badgeText") "Most Popular").IsText
        (("plan", Shaped.shape PricingPlan) :: shapes) := ⟨rfl, rfl⟩
    simp [badge, isVoidTag, tagNames, StyleFits, styleNames, text]
  have features : (Node.repeat "feature" (.of (.member "plan" "features")) [c.feature]).Fits trusted
      (("plan", Shaped.shape PricingPlan) :: shapes) := by
    have feature : (Expr.member "feature" "").IsText
        (("feature", .text) :: ("plan", Shaped.shape PricingPlan) :: shapes) := ⟨rfl, rfl⟩
    refine ⟨by decide, .text, ⟨rfl, rfl⟩, ?_⟩
    simp [Pricing.feature, isVoidTag, tagNames, feature]
  have link : c.link.Fits trusted (("plan", Shaped.shape PricingPlan) :: shapes) := by
    have background : (Expr.ternary isPopular c.accentColor "#f3f4f6").IsText
        (("plan", Shaped.shape PricingPlan) :: shapes) := ⟨rfl, rfl⟩
    have color : (Expr.ternary isPopular "#fff" "#1f2937").IsText
        (("plan", Shaped.shape PricingPlan) :: shapes) := ⟨rfl, rfl⟩
    have text : (Expr.member "plan" "buttonText").IsText
        (("plan", Shaped.shape PricingPlan) :: shapes) := ⟨rfl, rfl⟩
    simp [link, background, color, text]
  have border : (Expr.ternary isPopular c.accentColor "#e5e7eb").IsText
      (("plan", Shaped.shape PricingPlan) :: shapes) := ⟨rfl, rfl⟩
  simp [card, isVoidTag, tagNames, StyleFits, styleNames, name, price, period, popular, badge,
    features, link, border]

theorem root_fits (c : Pricing) : c.root.Fits trusted shapes := by
  have cards : (Node.each "plan" c.plans c.card).Fits trusted shapes :=
    Node.fits_each (by decide) c.plans c.card_fits
  simp [root, isVoidTag, tagNames, cards]

end Pricing

namespace Testimonials

theorem star_fits : (Node.repeat "star" (.range 5) [star]).Fits trusted
    (("item", Shaped.shape TestimonialItem) :: shapes) := by
  have five : (Binary64.ofNat 5).isFinite ∧ (Binary64.ofNat 5).written = .ofNat 5 := by
    decide +kernel
  have index : (Expr.member "star" "").shape?
      (("star", .number) :: ("item", Shaped.shape TestimonialItem) :: shapes) = some .number := rfl
  have rating : (Expr.member "item" "rating").shape?
      (("star", .number) :: ("item", Shaped.shape TestimonialItem) :: shapes) = some .number := rfl
  have shape : (Expr.ternary (.lessThan (.member "star" "")
      (.or (.member "item" "rating") (.number (.ofNat 5)))) "star" "star_border").shape?
        (("star", .number) :: ("item", Shaped.shape TestimonialItem) :: shapes) = some .text := by
    simp [Expr.shape?, index, rating, five]
  refine ⟨by decide, .number, ⟨rfl, by decide⟩, ?_⟩
  simp only [star, fitAll_cons, Node.fits_element, Element.fits_symbol, fitAll_nil, and_true]
  exact ⟨shape, by decide +kernel⟩

theorem avatar_fits :
    avatar.Fits trusted (("item", Shaped.shape TestimonialItem) :: shapes) := by
  have avatar : (Expr.member "item" "avatar").IsText
      (("item", Shaped.shape TestimonialItem) :: shapes) := ⟨rfl, rfl⟩
  have name : (Expr.member "item" "name").IsText
      (("item", Shaped.shape TestimonialItem) :: shapes) := ⟨rfl, rfl⟩
  simp [Testimonials.avatar, isVoidTag, tagNames, avatar, name]

theorem card_fits (c : Testimonials) :
    c.card.Fits trusted (("item", Shaped.shape TestimonialItem) :: shapes) := by
  have quote : (Expr.template ["\"", .member "item" "quote", "\""]).IsText
      (("item", Shaped.shape TestimonialItem) :: shapes) := ⟨rfl, rfl⟩
  have name : (Expr.member "item" "name").IsText
      (("item", Shaped.shape TestimonialItem) :: shapes) := ⟨rfl, rfl⟩
  have role : (Expr.member "item" "role").IsText
      (("item", Shaped.shape TestimonialItem) :: shapes) := ⟨rfl, rfl⟩
  simp [card, isVoidTag, tagNames, StyleFits, styleNames, star_fits, avatar_fits, quote, name, role]

theorem root_fits (c : Testimonials) : c.root.Fits trusted shapes := by
  have cards : (Node.each "item" c.items c.card).Fits trusted shapes :=
    Node.fits_each (by decide) c.items c.card_fits
  simp [root, isVoidTag, tagNames, cards]

end Testimonials

namespace Team

theorem card_fits (c : Team) :
    c.card.Fits trusted (("member", Shaped.shape TeamMember) :: shapes) := by
  have image : (Expr.member "member" "image").IsText
      (("member", Shaped.shape TeamMember) :: shapes) := ⟨rfl, rfl⟩
  have name : (Expr.member "member" "name").IsText
      (("member", Shaped.shape TeamMember) :: shapes) := ⟨rfl, rfl⟩
  have role : (Expr.member "member" "role").IsText
      (("member", Shaped.shape TeamMember) :: shapes) := ⟨rfl, rfl⟩
  have bio : (Expr.member "member" "bio").IsText
      (("member", Shaped.shape TeamMember) :: shapes) := ⟨rfl, rfl⟩
  simp [card, isVoidTag, tagNames, StyleFits, styleNames, image, name, role, bio]

theorem root_fits (c : Team) : c.root.Fits trusted shapes := by
  have cards : (Node.each "member" c.members c.card).Fits trusted shapes :=
    Node.fits_each (by decide) c.members c.card_fits
  simp [root, isVoidTag, tagNames, cards]

end Team

namespace Faq

theorem entry_fits (c : Faq) :
    c.entry.Fits trusted (("item", Shaped.shape FaqItem) :: shapes) := by
  have question : (Expr.member "item" "question").IsText
      (("item", Shaped.shape FaqItem) :: shapes) := ⟨rfl, rfl⟩
  have answer : (Expr.member "item" "answer").IsText
      (("item", Shaped.shape FaqItem) :: shapes) := ⟨rfl, rfl⟩
  simp [entry, isVoidTag, tagNames, StyleFits, styleNames, question, answer]

theorem root_fits (c : Faq) : c.root.Fits trusted shapes := by
  have entries : (Node.each "item" c.items c.entry).Fits trusted shapes :=
    Node.fits_each (by decide) c.items c.entry_fits
  simp [root, isVoidTag, tagNames, entries]

end Faq

namespace Content

theorem placeholder_fits (tag : String) : (placeholder tag).Fits trusted shapes := by
  simp [placeholder, isVoidTag, tagNames]

/-- Whether the template of a content holds trusted markup. -/
def holdsMarkup : Content → Bool
  | .text _ | .split _ => true
  | _ => false

theorem root_fits (c : Content) (background : Background) :
    (c.root background).Fits c.holdsMarkup shapes := by
  cases c with
  | navigation c => exact c.root_fits
  | hero c => exact c.root_fits
  | feature c => exact c.root_fits
  | cta c => exact c.root_fits
  | footer c => exact c.root_fits
  | split c => exact c.root_fits
  | map c => exact c.root_fits
  | form c => exact c.root_fits background
  | image c => exact c.root_fits
  | text c => exact c.root_fits
  | button c => exact c.root_fits
  | divider c => exact c.root_fits
  | pricing c => exact c.root_fits
  | testimonial c => exact c.root_fits
  | team c => exact c.root_fits
  | faq c => exact c.root_fits
  | unsupported tag => exact placeholder_fits tag

end Content
end PageBuilder
