import PageBuilder.Content.Layout

set_option autoImplicit false

namespace PageBuilder

open Json (Codec)

structure Pricing where
  plans : List PricingPlan := [
    ⟨"p1", "Basic", "$9", "/mo", ["5 Projects", "Basic Analytics"], "Choose", false,
      some "Most Popular"⟩,
    ⟨"p2", "Pro", "$29", "/mo", ["Unlimited Projects", "Adv Analytics", "Priority Support"],
      "Choose", true, some "Best Value"⟩,
    ⟨"p3", "Enterprise", "$99", "/mo", ["Custom Solutions", "24/7 Support"], "Contact", false,
      some "Most Popular"⟩]
  cardBg : String := white
  textColor : String := paletteText
  accentColor : String := palettePrimary
  radius : Radius := .lg
deriving DecidableEq

def Pricing.record : Json.Record Pricing where
  name := "PricingContent"
  blank := {}
  fields := [
    .of "plans" (·.plans) fun v x => { x with plans := v },
    .of "cardBg" (·.cardBg) fun v x => { x with cardBg := v },
    .of "textColor" (·.textColor) fun v x => { x with textColor := v },
    .of "accentColor" (·.accentColor) fun v x => { x with accentColor := v },
    .of "radius" (·.radius) fun v x => { x with radius := v }]

instance : Codec Pricing := Pricing.record.codec

structure Testimonials where
  items : List TestimonialItem := [
    ⟨"t1", "Jane Doe", "CEO, TechCo", "",
      "This builder saved me hours of work. Highly recommended!", 5⟩,
    ⟨"t2", "John Smith", "Developer", "", "Clean code and easy to use. A game changer.", 4⟩]
  layout : TestimonialLayout := .grid
  cardBg : String := white
  textColor : String := paletteText
  starColor : String := "#FBBF24"
  radius : Radius := .lg
deriving DecidableEq

def Testimonials.record : Json.Record Testimonials where
  name := "TestimonialContent"
  blank := {}
  fields := [
    .of "items" (·.items) fun v x => { x with items := v },
    .of "layout" (·.layout) fun v x => { x with layout := v },
    .of "cardBg" (·.cardBg) fun v x => { x with cardBg := v },
    .of "textColor" (·.textColor) fun v x => { x with textColor := v },
    .of "starColor" (·.starColor) fun v x => { x with starColor := v },
    .of "radius" (·.radius) fun v x => { x with radius := v }]

instance : Codec Testimonials := Testimonials.record.codec

structure Team where
  heading : String := "Meet Our Team"
  members : List TeamMember := [
    ⟨"m1", "Alex Johnson", "Founder", "https://i.pravatar.cc/150?u=a", "Visionary leader."⟩,
    ⟨"m2", "Sarah Williams", "CTO", "https://i.pravatar.cc/150?u=b", "Tech wizard."⟩,
    ⟨"m3", "Mike Brown", "Designer", "https://i.pravatar.cc/150?u=c", "Creative mind."⟩]
  cardBg : String := white
  textColor : String := paletteText
  radius : Radius := .lg
deriving DecidableEq

def Team.record : Json.Record Team where
  name := "TeamContent"
  blank := {}
  fields := [
    .of "heading" (·.heading) fun v x => { x with heading := v },
    .of "members" (·.members) fun v x => { x with members := v },
    .of "cardBg" (·.cardBg) fun v x => { x with cardBg := v },
    .of "textColor" (·.textColor) fun v x => { x with textColor := v },
    .of "radius" (·.radius) fun v x => { x with radius := v }]

instance : Codec Team := Team.record.codec

structure Faq where
  heading : String := "Frequently Asked Questions"
  items : List FaqItem := [
    ⟨"q1", "Is it free?", "Yes, there is a free tier available."⟩,
    ⟨"q2", "Can I export code?", "Absolutely! You can export HTML and React code."⟩]
  questionColor : String := paletteText
  answerColor : String := "#4B5563"
  cardBg : String := "#F9FAFB"
deriving DecidableEq

def Faq.record : Json.Record Faq where
  name := "FaqContent"
  blank := {}
  fields := [
    .of "heading" (·.heading) fun v x => { x with heading := v },
    .of "items" (·.items) fun v x => { x with items := v },
    .of "questionColor" (·.questionColor) fun v x => { x with questionColor := v },
    .of "answerColor" (·.answerColor) fun v x => { x with answerColor := v },
    .of "cardBg" (·.cardBg) fun v x => { x with cardBg := v }]

instance : Codec Faq := Faq.record.codec

end PageBuilder
