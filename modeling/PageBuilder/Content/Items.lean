import PageBuilder.Base

set_option autoImplicit false

namespace PageBuilder

open Json (Codec)

structure NavLink where
  id : String := ""
  label : String := ""
  href : String := ""
deriving DecidableEq

def NavLink.record : Json.Record NavLink where
  name := "NavLink"
  blank := {}
  fields := [
    .of "id" (·.id) fun v x => { x with id := v },
    .of "label" (·.label) fun v x => { x with label := v },
    .of "href" (·.href) fun v x => { x with href := v }]

instance : Codec NavLink := NavLink.record.codec

structure FeatureItem where
  id : String := ""
  title : String := ""
  description : String := ""
  icon : String := ""
deriving DecidableEq

def FeatureItem.record : Json.Record FeatureItem where
  name := "FeatureItem"
  blank := {}
  fields := [
    .of "id" (·.id) fun v x => { x with id := v },
    .of "title" (·.title) fun v x => { x with title := v },
    .of "description" (·.description) fun v x => { x with description := v },
    .of "icon" (·.icon) fun v x => { x with icon := v }]

instance : Codec FeatureItem := FeatureItem.record.codec

structure SocialLink where
  id : String := ""
  platform : SocialPlatform := .website
  url : String := ""
deriving DecidableEq

def SocialLink.record : Json.Record SocialLink where
  name := "SocialLink"
  blank := {}
  fields := [
    .of "id" (·.id) fun v x => { x with id := v },
    .of "platform" (·.platform) fun v x => { x with platform := v },
    .of "url" (·.url) fun v x => { x with url := v }]

instance : Codec SocialLink := SocialLink.record.codec

structure FormField where
  id : String := ""
  fieldType : FieldType := .text
  label : String := ""
  placeholder : String := ""
  required : Bool := false
deriving DecidableEq

def FormField.record : Json.Record FormField where
  name := "FormField"
  blank := {}
  fields := [
    .of "id" (·.id) fun v x => { x with id := v },
    .of "type" (·.fieldType) fun v x => { x with fieldType := v },
    .of "label" (·.label) fun v x => { x with label := v },
    .of "placeholder" (·.placeholder) fun v x => { x with placeholder := v },
    .of "required" (·.required) fun v x => { x with required := v }]

instance : Codec FormField := FormField.record.codec

structure PricingPlan where
  id : String := ""
  name : String := ""
  price : String := ""
  period : String := ""
  features : List String := []
  buttonText : String := ""
  isPopular : Bool := false
  badgeText : Option String := none
deriving DecidableEq

def PricingPlan.record : Json.Record PricingPlan where
  name := "PricingPlan"
  blank := {}
  fields := [
    .of "id" (·.id) fun v x => { x with id := v },
    .of "name" (·.name) fun v x => { x with name := v },
    .of "price" (·.price) fun v x => { x with price := v },
    .of "period" (·.period) fun v x => { x with period := v },
    .of "features" (·.features) fun v x => { x with features := v },
    .of "buttonText" (·.buttonText) fun v x => { x with buttonText := v },
    .of "isPopular" (·.isPopular) fun v x => { x with isPopular := v },
    .optional "badgeText" (·.badgeText) fun v x => { x with badgeText := v }]

instance : Codec PricingPlan := PricingPlan.record.codec

structure TestimonialItem where
  id : String := ""
  name : String := ""
  role : String := ""
  /-- The address of an image; an empty one gives a symbol instead. -/
  avatar : String := ""
  quote : String := ""
  rating : UInt8 := 0
deriving DecidableEq

def TestimonialItem.record : Json.Record TestimonialItem where
  name := "TestimonialItem"
  blank := {}
  fields := [
    .of "id" (·.id) fun v x => { x with id := v },
    .of "name" (·.name) fun v x => { x with name := v },
    .of "role" (·.role) fun v x => { x with role := v },
    .of "avatar" (·.avatar) fun v x => { x with avatar := v },
    .of "quote" (·.quote) fun v x => { x with quote := v },
    .of "rating" (·.rating) fun v x => { x with rating := v }]

instance : Codec TestimonialItem := TestimonialItem.record.codec

structure TeamMember where
  id : String := ""
  name : String := ""
  role : String := ""
  image : String := ""
  bio : String := ""
deriving DecidableEq

def TeamMember.record : Json.Record TeamMember where
  name := "TeamMember"
  blank := {}
  fields := [
    .of "id" (·.id) fun v x => { x with id := v },
    .of "name" (·.name) fun v x => { x with name := v },
    .of "role" (·.role) fun v x => { x with role := v },
    .of "image" (·.image) fun v x => { x with image := v },
    .of "bio" (·.bio) fun v x => { x with bio := v }]

instance : Codec TeamMember := TeamMember.record.codec

structure FaqItem where
  id : String := ""
  question : String := ""
  answer : String := ""
deriving DecidableEq

def FaqItem.record : Json.Record FaqItem where
  name := "FaqItem"
  blank := {}
  fields := [
    .of "id" (·.id) fun v x => { x with id := v },
    .of "question" (·.question) fun v x => { x with question := v },
    .of "answer" (·.answer) fun v x => { x with answer := v }]

instance : Codec FaqItem := FaqItem.record.codec

end PageBuilder
