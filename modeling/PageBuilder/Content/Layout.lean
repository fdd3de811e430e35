import PageBuilder.Content.Items

set_option autoImplicit false

namespace PageBuilder

open Json (Codec)

def paletteText : String := "var(--color-text)"

def palettePrimary : String := "var(--color-primary)"

def white : String := "#FFFFFF"

structure Navigation where
  logoType : LogoType := .text
  logoText : String := "Brand"
  logoImage : String := "https://placehold.co/120x40"
  logoWidth : UInt32 := 100
  links : List NavLink :=
    [⟨"n1", "Home", "#"⟩, ⟨"n2", "About", "#about"⟩, ⟨"n3", "Services", "#services"⟩]
  layout : Alignment := .right
  layoutStyle : LayoutStyle := .topbar
  textColor : String := paletteText
  linkColor : String := paletteText
  hoverColor : String := palettePrimary
  menuBgColor : String := white
  showButton : Bool := true
  buttonText : String := "Get Started"
  buttonUrl : String := "#"
  buttonBg : String := palettePrimary
  buttonTextColor : String := white
  buttonRadius : Radius := .md
deriving DecidableEq

def Navigation.record : Json.Record Navigation where
  name := "NavigationContent"
  blank := {}
  fields := [
    .of "logoType" (·.logoType) fun v x => { x with logoType := v },
    .of "logoText" (·.logoText) fun v x => { x with logoText := v },
    .of "logoImage" (·.logoImage) fun v x => { x with logoImage := v },
    .of "logoWidth" (·.logoWidth) fun v x => { x with logoWidth := v },
    .of "links" (·.links) fun v x => { x with links := v },
    .of "layout" (·.layout) fun v x => { x with layout := v },
    .of "layoutStyle" (·.layoutStyle) fun v x => { x with layoutStyle := v },
    .of "textColor" (·.textColor) fun v x => { x with textColor := v },
    .of "linkColor" (·.linkColor) fun v x => { x with linkColor := v },
    .of "hoverColor" (·.hoverColor) fun v x => { x with hoverColor := v },
    .of "menuBgColor" (·.menuBgColor) fun v x => { x with menuBgColor := v },
    .of "showButton" (·.showButton) fun v x => { x with showButton := v },
    .of "buttonText" (·.buttonText) fun v x => { x with buttonText := v },
    .of "buttonUrl" (·.buttonUrl) fun v x => { x with buttonUrl := v },
    .of "buttonBg" (·.buttonBg) fun v x => { x with buttonBg := v },
    .of "buttonTextColor" (·.buttonTextColor) fun v x => { x with buttonTextColor := v },
    .of "buttonRadius" (·.buttonRadius) fun v x => { x with buttonRadius := v }]

instance : Codec Navigation := Navigation.record.codec

structure Hero where
  heading : String := "Build Your Next Idea Faster"
  subheading : String := "The perfect starting point for your next project."
  alignment : Alignment := .center
  headingColor : String := paletteText
  subheadingColor : String := paletteText
  showButton1 : Bool := true
  button1Text : String := "Get Started"
  button1Url : String := "#"
  button1Bg : String := palettePrimary
  button1Color : String := white
  showButton2 : Bool := true
  button2Text : String := "Learn More"
  button2Url : String := "#"
  button2Bg : String := "transparent"
  button2Color : String := paletteText
  buttonRadius : Radius := .md
deriving DecidableEq

def Hero.record : Json.Record Hero where
  name := "HeroContent"
  blank := {}
  fields := [
    .of "heading" (·.heading) fun v x => { x with heading := v },
    .of "subheading" (·.subheading) fun v x => { x with subheading := v },
    .of "alignment" (·.alignment) fun v x => { x with alignment := v },
    .of "headingColor" (·.headingColor) fun v x => { x with headingColor := v },
    .of "subheadingColor" (·.subheadingColor) fun v x => { x with subheadingColor := v },
    .of "showButton1" (·.showButton1) fun v x => { x with showButton1 := v },
    .of "button1Text" (·.button1Text) fun v x => { x with button1Text := v },
    .of "button1Url" (·.button1Url) fun v x => { x with button1Url := v },
    .of "button1Bg" (·.button1Bg) fun v x => { x with button1Bg := v },
    .of "button1Color" (·.button1Color) fun v x => { x with button1Color := v },
    .of "showButton2" (·.showButton2) fun v x => { x with showButton2 := v },
    .of "button2Text" (·.button2Text) fun v x => { x with button2Text := v },
    .of "button2Url" (·.button2Url) fun v x => { x with button2Url := v },
    .of "button2Bg" (·.button2Bg) fun v x => { x with button2Bg := v },
    .of "button2Color" (·.button2Color) fun v x => { x with button2Color := v },
    .of "buttonRadius" (·.buttonRadius) fun v x => { x with buttonRadius := v }]

instance : Codec Hero := Hero.record.codec

structure Features where
  title : String := "Everything you need"
  description : String := "Possimus magnam voluptatum cupiditate veritatis in."
  features : List FeatureItem := [
    ⟨"f1", "Push to deploy", "Maiores impedit perferendis suscipit eaque.", "cloud_upload"⟩,
    ⟨"f2", "SSL certificates", "Anim aute id magna aliqua ad ad non deserunt sunt.", "lock"⟩]
  /-- The number of columns; any but two and four gives three. -/
  gridCols : UInt8 := 3
  gap : Spacing := .lg
  titleColor : String := paletteText
  descriptionColor : String := paletteText
  featureTitleColor : String := paletteText
  featureDescColor : String := paletteText
  iconBgColor : String := palettePrimary
  iconColor : String := white
  cardBgColor : String := white
  cardRadius : Radius := .lg
  shadow : Bool := true
deriving DecidableEq

def Features.record : Json.Record Features where
  name := "FeatureContent"
  blank := {}
  fields := [
    .of "title" (·.title) fun v x => { x with title := v },
    .of "description" (·.description) fun v x => { x with description := v },
    .of "features" (·.features) fun v x => { x with features := v },
    .of "gridCols" (·.gridCols) fun v x => { x with gridCols := v },
    .of "gap" (·.gap) fun v x => { x with gap := v },
    .of "titleColor" (·.titleColor) fun v x => { x with titleColor := v },
    .of "descriptionColor" (·.descriptionColor) fun v x => { x with descriptionColor := v },
    .of "featureTitleColor" (·.featureTitleColor) fun v x => { x with featureTitleColor := v },
    .of "featureDescColor" (·.featureDescColor) fun v x => { x with featureDescColor := v },
    .of "iconBgColor" (·.iconBgColor) fun v x => { x with iconBgColor := v },
    .of "iconColor" (·.iconColor) fun v x => { x with iconColor := v },
    .of "cardBgColor" (·.cardBgColor) fun v x => { x with cardBgColor := v },
    .of "cardRadius" (·.cardRadius) fun v x => { x with cardRadius := v },
    .of "shadow" (·.shadow) fun v x => { x with shadow := v }]

instance : Codec Features := Features.record.codec

structure CallToAction where
  heading : String := "Ready to dive in?"
  subtext : String := "Start your free trial today."
  showButton : Bool := true
  buttonText : String := "Get Started Now"
  destinationUrl : String := "#"
  headingColor : String := white
  subtextColor : String := "#E5E7EB"
  buttonBg : String := white
  buttonTextColor : String := palettePrimary
  buttonRadius : Radius := .md
  overlayOpacity : UInt8 := 20
deriving DecidableEq

def CallToAction.record : Json.Record CallToAction where
  name := "CtaContent"
  blank := {}
  fields := [
    .of "heading" (·.heading) fun v x => { x with heading := v },
    .of "subtext" (·.subtext) fun v x => { x with subtext := v },
    .of "showButton" (·.showButton) fun v x => { x with showButton := v },
    .of "buttonText" (·.buttonText) fun v x => { x with buttonText := v },
    .of "destinationUrl" (·.destinationUrl) fun v x => { x with destinationUrl := v },
    .of "headingColor" (·.headingColor) fun v x => { x with headingColor := v },
    .of "subtextColor" (·.subtextColor) fun v x => { x with subtextColor := v },
    .of "buttonBg" (·.buttonBg) fun v x => { x with buttonBg := v },
    .of "buttonTextColor" (·.buttonTextColor) fun v x => { x with buttonTextColor := v },
    .of "buttonRadius" (·.buttonRadius) fun v x => { x with buttonRadius := v },
    .of "overlayOpacity" (·.overlayOpacity) fun v x => { x with overlayOpacity := v }]

instance : Codec CallToAction := CallToAction.record.codec

structure Footer where
  copyrightText : String := "© 2024 Company. All rights reserved."
  socialLinks : List SocialLink := [⟨"s1", .twitter, "#"⟩, ⟨"s2", .instagram, "#"⟩]
  textColor : String := "#D1D5DB"
  iconColor : String := "#9CA3AF"
deriving DecidableEq

def Footer.record : Json.Record Footer where
  name := "FooterContent"
  blank := {}
  fields := [
    .of "copyrightText" (·.copyrightText) fun v x => { x with copyrightText := v },
    .of "socialLinks" (·.socialLinks) fun v x => { x with socialLinks := v },
    .of "textColor" (·.textColor) fun v x => { x with textColor := v },
    .of "iconColor" (·.iconColor) fun v x => { x with iconColor := v }]

instance : Codec Footer := Footer.record.codec

structure Split where
  imageSide : ImageSide := .right
  title : String := "Share your story"
  /-- Trusted markup. -/
  content : String := "Lorem ipsum dolor sit amet, consectetur adipiscing elit."
  imageUrl : String :=
    "https://images.unsplash.com/photo-1522202176988-66273c2fd55f?auto=format&fit=crop&w=800&q=80"
  textColor : String := paletteText
  splitRatio : SplitRatio := .even
deriving DecidableEq

def Split.record : Json.Record Split where
  name := "SplitContent"
  blank := {}
  fields := [
    .of "imageSide" (·.imageSide) fun v x => { x with imageSide := v },
    .of "title" (·.title) fun v x => { x with title := v },
    .of "content" (·.content) fun v x => { x with content := v },
    .of "imageUrl" (·.imageUrl) fun v x => { x with imageUrl := v },
    .of "textColor" (·.textColor) fun v x => { x with textColor := v },
    .of "splitRatio" (·.splitRatio) fun v x => { x with splitRatio := v }]

instance : Codec Split := Split.record.codec

structure MapEmbed where
  address : String := "New York, NY"
  height : UInt32 := 400
  zoom : UInt8 := 12
deriving DecidableEq

def MapEmbed.record : Json.Record MapEmbed where
  name := "MapContent"
  blank := {}
  fields := [
    .of "address" (·.address) fun v x => { x with address := v },
    .of "height" (·.height) fun v x => { x with height := v },
    .of "zoom" (·.zoom) fun v x => { x with zoom := v }]

instance : Codec MapEmbed := MapEmbed.record.codec

structure ContactForm where
  title : String := "Contact Us"
  subtitle : String := "We would love to hear from you."
  fields : List FormField := [
    ⟨"f1", .text, "Name", "Your Name", true⟩, ⟨"f2", .email, "Email", "your@email.com", true⟩,
    ⟨"f3", .textarea, "Message", "How can we help?", true⟩]
  submitText : String := "Send Message"
  textColor : String := paletteText
  inputBg : String := white
  inputBorderColor : String := "#E5E7EB"
  buttonBg : String := palettePrimary
  buttonTextColor : String := white
  buttonRadius : Radius := .md
  boxShadow : Bool := true
deriving DecidableEq

def ContactForm.record : Json.Record ContactForm where
  name := "FormContent"
  blank := {}
  fields := [
    .of "title" (·.title) fun v x => { x with title := v },
    .of "subtitle" (·.subtitle) fun v x => { x with subtitle := v },
    .of "fields" (·.fields) fun v x => { x with fields := v },
    .of "submitText" (·.submitText) fun v x => { x with submitText := v },
    .of "textColor" (·.textColor) fun v x => { x with textColor := v },
    .of "inputBg" (·.inputBg) fun v x => { x with inputBg := v },
    .of "inputBorderColor" (·.inputBorderColor) fun v x => { x with inputBorderColor := v },
    .of "buttonBg" (·.buttonBg) fun v x => { x with buttonBg := v },
    .of "buttonTextColor" (·.buttonTextColor) fun v x => { x with buttonTextColor := v },
    .of "buttonRadius" (·.buttonRadius) fun v x => { x with buttonRadius := v },
    .of "boxShadow" (·.boxShadow) fun v x => { x with boxShadow := v }]

instance : Codec ContactForm := ContactForm.record.codec

end PageBuilder
