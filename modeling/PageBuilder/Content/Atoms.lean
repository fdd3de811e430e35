import PageBuilder.Content.Layout

set_option autoImplicit false

namespace PageBuilder

open Json (Codec)

structure Picture where
  url : String :=
    "https://images.unsplash.com/photo-1497215728101-856f4ea42174?auto=format&fit=crop&w=1000&q=80"
  alt : String := "Office"
  caption : String := "Our space"
  width : ImageWidth := .full
  align : Alignment := .center
  borderRadius : Radius := .lg
  shadow : Bool := true
  aspectRatio : AspectRatio := .wide
deriving DecidableEq

def Picture.record : Json.Record Picture where
  name := "ImageContent"
  blank := {}
  fields := [
    .of "url" (·.url) fun v x => { x with url := v },
    .of "alt" (·.alt) fun v x => { x with alt := v },
    .of "caption" (·.caption) fun v x => { x with caption := v },
    .of "width" (·.width) fun v x => { x with width := v },
    .of "align" (·.align) fun v x => { x with align := v },
    .of "borderRadius" (·.borderRadius) fun v x => { x with borderRadius := v },
    .of "shadow" (·.shadow) fun v x => { x with shadow := v },
    .of "aspectRatio" (·.aspectRatio) fun v x => { x with aspectRatio := v }]

instance : Codec Picture := Picture.record.codec

structure Prose where
  /-- Trusted markup. -/
  content : String := "Start editing this text"
  tag : TextTag := .p
  align : TextAlign := .left
  fontSize : FontSize := .base
  fontWeight : FontWeight := .normal
  color : String := paletteText
deriving DecidableEq

def Prose.record : Json.Record Prose where
  name := "TextContent"
  blank := {}
  fields := [
    .of "content" (·.content) fun v x => { x with content := v },
    .of "tag" (·.tag) fun v x => { x with tag := v },
    .of "align" (·.align) fun v x => { x with align := v },
    .of "fontSize" (·.fontSize) fun v x => { x with fontSize := v },
    .of "fontWeight" (·.fontWeight) fun v x => { x with fontWeight := v },
    .of "color" (·.color) fun v x => { x with color := v }]

instance : Codec Prose := Prose.record.codec

structure ButtonLink where
  text : String := "Click Me"
  url : String := "#"
  align : Alignment := .center
  variant : ButtonVariant := .solid
  buttonBg : String := palettePrimary
  buttonColor : String := white
  radius : Radius := .md
  width : ButtonWidth := .auto
deriving DecidableEq

def ButtonLink.record : Json.Record ButtonLink where
  name := "ButtonContent"
  blank := {}
  fields := [
    .of "text" (·.text) fun v x => { x with text := v },
    .of "url" (·.url) fun v x => { x with url := v },
    .of "align" (·.align) fun v x => { x with align := v },
    .of "variant" (·.variant) fun v x => { x with variant := v },
    .of "buttonBg" (·.buttonBg) fun v x => { x with buttonBg := v },
    .of "buttonColor" (·.buttonColor) fun v x => { x with buttonColor := v },
    .of "radius" (·.radius) fun v x => { x with radius := v },
    .of "width" (·.width) fun v x => { x with width := v }]

instance : Codec ButtonLink := ButtonLink.record.codec

structure Divider where
  lineColor : String := "#E5E7EB"
  lineWidth : LineWidth := .full
  height : Spacing := .md
  showLine : Bool := true
deriving DecidableEq

def Divider.record : Json.Record Divider where
  name := "DividerContent"
  blank := {}
  fields := [
    .of "lineColor" (·.lineColor) fun v x => { x with lineColor := v },
    .of "lineWidth" (·.lineWidth) fun v x => { x with lineWidth := v },
    .of "height" (·.height) fun v x => { x with height := v },
    .of "showLine" (·.showLine) fun v x => { x with showLine := v }]

instance : Codec Divider := Divider.record.codec

end PageBuilder
