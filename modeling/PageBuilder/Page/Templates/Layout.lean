import PageBuilder.Content.Layout
import PageBuilder.Page.Templates.Parts
import PageBuilder.Text.Utf8

set_option autoImplicit false

namespace PageBuilder

namespace Navigation

def logo (c : Navigation) : Element :=
  match c.logoType with
  | .image =>
    Element.picture "" c.logoImage c.logoText
      |>.style "width" (.literal (natText c.logoWidth.toNat ++ "px"))
  | .text => .colored "div" "text-2xl font-bold" c.textColor c.logoText

def linkList (c : Navigation) (classes : String) : Node :=
  .each "link" c.links
    (Element.colored "a" classes c.linkColor (.member "link" "label")
      |>.attr "href" (.member "link" "href"))

def button (c : Navigation) : List Node :=
  if c.showButton then
    [Element.filledLink ("px-5 py-2 " ++ c.buttonRadius.cornerClass ++ " font-bold text-center")
      c.buttonUrl c.buttonBg c.buttonTextColor c.buttonText]
  else []

def linkMargin (c : Navigation) : String :=
  match c.layout with
  | .left => "mr-auto"
  | .center => "mx-auto"
  | .right => "ml-auto"

def root (c : Navigation) : Element :=
  match c.layoutStyle with
  | .sidebar =>
    Element.classed "div"
        "flex flex-col h-full w-64 p-6 fixed left-0 top-0 bottom-0 shadow-lg z-50"
      |>.style "background-color" c.menuBgColor
      |>.child (Element.classed "div" "mb-10" |>.child c.logo)
      |>.child (Element.classed "div" "flex flex-col gap-4 flex-1"
        |>.child (c.linkList "block py-2 font-medium"))
      |>.append c.button
  | .topbar =>
    Element.container "flex items-center gap-8 h-16"
      |>.child c.logo
      |>.child (Element.classed "div" ("hidden md:flex gap-8 " ++ c.linkMargin)
        |>.child (c.linkList "font-medium"))
      |>.append c.button

end Navigation

namespace Hero

def firstButton (c : Hero) : List Node :=
  if c.showButton1 then
    [Element.filledLink ("px-8 py-3 " ++ c.buttonRadius.cornerClass ++ " font-bold shadow-lg")
      c.button1Url c.button1Bg c.button1Color c.button1Text]
  else []

def secondButton (c : Hero) : List Node :=
  if c.showButton2 then
    [Element.filledLink ("px-8 py-3 " ++ c.buttonRadius.cornerClass ++ " font-bold border")
      c.button2Url c.button2Bg c.button2Color c.button2Text |>.style "border-color" c.button2Color]
  else []

def root (c : Hero) : Element :=
  Element.container ("text-" ++ Token.text c.alignment ++ " py-20 relative z-10")
    |>.child (Element.colored "h1" "text-4xl md:text-6xl font-bold mb-6" c.headingColor c.heading)
    |>.child (Element.colored "p" "text-xl md:text-2xl mb-8" c.subheadingColor c.subheading)
    |>.child (Element.classed "div" ("flex gap-4 " ++ c.alignment.justifyClass)
      |>.append (c.firstButton ++ c.secondButton))

end Hero

namespace Features

def card (c : Features) : Element :=
  Element.classed "div"
      ("p-6 " ++ c.cardRadius.cornerClass ++ " " ++ classesIf c.shadow "shadow-sm")
    |>.style "background-color" c.cardBgColor
    |>.child (Element.classed "div"
        "w-12 h-12 rounded-lg flex items-center justify-center mb-4"
      |>.style "background-color" c.iconBgColor |>.style "color" c.iconColor
      |>.child (Element.symbol "" (.member "feature" "icon")))
    |>.child (Element.colored "h3" "text-xl font-bold mb-2" c.featureTitleColor
      (.member "feature" "title"))
    |>.child (Element.colored "p" "" c.featureDescColor (.member "feature" "description"))

def root (c : Features) : Element :=
  Element.container ""
    |>.child (Element.classed "div" "text-center mb-16 max-w-4xl mx-auto"
      |>.child (Element.colored "h2" "text-3xl font-bold mb-4" c.titleColor c.title)
      |>.child (Element.colored "p" "text-lg" c.descriptionColor c.description))
    |>.child (Element.classed "div"
        ("grid " ++ c.gap.gapClass ++ " " ++ gridColumnsClass c.gridCols)
      |>.child (.each "feature" c.features c.card))

end Features

namespace CallToAction

def button (c : CallToAction) : List Node :=
  if c.showButton then
    [Element.filledLink
      ("inline-block px-8 py-4 font-bold " ++ c.buttonRadius.cornerClass ++
        " shadow-lg transition-transform hover:-translate-y-1")
      c.destinationUrl c.buttonBg c.buttonTextColor c.buttonText]
  else []

/-- The opacity of the overlay as a fraction; more than a hundred percent counts as a hundred. -/
def opacity (c : CallToAction) : Binary64 :=
  (Binary64.ofNat (min c.overlayOpacity.toNat 100)).div (.ofNat 100)

def overlay (c : CallToAction) : List Node :=
  if 0 < c.overlayOpacity then
    [Element.classed "div" "absolute inset-0 bg-black pointer-events-none"
      |>.style "opacity" (.literal (String.ofList (NumberStyle.plain.write c.opacity)))]
  else []

def root (c : CallToAction) : Element :=
  Element.classed "div" "relative" |>.append c.overlay
    |>.child (Element.container "text-center relative z-10"
      |>.child (Element.colored "h2" "text-4xl font-bold mb-6" c.headingColor c.heading)
      |>.child (Element.colored "p" "text-xl mb-8 max-w-2xl mx-auto" c.subtextColor c.subtext)
      |>.append c.button)

end CallToAction

namespace Footer

def root (c : Footer) : Element :=
  Element.container "py-8 flex flex-col md:flex-row justify-between items-center gap-4"
    |>.child (Element.colored "div" "" c.textColor c.copyrightText)
    |>.child (Element.classed "div" "flex gap-4"
      |>.child (.each "social" c.socialLinks
        (Element.colored "a" "capitalize" c.iconColor (.member "social" "platform")
          |>.attr "href" (.member "social" "url"))))

end Footer

namespace Split

def direction (c : Split) : String :=
  match c.imageSide with
  | .right => "md:flex-row"
  | .left => "md:flex-row-reverse"

def widths (c : Split) : String × String :=
  match c.splitRatio with
  | .even => ("flex-1", "flex-1")
  | .textNarrow => ("w-full md:w-2/5", "w-full md:w-3/5")
  | .textWide => ("w-full md:w-3/5", "w-full md:w-2/5")

def root (c : Split) : Element :=
  Element.container "py-12"
    |>.child (Element.classed "div" ("flex flex-col " ++ c.direction ++ " items-center gap-12")
      |>.child (Element.classed "div" c.widths.1
        |>.child (Element.colored "h2" "text-3xl font-bold mb-4" c.textColor c.title)
        |>.child (Element.new "div" |>.style "color" c.textColor |>.html c.content))
      |>.child (Element.classed "div" c.widths.2
        |>.child (Element.picture "rounded-lg shadow-xl w-full" c.imageUrl c.title)))

end Split

namespace MapEmbed

def source (c : MapEmbed) : String :=
  "https://maps.google.com/maps?q=" ++ Text.percentEncode c.address ++ "&z=" ++
    natText c.zoom.toNat ++ "&output=embed"

def root (c : MapEmbed) : Element :=
  Element.container ""
    |>.child (Element.classed "div" "w-full rounded-xl overflow-hidden shadow-md"
      |>.style "height" (.literal (natText c.height.toNat ++ "px"))
      |>.child (Element.new "iframe" |>.attr "width" "100%" |>.attr "height" "100%"
        |>.attr "frameborder" "0" |>.attr "loading" "lazy" |>.attr "title" "Map"
        |>.attr "src" c.source))

end MapEmbed

namespace ContactForm

/-- The card takes the background of a block that is not see-through. -/
def cardColor : Background → String
  | .solid color => if color = "transparent" then "#ffffff" else color
  | _ => "#ffffff"

def dressed (c : ContactForm) (e : Element) : Element :=
  e.attr "placeholder" (.member "field" "placeholder")
    |>.attr "required" (.member "field" "required")
    |>.style "background" c.inputBg |>.style "border-color" c.inputBorderColor

def area (c : ContactForm) : Element := c.dressed (.classed "textarea" "w-full p-3 rounded border")

def input (c : ContactForm) : Element :=
  c.dressed (Element.classed "input" "w-full p-3 rounded border"
    |>.attr "type" (.member "field" "type"))

def field (c : ContactForm) : Element :=
  Element.classed "div" "flex flex-col gap-1"
    |>.child (Element.colored "label" "font-semibold text-sm" c.textColor (.member "field" "label"))
    |>.child (.choice (.equals (.member "field" "type") "textarea") [c.area] [c.input])

def submit (c : ContactForm) : Element :=
  Element.classed "button"
      ("w-full py-4 font-bold " ++ c.buttonRadius.cornerClass ++ " shadow-lg hover:shadow-xl")
    |>.attr "type" "submit" |>.style "background-color" c.buttonBg
    |>.style "color" c.buttonTextColor |>.text c.submitText

def root (c : ContactForm) (background : Background) : Element :=
  Element.container ""
    |>.child (Element.classed "div"
        ("max-w-2xl mx-auto p-8 rounded-xl " ++ classesIf c.boxShadow "shadow-2xl")
      |>.style "background-color" (cardColor background)
      |>.child (Element.classed "div" "text-center mb-10"
        |>.child (Element.colored "h2" "text-3xl font-bold mb-2" c.textColor c.title)
        |>.child (Element.colored "p" "" c.textColor c.subtitle))
      |>.child (Element.classed "form" "space-y-6"
        |>.child (.each "field" c.fields c.field)
        |>.child c.submit))

end ContactForm
end PageBuilder
