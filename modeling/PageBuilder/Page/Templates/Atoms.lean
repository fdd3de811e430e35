import PageBuilder.Content.Atoms
import PageBuilder.Page.Templates.Parts

set_option autoImplicit false

namespace PageBuilder

def ImageWidth.widthClass : ImageWidth → String
  | .full => "w-full"
  | .auto => "max-w-5xl"
  | .half => "w-1/2"
  | .threeQuarters => "w-3/4"

namespace Picture

def hasFixedRatio (c : Picture) : Bool := c.aspectRatio != .auto

def image (c : Picture) : Element :=
  let image := Element.picture
    ("w-full h-auto " ++ c.borderRadius.cornerClass ++ " " ++ classesIf c.shadow "shadow-lg" ++
      " " ++ classesIf c.hasFixedRatio "object-cover")
    c.url c.alt
  if c.hasFixedRatio then image.style "aspect-ratio" (Token.text c.aspectRatio) else image

def captionLine (c : Picture) : List Node :=
  if c.caption.isEmpty then []
  else
    [Element.classed "figcaption" "mt-2 text-center text-sm text-gray-500" |>.text c.caption]

def root (c : Picture) : Element :=
  Element.container ("text-" ++ Token.text c.align)
    |>.child (Element.classed "figure" ("inline-block " ++ c.width.widthClass)
      |>.child c.image |>.append c.captionLine)

end Picture

def FontWeight.weight : FontWeight → String
  | .normal => "400"
  | .medium => "500"
  | .bold => "700"
  | .black => "900"

def Prose.root (c : Prose) : Element :=
  Element.container ""
    |>.child (Element.classed (Token.text c.tag) ("text-" ++ Token.text c.fontSize)
      |>.style "text-align" (Token.text c.align) |>.style "font-weight" c.fontWeight.weight
      |>.style "color" c.color |>.html c.content)

namespace ButtonLink

def background (c : ButtonLink) : String :=
  match c.variant with
  | .solid => c.buttonBg
  | .outline | .ghost => "transparent"

/-- A button without a filling shows its text in the color of the filling. -/
def color (c : ButtonLink) : String :=
  match c.variant with
  | .solid => c.buttonColor
  | .outline | .ghost => c.buttonBg

def border (c : ButtonLink) : String :=
  match c.variant with
  | .outline => "2px solid " ++ c.buttonBg
  | .solid | .ghost => "none"

def root (c : ButtonLink) : Element :=
  Element.container ("flex " ++ c.align.justifyClass)
    |>.child (Element.filledLink
        ("inline-block px-6 py-3 font-bold transition-opacity hover:opacity-80 " ++
          c.radius.cornerClass ++ " " ++ classesIf (c.width = .full) "w-full text-center")
        c.url c.background c.color c.text
      |>.style "border" c.border)

end ButtonLink

def LineWidth.share : LineWidth → String
  | .full => "100%"
  | .short => "20%"
  | .middle => "50%"

namespace Divider

def line (c : Divider) : List Node :=
  if c.showLine then
    [Element.new "div" |>.style "height" "1px" |>.style "background-color" c.lineColor
      |>.style "width" c.lineWidth.share |>.style "margin" "0 auto"]
  else []

def root (c : Divider) : Element :=
  Element.container ("py-" ++ natText c.height.units) |>.append c.line

end Divider
end PageBuilder
