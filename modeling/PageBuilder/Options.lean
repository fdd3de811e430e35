import PageBuilder.Token

set_option autoImplicit false

namespace PageBuilder

inductive Spacing where
  | none
  | xs
  | sm
  | md
  | lg
  | xl
  | xxl
deriving DecidableEq

instance : Token Spacing where
  all := [.none, .xs, .sm, .md, .lg, .xl, .xxl]
  text
    | .none => "none"
    | .xs => "xs"
    | .sm => "sm"
    | .md => "md"
    | .lg => "lg"
    | .xl => "xl"
    | .xxl => "2xl"
  fallback := .md

inductive Radius where
  | none
  | sm
  | md
  | lg
  | xl
  | full
deriving DecidableEq

instance : Token Radius where
  all := [.none, .sm, .md, .lg, .xl, .full]
  text
    | .none => "none"
    | .sm => "sm"
    | .md => "md"
    | .lg => "lg"
    | .xl => "xl"
    | .full => "full"
  fallback := .md

inductive Animation where
  | none
  | fadeIn
  | slideUp
  | slideDown
  | slideLeft
  | slideRight
  | zoomIn
  | bounce
deriving DecidableEq

instance : Token Animation where
  all := [.none, .fadeIn, .slideUp, .slideDown, .slideLeft, .slideRight, .zoomIn, .bounce]
  text
    | .none => "none"
    | .fadeIn => "fade-in"
    | .slideUp => "slide-up"
    | .slideDown => "slide-down"
    | .slideLeft => "slide-left"
    | .slideRight => "slide-right"
    | .zoomIn => "zoom-in"
    | .bounce => "bounce"
  fallback := .none

inductive Alignment where
  | left
  | center
  | right
deriving DecidableEq

instance : Token Alignment where
  all := [.left, .center, .right]
  text
    | .left => "left"
    | .center => "center"
    | .right => "right"
  fallback := .center

inductive TextAlign where
  | left
  | center
  | right
  | justify
deriving DecidableEq

instance : Token TextAlign where
  all := [.left, .center, .right, .justify]
  text
    | .left => "left"
    | .center => "center"
    | .right => "right"
    | .justify => "justify"
  fallback := .left

/-- A navigation is a bar at the top or fixed at the left side. -/
inductive LayoutStyle where
  | topbar
  | sidebar
deriving DecidableEq

instance : Token LayoutStyle where
  all := [.topbar, .sidebar]
  text
    | .topbar => "topbar"
    | .sidebar => "sidebar"
  fallback := .topbar

inductive LogoType where
  | text
  | image
deriving DecidableEq

instance : Token LogoType where
  all := [.text, .image]
  text
    | .text => "text"
    | .image => "image"
  fallback := .text

inductive ButtonVariant where
  | solid
  | outline
  | ghost
deriving DecidableEq

instance : Token ButtonVariant where
  all := [.solid, .outline, .ghost]
  text
    | .solid => "solid"
    | .outline => "outline"
    | .ghost => "ghost"
  fallback := .solid

inductive ButtonWidth where
  | auto
  | full
deriving DecidableEq

instance : Token ButtonWidth where
  all := [.auto, .full]
  text
    | .auto => "auto"
    | .full => "full"
  fallback := .auto

inductive ImageSide where
  | left
  | right
deriving DecidableEq

instance : Token ImageSide where
  all := [.left, .right]
  text
    | .left => "left"
    | .right => "right"
  fallback := .right

inductive SplitRatio where
  | even
  | textNarrow
  | textWide
deriving DecidableEq

instance : Token SplitRatio where
  all := [.even, .textNarrow, .textWide]
  text
    | .even => "50-50"
    | .textNarrow => "40-60"
    | .textWide => "60-40"
  fallback := .even

inductive FieldType where
  | text
  | email
  | textarea
  | number
  | select
deriving DecidableEq

instance : Token FieldType where
  all := [.text, .email, .textarea, .number, .select]
  text
    | .text => "text"
    | .email => "email"
    | .textarea => "textarea"
    | .number => "number"
    | .select => "select"
  fallback := .text

inductive SocialPlatform where
  | facebook
  | twitter
  | instagram
  | linkedin
  | github
  | youtube
  | tiktok
  | website
  | email
  | phone
deriving DecidableEq

instance : Token SocialPlatform where
  all := [.facebook, .twitter, .instagram, .linkedin, .github, .youtube, .tiktok, .website, .email,
    .phone]
  text
    | .facebook => "facebook"
    | .twitter => "twitter"
    | .instagram => "instagram"
    | .linkedin => "linkedin"
    | .github => "github"
    | .youtube => "youtube"
    | .tiktok => "tiktok"
    | .website => "website"
    | .email => "email"
    | .phone => "phone"
  fallback := .website

inductive ImageWidth where
  | auto
  | full
  | half
  | threeQuarters
deriving DecidableEq

instance : Token ImageWidth where
  all := [.auto, .full, .half, .threeQuarters]
  text
    | .auto => "auto"
    | .full => "full"
    | .half => "50%"
    | .threeQuarters => "75%"
  fallback := .full

inductive AspectRatio where
  | auto
  | square
  | wide
  | standard
  | portrait
deriving DecidableEq

instance : Token AspectRatio where
  all := [.auto, .square, .wide, .standard, .portrait]
  text
    | .auto => "auto"
    | .square => "1/1"
    | .wide => "16/9"
    | .standard => "4/3"
    | .portrait => "3/4"
  fallback := .auto

inductive TextTag where
  | h1
  | h2
  | h3
  | p
  | div
  | blockquote
deriving DecidableEq

instance : Token TextTag where
  all := [.h1, .h2, .h3, .p, .div, .blockquote]
  text
    | .h1 => "h1"
    | .h2 => "h2"
    | .h3 => "h3"
    | .p => "p"
    | .div => "div"
    | .blockquote => "blockquote"
  fallback := .p

inductive FontSize where
  | xs
  | sm
  | base
  | lg
  | xl
  | xl2
  | xl3
  | xl4
  | xl5
  | xl6
deriving DecidableEq

instance : Token FontSize where
  all := [.xs, .sm, .base, .lg, .xl, .xl2, .xl3, .xl4, .xl5, .xl6]
  text
    | .xs => "xs"
    | .sm => "sm"
    | .base => "base"
    | .lg => "lg"
    | .xl => "xl"
    | .xl2 => "2xl"
    | .xl3 => "3xl"
    | .xl4 => "4xl"
    | .xl5 => "5xl"
    | .xl6 => "6xl"
  fallback := .base

inductive FontWeight where
  | normal
  | medium
  | bold
  | black
deriving DecidableEq

instance : Token FontWeight where
  all := [.normal, .medium, .bold, .black]
  text
    | .normal => "normal"
    | .medium => "medium"
    | .bold => "bold"
    | .black => "black"
  fallback := .normal

inductive LineWidth where
  | full
  | short
  | middle
deriving DecidableEq

instance : Token LineWidth where
  all := [.full, .short, .middle]
  text
    | .full => "full"
    | .short => "short"
    | .middle => "middle"
  fallback := .full

inductive TestimonialLayout where
  | grid
  | slider
deriving DecidableEq

instance : Token TestimonialLayout where
  all := [.grid, .slider]
  text
    | .grid => "grid"
    | .slider => "slider"
  fallback := .grid

end PageBuilder
