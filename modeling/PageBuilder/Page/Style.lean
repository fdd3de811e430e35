import PageBuilder.Base

set_option autoImplicit false

namespace PageBuilder

abbrev Declaration := String × String

def Spacing.units : Spacing → Nat
  | .none => 0
  | .xs => 8
  | .sm => 12
  | .md => 20
  | .lg => 32
  | .xl => 48
  | .xxl => 64

def Spacing.topPadding (s : Spacing) : String := "pt-" ++ natText s.units

def Spacing.bottomPadding (s : Spacing) : String := "pb-" ++ natText s.units

def Spacing.gapClass : Spacing → String
  | .none => "gap-0"
  | .xs => "gap-2"
  | .sm => "gap-4"
  | .md => "gap-6"
  | .lg => "gap-8"
  | .xl => "gap-12"
  | .xxl => "gap-16"

def Radius.cornerClass : Radius → String
  | .none => "rounded-none"
  | .sm => "rounded"
  | .md => "rounded-lg"
  | .lg => "rounded-xl"
  | .xl => "rounded-2xl"
  | .full => "rounded-full"

def Animation.effect : Animation → Option String
  | .none => .none
  | .fadeIn => .some "fadeIn"
  | .slideUp => .some "fadeInUp"
  | .slideDown => .some "fadeInDown"
  | .slideLeft => .some "fadeInLeft"
  | .slideRight => .some "fadeInRight"
  | .zoomIn => .some "zoomIn"
  | .bounce => .some "bounceIn"

def gridColumnsClass (columns : UInt8) : String :=
  if columns = 2 then "md:grid-cols-2"
  else if columns = 4 then "md:grid-cols-2 lg:grid-cols-4"
  else "md:grid-cols-3"

def Background.declarations : Background → List Declaration
  | .solid color => [("background-color", color)]
  | .gradient css => [("background-image", css)]
  | .image url =>
    [("background-image", "url(" ++ url ++ ")"), ("background-size", "cover"),
      ("background-position", "center")]

structure ResolvedStyle where
  paddingTop : String
  paddingBottom : String
  animation : Option String
  background : List Declaration
  radius : Option String
deriving DecidableEq

namespace ResolvedStyle

def ofBase (base : Base) (radius : Option Radius) : ResolvedStyle where
  paddingTop := base.paddingTop.topPadding
  paddingBottom := base.paddingBottom.bottomPadding
  animation := base.animation.effect
  background := base.background.declarations
  radius := radius.map Radius.cornerClass

def className (style : ResolvedStyle) : String :=
  style.paddingTop ++ " " ++ style.paddingBottom ++
    match style.animation with
    | none => ""
    | some effect => " animate__animated animate__" ++ effect

end ResolvedStyle
end PageBuilder
