import PageBuilder.Content.Marketing
import PageBuilder.Page.Templates.Parts

set_option autoImplicit false

namespace PageBuilder

namespace Pricing

def isPopular : Expr := .member "plan" "isPopular"

/-- A popular plan without a text for its badge has a fixed one. -/
def badge (c : Pricing) : Element :=
  Element.classed "div"
      ("absolute top-0 left-1/2 -translate-x-1/2 -translate-y-1/2 px-3 py-1 text-xs font-bold " ++
        "text-white rounded-full uppercase tracking-wide")
    |>.style "background-color" c.accentColor
    |>.text (.or (.member "plan" "badgeText") "Most Popular")

def feature (c : Pricing) : Element :=
  Element.classed "li" "flex items-center gap-2"
    |>.child (Element.colored "span" "" c.accentColor "✔")
    |>.text " "
    |>.child (Element.colored "span" "" c.textColor (.member "feature" ""))

def link (c : Pricing) : Element :=
  Element.filledLink
    ("block text-center py-3 " ++ c.radius.cornerClass ++
      " font-bold transition-opacity hover:opacity-90")
    "#" (.ternary isPopular c.accentColor "#f3f4f6") (.ternary isPopular "#fff" "#1f2937")
    (.member "plan" "buttonText")

def card (c : Pricing) : Element :=
  Element.classed "div" ("relative p-8 border " ++ c.radius.cornerClass ++ " flex flex-col")
    |>.style "background-color" c.cardBg
    |>.style "border-color" (.ternary isPopular c.accentColor "#e5e7eb")
    |>.child (.choice isPopular [c.badge] [])
    |>.child (Element.colored "h3" "text-xl font-bold mb-4" c.textColor (.member "plan" "name"))
    |>.child (Element.colored "div" "text-4xl font-bold mb-6" c.textColor (.member "plan" "price")
      |>.child (Element.classed "span" "text-lg opacity-70" |>.text (.member "plan" "period")))
    |>.child (Element.classed "ul" "mb-8 space-y-3 flex-1"
      |>.child (.repeat "feature" (.of (.member "plan" "features")) [c.feature]))
    |>.child c.link

def root (c : Pricing) : Element :=
  Element.container "py-12"
    |>.child (Element.classed "div" "grid md:grid-cols-3 gap-8"
      |>.child (.each "plan" c.plans c.card))

end Pricing

namespace Testimonials

def listClass (c : Testimonials) : String :=
  match c.layout with
  | .grid => "grid md:grid-cols-3 gap-8"
  | .slider => "flex gap-8 overflow-x-auto snap-x snap-mandatory pb-4"

def cardClass (c : Testimonials) : String :=
  match c.layout with
  | .grid => ""
  | .slider => "min-w-[300px] snap-center"

/-- A star is filled below the rating; no rating counts as five. -/
def star : Element :=
  .symbol "text-sm"
    (.ternary (.lessThan (.member "star" "") (.or (.member "item" "rating") (.number (.ofNat 5))))
      "star" "star_border")

def avatar : Node :=
  .choice (.member "item" "avatar")
    [Element.picture "w-12 h-12 rounded-full object-cover" (.member "item" "avatar")
      (.member "item" "name")]
    [Element.classed "div" "w-12 h-12 rounded-full bg-gray-200 flex items-center justify-center"
      |>.child (Element.symbol "text-gray-400" "person")]

def card (c : Testimonials) : Element :=
  Element.classed "div"
      ("p-8 " ++ c.radius.cornerClass ++ " shadow-sm border border-gray-100 " ++ c.cardClass)
    |>.style "background-color" c.cardBg
    |>.child (Element.classed "div" "flex gap-1 mb-4" |>.style "color" c.starColor
      |>.child (.repeat "star" (.range 5) [star]))
    |>.child (Element.colored "p" "text-lg italic mb-6 opacity-80" c.textColor
      (.template ["\"", .member "item" "quote", "\""]))
    |>.child (Element.classed "div" "flex items-center gap-4"
      |>.child avatar
      |>.child (Element.new "div"
        |>.child (Element.colored "p" "font-bold" c.textColor (.member "item" "name"))
        |>.child (Element.colored "p" "text-sm opacity-60" c.textColor (.member "item" "role"))))

def root (c : Testimonials) : Element :=
  Element.container ""
    |>.child (Element.classed "div" c.listClass |>.child (.each "item" c.items c.card))

end Testimonials

namespace Team

def card (c : Team) : Element :=
  Element.classed "div" ("text-center p-6 " ++ c.radius.cornerClass)
    |>.style "background-color" c.cardBg
    |>.child (Element.classed "div"
        "w-40 h-40 mx-auto mb-6 overflow-hidden rounded-full bg-gray-200 shadow-md"
      |>.child (Element.picture "w-full h-full object-cover" (.member "member" "image")
        (.member "member" "name")))
    |>.child (Element.colored "h3" "text-xl font-bold mb-1" c.textColor (.member "member" "name"))
    |>.child (Element.colored "p" "text-sm uppercase tracking-wide opacity-70 mb-4" c.textColor
      (.member "member" "role"))
    |>.child (Element.colored "p" "opacity-80 max-w-xs mx-auto" c.textColor
      (.member "member" "bio"))

def root (c : Team) : Element :=
  Element.container ""
    |>.child (Element.colored "h2" "text-4xl font-bold text-center mb-16" c.textColor c.heading)
    |>.child (Element.classed "div" "grid sm:grid-cols-2 lg:grid-cols-3 gap-12"
      |>.child (.each "member" c.members c.card))

end Team

namespace Faq

def entry (c : Faq) : Element :=
  Element.classed "details" "group p-6 rounded-xl cursor-pointer"
    |>.style "background-color" c.cardBg
    |>.child (Element.classed "summary" "flex justify-between items-center font-bold list-none"
      |>.child (Element.colored "span" "" c.questionColor (.member "item" "question"))
      |>.child (Element.symbol "" "expand_more"))
    |>.child (Element.colored "div" "mt-4 opacity-90 leading-relaxed" c.answerColor
      (.member "item" "answer"))

def root (c : Faq) : Element :=
  Element.container "max-w-3xl"
    |>.child (Element.colored "h2" "text-3xl font-bold text-center mb-12" c.questionColor c.heading)
    |>.child (Element.classed "div" "space-y-4" |>.child (.each "item" c.items c.entry))

end Faq
end PageBuilder
