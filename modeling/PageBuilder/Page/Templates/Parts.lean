import PageBuilder.Page.Node
import PageBuilder.Page.Style
import PageBuilder.Json.Codec

set_option autoImplicit false

namespace PageBuilder

open Json (Codec)

def Items.ofList {α : Type} [Codec α] (list : List α) : Items := .inline (Codec.encode list).sorted

def Node.each {α : Type} [Codec α] (binding : String) (list : List α) (body : Element) : Node :=
  .repeat binding (.ofList list) [.element body]

namespace Element

def container (classes : String) : Element := classed "div" ("container mx-auto px-4 " ++ classes)

def colored (tag classes : String) (color value : Expr) : Element :=
  classed tag classes |>.style "color" color |>.text value

def picture (classes : String) (source alt : Expr) : Element :=
  classed "img" classes |>.attr "src" source |>.attr "alt" alt

def symbol (classes : String) (name : Expr) : Element :=
  classed "span" ("material-symbols-outlined " ++ classes) |>.text name

def filledLink (classes : String) (address background color value : Expr) : Element :=
  classed "a" classes |>.attr "href" address |>.style "background-color" background
    |>.style "color" color |>.text value

end Element

def Alignment.justifyClass : Alignment → String
  | .left => "justify-start"
  | .center => "justify-center"
  | .right => "justify-end"

def classesIf (condition : Bool) (classes : String) : String := if condition then classes else ""

end PageBuilder
