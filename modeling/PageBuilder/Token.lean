import PageBuilder.Json.Codec

set_option autoImplicit false

namespace PageBuilder

open Json (Codec Source)

class Token (α : Type) where
  all : List α
  text : α → String
  fallback : α

namespace Token

variable {α : Type} [Token α]

def parse (token : String) : α := (all.find? fun option : α => text option = token).getD fallback

instance : Codec α :=
  ⟨fun option => .string (text option),
    fun source => if source.isNull then .ok fallback else return parse (← source.string "a string")⟩

end Token
end PageBuilder
