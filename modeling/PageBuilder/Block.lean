import PageBuilder.Content.Atoms
import PageBuilder.Content.Marketing

set_option autoImplicit false

/-!
# Blocks

A block has base fields and a content of one kind. Its JSON is one flat object of the base fields,
the tag of the kind under `type`, and the content's fields. A tag outside the known kinds gives an
unsupported block, which keeps the tag and the base fields.
-/

namespace PageBuilder

open Json (Decoded Source Codec)

inductive BlockKind where
  | navigation
  | hero
  | feature
  | cta
  | footer
  | split
  | map
  | form
  | image
  | text
  | button
  | divider
  | pricing
  | testimonial
  | team
  | faq
deriving DecidableEq

namespace BlockKind

def all : List BlockKind :=
  [.navigation, .hero, .feature, .cta, .footer, .split, .map, .form, .image, .text, .button,
    .divider, .pricing, .testimonial, .team, .faq]

def tag : BlockKind → String
  | .navigation => "navigation"
  | .hero => "hero"
  | .feature => "feature"
  | .cta => "cta"
  | .footer => "footer"
  | .split => "split"
  | .map => "map"
  | .form => "form"
  | .image => "image"
  | .text => "text"
  | .button => "button"
  | .divider => "divider"
  | .pricing => "pricing"
  | .testimonial => "testimonial"
  | .team => "team"
  | .faq => "faq"

def ofTag? (tag : String) : Option BlockKind := all.find? (·.tag = tag)

instance : Codec BlockKind where
  encode kind := .string kind.tag
  decode source := do
    let tag ← source.string "a string"
    match ofTag? tag with
    | some kind => return kind
    | none => throw (.unknownKind tag)

end BlockKind

inductive Content where
  | navigation (content : Navigation)
  | hero (content : Hero)
  | feature (content : Features)
  | cta (content : CallToAction)
  | footer (content : Footer)
  | split (content : Split)
  | map (content : MapEmbed)
  | form (content : ContactForm)
  | image (content : Picture)
  | text (content : Prose)
  | button (content : ButtonLink)
  | divider (content : Divider)
  | pricing (content : Pricing)
  | testimonial (content : Testimonials)
  | team (content : Team)
  | faq (content : Faq)
  | unsupported (tag : String)
deriving DecidableEq

namespace Content

def ofKind : BlockKind → Content
  | .navigation => .navigation {}
  | .hero => .hero {}
  | .feature => .feature {}
  | .cta => .cta {}
  | .footer => .footer {}
  | .split => .split {}
  | .map => .map {}
  | .form => .form {}
  | .image => .image {}
  | .text => .text {}
  | .button => .button {}
  | .divider => .divider {}
  | .pricing => .pricing {}
  | .testimonial => .testimonial {}
  | .team => .team {}
  | .faq => .faq {}

def kind? : Content → Option BlockKind
  | .navigation _ => some .navigation
  | .hero _ => some .hero
  | .feature _ => some .feature
  | .cta _ => some .cta
  | .footer _ => some .footer
  | .split _ => some .split
  | .map _ => some .map
  | .form _ => some .form
  | .image _ => some .image
  | .text _ => some .text
  | .button _ => some .button
  | .divider _ => some .divider
  | .pricing _ => some .pricing
  | .testimonial _ => some .testimonial
  | .team _ => some .team
  | .faq _ => some .faq
  | .unsupported _ => none

def tag : Content → String
  | .unsupported tag => tag
  | content => (content.kind?.map BlockKind.tag).getD ""

def encode : Content → Json
  | .navigation c => Codec.encode c
  | .hero c => Codec.encode c
  | .feature c => Codec.encode c
  | .cta c => Codec.encode c
  | .footer c => Codec.encode c
  | .split c => Codec.encode c
  | .map c => Codec.encode c
  | .form c => Codec.encode c
  | .image c => Codec.encode c
  | .text c => Codec.encode c
  | .button c => Codec.encode c
  | .divider c => Codec.encode c
  | .pricing c => Codec.encode c
  | .testimonial c => Codec.encode c
  | .team c => Codec.encode c
  | .faq c => Codec.encode c
  | .unsupported _ => .object []

def decode (kind : BlockKind) (source : Source) : Decoded Content :=
  match kind with
  | .navigation => return .navigation (← Codec.decode source)
  | .hero => return .hero (← Codec.decode source)
  | .feature => return .feature (← Codec.decode source)
  | .cta => return .cta (← Codec.decode source)
  | .footer => return .footer (← Codec.decode source)
  | .split => return .split (← Codec.decode source)
  | .map => return .map (← Codec.decode source)
  | .form => return .form (← Codec.decode source)
  | .image => return .image (← Codec.decode source)
  | .text => return .text (← Codec.decode source)
  | .button => return .button (← Codec.decode source)
  | .divider => return .divider (← Codec.decode source)
  | .pricing => return .pricing (← Codec.decode source)
  | .testimonial => return .testimonial (← Codec.decode source)
  | .team => return .team (← Codec.decode source)
  | .faq => return .faq (← Codec.decode source)

end Content

structure Block where
  base : Base
  content : Content
deriving DecidableEq

namespace Block

def instanceId (b : Block) : InstanceId := b.base.instanceId

def kind? (b : Block) : Option BlockKind := b.content.kind?

def withInstanceId (b : Block) (id : InstanceId) : Block :=
  { b with base := { b.base with instanceId := id } }

def membersOf : Json → List (String × Json)
  | .object members => members
  | _ => []

def encode (b : Block) : Json :=
  (Json.object (membersOf (Codec.encode b.base) ++ ("type", .string b.content.tag) ::
    membersOf b.content.encode)).sorted

/-- Decodes the base fields first, then the content of the kind that the tag names. -/
def ofJson (v : Json) : Decoded Block := do
  let base : Base ← Codec.decode (.value v)
  let tag := ((v.get? "type").bind Json.string?).getD ""
  match BlockKind.ofTag? tag with
  | some kind => return ⟨base, ← Content.decode kind (.value v)⟩
  | none => return ⟨base, .unsupported tag⟩

instance : Codec Block := ⟨encode, fun source => do ofJson (← source.toJson)⟩

end Block
end PageBuilder
