import PageBuilder.InstanceId
import PageBuilder.Options

set_option autoImplicit false

namespace PageBuilder

open Json (Decoded Source Codec DecodeError)

/-- Exactly one kind of background is active. -/
inductive Background where
  | solid (color : String)
  | gradient (css : String)
  | image (url : String)
deriving DecidableEq

namespace Background

inductive Mode where
  | solid
  | gradient
  | image
deriving DecidableEq

namespace Mode

def all : List Mode := [.solid, .gradient, .image]

def name : Mode → String
  | .solid => "solid"
  | .gradient => "gradient"
  | .image => "image"

def key : Mode → String
  | .solid => "color"
  | .gradient => "css"
  | .image => "url"

def variantName : Mode → String
  | .solid => "Background::Solid"
  | .gradient => "Background::Gradient"
  | .image => "Background::Image"

def background : Mode → String → Background
  | .solid => .solid
  | .gradient => .gradient
  | .image => .image

def decode (source : Source) : Decoded Mode := do
  let name ← source.string "variant identifier"
  match all.find? (·.name = name) with
  | some mode => return mode
  | none => throw (.unknownVariant name (all.map Mode.name))

end Mode

def mode : Background → Mode
  | .solid _ => .solid
  | .gradient _ => .gradient
  | .image _ => .image

def content : Background → String
  | .solid s | .gradient s | .image s => s

def encode (b : Background) : Json :=
  .ofMembers [("type", .string b.mode.name), (b.mode.key, .string b.content)]

/-- The background of a mode from members that stand beside the mode's name. -/
def ofMembers (mode : Mode) (members : List (String × Json)) : Decoded Background :=
  match members.filter (·.1 = mode.key) with
  | [] => .error (.missingField mode.key)
  | (_, v) :: more => do
    let s ← (Source.value v).string "a string"
    if more.isEmpty then return mode.background s else throw (.duplicateField mode.key)

def ofItems (mode : Mode) : List Json → Decoded Background
  | [] => .error (.wrongLength 0 ("struct variant " ++ mode.variantName ++ " with 1 element"))
  | v :: more => do
    let s ← (Source.value v).string "a string"
    if more.isEmpty then return mode.background s
    else throw (.wrongLength (more.length + 1) "1 element in sequence")

/-- The mode and the other members of a text, in text order. -/
def splitMembers (depth : Nat) :
    Option Mode → List (String × Json) → List (List Json.Letter × Json.Tree) →
      Decoded (Option Mode × List (String × Json))
  | mode, members, [] => .ok (mode, members.reverse)
  | mode, members, (letters, tree) :: rest => do
    let key ← .ofSyntax (Json.stringOf letters)
    if key = "type" then
      if mode.isSome then throw (.duplicateField "type")
      let mode ← Mode.decode (.text tree depth)
      splitMembers depth (some mode) members rest
    else
      let v ← .ofSyntax (tree.toJson depth)
      splitMembers depth mode ((key, v) :: members) rest

def decode : Source → Decoded Background
  | .value (.object members) =>
    match Json.member? "type" members with
    | none => .error (.missingField "type")
    | some tag => do ofMembers (← Mode.decode (.value tag)) members
  | .value (.array []) => .error (.missingField "type")
  | .value (.array (tag :: rest)) => do ofItems (← Mode.decode (.value tag)) rest
  | .text (.object members ending) depth => do
    let depth ← .ofSyntax (Json.enter depth)
    let (mode, members) ← splitMembers depth none [] members
    Decoded.ofSyntax (Json.endingOf ending)
    match mode with
    | none => throw (.missingField "type")
    | some mode => ofMembers mode members
  | .text (.list items ending) depth => do
    let depth ← .ofSyntax (Json.enter depth)
    match items with
    | [] =>
      Decoded.ofSyntax (Json.endingOf ending)
      throw (.missingField "type")
    | tag :: rest =>
      let mode ← Mode.decode (.text tag depth)
      let rest ← Decoded.ofSyntax (Json.Tree.itemsToJson depth rest)
      Decoded.ofSyntax (Json.endingOf ending)
      ofItems mode rest
  | source => source.mismatch "internally tagged enum Background"

instance : Codec Background := ⟨encode, decode⟩

def catalogGradient : Background := .gradient "linear-gradient(135deg, #667eea 0%, #764ba2 100%)"

end Background

structure Base where
  id : String := ""
  instanceId : InstanceId := .unassigned
  anchorId : Option String := none
  background : Background := .solid "transparent"
  paddingTop : Spacing := .md
  paddingBottom : Spacing := .md
  animation : Animation := .none
deriving DecidableEq

namespace Base

def record : Json.Record Base where
  name := "BaseFields"
  blank := {}
  fields := [
    .of "id" Base.id fun v x => { x with id := v },
    .of "instanceId" Base.instanceId fun v x => { x with instanceId := v },
    .optional "anchorId" Base.anchorId fun v x => { x with anchorId := v },
    .of "background" Base.background fun v x => { x with background := v },
    .of "paddingTop" Base.paddingTop fun v x => { x with paddingTop := v },
    .of "paddingBottom" Base.paddingBottom fun v x => { x with paddingBottom := v },
    .of "animation" Base.animation fun v x => { x with animation := v }]

instance : Codec Base := record.codec

/-- The anchor, if it is set and not empty. -/
def anchor (b : Base) : Option String := b.anchorId.filter fun a => !a.isEmpty

end Base
end PageBuilder
