import PageBuilder.Json.Source

set_option autoImplicit false

/-!
# Codecs

How a type is written as JSON and decoded from a source. A record type is described once by its
fields; the description gives its JSON object and both ways of decoding it, by key and by position.
-/

namespace PageBuilder.Json

class Codec (α : Type) where
  encode : α → Json
  decode : Source → Decoded α

instance : Codec String := ⟨.string, fun source => source.string "a string"⟩

instance : Codec Bool := ⟨.bool, Source.bool⟩

instance : Codec UInt8 :=
  ⟨fun n => .whole n.toNat, fun source => return UInt8.ofNat (← source.natural 255 "u8")⟩

instance : Codec UInt32 :=
  ⟨fun n => .whole n.toNat, fun source => return UInt32.ofNat (← source.natural 4294967295 "u32")⟩

instance {α : Type} [Codec α] : Codec (List α) :=
  ⟨fun items => .array (items.map Codec.encode), Source.list Codec.decode⟩

/-- A field of a record: how it is written, if at all, and how it is read into the record. -/
structure Field (α : Type) where
  key : String
  write : α → Option Json
  read : Source → Decoded (α → α)

namespace Field

def of {α β : Type} [Codec β] (key : String) (get : α → β) (set : β → α → α) : Field α :=
  ⟨key, fun x => some (Codec.encode (get x)), fun source => return set (← Codec.decode source)⟩

/-- A field that is left out when absent, and absent when null. -/
def optional {α β : Type} [Codec β] (key : String) (get : α → Option β) (set : Option β → α → α) :
    Field α :=
  ⟨key, fun x => (get x).map Codec.encode,
    fun source => do
      if source.isNull then return set none
      return set (some (← Codec.decode source))⟩

end Field

/-- A record type by its name in messages, its value when nothing is given, and its fields. -/
structure Record (α : Type) where
  name : String
  blank : α
  fields : List (Field α)

namespace Record

variable {α : Type}

def field? (r : Record α) (key : String) : Option (Field α) := r.fields.find? (·.key = key)

def encode (r : Record α) (x : α) : Json :=
  .object (r.fields.filterMap fun f => (f.write x).map (f.key, ·))

def readMember (r : Record α) (x : α) (member : String × Json) : Decoded α :=
  match r.field? member.1 with
  | none => .ok x
  | some f => return (← f.read (.value member.2)) x

/-- The members of a text in text order; a known key may stand there once. -/
def readMembers (r : Record α) (depth : Nat) :
    List String → α → List (List Letter × Tree) → Decoded α
  | _, x, [] => .ok x
  | seen, x, (letters, tree) :: rest => do
    let key ← .ofSyntax (stringOf letters)
    match r.field? key with
    | none =>
      Decoded.ofSyntax tree.check
      r.readMembers depth seen x rest
    | some f =>
      if seen.contains key then throw (.duplicateField key)
      let set ← f.read (.text tree depth)
      r.readMembers depth (key :: seen) (set x) rest

def readItems : List (Field α) → α → List Source → Decoded α
  | f :: fields, x, source :: rest => do
    let set ← f.read source
    readItems fields (set x) rest
  | _, x, _ => .ok x

def endOfItems (surplus : List Tree) (ending : Option Breach) : Decoded Unit :=
  match surplus, ending with
  | .broken breach :: _, _ | [], some breach => .error (.malformed breach.surplusError)
  | _ :: _, _ => .error (.malformed .trailingCharacters)
  | [], none => .ok ()

def decode (r : Record α) : Source → Decoded α
  | .value (.object members) => members.foldlM r.readMember r.blank
  | .value (.array items) => do
    let x ← readItems r.fields r.blank (items.map .value)
    if r.fields.length < items.length then
      throw (.wrongLength items.length "fewer elements in array")
    return x
  | .text (.object members ending) depth => do
    let depth ← .ofSyntax (enter depth)
    let x ← r.readMembers depth [] r.blank members
    Decoded.ofSyntax (endingOf ending)
    return x
  | .text (.list items ending) depth => do
    let depth ← .ofSyntax (enter depth)
    let x ← readItems r.fields r.blank (items.map (.text · depth))
    if items.length < r.fields.length then Decoded.ofSyntax (endingOf ending)
    else endOfItems (items.drop r.fields.length) ending
    return x
  | source => source.mismatch ("struct " ++ r.name)

@[reducible] def codec (r : Record α) : Codec α := ⟨r.encode, r.decode⟩

end Record

def decodeText {α : Type} [Codec α] (text : String) : Decoded α := do
  let read := Text.read text.toList
  let x ← Codec.decode (.text read.tree 0)
  if read.trailing then throw (.malformed .trailingCharacters)
  return x

def decodeValue {α : Type} [Codec α] (v : Json) : Decoded α := Codec.decode (.value v)

end PageBuilder.Json
