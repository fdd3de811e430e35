import PageBuilder.Document

set_option autoImplicit false

namespace PageBuilder

open Json (Decoded Source Codec)

inductive Mutation where
  | insertBlock (kind : BlockKind)
  | updateBlock (id : InstanceId) (block : Block)
  | moveBlock (id : InstanceId) (direction : Direction)
  | removeBlock (id : InstanceId)
  | duplicateBlock (id : InstanceId)
  | updateSettings (settings : Settings)
deriving DecidableEq

inductive MutationError where
  | blockNotFound (id : InstanceId)
  | atBoundary (id : InstanceId)
deriving DecidableEq

def MutationError.message : MutationError → String
  | .blockNotFound id => "Block not found: " ++ id.text
  | .atBoundary id => "Block " ++ id.text ++ " is already at the boundary"

namespace Mutation

/-- What applying a mutation gives: the document, the id of an inserted block, and the generator. -/
structure Outcome where
  document : Document
  inserted : Option InstanceId
  ids : IdGenerator

def apply (m : Mutation) (d : Document) (g : IdGenerator) : Outcome :=
  match m with
  | .insertBlock kind =>
    let (d, id, g) := d.insert kind g
    ⟨d, some id, g⟩
  | .updateBlock id block => ⟨d.update id block, none, g⟩
  | .moveBlock id direction => ⟨d.move id direction, none, g⟩
  | .removeBlock id => ⟨d.remove id, none, g⟩
  | .duplicateBlock id =>
    let (d, g) := d.duplicate id g
    ⟨d, none, g⟩
  | .updateSettings settings => ⟨d.withSettings settings, none, g⟩

def target : Mutation → Option InstanceId
  | .updateBlock id _ | .moveBlock id _ | .removeBlock id | .duplicateBlock id => some id
  | .insertBlock _ | .updateSettings _ => none

def check (m : Mutation) (d : Document) : Except MutationError Unit :=
  match m.target with
  | none => .ok ()
  | some id =>
    match d.position? id with
    | none => .error (.blockNotFound id)
    | some i =>
      match m with
      | .moveBlock _ .up => if i = 0 then .error (.atBoundary id) else .ok ()
      | .moveBlock _ .down => if i + 1 = d.blocks.length then .error (.atBoundary id) else .ok ()
      | _ => .ok ()

inductive Name where
  | insertBlock
  | updateBlock
  | moveBlock
  | removeBlock
  | duplicateBlock
  | updateSettings
deriving DecidableEq

namespace Name

def all : List Name :=
  [.insertBlock, .updateBlock, .moveBlock, .removeBlock, .duplicateBlock, .updateSettings]

def text : Name → String
  | .insertBlock => "InsertBlock"
  | .updateBlock => "UpdateBlock"
  | .moveBlock => "MoveBlock"
  | .removeBlock => "RemoveBlock"
  | .duplicateBlock => "DuplicateBlock"
  | .updateSettings => "UpdateSettings"

end Name

def name : Mutation → Name
  | .insertBlock _ => .insertBlock
  | .updateBlock _ _ => .updateBlock
  | .moveBlock _ _ => .moveBlock
  | .removeBlock _ => .removeBlock
  | .duplicateBlock _ => .duplicateBlock
  | .updateSettings _ => .updateSettings

structure Arguments where
  kind : Option BlockKind := none
  id : Option InstanceId := none
  block : Option Block := none
  direction : Option Direction := none
  settings : Option Settings := none

namespace Arguments

def argument {β : Type} [Codec β] (key : String) (get : Arguments → Option β)
    (set : β → Arguments → Arguments) : Json.Field Arguments :=
  ⟨key, fun x => (get x).map Codec.encode, fun source => return set (← Codec.decode source)⟩

def kindField : Json.Field Arguments :=
  argument "kind" Arguments.kind fun v x => { x with kind := some v }

def idField : Json.Field Arguments :=
  argument "instance_id" Arguments.id fun v x => { x with id := some v }

def blockField : Json.Field Arguments :=
  argument "block" Arguments.block fun v x => { x with block := some v }

def directionField : Json.Field Arguments :=
  argument "direction" Arguments.direction fun v x => { x with direction := some v }

def settingsField : Json.Field Arguments :=
  argument "settings" Arguments.settings fun v x => { x with settings := some v }

def fieldsOf : Name → List (Json.Field Arguments)
  | .insertBlock => [kindField]
  | .updateBlock => [idField, blockField]
  | .moveBlock => [idField, directionField]
  | .removeBlock | .duplicateBlock => [idField]
  | .updateSettings => [settingsField]

def record (name : Name) : Json.Record Arguments where
  name := "variant Mutation::" ++ name.text
  blank := {}
  fields := fieldsOf name

def required {β : Type} (key : String) : Option β → Decoded β
  | some v => .ok v
  | none => .error (.missingField key)

def toMutation (x : Arguments) : Name → Decoded Mutation
  | .insertBlock => return .insertBlock (← required "kind" x.kind)
  | .updateBlock => return .updateBlock (← required "instance_id" x.id) (← required "block" x.block)
  | .moveBlock =>
    return .moveBlock (← required "instance_id" x.id) (← required "direction" x.direction)
  | .removeBlock => return .removeBlock (← required "instance_id" x.id)
  | .duplicateBlock => return .duplicateBlock (← required "instance_id" x.id)
  | .updateSettings => return .updateSettings (← required "settings" x.settings)

def ofMutation : Mutation → Arguments
  | .insertBlock kind => { kind := some kind }
  | .updateBlock id block => { id := some id, block := some block }
  | .moveBlock id direction => { id := some id, direction := some direction }
  | .removeBlock id | .duplicateBlock id => { id := some id }
  | .updateSettings settings => { settings := some settings }

/-- How many arguments a mutation takes, in words. -/
def countText (name : Name) : String :=
  match (fieldsOf name).length with
  | 1 => "1 element"
  | n => natText n ++ " elements"

/-- A value gives the arguments as an object; a text may give them by position too, and then all. -/
def decode (name : Name) (source : Source) : Decoded Arguments := do
  match source with
  | .value (.object _) | .text (.object _ _) _ => (record name).decode source
  | .value _ => source.mismatch "struct variant"
  | .text (.list items _) _ =>
    let x ← (record name).decode source
    if items.length < (fieldsOf name).length then
      let expected := "struct " ++ (record name).name ++ " with " ++ countText name
      throw (.wrongLength items.length expected)
    return x
  | .text _ _ => (record name).decode source

end Arguments

instance : Codec Mutation where
  encode m := .object [(m.name.text, (Arguments.record m.name).encode (Arguments.ofMutation m))]
  decode := Source.variant fun name content =>
    match Name.all.find? (·.text = name), content with
    | none, _ => throw (.unknownVariant name (Name.all.map Name.text))
    | some _, none => throw (.wrongType .unitVariant "struct variant")
    | some name, some content => do (← Arguments.decode name content).toMutation name

end Mutation
end PageBuilder
