import PageBuilder.Catalog
import PageBuilder.Settings

set_option autoImplicit false

namespace PageBuilder

open Json (Decoded Source Codec)

inductive Direction where
  | up
  | down
deriving DecidableEq

namespace Direction

def all : List Direction := [.up, .down]

def name : Direction → String
  | .up => "up"
  | .down => "down"

instance : Codec Direction where
  encode d := .string d.name
  decode := Source.variant fun name content =>
    match all.find? (·.name = name) with
    | none => throw (.unknownVariant name (all.map Direction.name))
    | some d => do
      Source.noContent content
      return d

end Direction

structure Document where
  blocks : List Block := []
  settings : Settings := {}
deriving DecidableEq

namespace Document

def record : Json.Record Document where
  name := "Document"
  blank := {}
  fields := [
    .of "blocks" Document.blocks fun v x => { x with blocks := v },
    .of "settings" Document.settings fun v x => { x with settings := v }]

instance : Codec Document := record.codec

def ids (d : Document) : List InstanceId := d.blocks.map Block.instanceId

def get? (d : Document) (id : InstanceId) : Option Block := d.blocks.find? (·.instanceId = id)

def position? (d : Document) (id : InstanceId) : Option Nat := d.blocks.findIdx? (·.instanceId = id)

def insert (d : Document) (kind : BlockKind) (g : IdGenerator) :
    Document × InstanceId × IdGenerator :=
  let (id, g) := g.drawFresh d.ids
  ({ d with blocks := d.blocks ++ [kind.template.withInstanceId id] }, id, g)

/-- Appends a block whose id is assigned and not present. -/
def insertBlock (d : Document) (block : Block) : Document :=
  if block.instanceId.isAssigned && (d.position? block.instanceId).isNone then
    { d with blocks := d.blocks ++ [block] }
  else d

/-- Replaces a block, which keeps its id. -/
def update (d : Document) (id : InstanceId) (block : Block) : Document :=
  match d.position? id with
  | none => d
  | some i => { d with blocks := d.blocks.set i (block.withInstanceId id) }

/-- Exchanges the blocks at a position and after it. -/
def swapAt : Nat → List Block → List Block
  | 0, a :: b :: rest => b :: a :: rest
  | i + 1, a :: rest => a :: swapAt i rest
  | _, blocks => blocks

/-- Exchanges a block with its neighbour, if it has one on that side. -/
def move (d : Document) (id : InstanceId) (direction : Direction) : Document :=
  match d.position? id, direction with
  | some (i + 1), .up => { d with blocks := swapAt i d.blocks }
  | some i, .down => { d with blocks := swapAt i d.blocks }
  | _, _ => d

def remove (d : Document) (id : InstanceId) : Document :=
  { d with blocks := d.blocks.filter (·.instanceId ≠ id) }

def duplicate (d : Document) (id : InstanceId) (g : IdGenerator) : Document × IdGenerator :=
  match d.position? id, d.get? id with
  | some i, some block =>
    let (copyId, g) := g.drawFresh d.ids
    ({ d with blocks := d.blocks.insertIdx (i + 1) (block.withInstanceId copyId) }, g)
  | _, _ => (d, g)

def withSettings (d : Document) (settings : Settings) : Document := { d with settings }

/-- Gives fresh ids to the blocks whose id is unassigned or already seen; `all` holds the ids of the
whole document. -/
def repairBlocks (all : List InstanceId) :
    List InstanceId → List Block → IdGenerator → List Block × IdGenerator
  | _, [], g => ([], g)
  | seen, block :: rest, g =>
    if block.instanceId.isAssigned && !seen.contains block.instanceId then
      let (rest, g) := repairBlocks all (block.instanceId :: seen) rest g
      (block :: rest, g)
    else
      let (id, g) := g.drawFresh (seen ++ all)
      let (rest, g) := repairBlocks all (id :: seen) rest g
      (block.withInstanceId id :: rest, g)

/-- Makes the ids of a document assigned and distinct; the first block with an id keeps it. -/
def repairIds (d : Document) (g : IdGenerator) : Document × IdGenerator :=
  let (blocks, g) := repairBlocks d.ids [] d.blocks g
  ({ d with blocks }, g)

end Document
end PageBuilder
