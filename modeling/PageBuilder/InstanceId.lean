import PageBuilder.Json.Codec
import PageBuilder.Text.Utf8

set_option autoImplicit false

/-!
# Instance ids

A generator mints ids of the form `seed-n` from a counter of 64 bits, which starts again at zero
after its greatest number; a build that checks its arithmetic stops there instead. Resuming moves the
counter past every id of that form.
-/

namespace PageBuilder

/-- The identity of a block within a document; the empty text stands for an unassigned id. -/
structure InstanceId where
  text : String
deriving DecidableEq

namespace InstanceId

def unassigned : InstanceId := ⟨""⟩

def isAssigned (id : InstanceId) : Bool := !id.text.isEmpty

instance : Json.Codec InstanceId :=
  ⟨fun id => .string id.text, fun source => return ⟨← source.string "a string"⟩⟩

end InstanceId

structure IdGenerator where
  seed : String
  counter : UInt64
  /-- How often the counter has gone beyond its greatest number and started again at zero. -/
  laps : Nat := 0
deriving DecidableEq

namespace IdGenerator

def seedOf (key : String) : String :=
  String.ofList (Nat.toDigits 16 (Text.checksum key).toNat)

def ofSeed (seed : String) : IdGenerator := { seed, counter := 0 }

def ofKey (key : String) : IdGenerator := ofSeed (seedOf key)

def counterLimit : Nat := 18446744073709551615

/-- How far the counter has come in all; it has started again once this is above the limit. -/
def count (g : IdGenerator) : Nat := UInt64.size * g.laps + g.counter.toNat

/-- Reads decimal digits after at most one plus sign, up to the counter limit. -/
def readCounter? (text : List Char) : Option Nat :=
  let digits := match text with
    | '+' :: rest => rest
    | _ => text
  if digits.isEmpty || !digits.all Char.isDigit then none
  else
    let n := digits.foldl (fun n c => 10 * n + (c.toNat - 48)) 0
    if n ≤ counterLimit then some n else none

def number? (g : IdGenerator) (id : InstanceId) : Option Nat :=
  ((g.seed ++ "-").toList.isPrefixOf? id.text.toList).bind readCounter?

def observe (g : IdGenerator) (id : InstanceId) : IdGenerator :=
  match g.number? id with
  | some n => { g with counter := max g.counter (.ofNat n) }
  | none => g

def resume (g : IdGenerator) (existing : List InstanceId) : IdGenerator := existing.foldl observe g

def idOf (g : IdGenerator) (n : UInt64) : InstanceId :=
  ⟨g.seed ++ "-" ++ String.ofList (Nat.toDigits 10 n.toNat)⟩

def draw (g : IdGenerator) : InstanceId × IdGenerator :=
  let next := g.counter + 1
  (g.idOf next, { g with counter := next, laps := if next = 0 then g.laps + 1 else g.laps })

def longerThan (ids : List InstanceId) : InstanceId :=
  ⟨ids.foldr (fun id text => id.text ++ text) "-"⟩

/-- Draws until an id is not taken, as long as there are draws to spare. -/
def drawAround (taken : List InstanceId) : Nat → IdGenerator → InstanceId × IdGenerator
  | 0, g => (longerThan taken, g)
  | spare + 1, g =>
    let (id, g) := g.draw
    if id ∈ taken then drawAround taken spare g else (id, g)

/--
Draws until an id is not taken. One draw more than there are taken ids is enough, unless these are
all the ids that the counter can give: then the search would not end, and a longer id stands for it.
-/
def drawFresh (g : IdGenerator) (taken : List InstanceId) : InstanceId × IdGenerator :=
  g.drawAround taken (taken.length + 1)

end IdGenerator
end PageBuilder
