import PageBuilder.Json.Breach

set_option autoImplicit false

/-!
# Text trees

A text as a tree in text order. Where the text stops being JSON the tree has a broken value or a
container with a breach for its ending, and it holds nothing beyond that place, so that a walk from
left to right meets the first error of the text where it stands. Numbers out of range, unpaired
surrogates and deep nesting are errors only of a value that is kept.
-/

namespace PageBuilder.Json

inductive Tree where
  | null
  | bool (value : Bool)
  | number (numeral : Numeral)
  | string (letters : List Letter)
  | list (items : List Tree) (ending : Option Breach)
  | object (members : List (List Letter × Tree)) (ending : Option Breach)
  | broken (breach : Breach)

/-- A container part way through, its parts last first. -/
inductive Frame where
  | list (items : List Tree)
  | object (members : List (List Letter × Tree))
  | member (members : List (List Letter × Tree)) (key : List Letter)

structure Text where
  tree : Tree
  trailing : Bool

namespace Tree

/-- Leaves every open container at a breach, the innermost with the value read so far, if any. -/
def abandon (breach : Breach) : Option Tree → List Frame → Tree
  | v, [] => v.getD (.broken breach)
  | v, .list items :: frames =>
    abandon breach (some (.list (v.toList ++ items).reverse (some breach))) frames
  | _, .object members :: frames =>
    abandon breach (some (.object members.reverse (some breach))) frames
  | v, .member members key :: frames =>
    let members := (key, v.getD (.broken breach)) :: members
    abandon breach (some (.object members.reverse (some breach))) frames

end Tree

def Breach.isOfValue (b : Breach) : Bool :=
  match b.expecting with
  | .value | .item => true
  | .firstItem => b.token.isSome
  | _ => false

/-- A text part way through: what may stand next inside which containers, or its whole value, or a
tree left at a breach. -/
inductive Progress where
  | reading (expecting : Expecting) (frames : List Frame)
  | whole (v : Tree)
  | trailing (v : Tree)
  | failed (v : Tree)

namespace Progress

def fail (breach : Breach) (frames : List Frame) : Tree :=
  Tree.abandon breach (if breach.isOfValue then some (.broken breach) else none) frames

def complete (v : Tree) : List Frame → Progress
  | [] => .whole v
  | .list items :: frames => .reading .nextItem (.list (v :: items) :: frames)
  | .member members key :: frames => .reading .nextMember (.object ((key, v) :: members) :: frames)
  | .object members :: frames => .reading .nextMember (.object members :: frames)

def value? (frames : List Frame) : Token → Option Progress
  | .null => some (complete .null frames)
  | .bool b => some (complete (.bool b) frames)
  | .number n => some (complete (.number n) frames)
  | .string letters => some (complete (.string letters) frames)
  | .openList => some (.reading .firstItem (.list [] :: frames))
  | .openObject => some (.reading .firstKey (.object [] :: frames))
  | _ => none

/-- Goes on with a token, if it may stand where it does. -/
def next? (expecting : Expecting) (frames : List Frame) (token : Token) : Option Progress :=
  match expecting, token, frames with
  | .firstItem, .closeList, .list items :: outer | .nextItem, .closeList, .list items :: outer =>
    some (complete (.list items.reverse none) outer)
  | .firstKey, .closeObject, .object members :: outer
  | .nextMember, .closeObject, .object members :: outer =>
    some (complete (.object members.reverse none) outer)
  | .firstKey, .string letters, .object members :: outer
  | .key, .string letters, .object members :: outer =>
    some (.reading .colon (.member members letters :: outer))
  | .nextItem, .comma, _ => some (.reading .item frames)
  | .nextMember, .comma, _ => some (.reading .key frames)
  | .colon, .colon, _ => some (.reading .value frames)
  | .value, _, _ | .firstItem, _, _ | .item, _, _ => value? frames token
  | _, _, _ => none

def step : Progress → Token → Progress
  | .reading expecting frames, token =>
    (next? expecting frames token).getD (.failed (fail ⟨expecting, some token⟩ frames))
  | .whole v, _ => .trailing v
  | progress, _ => progress

def finish : Progress → Text
  | .reading expecting frames => ⟨fail ⟨expecting, none⟩ frames, false⟩
  | .whole v | .failed v => ⟨v, false⟩
  | .trailing v => ⟨v, true⟩

end Progress

def Text.read (text : List Char) : Text :=
  ((tokens text).foldl Progress.step (.reading .value [])).finish

/-- The end of a container whose value is kept. -/
def endingOf : Option Breach → Except SyntaxError Unit
  | none => .ok ()
  | some breach => .error breach.error

def enter (depth : Nat) : Except SyntaxError Nat :=
  if depth + 1 < 128 then .ok (depth + 1) else .error .nestingTooDeep

namespace Tree

mutual

def breach? : Tree → Option Breach
  | .list items ending => (breachOfItems? items).or ending
  | .object members ending => (breachOfMembers? members).or ending
  | .broken breach => some breach
  | _ => none

def breachOfItems? : List Tree → Option Breach
  | [] => none
  | v :: rest => v.breach?.or (breachOfItems? rest)

def breachOfMembers? : List (List Letter × Tree) → Option Breach
  | [] => none
  | (_, v) :: rest => v.breach?.or (breachOfMembers? rest)

end

mutual

/-- The value of a tree inside `depth` containers. -/
def toJson (depth : Nat) : Tree → Except SyntaxError Json
  | .null => .ok .null
  | .bool b => .ok (.bool b)
  | .number n => n.toNumber.map .number
  | .string letters => (stringOf letters).map .string
  | .list items ending => do
    let values ← itemsToJson (← enter depth) items
    endingOf ending
    return .array values
  | .object members ending => do
    let values ← membersToJson (← enter depth) members
    endingOf ending
    return .ofMembers values
  | .broken breach => .error breach.error

def itemsToJson (depth : Nat) : List Tree → Except SyntaxError (List Json)
  | [] => .ok []
  | v :: rest => do
    let value ← v.toJson depth
    return value :: (← itemsToJson depth rest)

def membersToJson (depth : Nat) :
    List (List Letter × Tree) → Except SyntaxError (List (String × Json))
  | [] => .ok []
  | (letters, v) :: rest => do
    let key ← stringOf letters
    let value ← v.toJson depth
    return (key, value) :: (← membersToJson depth rest)

end

def check (v : Tree) : Except SyntaxError Unit :=
  match v.breach? with
  | none => .ok ()
  | some breach => .error breach.skimmedError

end Tree

def ofText (text : String) : Except SyntaxError Json := do
  let read := Text.read text.toList
  let value ← read.tree.toJson 0
  if read.trailing then .error .trailingCharacters else .ok value

end PageBuilder.Json
