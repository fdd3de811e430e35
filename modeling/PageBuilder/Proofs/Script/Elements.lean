import PageBuilder.Proofs.Script.Comments
import PageBuilder.Proofs.Script.Properties

set_option autoImplicit false

namespace PageBuilder.Script

variable (abc : Alphabet) (dialect : Dialect)

/-- White space between nodes does not count if there is a line break in it. -/
def nodeGap? (text : List Char) : Option (List Char) :=
  let gap := text.takeWhile isGap
  if gap = [] ∨ '\n' ∈ gap then some (skipGap text) else none

/-- What a list maps over, up to the mapped function. -/
def items? (text : List Char) : Option (Items × List Char) :=
  if text.head? = some '[' then do
    let (v, rest) ← json? abc text
    return (.inline v, ← after? ".map(" rest)
  else match after? "Array.from(\x7b length: " text with
    | some rest => do
      let (count, rest) ← digits? abc rest
      return (.range count, ← after? ".map(" (← after? " \x7d, (_, i) => i)" rest))
    | none => do
      let (e, rest) ← primary? abc text
      return (.of e, ← after? "?.map(" rest)

def parameter? (type : String) (text : List Char) : Option (String × List Char) := do
  let (name, rest) ← name? abc text
  match dialect with
  | .typed => return (name, ← token? type (← token? ":" rest))
  | .untyped => return (name, rest)

def binding? (text : List Char) : Option (String × List Char) := do
  let (binding, rest) ← parameter? abc dialect "any" (← after? "(" text)
  let (index, rest) ← parameter? abc dialect "number" (skipGap (← token? "," rest))
  guard (abc.isVariable binding ∧ index = binding ++ "Index")
  return (binding, ← token? "(" (← token? "=>" (← token? ")" rest)))

/-- The expressions of nodes that are all text. -/
def textsOfAll? : List Component → Option (List Expr)
  | [] => some []
  | .text e :: rest => (textsOfAll? rest).map (e :: ·)
  | _ => none

def insideOf (nodes : List Component) : Inside :=
  match textsOfAll? nodes with
  | some texts => .line texts
  | none => .block nodes

mutual

def nodes? (text : List Char) : Option (List Component × List Char) :=
  letI node? : Reader Component := by apply node?
  letI nodes? : Reader (List Component) := by apply nodes?
  do
  let text ← nodeGap? text
  if text = [] ∨ text.take 2 = ['<', '/'] then return ([], text)
  else match comment? text with
    | some rest => do nodes? (← token? "\x7d" rest)
    | none => do
      let (node, rest) ← node? text
      let (nodes, rest) ← nodes? rest
      return (node :: nodes, rest)
partial_fixpoint

def node? (text : List Char) : Option (Component × List Char) :=
  letI inside? : String → Bool → Option Expr → Reader Inside := by apply inside?
  letI inBraces? : Reader Component := by apply inBraces?
  match text with
  | '<' :: rest => do
    let (tag, rest) ← name? abc rest
    guard (tag.toList.head?.any Char.isLower)
    let (o, rest) ← opening? abc dialect rest
    let (inside, rest) ← inside? tag o.closed o.markup rest
    return (.element tag o.properties o.styles inside, rest)
  | '\x7b' :: rest => inBraces? (skipGap rest)
  | _ => none
partial_fixpoint

def inside? (tag : String) (closed : Bool) (markup : Option Expr) (text : List Char) :
    Option (Inside × List Char) :=
  letI nodes? : Reader (List Component) := by apply nodes?
  match closed, markup with
  | true, some e => some (.trusted e, text)
  | true, none => some (.none, text)
  | false, some _ => none
  | false, none => do
    let (nodes, rest) ← nodes? text
    return (insideOf nodes, ← after? (closingSource tag) rest)
partial_fixpoint

def inBraces? (text : List Char) : Option (Component × List Char) :=
  letI wrapped? : String → String → Reader (List Component) := by apply wrapped?
  letI otherwise? : Reader (List Component) := by apply otherwise?
  match items? abc text with
  | some (items, rest) => do
    let (binding, rest) ← binding? abc dialect rest
    let key := "<React.Fragment key=\x7b" ++ binding ++ "Index\x7d>"
    let (body, rest) ← wrapped? key "</React.Fragment>" rest
    return (.list binding items body, ← token? "\x7d" (← token? ")" (← token? ")" rest)))
  | none => do
    let (e, rest) ← level? abc operators text
    match question? rest with
    | none => return (.text e, ← token? "\x7d" rest)
    | some rest => do
      let (yes, rest) ← wrapped? "<>" "</>" (← token? "(" rest)
      let (no, rest) ← otherwise? (← token? ":" (← token? ")" rest))
      return (.choice e yes no, ← token? "\x7d" rest)
partial_fixpoint

def wrapped? (opening closing : String) (text : List Char) :
    Option (List Component × List Char) :=
  letI nodes? : Reader (List Component) := by apply nodes?
  do
  let (nodes, rest) ← nodes? (← token? opening text)
  return (nodes, ← after? closing rest)
partial_fixpoint

def otherwise? (text : List Char) : Option (List Component × List Char) :=
  letI wrapped? : String → String → Reader (List Component) := by apply wrapped?
  match token? "null" text with
  | some rest => some ([], rest)
  | none => do
    let (nodes, rest) ← wrapped? "<>" "</>" (← token? "(" text)
    return (nodes, ← token? ")" rest)
partial_fixpoint

end

/-- The nodes that a source consists of; it stands on lines of its own. -/
def source? (source : String) : Option (List Component) := do
  let (nodes, rest) ← nodes? abc dialect ('\n' :: source.toList)
  guard rest.isEmpty
  return nodes

def declaration? (text : List Char) : Option (String × List Char) := do
  let (name, rest) ← name? abc (← after? "const " text)
  let rest ← match dialect with
    | .typed => do token? "React.FC" (← token? ":" rest)
    | .untyped => some rest
  return (name, ← token? "\x7b" (← token? "=>" (← token? "()" (← token? "=" rest))))

/-- What a source exports after the end of its function. -/
def exported? (text : List Char) : Option (List Char) := do
  let rest ← token? ";" (← token? "\x7d" (← token? ";" (← token? ")" text)))
  token? "export default " rest

/-- The node that the component of a source returns; the source imports the library first and
exports the component last. -/
def component? (source : String) : Option Component := do
  let rest ← after? "import React from \"react\";" source.toList
  let (name, rest) ← declaration? abc dialect (skipGap rest)
  let (root, rest) ← node? abc dialect (skipGap (← token? "(" (← token? "return" rest)))
  let (exported, rest) ← name? abc (← exported? rest)
  guard (exported = name)
  guard (skipGap (← token? ";" rest)).isEmpty
  return root

end PageBuilder.Script

namespace PageBuilder

open Script (Alphabet PropertyReadable EntryReadable textsOfAll?)

variable (abc : Alphabet)

def Items.Readable : Items → Prop
  | .inline v => (∃ items, v = .array items) ∧ v.Whole
  | .of list => list.isReadable abc
  | .range _ => True

/-- A name of an element that the page itself knows. -/
def isTag (tag : String) : Bool := abc.isName tag && tag.toList.head?.any Char.isLower

mutual

def Component.Readable : Component → Prop
  | .comment _ => False
  | .text e => e.isReadable abc
  | .element tag properties styles inside =>
    isTag abc tag ∧ (∀ p ∈ properties, PropertyReadable abc p) ∧
      (∀ s ∈ styles, EntryReadable abc s) ∧ inside.Readable
  | .list binding items body => abc.isVariable binding ∧ items.Readable abc ∧ AllReadable body
  | .choice condition yes no => condition.isReadable abc ∧ AllReadable yes ∧ AllReadable no

def Inside.Readable : Inside → Prop
  | .none => True
  | .trusted e => e.isReadable abc
  | .line texts => ∀ e ∈ texts, e.isReadable abc
  | .block nodes => textsOfAll? nodes = none ∧ AllReadable nodes

def AllReadable : List Component → Prop
  | [] => True
  | node :: rest => node.Readable ∧ AllReadable rest

end

end PageBuilder
