import PageBuilder.Markup.Tree

set_option autoImplicit false

/-!
# Pieces of markup text

A markup tree is written as a list of tags, texts and blanks. A layout puts blanks only between tags
of blocks, so the pieces without the blanks do not depend on it.
-/

namespace PageBuilder

inductive Piece where
  | opening (tag : String) (attributes : List Attribute)
  | closing (tag : String)
  | text (content : String)
  | raw (content : String)
  | blank (content : String)
deriving DecidableEq

/-- The indentation of lines, and how deep a line stands. -/
structure Layout where
  indent : String
  depth : Nat

namespace Layout

def lineStart (layout : Option Layout) : List Piece :=
  match layout with
  | none => []
  | some l => [.blank (String.join (List.replicate l.depth l.indent))]

def lineEnd (layout : Option Layout) : List Piece :=
  match layout with
  | none => []
  | some _ => [.blank "\n"]

def line (layout : Option Layout) (pieces : List Piece) : List Piece :=
  lineStart layout ++ pieces ++ lineEnd layout

def deeper (layout : Option Layout) : Option Layout :=
  layout.map fun l => { l with depth := l.depth + 1 }

end Layout

open Layout (lineStart lineEnd line deeper)

mutual

def Markup.pieces (layout : Option Layout) : Markup → List Piece
  | .text content => line layout [.text content]
  | .raw content => line layout [.raw content]
  | .rule selector declarations =>
    line layout [.raw (selector ++ " \x7b")] ++
      declarations.flatMap (fun d => line (deeper layout) [.raw d.text]) ++
      line layout [.raw "\x7d"]
  | .element tag attributes styles body =>
    line layout (.opening tag (attributes ++ styleAttribute styles) :: body.pieces layout tag)

def Body.pieces (layout : Option Layout) (tag : String) : Body → List Piece
  | .void => []
  | .inline nodes => piecesOfAll none nodes ++ [.closing tag]
  | .block nodes =>
    lineEnd layout ++ piecesOfAll (deeper layout) nodes ++ lineStart layout ++ [.closing tag]

def piecesOfAll (layout : Option Layout) : List Markup → List Piece
  | [] => []
  | node :: rest => node.pieces layout ++ piecesOfAll layout rest

end

namespace Piece

/-- Text cannot hold a tag or an entity. -/
def escapeText (c : Char) : List Char :=
  if c = '&' then "&amp;".toList
  else if c = '<' then "&lt;".toList
  else if c = '>' then "&gt;".toList
  else [c]

/-- The value of an attribute cannot hold its quote either. -/
def escapeValue (c : Char) : List Char :=
  if c = '"' then "&quot;".toList else escapeText c

def attributeChars (a : Attribute) : List Char :=
  ' ' :: a.name.toList ++
    match a.value with
    | none => []
    | some v => '=' :: '"' :: v.toList.flatMap escapeValue ++ ['"']

def chars : Piece → List Char
  | opening tag attributes => '<' :: tag.toList ++ attributes.flatMap attributeChars ++ ['>']
  | closing tag => '<' :: '/' :: tag.toList ++ ['>']
  | text content => content.toList.flatMap escapeText
  | raw content | blank content => content.toList

def write (pieces : List Piece) : String := String.ofList (pieces.flatMap chars)

end Piece
end PageBuilder
