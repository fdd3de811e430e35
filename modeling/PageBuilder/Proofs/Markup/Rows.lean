import PageBuilder.Proofs.Markup.Fragments
import PageBuilder.Proofs.Templates.Texts

set_option autoImplicit false

namespace PageBuilder

open Layout (line)
open Rendering (layoutAt)

structure Row where
  depth : Nat
  pieces : List Piece

def Row.text (r : Row) : String := Piece.write r.pieces

def Row.indented (indent : String) (r : Row) : String :=
  String.join (List.replicate r.depth indent) ++ r.text ++ "\n"

mutual

/-- A block has a row for each of its tags and the rows of its nodes between them. -/
def Markup.rows (depth : Nat) : Markup → List Row
  | .text content => [⟨depth, [.text content]⟩]
  | .raw content => [⟨depth, [.raw content]⟩]
  | .rule selector declarations =>
    ⟨depth, [.raw (selector ++ " \x7b")]⟩ ::
      declarations.map (fun d => ⟨depth + 1, [.raw d.text]⟩) ++ [⟨depth, [.raw "\x7d"]⟩]
  | .element tag attributes styles body =>
    body.rows depth tag (.opening tag (attributes ++ styleAttribute styles))

def Body.rows (depth : Nat) (tag : String) (start : Piece) : Body → List Row
  | .void => [⟨depth, [start]⟩]
  | .inline nodes => [⟨depth, start :: piecesOfAll none nodes ++ [.closing tag]⟩]
  | .block nodes => ⟨depth, [start]⟩ :: rowsOfAll (depth + 1) nodes ++ [⟨depth, [.closing tag]⟩]

def rowsOfAll (depth : Nat) : List Markup → List Row
  | [] => []
  | node :: rest => node.rows depth ++ rowsOfAll depth rest

end

def layOut (indent : Option String) (rows : List Row) : List Piece :=
  rows.flatMap fun r => line (layoutAt indent r.depth) r.pieces

section

variable (indent : Option String)

@[simp]
theorem layOut_cons (r : Row) (rows : List Row) :
    layOut indent (r :: rows) = line (layoutAt indent r.depth) r.pieces ++ layOut indent rows := rfl

@[simp]
theorem layOut_nil : layOut indent [] = [] := rfl

@[simp]
theorem layOut_append (rows others : List Row) :
    layOut indent (rows ++ others) = layOut indent rows ++ layOut indent others :=
  List.flatMap_append

mutual

theorem Markup.layOut_rows : ∀ (m : Markup) (depth : Nat),
    layOut indent (m.rows depth) = m.pieces (layoutAt indent depth)
  | .text _, _ | .raw _, _ => by simp [Markup.rows, Markup.pieces]
  | .rule selector declarations, depth => by
    have inner : layOut indent (declarations.map fun d => ⟨depth + 1, [.raw d.text]⟩) =
        declarations.flatMap fun d => line (layoutAt indent (depth + 1)) [.raw d.text] :=
      List.flatMap_map _ _ _
    simp [Markup.rows, Markup.pieces, inner]
  | .element tag attributes styles body, depth => Body.layOut_rows body depth tag _

theorem Body.layOut_rows : ∀ (body : Body) (depth : Nat) (tag : String) (start : Piece),
    layOut indent (body.rows depth tag start) =
      line (layoutAt indent depth) (start :: body.pieces (layoutAt indent depth) tag)
  | .void, _, _, _ | .inline _, _, _, _ => by simp [Body.rows, Body.pieces]
  | .block nodes, depth, tag, start => by
    have inner := layOut_rowsOfAll nodes (depth + 1)
    simp [Body.rows, Body.pieces, inner, line]

theorem layOut_rowsOfAll : ∀ (nodes : List Markup) (depth : Nat),
    layOut indent (rowsOfAll depth nodes) = piecesOfAll (layoutAt indent depth) nodes
  | [], _ => rfl
  | node :: rest, depth => by
    rw [rowsOfAll, layOut_append, Markup.layOut_rows node, layOut_rowsOfAll rest, piecesOfAll]

end

theorem write_layOut (rows : List Row) : Piece.write (layOut indent rows) =
    String.join (rows.map fun r => Piece.write (line (layoutAt indent r.depth) r.pieces)) :=
  write_flatMap rfl Piece.write_append _ rows

end

theorem Row.write_line_none (r : Row) : Piece.write (line (layoutAt none r.depth) r.pieces) =
    r.text := by
  simp [layoutAt, line, Layout.lineStart, Layout.lineEnd, text]

theorem Row.write_line_some (indent : String) (r : Row) :
    Piece.write (line (layoutAt (some indent) r.depth) r.pieces) = r.indented indent := by
  have blank : ∀ s : String, Piece.write [.blank s] = s := fun s => by
    simp [Piece.write, Piece.chars]
  simp only [layoutAt, Option.map_some, line, Layout.lineStart, Layout.lineEnd, Piece.write_append,
    blank, indented, text]

def Piece.isTag : Piece → Bool
  | .opening .. | .closing _ => true
  | _ => false

/-- From a tag to a tag. -/
structure Row.Whole (r : Row) : Prop where
  starts : ∃ start rest, r.pieces = start :: rest ∧ start.isTag
  stops : ∃ front stop, r.pieces = front ++ [stop] ∧ stop.isTag

theorem Row.whole_tag {piece : Piece} (tag : piece.isTag) (depth : Nat) :
    Row.Whole ⟨depth, [piece]⟩ :=
  ⟨⟨piece, [], rfl, tag⟩, [], piece, rfl, tag⟩

theorem Piece.chars_tag {piece : Piece} (isTag : piece.isTag) :
    ∃ inner, piece.chars = '<' :: inner ++ ['>'] := by
  cases piece with
  | opening tag attributes =>
    exact ⟨tag.toList ++ attributes.flatMap attributeChars, by simp [chars]⟩
  | closing tag => exact ⟨'/' :: tag.toList, by simp [chars]⟩
  | text | raw | blank => contradiction

theorem Row.Whole.text_ends {r : Row} (whole : r.Whole) :
    r.text.toList.head? = some '<' ∧ r.text.toList.getLast? = some '>' := by
  have chars : r.text.toList = r.pieces.flatMap Piece.chars := String.toList_ofList
  obtain ⟨start, rest, first, startTag⟩ := whole.starts
  obtain ⟨front, stop, last, stopTag⟩ := whole.stops
  obtain ⟨a, startChars⟩ := Piece.chars_tag startTag
  obtain ⟨b, stopChars⟩ := Piece.chars_tag stopTag
  constructor
  · rw [chars, first, List.flatMap_cons, startChars]
    rfl
  · rw [chars, last, List.flatMap_append, List.flatMap_singleton, stopChars, List.getLast?_append,
      List.getLast?_concat]
    rfl

def Markup.isElement : Markup → Bool
  | .element .. => true
  | _ => false

mutual

/-- The nodes of blocks are elements, at any depth. -/
def Markup.Settled : Markup → Prop
  | .element _ _ _ body => body.Settled
  | _ => True

def Body.Settled : Body → Prop
  | .void => True
  | .inline nodes => SettledAll nodes
  | .block nodes => (∀ m ∈ nodes, m.isElement) ∧ SettledAll nodes

def SettledAll : List Markup → Prop
  | [] => True
  | node :: rest => node.Settled ∧ SettledAll rest

end

theorem settledAll_iff (nodes : List Markup) : SettledAll nodes ↔ ∀ m ∈ nodes, m.Settled := by
  induction nodes with
  | nil => simp [SettledAll]
  | cons node nodes ih => rw [SettledAll, ih, List.forall_mem_cons]

mutual

theorem Element.settled_unroll : ∀ (e : Element) (scope : Scope), e.Firm → (e.unroll scope).Settled
  | { tag, attributes, styles, markup, children }, scope, firm => by
    have nodes := settledAll_unrollAll children scope ((Element.firm_iff _).1 firm)
    change Body.Settled _
    cases isVoidTag tag with
    | true => trivial
    | false =>
      cases markup with
      | some e => exact ⟨trivial, trivial⟩
      | none =>
        simp only [Bool.false_eq_true, if_false]
        split
        · exact nodes.1
        · next texts =>
          simp only [Bool.or_eq_true, not_or, Bool.not_eq_true, List.any_eq_false] at texts
          exact ⟨nodes.2 fun node mem => by simpa using texts.2 node mem, nodes.1⟩

theorem Node.settled_unroll : ∀ (node : Node) (scope : Scope), node.Firm →
    SettledAll (node.unroll scope) ∧
      (node.isText = false → ∀ m ∈ node.unroll scope, m.isElement)
  | .element e, scope, firm => by
    refine ⟨⟨Element.settled_unroll e scope firm, trivial⟩, fun _ m mem => ?_⟩
    rw [List.mem_singleton.1 mem]
    cases e
    rfl
  | .text _, _, _ => ⟨⟨trivial, trivial⟩, nofun⟩
  | .repeat binding items body, scope, firm => by
    have each := fun item => settledAll_unrollAll body ((binding, item) :: scope) firm.2
    simp only [Node.unroll, settledAll_iff, List.forall_mem_flatMap]
    exact ⟨fun item _ => (settledAll_iff _).1 (each item).1,
      fun _ item _ => (each item).2 firm.1⟩
  | .choice condition yes no, scope, firm => by
    rw [Node.unroll]
    split
    · have nodes := settledAll_unrollAll yes scope firm.2.1
      exact ⟨nodes.1, fun _ => nodes.2 fun n mem => firm.1 n (List.mem_append_left no mem)⟩
    · have nodes := settledAll_unrollAll no scope firm.2.2
      exact ⟨nodes.1, fun _ => nodes.2 fun n mem => firm.1 n (List.mem_append_right yes mem)⟩

theorem settledAll_unrollAll : ∀ (nodes : List Node) (scope : Scope), FirmAll nodes →
    SettledAll (unrollAll scope nodes) ∧
      ((∀ node ∈ nodes, node.isText = false) → ∀ m ∈ unrollAll scope nodes, m.isElement)
  | [], _, _ => ⟨trivial, nofun⟩
  | node :: rest, scope, firm => by
    have first := Node.settled_unroll node scope firm.1
    have others := settledAll_unrollAll rest scope firm.2
    rw [settledAll_iff] at first others ⊢
    rw [unrollAll, List.forall_mem_append, List.forall_mem_append, List.forall_mem_cons]
    exact ⟨⟨first.1, others.1⟩, fun plain => ⟨first.2 plain.1, others.2 plain.2⟩⟩

end

theorem Section.markup_settled (block : Block) : (Section.ofBlock block).markup.Settled := by
  have firm : FirmAll (Section.ofBlock block).body :=
    ⟨block.content.root_firm block.base.background, trivial⟩
  have nodes := settledAll_unrollAll _ [] firm
  exact ⟨nodes.2 fun node mem => by rw [List.mem_singleton.1 mem]; rfl, nodes.1⟩

mutual

theorem Markup.whole_rows : ∀ (m : Markup) (depth : Nat), m.isElement → m.Settled →
    ∀ r ∈ m.rows depth, r.Whole
  | .element _ _ _ body, depth, _, settled => Body.whole_rows body depth rfl settled

theorem Body.whole_rows : ∀ (body : Body) (depth : Nat) {tag : String} {start : Piece},
    start.isTag → body.Settled → ∀ r ∈ body.rows depth tag start, r.Whole
  | .void, depth, _, _, opens, _ => by
    intro r mem
    rw [List.mem_singleton.1 mem]
    exact Row.whole_tag opens depth
  | .inline nodes, depth, tag, start, opens, _ => by
    intro r mem
    rw [List.mem_singleton.1 mem]
    exact ⟨⟨start, _, rfl, opens⟩, start :: piecesOfAll none nodes, .closing tag, rfl, rfl⟩
  | .block nodes, depth, tag, start, opens, ⟨elements, settled⟩ => by
    have inner := whole_rowsOfAll nodes (depth + 1) elements settled
    rw [Body.rows, List.forall_mem_append, List.forall_mem_cons, List.forall_mem_singleton]
    exact ⟨⟨Row.whole_tag opens depth, inner⟩, Row.whole_tag rfl depth⟩

theorem whole_rowsOfAll : ∀ (nodes : List Markup) (depth : Nat), (∀ m ∈ nodes, m.isElement) →
    SettledAll nodes → ∀ r ∈ rowsOfAll depth nodes, r.Whole
  | [], _, _, _ => nofun
  | node :: rest, depth, elements, settled => by
    rw [List.forall_mem_cons] at elements
    have first := Markup.whole_rows node depth elements.1 settled.1
    have others := whole_rowsOfAll rest depth elements.2 settled.2
    rw [rowsOfAll, List.forall_mem_append]
    exact ⟨first, others⟩

end

mutual

def Markup.parts : Markup → List Markup
  | .text content => [.text content]
  | .raw content => [.raw content]
  | .rule selector declarations => [.rule selector declarations]
  | .element tag attributes styles body => .element tag attributes styles body :: body.parts

def Body.parts : Body → List Markup
  | .void => []
  | .inline nodes | .block nodes => partsOfAll nodes

def partsOfAll : List Markup → List Markup
  | [] => []
  | node :: rest => node.parts ++ partsOfAll rest

end

theorem partsOfAll_eq_flatMap (nodes : List Markup) :
    partsOfAll nodes = nodes.flatMap Markup.parts := by
  induction nodes with
  | nil => rfl
  | cons node nodes ih => rw [partsOfAll, ih, List.flatMap_cons]

def Markup.holdsText : Markup → Bool
  | .element _ _ _ (.inline nodes) | .element _ _ _ (.block nodes) => nodes.any (!·.isElement)
  | _ => false

theorem Markup.Settled.block_holds_no_text {tag : String} {attributes : List Attribute}
    {styles : List Declaration} {nodes : List Markup}
    (settled : (element tag attributes styles (.block nodes)).Settled) :
    ¬ (element tag attributes styles (.block nodes)).holdsText := fun holds => by
  obtain ⟨m, mem, plain⟩ := List.any_eq_true.1 holds
  simp [settled.1 m mem] at plain

theorem Markup.pieces_none (tag : String) (attributes : List Attribute)
    (styles : List Declaration) (body : Body) :
    (Markup.element tag attributes styles body).pieces none =
      .opening tag (attributes ++ styleAttribute styles) :: body.pieces none tag := by
  simp [pieces, line, Layout.lineStart, Layout.lineEnd]

mutual

theorem Markup.infix_of_part : ∀ m : Markup, ∀ part ∈ m.parts, part.pieces none <:+: m.pieces none
  | .text _ | .raw _ | .rule _ _ => by simp [Markup.parts]
  | .element tag attributes styles body => by
    have inner := Body.infix_of_part body tag
    rw [Markup.parts, List.forall_mem_cons]
    refine ⟨List.infix_rfl, fun part mem => ?_⟩
    rw [Markup.pieces_none]
    exact List.infix_cons (inner part mem)

theorem Body.infix_of_part : ∀ (body : Body) (tag : String), ∀ part ∈ body.parts,
    part.pieces none <:+: body.pieces none tag
  | .void, _ => nofun
  | .inline nodes, tag => fun part mem =>
    (infix_of_partsOfAll nodes part mem).trans (List.prefix_append _ [Piece.closing tag]).isInfix
  | .block nodes, tag => fun part mem => by
    have whole : (Body.block nodes).pieces none tag = piecesOfAll none nodes ++ [.closing tag] := by
      simp [Body.pieces, Layout.lineStart, Layout.lineEnd, Layout.deeper]
    rw [whole]
    have inner := infix_of_partsOfAll nodes part mem
    exact inner.trans (List.prefix_append _ [Piece.closing tag]).isInfix

theorem infix_of_partsOfAll : ∀ nodes : List Markup, ∀ part ∈ partsOfAll nodes,
    part.pieces none <:+: piecesOfAll none nodes
  | [] => nofun
  | node :: rest => by
    have first := Markup.infix_of_part node
    have others := infix_of_partsOfAll rest
    rw [partsOfAll, List.forall_mem_append, piecesOfAll]
    exact ⟨fun part mem => (first part mem).trans (List.prefix_append _ _).isInfix,
      fun part mem => (others part mem).trans (List.suffix_append _ _).isInfix⟩

end

mutual

theorem Markup.settled_parts : ∀ m : Markup, m.Settled → ∀ part ∈ m.parts, part.Settled
  | .text _, _ | .raw _, _ | .rule _ _, _ => by simp [Markup.parts, Markup.Settled]
  | .element _ _ _ body, settled => by
    rw [Markup.parts, List.forall_mem_cons]
    exact ⟨settled, Body.settled_parts body settled⟩

theorem Body.settled_parts : ∀ body : Body, body.Settled → ∀ part ∈ body.parts, part.Settled
  | .void, _ => nofun
  | .inline nodes, settled => settled_partsOfAll nodes settled
  | .block nodes, settled => settled_partsOfAll nodes settled.2

theorem settled_partsOfAll : ∀ nodes : List Markup, SettledAll nodes →
    ∀ part ∈ partsOfAll nodes, part.Settled
  | [], _ => nofun
  | node :: rest, settled => by
    have first := Markup.settled_parts node settled.1
    have others := settled_partsOfAll rest settled.2
    rw [partsOfAll, List.forall_mem_append]
    exact ⟨first, others⟩

end

theorem Markup.Settled.pieces_some {m : Markup} (settled : m.Settled) (holds : m.holdsText)
    (l : Layout) : m.pieces (some l) = line (some l) (m.pieces none) := by
  cases m with
  | text | raw | rule => contradiction
  | element tag attributes styles body =>
    cases body with
    | void => contradiction
    | inline nodes => rw [pieces_none]; rfl
    | block nodes => exact absurd holds settled.block_holds_no_text

mutual

theorem Markup.row_of_part : ∀ (m : Markup) (depth : Nat), m.Settled → ∀ part ∈ m.parts,
    part.holdsText → ∃ r ∈ m.rows depth, part.pieces none <:+: r.pieces
  | .text _, _, _ | .raw _, _, _ | .rule _ _, _, _ => by simp [Markup.parts, Markup.holdsText]
  | .element tag attributes styles .void, _, _ => by
    simp [Markup.parts, Body.parts, Markup.holdsText]
  | .element tag attributes styles (.inline nodes), depth, _ => fun part mem _ => by
    have within := Markup.infix_of_part _ part mem
    rw [Markup.pieces_none] at within
    exact ⟨_, List.mem_singleton_self _, within⟩
  | .element tag attributes styles (.block nodes), depth, settled => by
    have inner := row_of_partsOfAll nodes (depth + 1) settled.2
    rw [Markup.parts, List.forall_mem_cons]
    refine ⟨fun holds => ?_, fun part mem holds => ?_⟩
    · exact absurd holds settled.block_holds_no_text
    · obtain ⟨r, row, within⟩ := inner part mem holds
      exact ⟨r, List.mem_append_left _ (List.mem_cons_of_mem _ row), within⟩

theorem row_of_partsOfAll : ∀ (nodes : List Markup) (depth : Nat), SettledAll nodes →
    ∀ part ∈ partsOfAll nodes, part.holdsText →
      ∃ r ∈ rowsOfAll depth nodes, part.pieces none <:+: r.pieces
  | [], _, _ => nofun
  | node :: rest, depth, settled => by
    have first := Markup.row_of_part node depth settled.1
    have others := row_of_partsOfAll rest depth settled.2
    rw [partsOfAll, List.forall_mem_append]
    refine ⟨fun part mem holds => ?_, fun part mem holds => ?_⟩
    · obtain ⟨r, row, within⟩ := first part mem holds
      exact ⟨r, List.mem_append_left _ row, within⟩
    · obtain ⟨r, row, within⟩ := others part mem holds
      exact ⟨r, List.mem_append_right _ row, within⟩

end

namespace Page

def rows (page : Page) : List Row := page.sections.flatMap fun s => s.markup.rows 2

def parts (page : Page) : List Markup := page.sections.flatMap fun s => s.markup.parts

theorem html_rows (d : Document) (indent : Option String) : (ofDocument d).html indent =
    (Rendering.html indent).opening d.settings ++
      Piece.write (layOut indent (ofDocument d).rows) ++ (Rendering.html indent).closing := by
  have each : layOut indent (ofDocument d).rows =
      d.blocks.flatMap fun b => (Section.ofBlock b).markup.pieces (layoutAt indent 2) := by
    simp only [rows, layOut, List.flatMap_assoc, ofDocument, List.flatMap_map]
    exact List.flatMap_congr fun b _ => Markup.layOut_rows indent _ 2
  rw [each, write_flatMap rfl Piece.write_append]
  exact Rendering.html_eq indent d

end Page

/--
An indentation never changes what is shown. The sections of a document are the same rows of tags
and texts with every indentation and without one; the line ends and the indentations are put
between the rows, and these start and end in tags. An element in which a text or trusted markup
stands is laid out on one line, and it is in a row as it is without an indentation, with all there
is in it.
-/
theorem Page.laid_out_between_tags (d : Document) :
    let page := Page.ofDocument d
    (∀ indent, page.html (some indent) = (Rendering.html (some indent)).opening d.settings ++
      String.join (page.rows.map (Row.indented indent)) ++
        (Rendering.html (some indent)).closing) ∧
    page.html none = (Rendering.html none).opening d.settings ++
      String.join (page.rows.map Row.text) ++ (Rendering.html none).closing ∧
    (page.rows.Forall fun r => r.Whole ∧
      r.text.toList.head? = some '<' ∧ r.text.toList.getLast? = some '>') ∧
    (page.parts.filter Markup.holdsText).Forall fun part =>
      (∀ l, part.pieces (some l) = line (some l) (part.pieces none)) ∧
        ∃ r ∈ page.rows, part.pieces none <:+: r.pieces := by
  intro page
  have settled : ∀ s ∈ page.sections, s.markup.Settled := fun s mem => by
    obtain ⟨block, _, rfl⟩ := List.mem_map.1 mem
    exact Section.markup_settled block
  refine ⟨fun indent => ?_, ?_, ?_, ?_⟩
  · rw [html_rows, write_layOut]
    simp only [Row.write_line_some]
    rfl
  · rw [html_rows, write_layOut]
    simp only [Row.write_line_none]
    rfl
  · rw [List.forall_iff_forall_mem]
    intro r mem
    obtain ⟨s, present, row⟩ := List.mem_flatMap.1 mem
    have whole := Markup.whole_rows s.markup 2 rfl (settled s present) r row
    exact ⟨whole, whole.text_ends⟩
  · rw [List.forall_iff_forall_mem]
    intro part mem
    obtain ⟨mem, holds⟩ := List.mem_filter.1 mem
    obtain ⟨s, present, below⟩ := List.mem_flatMap.1 mem
    have ofSection := settled s present
    obtain ⟨r, row, within⟩ := Markup.row_of_part _ 2 ofSection part below holds
    exact ⟨(Markup.settled_parts _ ofSection part below).pieces_some holds,
      r, List.mem_flatMap.2 ⟨s, present, row⟩, within⟩

end PageBuilder
