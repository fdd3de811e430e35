import PageBuilder.Proofs.Component.Writer
import PageBuilder.Proofs.Editing.Positions
import PageBuilder.Proofs.Markup.Writer

set_option autoImplicit false

namespace PageBuilder

open Layout (lineStart lineEnd line deeper)

structure Appearance where
  content : Content
  anchor : Option String
  background : Background
  paddingTop : Spacing
  paddingBottom : Spacing
  animation : Animation

def Block.appearance (b : Block) : Appearance where
  content := b.content
  anchor := b.base.anchor
  background := b.base.background
  paddingTop := b.base.paddingTop
  paddingBottom := b.base.paddingBottom
  animation := b.base.animation

/-- The section of a block without an id. -/
def Appearance.section (a : Appearance) : Section where
  kind := a.content.tag
  instanceId := .unassigned
  anchor := a.anchor
  style :=
    { paddingTop := a.paddingTop.topPadding
      paddingBottom := a.paddingBottom.bottomPadding
      animation := a.animation.effect
      background := a.background.declarations
      radius := a.content.radius?.map Radius.cornerClass }
  body := [a.content.root a.background]

theorem Section.markup_ofBlock (b : Block) :
    (Section.ofBlock b).markup = b.appearance.section.markup := rfl

theorem Section.components_ofBlock (b : Block) :
    (Section.ofBlock b).components = b.appearance.section.components := rfl

/-- What is written in parts is written part by part. -/
theorem write_flatMap {α β : Type} {write : List β → String} (nil : write [] = "")
    (append : ∀ parts others, write (parts ++ others) = write parts ++ write others)
    (f : α → List β) (items : List α) :
    write (items.flatMap f) = String.join (items.map fun i => write (f i)) := by
  induction items with
  | nil => exact nil
  | cons i items ih => rw [List.flatMap_cons, append, ih, List.map_cons, String.join_cons]

inductive Rendering where
  | html (indent : Option String)
  | component (dialect : Dialect)

namespace Rendering

def layoutAt (indent : Option String) (depth : Nat) : Option Layout := indent.map (⟨·, depth⟩)

@[simp]
theorem deeper_layoutAt (indent : Option String) (depth : Nat) :
    deeper (layoutAt indent depth) = layoutAt indent (depth + 1) := by
  cases indent <;> rfl

def output (d : Document) : Rendering → String
  | .html indent => (Page.ofDocument d).html indent
  | .component dialect => (Page.ofDocument d).component dialect

def piecesBefore (indent : Option String) (settings : Settings) : List Piece :=
  line (layoutAt indent 0) [.raw "<!DOCTYPE html>"] ++
    line (layoutAt indent 0) [.opening "html" [⟨"lang", some "en"⟩]] ++
    settings.head.pieces (layoutAt indent 1) ++ line (layoutAt indent 1) [.opening "body" []]

def piecesAfter (indent : Option String) : List Piece :=
  line (layoutAt indent 1) [.closing "body"] ++ line (layoutAt indent 0) [.closing "html"]

def opening (settings : Settings) : Rendering → String
  | .html indent => Piece.write (piecesBefore indent settings)
  | .component dialect =>
    Line.write [⟨0, "import React from \"react\";"⟩, ⟨0, ""⟩, ⟨0, Page.header dialect⟩,
      ⟨1, "return ("⟩, ⟨2, Page.rootSource dialect settings⟩]

def fragment (a : Appearance) : Rendering → String
  | .html indent => Piece.write (a.section.markup.pieces (layoutAt indent 2))
  | .component dialect => Line.write (linesOfAll dialect 3 a.section.components)

def closing : Rendering → String
  | .html indent => Piece.write (piecesAfter indent)
  | .component _ =>
    Line.write [⟨2, closingSource "div"⟩, ⟨1, ");"⟩, ⟨0, "\x7d;"⟩, ⟨0, ""⟩,
      ⟨0, "export default Page;"⟩]

def written (r : Rendering) (blocks : List Block) : String :=
  String.join (blocks.map fun b => r.fragment b.appearance)

@[simp]
theorem written_nil (r : Rendering) : r.written [] = "" := rfl

theorem html_eq (indent : Option String) (d : Document) :
    (Page.ofDocument d).html indent = (html indent).opening d.settings ++
      (html indent).written d.blocks ++ (html indent).closing := by
  have sections : Piece.write (piecesOfAll (layoutAt indent 2)
      ((Page.ofDocument d).sections.map Section.markup)) = (html indent).written d.blocks := by
    rw [Page.ofDocument, List.map_map, piecesOfAll_map, write_flatMap rfl Piece.write_append]
    simp only [Function.comp_apply, Section.markup_ofBlock]
    rfl
  have pieces : piecesOfAll (layoutAt indent 0) (Page.ofDocument d).markup =
      piecesBefore indent d.settings ++
        piecesOfAll (layoutAt indent 2) ((Page.ofDocument d).sections.map Section.markup) ++
        piecesAfter indent := by
    have raw : (Markup.raw "<!DOCTYPE html>").pieces (layoutAt indent 0) =
        line (layoutAt indent 0) [.raw "<!DOCTYPE html>"] := rfl
    simp only [Page.markup, piecesOfAll, Markup.pieces_block, deeper_layoutAt, raw, piecesBefore,
      piecesAfter, List.append_assoc, List.append_nil]
    rfl
  change (Page.ofDocument d).html indent = _
  rw [Page.html_ofDocument]
  change Piece.write (piecesOfAll (layoutAt indent 0) _) = _
  rw [pieces, Piece.write_append, Piece.write_append, sections]
  rfl

theorem component_eq (dialect : Dialect) (d : Document) :
    (Page.ofDocument d).component dialect = (component dialect).opening d.settings ++
      (component dialect).written d.blocks ++ (component dialect).closing := by
  have sections : Line.write ((Page.ofDocument d).sections.flatMap fun s =>
      linesOfAll dialect 3 s.components) = (component dialect).written d.blocks := by
    rw [Page.ofDocument, List.flatMap_map, write_flatMap rfl Line.write_append]
    simp only [Section.components_ofBlock]
    rfl
  rw [Page.component_eq, Page.lines, Line.write_append, Line.write_append, sections]
  rfl

theorem output_eq (r : Rendering) (d : Document) :
    r.output d = r.opening d.settings ++ r.written d.blocks ++ r.closing := by
  cases r with
  | html indent => exact html_eq indent d
  | component dialect => exact component_eq dialect d

theorem output_around (r : Rendering) {d : Document} {before after : List Block} {block : Block}
    (blocks : d.blocks = before ++ block :: after) : r.output d =
      r.opening d.settings ++ r.written before ++ r.fragment block.appearance ++ r.written after ++
        r.closing := by
  rw [output_eq, blocks, written, List.map_append, List.map_cons, String.join_append,
    String.join_cons]
  simp only [written, String.append_assoc]

theorem written_congr (r : Rendering) {blocks others : List Block}
    (same : blocks.map Block.appearance = others.map Block.appearance) :
    r.written blocks = r.written others := by
  have fragments : ∀ list : List Block, r.written list =
      String.join ((list.map Block.appearance).map fun a => r.fragment a) := fun list => by
    rw [List.map_map]
    rfl
  rw [fragments, fragments, same]

/--
Both outputs are put together from fragments. An output is what stands before for the settings, the
fragment of each block in order, and a constant end; a fragment depends on the appearance of its
block alone. So ids have no part in an output, and moving, duplicating or removing a block does the
same with its fragment.
-/
theorem output_from_fragments (r : Rendering) (d : Document) :
    r.output d = r.opening d.settings ++ r.written d.blocks ++ r.closing ∧
    (∀ e : Document, e.settings = d.settings →
      e.blocks.map Block.appearance = d.blocks.map Block.appearance → r.output e = r.output d) ∧
    ∀ before block after, d.blocks = before ++ block :: after →
      block.instanceId ∉ before.map Block.instanceId →
        (∀ next rest, after = next :: rest →
          r.output (d.move block.instanceId .down) =
            r.opening d.settings ++ r.written (before ++ next :: block :: rest) ++ r.closing) ∧
        (∀ front previous, before = front ++ [previous] →
          r.output (d.move block.instanceId .up) =
            r.opening d.settings ++ r.written (front ++ block :: previous :: after) ++ r.closing) ∧
        (∀ g, r.output (d.duplicate block.instanceId g).1 =
          r.opening d.settings ++ r.written (before ++ block :: block :: after) ++ r.closing) ∧
        (block.instanceId ∉ after.map Block.instanceId →
          r.output (d.remove block.instanceId) =
            r.opening d.settings ++ r.written (before ++ after) ++ r.closing) := by
  refine ⟨r.output_eq d, fun e settings same => ?_, fun before block after blocks first =>
    ⟨?_, ?_, fun g => ?_, fun last => ?_⟩⟩
  · rw [output_eq, output_eq, settings, r.written_congr same]
  · rintro next rest rfl
    rw [output_eq, Document.move_down_split blocks first]
  · rintro front previous rfl
    rw [output_eq, Document.move_up_split (by rw [blocks, List.append_assoc]; rfl) first]
  · have copied : ∀ id, r.written (before ++ block :: block.withInstanceId id :: after) =
        r.written (before ++ block :: block :: after) := fun id =>
      r.written_congr (by simp only [List.map_append, List.map_cons]; rfl)
    rw [output_eq, Document.duplicate_split blocks first]
    simp only [copied]
  · rw [output_eq, Document.remove_split blocks first last]

/-- A line between a text and a hero is moved, copied and removed, and the text gets another id. -/
theorem output_of_line_between :
    let prose := BlockKind.text.template.withInstanceId ⟨"a"⟩
    let line := BlockKind.divider.template.withInstanceId ⟨"b"⟩
    let hero := BlockKind.hero.template.withInstanceId ⟨"c"⟩
    let d : Document := { blocks := [prose, line, hero] }
    let r : Rendering := .html (some "  ")
    r.output { blocks := [prose.withInstanceId ⟨"d"⟩, line, hero] } = r.output d ∧
      r.output (d.move ⟨"b"⟩ .up) =
        r.opening {} ++ r.written [line, prose, hero] ++ r.closing ∧
      r.output (d.move ⟨"b"⟩ .down) =
        r.opening {} ++ r.written [prose, hero, line] ++ r.closing ∧
      r.output (d.duplicate ⟨"b"⟩ (.ofSeed "d")).1 =
        r.opening {} ++ r.written [prose, line, line, hero] ++ r.closing ∧
      r.output (d.remove ⟨"b"⟩) = r.opening {} ++ r.written [prose, hero] ++ r.closing := by
  intro prose line hero d r
  obtain ⟨_, renamed, edits⟩ := output_from_fragments r d
  obtain ⟨down, up, copied, gone⟩ := edits [prose] line [hero] rfl (by decide)
  exact ⟨renamed _ rfl rfl, up [] prose rfl, down hero [] rfl, copied _, gone (by decide)⟩

end Rendering
end PageBuilder
