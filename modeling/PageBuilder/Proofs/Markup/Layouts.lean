import PageBuilder.Proofs.Markup.Rows
import PageBuilder.Proofs.Markup.Sections

set_option autoImplicit false

/-!
# Reading laid out sections

The text of a section is read back with every indentation and without one. The line ends and the
indentations are read as texts between the elements of a block, so two readings have the same
elements, and what is looked for in a reading is looked for in its elements.
-/

namespace PageBuilder

open Layout (lineStart lineEnd line)
open Rendering (layoutAt)
open Reader (isPlainName Readable ReadableBody ReadableAll)

namespace Dom

def isElement : Dom → Bool
  | .element .. => true
  | .text _ => false

def elements (nodes : List Dom) : List Dom := nodes.filter isElement

theorem elements_reverse (nodes : List Dom) :
    elements nodes.reverse = (elements nodes).reverse := List.filter_reverse

theorem elements_putText (s : String) (before : List Dom) :
    elements (putText s before) = elements before := by
  rcases before with _ | ⟨_ | _, before⟩
  · by_cases empty : s = "" <;> simp [putText, elements, isElement, empty]
  · rfl
  · by_cases empty : s = "" <;> simp [putText, elements, isElement, empty]

end Dom

mutual

/-- An element is read from markup, whatever texts there are between the elements of a block. -/
def Markup.IsRead : Markup → Dom → Prop
  | .element tag attributes styles body, .element readTag readAttributes nodes =>
    readTag = tag ∧ readAttributes = attributes ++ styleAttribute styles ∧ body.IsRead nodes
  | _, _ => False

def Body.IsRead : Body → List Dom → Prop
  | .void, nodes => nodes = []
  | .inline inside, nodes => nodes = Dom.ofMarkup inside
  | .block inside, nodes => AreRead inside (Dom.elements nodes)

def AreRead : List Markup → List Dom → Prop
  | [], nodes => nodes = []
  | _ :: _, [] => False
  | m :: rest, node :: nodes => m.IsRead node ∧ AreRead rest nodes

end

theorem areRead_append {first second : List Markup} {nodes others : List Dom}
    (read : AreRead first nodes) (more : AreRead second others) :
    AreRead (first ++ second) (nodes ++ others) := by
  induction first generalizing nodes with
  | nil =>
    rw [AreRead] at read
    rwa [read]
  | cons m first ih =>
    cases nodes with
    | nil => exact read.elim
    | cons node nodes => exact ⟨read.1, ih read.2⟩

theorem exists_of_areRead_append {first second : List Markup} {nodes : List Dom}
    (read : AreRead (first ++ second) nodes) :
    ∃ before after, nodes = before ++ after ∧ AreRead first before ∧ AreRead second after := by
  induction first generalizing nodes with
  | nil => exact ⟨[], nodes, rfl, rfl, read⟩
  | cons m first ih =>
    cases nodes with
    | nil => exact read.elim
    | cons node nodes =>
      obtain ⟨before, after, rfl, readFirst, readSecond⟩ := ih read.2
      exact ⟨node :: before, after, rfl, ⟨read.1, readFirst⟩, readSecond⟩

namespace Reader

/-- No tag and no entity starts in a text. -/
def isInert (text : String) : Bool := text.toList.all fun c => c ≠ '<' ∧ c ≠ '&'

/-- After a text, wherever it stands between tags, the elements of the markup are added. -/
def Adds (text : List Char) (nodes : List Markup) : Prop :=
  ∀ outer done, ∃ after added, AreRead nodes added ∧
    Dom.elements after = added.reverse ++ Dom.elements done ∧ ∀ rest,
      State.run ⟨outer, done, .content⟩ (text ++ rest) = State.run ⟨outer, after, .content⟩ rest

namespace Adds

theorem append {text others : List Char} {first second : List Markup} (adds : Adds text first)
    (more : Adds others second) : Adds (text ++ others) (first ++ second) := fun outer done => by
  obtain ⟨middle, added, read, elements, run⟩ := adds outer done
  obtain ⟨after, added', read', elements', run'⟩ := more outer middle
  refine ⟨after, added ++ added', areRead_append read read', ?_, fun rest => ?_⟩
  · rw [elements', elements, List.reverse_append, List.append_assoc]
  · rw [List.append_assoc, run, run']

theorem inert {text : List Char} (plain : ∀ c ∈ text, c ≠ '<' ∧ c ≠ '&') : Adds text [] := by
  induction text with
  | nil => exact fun outer done => ⟨done, [], rfl, rfl, fun _ => rfl⟩
  | cons c text ih =>
    obtain ⟨⟨tag, entity⟩, others⟩ := List.forall_mem_cons.1 plain
    intro outer done
    have step : State.step ⟨outer, done, .content⟩ c =
        some ⟨outer, Dom.putText (String.singleton c) done, .content⟩ := by
      simp [State.step, tag, entity]
    obtain ⟨after, added, read, elements, run⟩ := ih others outer _
    refine ⟨after, added, read, ?_, fun rest => ?_⟩
    · rw [elements, Dom.elements_putText]
    · rw [List.cons_append, State.run_step step, run]

theorem lineEnd (layout : Option Layout) : Adds ((lineEnd layout).flatMap Piece.chars) [] := by
  cases layout with
  | none => exact .inert nofun
  | some l => exact .inert (List.forall_mem_singleton.2 (by decide : '\n' ≠ '<' ∧ '\n' ≠ '&'))

section

variable {indent : Option String} (inertIndent : ∀ text ∈ indent, isInert text) (depth : Nat)

include inertIndent

theorem lineStart : Adds ((lineStart (layoutAt indent depth)).flatMap Piece.chars) [] := by
  cases indent with
  | none => exact .inert nofun
  | some text =>
    refine .inert fun c mem => ?_
    have indents : c ∈ (List.replicate depth text).flatMap String.toList := by
      simpa [Layout.lineStart, layoutAt, Piece.chars, String.toList_join] using mem
    obtain ⟨copy, repeated, mem⟩ := List.mem_flatMap.1 indents
    rw [List.eq_of_mem_replicate repeated] at mem
    simpa using List.all_eq_true.1 (inertIndent text rfl) c mem

theorem line {pieces : List Piece} {nodes : List Markup}
    (adds : Adds (pieces.flatMap Piece.chars) nodes) :
    Adds ((line (layoutAt indent depth) pieces).flatMap Piece.chars) nodes := by
  have all := ((lineStart inertIndent depth).append adds).append
      (lineEnd (layoutAt indent depth))
  rwa [List.nil_append, List.append_nil, ← List.flatMap_append, ← List.flatMap_append] at all

end

end Adds

variable {indent : Option String}

mutual

theorem adds_markup (inertIndent : ∀ text ∈ indent, isInert text) :
    ∀ (m : Markup) (depth : Nat), m.isElement → m.Settled → Readable m →
      Adds ((m.pieces (layoutAt indent depth)).flatMap Piece.chars) [m]
  | .element tag attributes styles body, depth, _, settled, ⟨plainTag, plain, readable⟩ => by
    have plainAll : ∀ a ∈ attributes ++ styleAttribute styles, isPlainName a.name :=
      List.forall_mem_append.2 ⟨plain, plain_styleAttribute⟩
    refine .line inertIndent depth fun outer done => ?_
    obtain ⟨nodes, read, run⟩ := read_body inertIndent body depth tag plainTag settled readable
      (attributes ++ styleAttribute styles) outer done
    let node : Dom := .element tag (attributes ++ styleAttribute styles) nodes
    refine ⟨node :: done, [node], ⟨⟨rfl, rfl, read⟩, rfl⟩, rfl, fun rest => ?_⟩
    rw [List.flatMap_cons, List.append_assoc, State.run_opening plainTag plainAll, run]

theorem read_body (inertIndent : ∀ text ∈ indent, isInert text) :
    ∀ (body : Body) (depth : Nat) (tag : String), isPlainName tag → body.Settled →
      ReadableBody (isVoidTag tag) body → ∀ attributes outer done, ∃ nodes, body.IsRead nodes ∧
        ∀ rest, (State.opened ⟨outer, done, .content⟩ tag attributes).run
            ((body.pieces (layoutAt indent depth) tag).flatMap Piece.chars ++ rest) =
          State.run ⟨outer, .element tag attributes nodes :: done, .content⟩ rest
  | .void, _, tag, plainTag, _, readable, attributes, outer, done =>
    ⟨[], rfl, run_body .void tag plainTag readable attributes outer done⟩
  | .inline nodes, _, tag, plainTag, _, readable, attributes, outer, done =>
    ⟨_, rfl, run_body (.inline nodes) tag plainTag readable attributes outer done⟩
  | .block nodes, depth, tag, plainTag, settled, readable, attributes, outer, done => by
    have adds := ((Adds.lineEnd (layoutAt indent depth)).append
      (adds_all inertIndent nodes (depth + 1) settled.1 settled.2 readable.2)).append
        (.lineStart inertIndent depth)
    rw [List.nil_append, List.append_nil, ← List.flatMap_append, ← List.flatMap_append] at adds
    obtain ⟨after, added, read, elements, run⟩ := adds (⟨tag, attributes, done⟩ :: outer) []
    refine ⟨after.reverse, ?_, fun rest => ?_⟩
    · rw [Body.IsRead, Dom.elements_reverse, elements]
      simpa [Dom.elements] using read
    · rw [opened_of_inside readable.1, Body.pieces, Rendering.deeper_layoutAt, List.flatMap_append,
        List.append_assoc, run, List.flatMap_singleton, State.run_closing plainTag]

theorem adds_all (inertIndent : ∀ text ∈ indent, isInert text) :
    ∀ (nodes : List Markup) (depth : Nat), (∀ m ∈ nodes, m.isElement) → SettledAll nodes →
      ReadableAll nodes → Adds ((piecesOfAll (layoutAt indent depth) nodes).flatMap Piece.chars) nodes
  | [], _, _, _, _ => .inert nofun
  | node :: nodes, depth, elements, settled, readable => by
    rw [List.forall_mem_cons] at elements
    have first := adds_markup inertIndent node depth elements.1 settled.1 readable.1
    have others := adds_all inertIndent nodes depth elements.2 settled.2 readable.2
    rw [piecesOfAll, List.flatMap_append]
    exact first.append others

end

end Reader

/-- The fragment of a block without trusted markup is read back as the markup of its section, with
every indentation in which no tag and no entity starts. -/
theorem Section.read_fragment (block : Block) (plain : block.content.holdsMarkup = false)
    {indent : Option String} (inertIndent : ∀ text ∈ indent, Reader.isInert text) :
    ∃ nodes, Reader.read ((Rendering.html indent).fragment block.appearance) = some nodes ∧
      AreRead [(Section.ofBlock block).markup] (Dom.elements nodes) := by
  have adds := Reader.adds_markup inertIndent _ 2 rfl (Section.markup_settled block)
    (Section.readable_markup plain)
  obtain ⟨after, added, read, elements, run⟩ := adds [] []
  refine ⟨after.reverse, ?_, ?_⟩
  · have whole := run []
    rw [List.append_nil] at whole
    rw [Rendering.fragment, ← Section.markup_ofBlock, Reader.read, Piece.write,
      String.toList_ofList, whole]
    rfl
  · rw [Dom.elements_reverse, elements]
    simpa [Dom.elements] using read

end PageBuilder
