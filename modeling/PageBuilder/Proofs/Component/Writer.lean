import PageBuilder.Component.Writer
import PageBuilder.Page.OfDocument

set_option autoImplicit false

namespace PageBuilder

theorem Line.write_append (lines others : List Line) :
    write (lines ++ others) = write lines ++ write others := by
  simp [write]

namespace SourceWriter

variable {w : SourceWriter}

@[simp]
theorem add_add (a b : String) : (w.add a).add b = w.add (a ++ b) := by
  simp [add, String.append_assoc]

theorem add_empty (w : SourceWriter) : w.add "" = w := by
  simp [add]

@[simp]
theorem add_depth (text : String) : (w.add text).depth = w.depth := rfl

@[simp]
theorem add_dialect (text : String) : (w.add text).dialect = w.dialect := rfl

theorem addLine_eq (text : String) : w.addLine text = w.add (Line.write [⟨w.depth, text⟩]) := by
  rw [addLine, add_add]
  simp [Line.write]

/-- Adds the lines that stand at its depth, and changes nothing else. -/
def Writes (f : SourceWriter → SourceWriter) (lines : Dialect → Nat → List Line) : Prop :=
  ∀ w, f w = w.add (Line.write (lines w.dialect w.depth))

variable {f : SourceWriter → SourceWriter} {lines : Dialect → Nat → List Line}

theorem Writes.nested (writes : Writes f lines) :
    Writes (SourceWriter.nested f) fun dialect depth => lines dialect (depth + 1) := by
  intro w
  rw [SourceWriter.nested, writes]
  rfl

theorem Writes.between (opening closing : String) (writes : Writes f lines) :
    Writes (SourceWriter.between opening closing f) fun dialect depth =>
      ⟨depth, opening⟩ :: lines dialect (depth + 1) ++ [⟨depth, closing⟩] := by
  intro w
  simp only [SourceWriter.between, addLine_eq, writes.nested _, add_add, add_depth, add_dialect,
    ← Line.write_append]
  rfl

theorem Writes.fragment (writes : Writes f lines) : Writes (SourceWriter.fragment f)
    fun dialect depth => PageBuilder.fragment (depth + 1) (lines dialect (depth + 2)) :=
  (writes.between "<>" "</>").nested

end SourceWriter

open SourceWriter (Writes addLine_eq add_empty add_add add_depth add_dialect)

mutual

theorem Element.writeSource_writes : ∀ e : Element,
    Writes e.writeSource fun dialect depth => e.component.lines dialect depth
  | { markup := some _, .. }, _ => addLine_eq _
  | { markup := none, children, .. }, w => by
    have inside := writeSources_writes children
    rw [Element.writeSource, Element.component]
    by_cases empty : children.isEmpty
    · simp only [if_pos empty]
      exact addLine_eq _
    · simp only [if_neg empty]
      cases textsOf? children with
      | some texts => exact addLine_eq _
      | none => exact inside.between _ _ w

theorem Node.writeSource_writes : ∀ node : Node,
    Writes node.writeSource fun dialect depth => node.component.lines dialect depth
  | .element e, w => e.writeSource_writes w
  | .text _, _ => addLine_eq _
  | .repeat binding items body, w => by
    have key := (writeSources_writes body).between
      ("<React.Fragment key=\x7b" ++ binding ++ "Index\x7d>") "</React.Fragment>"
    rw [Node.writeSource, key.between _ _ w]
    simp only [Node.component, Component.lines, List.cons_append, List.append_assoc, List.nil_append]
  | .choice _ yes no, w => by
    have first := (writeSources_writes yes).fragment
    have second := (writeSources_writes no).fragment
    rw [Node.writeSource]
    simp only [addLine_eq, first _, second _, add_add, add_depth, add_dialect, ← Line.write_append]
    cases no with
    | nil => rfl
    | cons => simp [Node.component, Component.lines, componentsOf]

theorem writeSources_writes : ∀ nodes : List Node,
    Writes (writeSources nodes) fun dialect depth => linesOfAll dialect depth (componentsOf nodes)
  | [], w => (add_empty w).symm
  | node :: rest, w => by
    rw [writeSources, node.writeSource_writes, writeSources_writes rest, add_add,
      ← Line.write_append]
    rfl

end

theorem Section.writeSource_writes (s : Section) :
    Writes s.writeSource fun dialect depth => linesOfAll dialect depth s.components := by
  intro w
  have inside := writeSources_writes s.body
  rw [Section.writeSource, inside.between _ _ _, addLine_eq, add_add, add_depth, add_dialect,
    ← Line.write_append]
  simp only [components, linesOfAll, Component.lines, Inside.lines, List.append_nil]

theorem Page.writeSectionSources_writes (page : Page) :
    Writes page.writeSectionSources fun dialect depth =>
      page.sections.flatMap fun s => linesOfAll dialect depth s.components := by
  obtain ⟨settings, sections⟩ := page
  intro w
  change sections.foldl (fun w s => s.writeSource w) w = _
  induction sections generalizing w with
  | nil => exact (add_empty w).symm
  | cons s sections ih =>
    rw [List.foldl_cons, ih, s.writeSource_writes, add_add, add_depth, add_dialect,
      ← Line.write_append]
    rfl

theorem Page.component_eq (dialect : Dialect) (page : Page) :
    page.component dialect = Line.write (page.lines dialect) := by
  have inside := ((page.writeSectionSources_writes.between (rootSource dialect page.settings)
    (closingSource "div")).between "return (" ");").between (header dialect) "\x7d;"
  have blank : "\n" = Line.write [⟨0, ""⟩] := by decide
  rw [component, inside _]
  simp only [addLine_eq, blank, add_add, add_depth, add_dialect, ← Line.write_append]
  simp [SourceWriter.add, lines]

end PageBuilder
