import PageBuilder.Markup.Writer
import PageBuilder.Page.OfDocument

set_option autoImplicit false

/-!
# Writing markup

Whatever is written into a buffer adds its pieces to it and leaves the depth, the inline contents and
the bindings as they were, so the text of a page is the list of its pieces.
-/

namespace PageBuilder

open Layout (lineStart lineEnd line)

namespace Piece

theorem write_append (pieces others : List Piece) :
    write (pieces ++ others) = write pieces ++ write others := by
  simp [write, String.ofList_append]

theorem write_text (s : String) : write [.text s] = escapedText s := by
  rw [write, List.flatMap_singleton]
  rfl

theorem write_raw (s : String) : write [.raw s] = s := by
  rw [write, List.flatMap_singleton, chars, String.ofList_toList]

theorem ofList_attributeChars (name value : String) :
    String.ofList (attributeChars ⟨name, some value⟩) =
      " " ++ name ++ "=\"" ++ escapedValue value ++ "\"" := by
  rw [← String.toList_inj]
  simp [attributeChars, escapedValue]

theorem write_opening (tag : String) (attributes : List Attribute) :
    write [.opening tag attributes] =
      "<" ++ tag ++ String.ofList (attributes.flatMap attributeChars) ++ ">" := by
  rw [← String.toList_inj]
  simp [write, chars]

theorem write_closing (tag : String) : write [.closing tag] = "</" ++ tag ++ ">" := by
  rw [← String.toList_inj]
  simp [write, chars]

/-- Has no character that the value of an attribute cannot show. -/
def IsPlain (s : String) : Prop := s.toList.flatMap escapeValue = s.toList

instance (s : String) : Decidable (IsPlain s) := inferInstanceAs (Decidable (_ = _))

theorem IsPlain.append {s t : String} (first : IsPlain s) (second : IsPlain t) :
    IsPlain (s ++ t) := by
  rw [IsPlain, String.toList_append, List.flatMap_append, first, second]

theorem IsPlain.escapedValue_eq {s : String} (plain : IsPlain s) : escapedValue s = s := by
  rw [escapedValue, plain, String.ofList_toList]

theorem IsPlain.write_opening {value : String} (plain : IsPlain value)
    (tag name other content : String) :
    write [.opening tag [⟨name, some value⟩, ⟨other, some content⟩]] =
      "<" ++ tag ++ " " ++ name ++ "=\"" ++ value ++ "\" " ++ other ++ "=\"" ++
        escapedValue content ++ "\">" := by
  rw [Piece.write_opening, List.flatMap_cons, List.flatMap_singleton, String.ofList_append,
    ofList_attributeChars, ofList_attributeChars, plain.escapedValue_eq, ← String.toList_inj]
  simp

end Piece

open Piece (IsPlain)

theorem piecesOfAll_append (layout : Option Layout) (nodes others : List Markup) :
    piecesOfAll layout (nodes ++ others) =
      piecesOfAll layout nodes ++ piecesOfAll layout others := by
  induction nodes with
  | nil => rfl
  | cons node nodes ih => rw [List.cons_append, piecesOfAll, piecesOfAll, ih, List.append_assoc]

theorem piecesOfAll_singleton (layout : Option Layout) (node : Markup) :
    piecesOfAll layout [node] = node.pieces layout := List.append_nil _

theorem piecesOfAll_flatMap {α : Type} (layout : Option Layout) (items : List α)
    (f : α → List Markup) :
    piecesOfAll layout (items.flatMap f) = items.flatMap fun i => piecesOfAll layout (f i) := by
  induction items with
  | nil => rfl
  | cons i items ih => rw [List.flatMap_cons, piecesOfAll_append, ih, List.flatMap_cons]

theorem piecesOfAll_map {α : Type} (layout : Option Layout) (f : α → Markup) (items : List α) :
    piecesOfAll layout (items.map f) = items.flatMap fun i => (f i).pieces layout := by
  induction items with
  | nil => rfl
  | cons i items ih => rw [List.map_cons, piecesOfAll, ih, List.flatMap_cons]

namespace Markup

theorem pieces_element (layout : Option Layout) (tag : String) (attributes : List Attribute)
    (styles : List Declaration) (body : Body) :
    (Markup.element tag attributes styles body).pieces layout =
      lineStart layout ++ [.opening tag (attributes ++ styleAttribute styles)] ++
        body.pieces layout tag ++ lineEnd layout := by
  simp [Markup.pieces, line]

theorem pieces_block (layout : Option Layout) (tag : String) (attributes : List Attribute)
    (styles : List Declaration) (nodes : List Markup) :
    (Markup.element tag attributes styles (.block nodes)).pieces layout =
      line layout [.opening tag (attributes ++ styleAttribute styles)] ++
        piecesOfAll (Layout.deeper layout) nodes ++ line layout [.closing tag] := by
  simp [Markup.pieces, Body.pieces, line]

end Markup

namespace MarkupWriter

def lines (w : MarkupWriter) : Option Layout := w.layout?.map (⟨·, w.depth⟩)

section

variable {w : MarkupWriter}

@[simp]
theorem add_add (a b : String) : (w.add a).add b = w.add (a ++ b) := by
  simp [add, String.append_assoc]

theorem add_empty (w : MarkupWriter) : w.add "" = w := by
  simp [add]

@[simp]
theorem add_scope (text : String) : (w.add text).scope = w.scope := rfl

@[simp]
theorem add_lines (text : String) : (w.add text).lines = w.lines := rfl

theorem deeper_lines : w.deeper.lines = Layout.deeper w.lines := by
  rw [lines, lines, Layout.deeper, Option.map_map]
  rfl

end

theorem addIndent_eq (w : MarkupWriter) : w.addIndent = w.add (Piece.write (lineStart w.lines)) := by
  rw [addIndent, lines]
  cases w.layout? with
  | none => exact (add_empty w).symm
  | some indent =>
    have text : Piece.write (lineStart (some ⟨indent, w.depth⟩)) =
        String.join (List.replicate w.depth indent) := by
      rw [lineStart, Piece.write, List.flatMap_singleton, Piece.chars, String.ofList_toList]
    rw [Option.map_some, text]

theorem newline_eq (w : MarkupWriter) : w.newline = w.add (Piece.write (lineEnd w.lines)) := by
  rw [newline, lines]
  cases w.layout? with
  | none => exact (add_empty w).symm
  | some indent => rfl

theorem addLine_eq {pieces : List Piece} {text : String} (spelled : Piece.write pieces = text)
    (w : MarkupWriter) : w.addLine text = w.add (Piece.write (line w.lines pieces)) := by
  rw [addLine, addIndent_eq, newline_eq, add_add, add_add, add_lines, add_lines, line,
    Piece.write_append, Piece.write_append, spelled, String.append_assoc]

/-- Adds the pieces that its bindings and its layout give, and changes nothing else. -/
def Writes (f : MarkupWriter → MarkupWriter) (pieces : Scope → Option Layout → List Piece) : Prop :=
  ∀ w, f w = w.add (Piece.write (pieces w.scope w.lines))

/-- Adds the nodes that its bindings give. -/
def WritesNodes (f : MarkupWriter → MarkupWriter) (nodes : Scope → List Markup) : Prop :=
  ∀ w, f w = w.add (Piece.write (piecesOfAll w.lines (nodes w.scope)))

namespace Writes

variable {f g : MarkupWriter → MarkupWriter} {pieces others : Scope → Option Layout → List Piece}

theorem nested (writes : Writes f pieces) : Writes (MarkupWriter.nested f)
    fun scope layout => pieces scope (Layout.deeper layout) := by
  intro w
  rw [MarkupWriter.nested, writes, deeper_lines]
  rfl

theorem between {opening closing : String} {first last : List Piece} (writes : Writes f pieces)
    (opened : Piece.write first = opening) (closed : Piece.write last = closing) :
    Writes (MarkupWriter.between opening closing f) fun scope layout =>
      line layout first ++ pieces scope (Layout.deeper layout) ++ line layout last := by
  intro w
  rw [MarkupWriter.between, addLine_eq opened, writes.nested, addLine_eq closed]
  simp only [add_add, add_scope, add_lines, ← Piece.write_append]

/-- What is written one after the other adds its pieces one after the other. -/
theorem foldl {α : Type} {f : α → MarkupWriter → MarkupWriter}
    {pieces : α → Scope → Option Layout → List Piece} (items : List α)
    (writes : ∀ i ∈ items, Writes (f i) (pieces i)) :
    Writes (fun w => items.foldl (fun w i => f i w) w) fun scope layout =>
      items.flatMap fun i => pieces i scope layout := by
  induction items with
  | nil => exact fun w => (add_empty w).symm
  | cons i items ih =>
    obtain ⟨first, others⟩ := List.forall_mem_cons.1 writes
    intro w
    have rest := ih others (f i w)
    simp only [first w, add_add, add_scope, add_lines, ← Piece.write_append] at rest
    rw [← first w] at rest
    exact rest

end Writes

namespace WritesNodes

variable {f g : MarkupWriter → MarkupWriter} {nodes others : Scope → List Markup}

theorem append (first : WritesNodes f nodes) (second : WritesNodes g others) :
    WritesNodes (fun w => g (f w)) fun scope => nodes scope ++ others scope := by
  intro w
  change g (f w) = _
  rw [first, second, add_add, add_scope, add_lines, piecesOfAll_append, Piece.write_append]

theorem foldl {α : Type} {f : α → MarkupWriter → MarkupWriter} {nodes : α → Scope → List Markup}
    (items : List α) (writes : ∀ i ∈ items, WritesNodes (f i) (nodes i)) :
    WritesNodes (fun w => items.foldl (fun w i => f i w) w) fun scope =>
      items.flatMap fun i => nodes i scope := by
  have each : ∀ i ∈ items, Writes (f i) fun scope layout => piecesOfAll layout (nodes i scope) :=
    writes
  intro w
  rw [piecesOfAll_flatMap]
  exact Writes.foldl items each w

theorem inlined (writes : WritesNodes f nodes) (w : MarkupWriter) :
    w.inlined f = w.add (Piece.write (piecesOfAll none (nodes w.scope))) := by
  have flat : lines { w with inline := w.inline + 1 } = none := by
    rw [lines, layout?, if_neg (Nat.succ_ne_zero _), Option.map_none]
  rw [MarkupWriter.inlined, writes, flat]
  rfl

theorem bound (writes : WritesNodes f nodes) (binding : String) (item : Json) :
    WritesNodes (MarkupWriter.bound binding item f) fun scope =>
      nodes (scope.push binding item) := by
  intro w
  rw [MarkupWriter.bound, writes]
  rfl

theorem block {tag : String} {attributes : List Attribute} {opening closing : String}
    (writes : WritesNodes f nodes) (opened : Piece.write [.opening tag attributes] = opening)
    (closed : Piece.write [.closing tag] = closing) :
    WritesNodes (MarkupWriter.between opening closing f) fun scope =>
      [.element tag attributes [] (.block (nodes scope))] := by
  have inside : Writes f fun scope layout => piecesOfAll layout (nodes scope) := writes
  have bare : attributes ++ styleAttribute [] = attributes := List.append_nil attributes
  intro w
  rw [piecesOfAll_singleton, Markup.pieces_block, bare]
  exact inside.between opened closed w

theorem line {node : Markup} {text : String} (pieces : List Piece)
    (one : ∀ layout, node.pieces layout = Layout.line layout pieces)
    (spelled : Piece.write pieces = text) :
    WritesNodes (MarkupWriter.addLine text) fun _ => [node] := by
  intro w
  rw [piecesOfAll_singleton, one]
  exact addLine_eq spelled w

end WritesNodes

theorem addAttribute_eq (name : String) (value : Expr) (w : MarkupWriter) :
    w.addAttribute name value = w.add (String.ofList
      ((Attribute.ofValue? name (value.eval w.scope)).toList.flatMap Piece.attributeChars)) := by
  have named : ∀ v : Json, w.add (" " ++ name ++ "=\"" ++ escapedValue v.display ++ "\"") =
      w.add (String.ofList ((some (⟨name, some v.display⟩ : Attribute)).toList.flatMap
        Piece.attributeChars)) := by
    intro v
    rw [← Piece.ofList_attributeChars]
    simp
  rw [addAttribute]
  cases value.eval w.scope with
  | null => exact (add_empty w).symm
  | bool b =>
    cases b with
    | false => exact (add_empty w).symm
    | true =>
      change w.add (" " ++ name) = _
      congr 1
      rw [← String.toList_inj]
      simp [Attribute.ofValue?, Piece.attributeChars]
  | _ => exact named _

theorem addStyles_eq (styles : List Declaration) (w : MarkupWriter) : w.addStyles styles =
    w.add (String.ofList ((styleAttribute styles).flatMap Piece.attributeChars)) := by
  cases styles with
  | nil => exact (add_empty w).symm
  | cons d styles =>
    have attributes : (styleAttribute (d :: styles)).flatMap Piece.attributeChars =
        Piece.attributeChars ⟨"style", some (" ".intercalate ((d :: styles).map Declaration.text))⟩ :=
      List.append_nil _
    rw [attributes, Piece.ofList_attributeChars]
    rfl

theorem addAttributes_eq (attributes styles : List (String × Expr)) (w : MarkupWriter) :
    w.addAttributes attributes styles = w.add (String.ofList
      ((attributesOf w.scope attributes ++ styleAttribute (stylesOf w.scope styles)).flatMap
        Piece.attributeChars)) := by
  have each : ∀ w : MarkupWriter, attributes.foldl (fun w a => w.addAttribute a.1 a.2) w =
      w.add (String.ofList ((attributesOf w.scope attributes).flatMap Piece.attributeChars)) := by
    induction attributes with
    | nil => exact fun w => (add_empty w).symm
    | cons a attributes ih =>
      intro w
      have first : attributesOf w.scope (a :: attributes) =
          (Attribute.ofValue? a.1 (a.2.eval w.scope)).toList ++ attributesOf w.scope attributes := by
        simp only [attributesOf, List.filterMap_cons]
        cases Attribute.ofValue? a.1 (a.2.eval w.scope) <;> rfl
      rw [List.foldl_cons, ih, addAttribute_eq, add_add, add_scope, ← String.ofList_append, first,
        List.flatMap_append]
  simp only [addAttributes, each, addStyles_eq, add_add, add_scope, ← String.ofList_append,
    List.flatMap_append]

theorem addOpening_eq (tag : String) (attributes styles : List (String × Expr))
    (w : MarkupWriter) :
    ((w.addIndent.add ("<" ++ tag)).addAttributes attributes styles).add ">" =
      w.add (Piece.write (lineStart w.lines ++ [.opening tag (attributesOf w.scope attributes ++
        styleAttribute (stylesOf w.scope styles))])) := by
  simp only [addIndent_eq, addAttributes_eq, Piece.write_append, Piece.write_opening, add_add,
    add_scope, String.append_assoc]

end MarkupWriter

open MarkupWriter

theorem eq_of_textsOf? {children : List Node} {texts : List Expr}
    (found : textsOf? children = some texts) : children = texts.map Node.text := by
  induction children generalizing texts with
  | nil =>
    cases found
    rfl
  | cons child children ih =>
    cases child with
    | text e =>
      obtain ⟨rest, foundRest, rfl⟩ := Option.map_eq_some_iff.1 found
      rw [List.map_cons, ← ih foundRest]
    | _ => cases found

theorem any_not_isText_of_textsOf? {children : List Node} (mixed : textsOf? children = none) :
    children.any fun node => !node.isText := by
  induction children with
  | nil => cases mixed
  | cons child children ih =>
    cases child with
    | text e => exact ih (Option.map_eq_none_iff.1 mixed)
    | _ => rfl

theorem write_texts (scope : Scope) (texts : List Expr) :
    Piece.write (piecesOfAll none (unrollAll scope (texts.map .text))) =
      escapedText (String.join (texts.map fun e => e.display scope)) := by
  induction texts with
  | nil => rfl
  | cons e texts ih =>
    have first : (Markup.text (e.display scope)).pieces none = [.text (e.display scope)] := rfl
    rw [List.map_cons, unrollAll, Node.unroll, List.singleton_append, piecesOfAll, first,
      Piece.write_append, ih, Piece.write_text, List.map_cons, String.join_cons, escapedText,
      escapedText, escapedText, String.toList_append, List.flatMap_append, String.ofList_append]

def childPieces (scope : Scope) (layout : Option Layout) (children : List Node) : List Piece :=
  if children.isEmpty || children.any Node.isText then piecesOfAll none (unrollAll scope children)
  else
    lineEnd layout ++ piecesOfAll (Layout.deeper layout) (unrollAll scope children) ++
      lineStart layout

theorem pieces_children (scope : Scope) (layout : Option Layout) (tag : String)
    (children : List Node) :
    Body.pieces layout tag (if children.isEmpty || children.any Node.isText then
      .inline (unrollAll scope children) else .block (unrollAll scope children)) =
        childPieces scope layout children ++ [.closing tag] := by
  unfold childPieces
  split
  · rw [Body.pieces]
  · rw [Body.pieces]

theorem addChildren_writes {children : List Node} {nodes : MarkupWriter → MarkupWriter}
    (inside : WritesNodes nodes fun scope => unrollAll scope children) :
    Writes (addChildren children nodes) fun scope layout => childPieces scope layout children := by
  have nested : Writes nodes fun scope layout => piecesOfAll layout (unrollAll scope children) :=
    inside
  intro w
  simp only [addChildren, inlineText?, childPieces]
  cases empty : children.isEmpty with
  | true =>
    rw [List.isEmpty_iff.1 empty]
    exact (add_empty w).symm
  | false =>
    cases found : textsOf? children with
    | some texts =>
      obtain rfl := eq_of_textsOf? found
      have all : (texts.map Node.text).any Node.isText := by
        cases texts with
        | nil => cases empty
        | cons e texts => rfl
      simp only [Bool.false_eq_true, if_false, Option.map_some, all, Bool.or_true, if_true,
        write_texts]
    | none =>
      have other := any_not_isText_of_textsOf? found
      simp only [hasMixedContent, other, Bool.and_true, Bool.false_or, Bool.false_eq_true,
        if_false, Option.map_none]
      split
      · exact inside.inlined w
      · simp only [addIndent_eq, newline_eq, nested.nested _, add_add, add_scope, add_lines,
          ← Piece.write_append]

mutual

theorem Element.write_writes : ∀ e : Element,
    Writes e.write fun scope layout => (e.unroll scope).pieces layout
  | { tag, attributes, styles, markup, children }, w => by
    have inside := addChildren_writes (writeNodes_writes children)
    simp only [Element.write, addOpening_eq, newline_eq]
    cases void : isVoidTag tag with
    | true =>
      simp only [Element.unroll, void, if_true, Markup.pieces_element, Body.pieces,
        List.append_nil, add_add, add_lines, ← Piece.write_append]
    | false =>
      simp only [Element.unroll, void, Bool.false_eq_true, if_false, Markup.pieces_element]
      cases markup with
      | some e =>
        have body : Body.pieces w.lines tag (.inline [.raw (e.display w.scope)]) =
            [.raw (e.display w.scope)] ++ [.closing tag] := rfl
        simp only [body, Piece.write_append, Piece.write_raw, Piece.write_closing, add_add,
          add_lines, add_scope, String.append_assoc]
      | none =>
        simp only [inside _, pieces_children, ← Piece.write_closing, add_add, add_lines, add_scope,
          ← Piece.write_append, List.append_assoc]

theorem Node.write_writes : ∀ node : Node, WritesNodes node.write fun scope => node.unroll scope
  | .element e, w => by
    have own := e.write_writes w
    simp only [Node.write, own, Node.unroll, piecesOfAll_singleton]
  | .text e, w => by
    have own := addLine_eq (Piece.write_text (e.display w.scope)) w
    simp only [Node.write, own, Node.unroll, piecesOfAll_singleton, Markup.pieces]
  | .repeat binding items body, w => by
    have all := WritesNodes.foldl (items.toList w.scope) fun item _ =>
      (writeNodes_writes body).bound binding item
    simp only [Node.write, Node.unroll]
    exact all w
  | .choice condition yes no, w => by
    have first := writeNodes_writes yes w
    have second := writeNodes_writes no w
    simp only [Node.write, Node.unroll]
    split
    · exact first
    · exact second

theorem writeNodes_writes : ∀ nodes : List Node,
    WritesNodes (writeNodes nodes) fun scope => unrollAll scope nodes
  | [], w => (add_empty w).symm
  | node :: rest, w => by
    have both := (node.write_writes.append (writeNodes_writes rest)) w
    simp only [writeNodes, both, unrollAll]

end

/-- The classes of resolved styles hold nothing to escape. -/
theorem ResolvedStyle.className_plain (base : Base) (radius : Option Radius) :
    IsPlain (ResolvedStyle.ofBase base radius).className := by
  have tops : ∀ s : Spacing, IsPlain (s.topPadding ++ " ") := by
    intro s
    cases s <;> decide
  have bottoms : ∀ s : Spacing, IsPlain s.bottomPadding := by
    intro s
    cases s <;> decide
  have effects : ∀ a : Animation, ∀ e ∈ a.effect, IsPlain (" animate__animated animate__" ++ e) := by
    intro a
    cases a <;> decide
  refine ((tops base.paddingTop).append (bottoms base.paddingBottom)).append ?_
  split
  case h_1 => decide
  case h_2 effect found => exact effects base.animation effect found

theorem MarkupWriter.addAnchor_eq (anchor : Option String) (w : MarkupWriter) :
    w.addAnchor anchor = w.add (String.ofList
      ((anchor.map fun a => (⟨"id", some a⟩ : Attribute)).toList.flatMap Piece.attributeChars)) := by
  cases anchor with
  | none => exact (add_empty w).symm
  | some a =>
    rw [Option.map_some, Option.toList_some, List.flatMap_singleton, Piece.ofList_attributeChars]
    rfl

namespace Section

def attributes (s : Section) : List Attribute :=
  (s.anchor.map fun anchor => ⟨"id", some anchor⟩).toList ++ [⟨"class", some s.style.className⟩]

/-- The markup of a section under bindings; no section stands under any. -/
def markupIn (scope : Scope) (s : Section) : Markup :=
  .element "section" s.attributes s.style.background (.block (unrollAll scope s.body))

theorem writeOpening_eq {s : Section} (plain : IsPlain s.style.className) (w : MarkupWriter) :
    s.writeOpening w = w.add (Piece.write (line w.lines
      [.opening "section" (s.attributes ++ styleAttribute s.style.background)])) := by
  have classes : String.ofList (Piece.attributeChars ⟨"class", some s.style.className⟩) =
      " class=\"" ++ s.style.className ++ "\"" := by
    rw [Piece.ofList_attributeChars, plain.escapedValue_eq, ← String.toList_inj]
    simp
  simp only [writeOpening, attributes, addAnchor_eq, addIndent_eq, newline_eq, addStyles_eq, line,
    Piece.write_append, Piece.write_opening, ← classes, List.flatMap_append,
    List.flatMap_singleton, String.ofList_append, add_add, add_lines, String.append_assoc]
  rfl

theorem write_writes {s : Section} (plain : IsPlain s.style.className) :
    Writes s.write fun scope layout => (s.markupIn scope).pieces layout := by
  have inside : Writes (writeNodes s.body) fun scope layout =>
      piecesOfAll layout (unrollAll scope s.body) := writeNodes_writes s.body
  intro w
  rw [Section.write, writeOpening_eq plain, inside.nested,
    addLine_eq (by decide : Piece.write [.closing "section"] = "</section>")]
  simp only [markupIn, Markup.pieces_block, add_add, add_scope, add_lines, ← Piece.write_append]

end Section

theorem Page.writeSections_writes {page : Page}
    (plain : ∀ s ∈ page.sections, IsPlain s.style.className) :
    WritesNodes page.writeSections fun scope => page.sections.map (Section.markupIn scope) := by
  have all := Writes.foldl page.sections fun s mem => s.write_writes (plain s mem)
  intro w
  rw [piecesOfAll_map]
  exact all w

namespace MarkupWriter

theorem addRaw_writes (text : String) : WritesNodes (addLine text) fun _ => [.raw text] :=
  .line _ (fun _ => rfl) (Piece.write_raw text)

theorem addMetadata_writes (key : String) {name : String} (plain : IsPlain name)
    (content : String) :
    WritesNodes (addMetadata key name content) fun _ => [.metadata key name content] := by
  refine .line [.opening "meta" [⟨key, some name⟩, ⟨"content", some content⟩]] (fun _ => rfl) ?_
  rw [plain.write_opening, ← String.toList_inj]
  simp

theorem addMetadataIfSet_writes (key : String) {name : String} (plain : IsPlain name)
    (content : String) : WritesNodes (addMetadataIfSet key name content) fun _ =>
      Markup.metadataIfSet key name content := by
  intro w
  rw [addMetadataIfSet, Markup.metadataIfSet]
  split
  · exact (add_empty w).symm
  · exact addMetadata_writes key plain content w

theorem addStylesheet_writes {address text : String} (escaped : escapedValue address = text) :
    WritesNodes (addStylesheet text) fun _ => [Markup.stylesheet address] := by
  have plain : IsPlain "stylesheet" := by decide
  refine .line [.opening "link" [⟨"rel", some "stylesheet"⟩, ⟨"href", some address⟩]]
    (fun _ => rfl) ?_
  rw [plain.write_opening, escaped, ← String.toList_inj]
  simp

end MarkupWriter

namespace Settings

theorem writeMetadata_writes (settings : Settings) :
    WritesNodes settings.writeMetadata fun _ => settings.metadata := by
  have charset : WritesNodes (MarkupWriter.addLine "<meta charset=\"UTF-8\">") fun _ =>
      [.element "meta" [⟨"charset", some "UTF-8"⟩] [] .void] :=
    .line _ (fun _ => rfl)
      (by decide : Piece.write [.opening "meta" [⟨"charset", some "UTF-8"⟩]] = _)
  have viewport : WritesNodes (MarkupWriter.addLine
      "<meta name=\"viewport\" content=\"width=device-width, initial-scale=1.0\">") fun _ =>
      [.metadata "name" "viewport" "width=device-width, initial-scale=1.0"] :=
    .line _ (fun _ => rfl) (by decide +kernel : Piece.write [.opening "meta"
      [⟨"name", some "viewport"⟩,
        ⟨"content", some "width=device-width, initial-scale=1.0"⟩]] = _)
  have title : WritesNodes (MarkupWriter.addLine
      ("<title>" ++ escapedText settings.title ++ "</title>")) fun _ =>
      [.element "title" [] [] (.inline [.text settings.title])] := by
    refine .line ([.opening "title" []] ++ [.text settings.title] ++ [.closing "title"])
      (fun _ => rfl) ?_
    rw [Piece.write_append, Piece.write_append, Piece.write_text, Piece.write_opening,
      Piece.write_closing]
    rfl
  have description := addMetadata_writes "name" (by decide : IsPlain "description")
    settings.description
  have keywords := addMetadataIfSet_writes "name" (by decide : IsPlain "keywords")
    settings.keywords
  have author := addMetadataIfSet_writes "name" (by decide : IsPlain "author") settings.author
  have robots := addMetadataIfSet_writes "name" (by decide : IsPlain "robots") settings.robots
  have sharedTitle := addMetadata_writes "property" (by decide : IsPlain "og:title")
    settings.title
  have sharedText := addMetadata_writes "property" (by decide : IsPlain "og:description")
    settings.description
  have image := addMetadataIfSet_writes "property" (by decide : IsPlain "og:image")
    settings.ogImage
  have first := ((charset.append viewport).append title).append description
  have shared := sharedTitle.append sharedText
  exact ((((first.append keywords).append author).append robots).append shared).append image

theorem writeResources_writes (settings : Settings) :
    WritesNodes settings.writeResources fun _ => settings.resources := by
  have script : WritesNodes (MarkupWriter.addLine
      "<script src=\"https://cdn.tailwindcss.com\"></script>") fun _ =>
      [Markup.script "https://cdn.tailwindcss.com"] :=
    .line _ (fun _ => rfl) (by decide : Piece.write
      [.opening "script" [⟨"src", some "https://cdn.tailwindcss.com"⟩], .closing "script"] = _)
  have icons := addStylesheet_writes (by decide +kernel : escapedValue
    ("https://fonts.googleapis.com/css2?family=Material+Symbols+Outlined" ++
      ":opsz,wght,FILL,GRAD@20..48,100..700,0..1,-50..200") =
    "https://fonts.googleapis.com/css2?family=Material+Symbols+Outlined" ++
      ":opsz,wght,FILL,GRAD@20..48,100..700,0..1,-50..200")
  have animations := addStylesheet_writes (by decide +kernel : escapedValue
    "https://cdnjs.cloudflare.com/ajax/libs/animate.css/4.1.1/animate.min.css" =
    "https://cdnjs.cloudflare.com/ajax/libs/animate.css/4.1.1/animate.min.css")
  have font := addStylesheet_writes (rfl : escapedValue settings.fontFamily.stylesheet = _)
  exact ((script.append icons).append animations).append font

theorem writePalette_writes (settings : Settings) : Writes settings.writePalette
    fun _ layout => settings.palette.flatMap fun d : Declaration => line layout [.raw d.text] :=
  .foldl settings.palette fun (d : Declaration) _ => addLine_eq (Piece.write_raw d.text)

theorem writeRules_writes (settings : Settings) :
    WritesNodes settings.writeRules fun _ => settings.rules := by
  have opened : Piece.write [.raw (":root" ++ " \x7b")] = ":root \x7b" := by decide
  have palette : WritesNodes (MarkupWriter.between ":root \x7b" "\x7d" settings.writePalette)
      fun _ => [.rule ":root" settings.palette] := by
    intro w
    rw [piecesOfAll_singleton, Markup.pieces]
    exact settings.writePalette_writes.between opened (Piece.write_raw "\x7d") w
  have body := addRaw_writes ("body \x7b font-family: " ++ settings.fontStack ++
    "; background-color: var(--color-bg); color: var(--color-text); \x7d")
  have icons := addRaw_writes (".material-symbols-outlined \x7b font-variation-settings: " ++
    "'FILL' 0, 'wght' 400, 'GRAD' 0, 'opsz' 24; \x7d")
  have all := (palette.append body).append icons
  intro w
  exact all w

theorem writeHead_writes (settings : Settings) :
    WritesNodes settings.writeHead fun _ => [settings.head] := by
  have style := settings.writeRules_writes.block
    (by decide : Piece.write [.opening "style" []] = "<style>")
    (by decide : Piece.write [.closing "style"] = "</style>")
  have inside := (settings.writeMetadata_writes.append settings.writeResources_writes).append style
  exact inside.block (by decide : Piece.write [.opening "head" []] = "<head>")
    (by decide : Piece.write [.closing "head"] = "</head>")

end Settings

/-- The text of a page is written piece by piece. -/
theorem Page.html_eq {page : Page} (plain : ∀ s ∈ page.sections, IsPlain s.style.className)
    (indent : Option String) :
    page.html indent = Piece.write (piecesOfAll (indent.map (⟨·, 0⟩)) page.markup) := by
  have body := (page.writeSections_writes plain).block
    (by decide : Piece.write [.opening "body" []] = "<body>")
    (by decide : Piece.write [.closing "body"] = "</body>")
  have root := (page.settings.writeHead_writes.append body).block
    (by decide : Piece.write [.opening "html" [⟨"lang", some "en"⟩]] = "<html lang=\"en\">")
    (by decide : Piece.write [.closing "html"] = "</html>")
  have all := (addRaw_writes "<!DOCTYPE html>").append root
  have written := congrArg MarkupWriter.buffer (all { indent })
  exact written.trans String.empty_append

theorem Page.html_ofDocument (indent : Option String) (d : Document) :
    (Page.ofDocument d).html indent =
      Piece.write (piecesOfAll (indent.map (⟨·, 0⟩)) (Page.ofDocument d).markup) := by
  refine Page.html_eq (fun s mem => ?_) indent
  obtain ⟨b, _, rfl⟩ := List.mem_map.1 mem
  exact ResolvedStyle.className_plain b.base b.content.radius?

end PageBuilder
