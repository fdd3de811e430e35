import PageBuilder.Proofs.Component.Agreement
import PageBuilder.Proofs.Script.Nodes

set_option autoImplicit false

namespace PageBuilder

open Script

variable {abc : Alphabet} {trusted : Bool} {shapes : Shapes}

theorem isTag_of_latin {tag : String} (known : isTag .latin tag) : isTag abc tag := by
  rw [isTag, Bool.and_eq_true] at known ⊢
  exact known.imp_left Alphabet.isName_of_latin

theorem isTag_of_mem {tag : String} (mem : tag ∈ tagNames) : isTag abc tag :=
  isTag_of_latin ((by decide : ∀ tag ∈ tagNames, isTag .latin tag) tag mem)

theorem isVariable_of_mem {binding : String} (mem : binding ∈ bindingNames) :
    abc.isVariable binding :=
  isVariable_of_latin
    ((by decide : ∀ binding ∈ bindingNames, Alphabet.latin.isVariable binding) binding mem)

theorem isName_styleKey {property : String} (mem : property ∈ styleNames) :
    abc.isName (styleKey property) :=
  Alphabet.isName_of_latin
    ((by decide : ∀ name ∈ styleNames, Alphabet.latin.isName (styleKey name)) property mem)

theorem isName_propertyName {name : String} (mem : name ∈ attributeNames) :
    abc.isName (propertyName name) ∧ propertyName name ≠ "style" ∧
      propertyName name ≠ "dangerouslySetInnerHTML" := by
  have latin : ∀ name ∈ attributeNames, Alphabet.latin.isName (propertyName name) ∧
      propertyName name ≠ "style" ∧ propertyName name ≠ "dangerouslySetInnerHTML" := by decide
  exact (latin name mem).imp_left Alphabet.isName_of_latin

theorem AttributeFits.readable {a : String × Expr} (fits : AttributeFits shapes a) :
    PropertyReadable abc (propertyName a.1, a.2) := by
  obtain ⟨known, shaped⟩ := fits
  have readable : a.2.isReadable .latin := by
    split at shaped
    · exact shaped.2
    · exact shaped.2
  obtain ⟨valid, notStyle, notMarkup⟩ := isName_propertyName known
  exact ⟨valid, notStyle, notMarkup, a.2.isReadable_of_latin readable⟩

theorem StyleFits.readable {s : String × Expr} (fits : StyleFits shapes s) :
    EntryReadable abc (styleKey s.1, s.2) :=
  ⟨.inr (isName_styleKey fits.1), s.2.isReadable_of_latin fits.2.2⟩

theorem Items.Fits.readable {items : Items} {shape : Shape} (fits : items.Fits shapes shape) :
    items.Readable abc := by
  cases items with
  | inline v =>
    obtain ⟨⟨items, list, _⟩, whole⟩ := fits
    exact ⟨⟨items, list⟩, whole⟩
  | of list => exact list.isReadable_of_latin fits.2
  | range count => trivial

theorem textsOfAll?_componentsOf (nodes : List Node) :
    textsOfAll? (componentsOf nodes) = textsOf? nodes := by
  induction nodes with
  | nil => rfl
  | cons node nodes ih =>
    cases node with
    | text e => rw [componentsOf, Node.component, textsOfAll?, textsOf?, ih]
    | element e =>
      obtain ⟨tag, attributes, styles, markup, children⟩ := e
      rfl
    | «repeat» binding items body => rfl
    | choice condition yes no => rfl

theorem readable_of_textsOf? {nodes : List Node} {texts : List Expr}
    (all : textsOf? nodes = some texts) (fits : FitAll trusted shapes nodes) :
    ∀ e ∈ texts, e.isReadable abc := by
  induction nodes generalizing texts with
  | nil =>
    cases all
    exact List.forall_mem_nil _
  | cons node nodes ih =>
    cases node with
    | text e =>
      obtain ⟨others, rest, rfl⟩ := Option.map_eq_some_iff.1 all
      exact List.forall_mem_cons.2 ⟨e.isReadable_of_latin fits.1.2, ih rest fits.2⟩
    | _ => cases all

mutual

theorem Element.component_readable : ∀ (e : Element) {shapes : Shapes},
    e.Fits trusted shapes → e.component.Readable abc
  | { tag, attributes, styles, markup, children }, shapes, fits => by
    obtain ⟨known, _, attributesFit, _, stylesFit, markupFits, _, childrenFit⟩ := fits
    have nodes := componentsOf_readable children childrenFit
    unfold Element.component
    refine ⟨isTag_of_mem known, ?_, ?_, ?_⟩
    · exact List.forall_mem_map.2 fun a mem => (attributesFit a mem).readable
    · exact List.forall_mem_map.2 fun s mem => (stylesFit s mem).readable
    · split
      · exact Expr.isReadable_of_latin _ (markupFits _ rfl).2.2
      · split
        · trivial
        · split
          · rename_i texts all
            exact readable_of_textsOf? all childrenFit
          · rename_i mixed
            exact ⟨(textsOfAll?_componentsOf children).trans mixed, nodes⟩

theorem Node.component_readable : ∀ (node : Node) {shapes : Shapes},
    node.Fits trusted shapes → node.component.Readable abc
  | .element e, _, fits => e.component_readable fits
  | .text e, _, fits => e.isReadable_of_latin fits.2
  | .repeat _ _ body, _, ⟨known, _, itemsFit, fits⟩ =>
    ⟨isVariable_of_mem known, itemsFit.readable, componentsOf_readable body fits⟩
  | .choice condition yes no, _, ⟨shaped, yesFits, noFits⟩ =>
    ⟨condition.isReadable_of_latin (shaped.elim And.right And.right),
      componentsOf_readable yes yesFits, componentsOf_readable no noFits⟩

theorem componentsOf_readable : ∀ (nodes : List Node) {shapes : Shapes},
    FitAll trusted shapes nodes → AllReadable abc (componentsOf nodes)
  | [], _, _ => trivial
  | node :: rest, _, ⟨fits, others⟩ =>
    ⟨node.component_readable fits, componentsOf_readable rest others⟩

end

namespace Section

theorem element_readable (block : Block) : (ofBlock block).element.component.Readable abc :=
  (ofBlock block).element.component_readable (element_fits block)

/-- The source of the element of a section, which goes without the comment on the line before. -/
def elementSource (dialect : Dialect) (s : Section) : String :=
  Line.write (linesOfAll dialect 3 s.components).tail

theorem source?_elementSource (dialect : Dialect) (block : Block) :
    source? abc dialect ((ofBlock block).elementSource dialect) =
      some [(ofBlock block).element.component] := by
  have lines : (linesOfAll dialect 3 (ofBlock block).components).tail =
      linesOfAll dialect 3 [(ofBlock block).element.component] := by
    rw [components_eq, linesOfAll]
    rfl
  have readable : AllReadable abc [(ofBlock block).element.component] :=
    ⟨element_readable block, trivial⟩
  rw [elementSource, lines, source?_lines readable]

end Section

end PageBuilder
