import PageBuilder.Markup.Document
import PageBuilder.Proofs.Markup.Reader
import PageBuilder.Proofs.Templates.Contents

set_option autoImplicit false

namespace PageBuilder

open Reader (isPlainName Readable ReadableBody ReadableAll)

theorem plain_tagNames : ∀ tag ∈ tagNames, isPlainName tag := by decide

theorem plain_attributeNames : ∀ name ∈ attributeNames, isPlainName name := by decide

theorem Attribute.name_of_ofValue? {name : String} {v : Json} {a : Attribute}
    (made : a ∈ Attribute.ofValue? name v) : a.name = name := by
  unfold ofValue? at made
  split at made <;> cases made <;> rfl

theorem plain_attributesOf {shapes : Shapes} {attributes : List (String × Expr)}
    (fit : ∀ a ∈ attributes, AttributeFits shapes a) (scope : Scope) :
    ∀ a ∈ attributesOf scope attributes, isPlainName a.name := by
  intro a h
  obtain ⟨⟨name, e⟩, member, made⟩ := List.mem_filterMap.1 h
  rw [Attribute.name_of_ofValue? made]
  exact plain_attributeNames name (fit _ member).1

namespace Reader

theorem readableAll_append {nodes others : List Markup} (first : ReadableAll nodes)
    (second : ReadableAll others) : ReadableAll (nodes ++ others) := by
  induction nodes with
  | nil => exact second
  | cons node nodes ih => exact ⟨first.1, ih first.2⟩

theorem readableAll_flatMap {α : Type} {f : α → List Markup} {items : List α}
    (each : ∀ i ∈ items, ReadableAll (f i)) : ReadableAll (items.flatMap f) := by
  induction items with
  | nil => trivial
  | cons i items ih =>
    rw [List.flatMap_cons]
    exact readableAll_append (each i List.mem_cons_self)
      (ih fun j h => each j (List.mem_cons_of_mem _ h))

end Reader

mutual

theorem Element.readable_unroll : ∀ (e : Element) (shapes : Shapes), e.Fits false shapes →
    ∀ scope, Readable (e.unroll scope)
  | { tag, attributes, styles, markup, children }, shapes, fits, scope => by
    obtain ⟨known, _, attributesFit, _, _, trusted, void, childrenFit⟩ := fits
    refine ⟨plain_tagNames tag known, plain_attributesOf attributesFit scope, ?_⟩
    cases isVoid : isVoidTag tag with
    | true => rfl
    | false =>
      cases markup with
      | some e => exact absurd (trusted e rfl).1 Bool.false_ne_true
      | none =>
        have readable := readableAll_unrollAll children shapes childrenFit scope
        simp only [Bool.false_eq_true, if_false]
        split
        · exact ⟨rfl, readable⟩
        · exact ⟨rfl, readable⟩

theorem Node.readable_unroll : ∀ (node : Node) (shapes : Shapes), node.Fits false shapes →
    ∀ scope, ReadableAll (node.unroll scope)
  | .element e, shapes, fits, scope => ⟨e.readable_unroll shapes fits scope, trivial⟩
  | .text _, _, _, _ => ⟨trivial, trivial⟩
  | .repeat binding items body, shapes, ⟨_, shape, _, fits⟩, scope =>
    Reader.readableAll_flatMap fun item _ =>
      readableAll_unrollAll body ((binding, shape) :: shapes) fits ((binding, item) :: scope)
  | .choice condition yes no, shapes, ⟨_, yesFits, noFits⟩, scope => by
    rw [Node.unroll]
    split
    · exact readableAll_unrollAll yes shapes yesFits scope
    · exact readableAll_unrollAll no shapes noFits scope

theorem readableAll_unrollAll : ∀ (nodes : List Node) (shapes : Shapes),
    FitAll false shapes nodes → ∀ scope, ReadableAll (unrollAll scope nodes)
  | [], _, _, _ => trivial
  | node :: rest, shapes, ⟨fits, others⟩, scope =>
    Reader.readableAll_append (node.readable_unroll shapes fits scope)
      (readableAll_unrollAll rest shapes others scope)

end

theorem Section.readable_markup {block : Block} (plain : block.content.holdsMarkup = false) :
    Readable (Section.ofBlock block).markup := by
  have fits : FitAll false [] (Section.ofBlock block).body := by
    have root : (block.content.root block.base.background).Fits block.content.holdsMarkup [] :=
      block.content.root_fits block.base.background
    rw [plain] at root
    exact (fitAll_cons _ _).2 ⟨root, trivial⟩
  have names : ∀ a ∈ ((Section.ofBlock block).anchor.map fun anchor =>
      (⟨"id", some anchor⟩ : Attribute)).toList ++
        [⟨"class", some (Section.ofBlock block).style.className⟩], isPlainName a.name := by
    rw [List.forall_mem_append, List.forall_mem_singleton]
    refine ⟨fun a h => ?_, (by decide : isPlainName "class" = true)⟩
    obtain ⟨anchor, _, rfl⟩ := Option.map_eq_some_iff.1 (Option.mem_toList.1 h)
    exact (by decide : isPlainName "id" = true)
  exact ⟨by decide, names, rfl, readableAll_unrollAll _ [] fits []⟩

end PageBuilder
