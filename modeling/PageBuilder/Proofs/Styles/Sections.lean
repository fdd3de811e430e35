import PageBuilder.Proofs.Component.Sources
import PageBuilder.Proofs.Markup.Rows
import PageBuilder.Proofs.Markup.Sections
import PageBuilder.Proofs.Styles.Declarations

set_option autoImplicit false

namespace PageBuilder

open Rendered (valued)
open Css (trimmed isContained isPlainName_of_mem)

namespace Css

theorem declarations_space (text : List Char) : declarations (' ' :: text) = declarations text := by
  have space : ∀ c ∈ [' '], isBlank c := List.all_eq_true.1 (by decide)
  have neutral : ∀ c ∈ [' '], isNeutral c := List.all_eq_true.1 (by decide)
  have part : ∀ first, declaration? (' ' :: first) = declaration? first := fun first => by
    have name : trim (' ' :: first.takeWhile (· ≠ ':')) = trim (first.takeWhile (· ≠ ':')) :=
      trim_blank_append space _
    have front : (' ' :: first).takeWhile (· ≠ ':') = ' ' :: first.takeWhile (· ≠ ':') := rfl
    rw [declaration?, declaration?, front, name]
    rfl
  obtain ⟨first, others, parts⟩ := split_eq_cons .outside text
  rw [declarations, declarations, ← List.singleton_append, split_neutral neutral, parts,
    List.modifyHead_cons, List.filterMap_cons, List.filterMap_cons, List.singleton_append, part]

theorem read_style_iff {styles : List Declaration} (named : ∀ d ∈ styles, d.1 ∈ styleNames) :
    read (" ".intercalate (styles.map Declaration.text)) = valued (styles.map trimmed) ↔
      ∀ d ∈ styles, isContained d.2 := by
  rw [← read_spaced_iff fun d mem => isPlainName_of_mem d.1 (named d mem)]
  cases styles with
  | nil => rfl
  | cons d styles =>
    have text : ' ' :: (" ".intercalate ((d :: styles).map Declaration.text)).toList =
        spaced (d :: styles) := by
      rw [List.map_cons, Script.toList_intercalate_cons, List.flatMap_map]
      simp [spaced, lead, Declaration.text]
    rw [read, ← declarations_space, text]

end Css

def styleText (attributes : List Attribute) : String :=
  ((attributes.find? (·.name = "style")).bind Attribute.value).getD ""

theorem styleText_append {attributes : List Attribute}
    (known : ∀ a ∈ attributes, a.name ∈ attributeNames) (styles : List Declaration) :
    styleText (attributes ++ styleAttribute styles) =
      " ".intercalate (styles.map Declaration.text) := by
  have other : attributes.find? (·.name = "style") = none := by
    rw [List.find?_eq_none]
    intro a mem named
    have absurd := known a mem
    rw [of_decide_eq_true named] at absurd
    exact (by decide : "style" ∉ attributeNames) absurd
  rw [styleText, List.find?_append, other, Option.none_or, styleAttribute]
  cases styles <;> simp

namespace Reader

def attributes? (tag : String) : Option (List Attribute) := do
  let s ← State.run ⟨[], [], .content⟩ tag.toList
  match s.outer, s.done with
  | opened :: _, _ => some opened.attributes
  | [], .element _ attributes _ :: _ => some attributes
  | [], _ => none

theorem attributes?_opening {tag : String} (plain : isPlainName tag) {attributes : List Attribute}
    (plainNames : ∀ a ∈ attributes, isPlainName a.name) :
    attributes? (Piece.write [.opening tag attributes]) = some attributes := by
  have text : (Piece.write [.opening tag attributes]).toList =
      (Piece.opening tag attributes).chars ++ [] := by
    rw [Piece.write, String.toList_ofList, List.flatMap_singleton, List.append_nil]
  rw [attributes?, text, State.run_opening plain plainNames, State.opened]
  cases isVoidTag tag <;> rfl

end Reader

/-- The declarations in the style attribute of a tag. -/
def declaredBy? (tag : String) : Option (List Declaration) :=
  (Reader.attributes? tag).map fun attributes => Css.read (styleText attributes)

structure Shell where
  tag : String
  attributes : List Attribute
  styles : List Declaration

namespace Shell

def opening (e : Shell) : Piece := .opening e.tag (e.attributes ++ styleAttribute e.styles)

/-- The names are those of the templates. -/
structure Known (e : Shell) : Prop where
  tag : e.tag ∈ tagNames
  attributes : ∀ a ∈ e.attributes, a.name ∈ attributeNames
  styles : ∀ d ∈ e.styles, d.1 ∈ styleNames

theorem declaredBy?_opening {e : Shell} (known : e.Known) : declaredBy? (Piece.write [e.opening]) =
    some (Css.read (" ".intercalate (e.styles.map Declaration.text))) := by
  have plain : ∀ a ∈ e.attributes ++ styleAttribute e.styles, Reader.isPlainName a.name := by
    rw [List.forall_mem_append]
    exact ⟨fun a mem => plain_attributeNames _ (known.attributes a mem),
      Reader.plain_styleAttribute⟩
  rw [declaredBy?, opening, Reader.attributes?_opening (plain_tagNames _ known.tag) plain,
    Option.map_some, styleText_append known.attributes]

end Shell

theorem trimmed_valued (styles : List Declaration) :
    valued ((valued styles).map trimmed) = valued (styles.map trimmed) := by
  induction styles with
  | nil => rfl
  | cons d styles ih =>
    by_cases empty : d.2 = ""
    · have dropped : valued (d :: styles) = valued styles := by simp [valued, empty]
      have trimmedEmpty : trimmed d = (d.1, "") := by
        rw [trimmed, empty]
        rfl
      rw [dropped, ih, List.map_cons, trimmedEmpty, Css.valued_cons_empty]
    · rw [Css.valued_cons_of_ne empty, List.map_cons, List.map_cons]
      exact Css.valued_cons_inj.2 ih

theorem isContained_valued (styles : List Declaration) :
    (∀ d ∈ valued styles, isContained d.2) ↔ ∀ d ∈ styles, isContained d.2 := by
  refine ⟨fun each d mem => ?_, fun each d mem => each d (List.mem_of_mem_filter mem)⟩
  by_cases empty : d.2 = ""
  · rw [empty]
    rfl
  · exact each d (List.mem_filter.2 ⟨mem, by simp [empty]⟩)

def Markup.shell? : Markup → Option Shell
  | .element tag attributes styles _ => some ⟨tag, attributes, styles⟩
  | _ => none

def shells (nodes : List Markup) : List Shell := nodes.filterMap Markup.shell?

theorem shells_append (nodes others : List Markup) :
    shells (nodes ++ others) = shells nodes ++ shells others := List.filterMap_append

def Piece.isOpening : Piece → Bool
  | .opening .. => true
  | _ => false

def openings (pieces : List Piece) : List Piece := pieces.filter Piece.isOpening

theorem openings_append (pieces others : List Piece) :
    openings (pieces ++ others) = openings pieces ++ openings others := List.filter_append _ _

theorem openings_line (layout : Option Layout) (pieces : List Piece) :
    openings (Layout.line layout pieces) = openings pieces := by
  cases layout <;> simp [openings, Layout.line, Layout.lineStart, Layout.lineEnd, Piece.isOpening]

mutual

theorem Markup.openings_pieces : ∀ (m : Markup) (layout : Option Layout),
    openings (m.pieces layout) = (shells m.parts).map Shell.opening
  | .text _, layout | .raw _, layout => openings_line layout _
  | .rule selector declarations, layout => by
    have inner : openings (declarations.flatMap fun d =>
        Layout.line (Layout.deeper layout) [.raw d.text]) = [] := by
      induction declarations with
      | nil => rfl
      | cons d declarations ih =>
        rw [List.flatMap_cons, openings_append, openings_line, ih]
        rfl
    rw [Markup.pieces, openings_append, openings_append, openings_line, openings_line, inner]
    rfl
  | .element tag attributes styles body, layout => by
    have inner := Body.openings_pieces body layout tag
    rw [Markup.pieces, openings_line, Markup.parts, shells, List.filterMap_cons]
    simp only [Markup.shell?]
    rw [List.map_cons, ← shells, ← inner]
    rfl

theorem Body.openings_pieces : ∀ (body : Body) (layout : Option Layout) (tag : String),
    openings (body.pieces layout tag) = (shells body.parts).map Shell.opening
  | .void, _, _ => rfl
  | .inline nodes, _, tag => by
    rw [Body.pieces, openings_append, openings_piecesOfAll nodes, Body.parts]
    exact List.append_nil _
  | .block nodes, layout, tag => by
    have noStart : openings (Layout.lineStart layout) = [] := by cases layout <;> rfl
    have noEnd : openings (Layout.lineEnd layout) = [] := by cases layout <;> rfl
    rw [Body.pieces, openings_append, openings_append, openings_append, noStart, noEnd,
      openings_piecesOfAll nodes, List.nil_append, List.append_nil]
    exact List.append_nil _

theorem openings_piecesOfAll : ∀ (nodes : List Markup) (layout : Option Layout),
    openings (piecesOfAll layout nodes) = (shells (partsOfAll nodes)).map Shell.opening
  | [], _ => rfl
  | node :: rest, layout => by
    rw [piecesOfAll, openings_append, Markup.openings_pieces node, openings_piecesOfAll rest,
      partsOfAll, shells_append, List.map_append]

end

namespace Rendered

mutual

/-- The styles of the elements in a tree, of an element before those inside. -/
def styleLists : Rendered → List (List Declaration)
  | .element _ _ styles children => styles :: styleListsOfAll children
  | .text _ | .raw _ => []

def styleListsOfAll : List Rendered → List (List Declaration)
  | [] => []
  | node :: rest => node.styleLists ++ styleListsOfAll rest

end

mutual

theorem styleLists_ofMarkup : ∀ m : Markup,
    (ofMarkup m).styleLists = (shells m.parts).map fun e => valued e.styles
  | .text _ | .raw _ | .rule _ _ => rfl
  | .element tag attributes styles body => by
    have inner := styleLists_ofBody body
    rw [ofMarkup, styleLists, inner]
    rfl

theorem styleLists_ofBody : ∀ body : Body,
    styleListsOfAll (ofBody body) = (shells body.parts).map fun e => valued e.styles
  | .void => rfl
  | .inline nodes | .block nodes => styleLists_ofAll nodes

theorem styleLists_ofAll : ∀ nodes : List Markup,
    styleListsOfAll (ofAll nodes) = (shells (partsOfAll nodes)).map fun e => valued e.styles
  | [] => rfl
  | node :: rest => by
    rw [ofAll, styleListsOfAll, styleLists_ofMarkup node, styleLists_ofAll rest, partsOfAll,
      shells_append, List.map_append]

end

end Rendered

variable {trusted : Bool} {scope : Scope}

theorem known_attributesOf {shapes : Shapes} {attributes : List (String × Expr)}
    (fit : ∀ a ∈ attributes, AttributeFits shapes a) :
    ∀ a ∈ attributesOf scope attributes, a.name ∈ attributeNames := by
  intro a mem
  obtain ⟨entry, present, made⟩ := List.mem_filterMap.1 mem
  rw [Attribute.name_of_ofValue? made]
  exact (fit entry present).1

theorem known_stylesOf {shapes : Shapes} {styles : List (String × Expr)}
    (fit : ∀ s ∈ styles, StyleFits shapes s) : ∀ d ∈ stylesOf scope styles, d.1 ∈ styleNames := by
  intro d mem
  obtain ⟨entry, present, rfl⟩ := List.mem_map.1 (List.mem_of_mem_filter mem)
  exact (fit entry present).1

theorem shells_cons (tag : String) (attributes : List Attribute) (styles : List Declaration)
    (body : Body) : shells (Markup.element tag attributes styles body).parts =
      ⟨tag, attributes, styles⟩ :: shells body.parts := rfl

mutual

theorem Element.known_unroll : ∀ (e : Element) (shapes : Shapes) (scope : Scope),
    e.Fits trusted shapes → ∀ s ∈ shells (e.unroll scope).parts, s.Known
  | { tag, attributes, styles, markup, children }, shapes, scope, fits => by
    obtain ⟨known, _, attributesFit, _, stylesFit, _, _, childrenFit⟩ := fits
    rw [Element.unroll.eq_def, shells_cons, List.forall_mem_cons]
    refine ⟨⟨known, known_attributesOf attributesFit, known_stylesOf stylesFit⟩, ?_⟩
    cases isVoidTag tag with
    | true => nofun
    | false =>
      cases markup with
      | some e => nofun
      | none =>
        have inner := known_unrollAll children shapes scope childrenFit
        simp only [Bool.false_eq_true, if_false]
        split
        · exact inner
        · exact inner

theorem Node.known_unroll : ∀ (node : Node) (shapes : Shapes) (scope : Scope),
    node.Fits trusted shapes → ∀ s ∈ shells (partsOfAll (node.unroll scope)), s.Known
  | .element e, shapes, scope, fits => by
    have own := Element.known_unroll e shapes scope fits
    rw [Node.unroll, partsOfAll, partsOfAll, List.append_nil]
    exact own
  | .text _, _, _, _ => nofun
  | .repeat binding items body, shapes, scope, ⟨_, shape, _, fits⟩ => by
    have each := fun item =>
      known_unrollAll body ((binding, shape) :: shapes) ((binding, item) :: scope) fits
    rw [Node.unroll, partsOfAll_eq_flatMap, List.flatMap_assoc, shells, List.filterMap_flatMap,
      List.forall_mem_flatMap]
    intro item _
    rw [← partsOfAll_eq_flatMap]
    exact each item
  | .choice condition yes no, shapes, scope, ⟨_, yesFits, noFits⟩ => by
    rw [Node.unroll]
    split
    · exact known_unrollAll yes shapes scope yesFits
    · exact known_unrollAll no shapes scope noFits

theorem known_unrollAll : ∀ (nodes : List Node) (shapes : Shapes) (scope : Scope),
    FitAll trusted shapes nodes → ∀ s ∈ shells (partsOfAll (unrollAll scope nodes)), s.Known
  | [], _, _, _ => nofun
  | node :: rest, shapes, scope, ⟨fits, others⟩ => by
    have first := Node.known_unroll node shapes scope fits
    have more := known_unrollAll rest shapes scope others
    rw [partsOfAll_eq_flatMap] at first more ⊢
    rw [unrollAll, List.flatMap_append, shells_append, List.forall_mem_append]
    exact ⟨first, more⟩

end

theorem Section.known_markup (block : Block) :
    ∀ s ∈ shells (ofBlock block).markup.parts, s.Known := by
  have root : FitAll block.content.holdsMarkup [] (ofBlock block).body :=
    ⟨block.content.root_fits block.base.background, trivial⟩
  have inner := known_unrollAll _ [] [] root
  rw [Section.markup, shells_cons, List.forall_mem_cons]
  refine ⟨⟨(by decide : "section" ∈ tagNames), ?_, ?_⟩, inner⟩
  · rw [List.forall_mem_append, List.forall_mem_singleton]
    refine ⟨fun a mem => ?_, (by decide : "class" ∈ attributeNames)⟩
    obtain ⟨anchor, _, rfl⟩ := Option.map_eq_some_iff.1 (Option.mem_toList.1 mem)
    exact (by decide : "id" ∈ attributeNames)
  · change ∀ d ∈ block.base.background.declarations, d.1 ∈ styleNames
    cases block.base.background <;> simp [Background.declarations, styleNames]

/--
Both outputs declare the same styles wherever these are contained. The tags of a section that open
an element stand, with every layout, for the elements that the source of the section renders. What
the style attribute of a tag declares is what the style property of its element declares, up to
blanks around the values, exactly if every value of the property is contained: no semicolon in it
is outside of quotes and parentheses, and it closes those that it opens.
-/
theorem Page.styles_agree_where_contained (abc : Script.Alphabet) (dialect : Dialect)
    (layout : Option Layout) (d : Document) : (Page.ofDocument d).sections.Forall fun s =>
      ∃ rendered,
      (Script.source? abc dialect (s.elementSource dialect)).bind (renderAll? []) = some rendered ∧
      List.Forall₂ (fun tag styles => ∃ declared, declaredBy? (Piece.write [tag]) = some declared ∧
          (declared = valued (styles.map trimmed) ↔ ∀ d ∈ styles, isContained d.2))
        (openings (s.markup.pieces layout)) (Rendered.styleListsOfAll rendered) := by
  rw [List.forall_iff_forall_mem]
  intro s mem
  obtain ⟨block, _, rfl⟩ := List.mem_map.1 mem
  refine ⟨[Rendered.ofMarkup (Section.ofBlock block).markup], ?_, ?_⟩
  · rw [Section.source?_elementSource dialect block, Option.bind_some]
    exact Section.renderAll?_components [block]
  · have lists : Rendered.styleListsOfAll [Rendered.ofMarkup (Section.ofBlock block).markup] =
        (shells (Section.ofBlock block).markup.parts).map fun e => valued e.styles := by
      rw [Rendered.styleListsOfAll, Rendered.styleLists_ofMarkup, Rendered.styleListsOfAll,
        List.append_nil]
    rw [Markup.openings_pieces, lists, List.forall₂_map_left_iff, List.forall₂_map_right_iff,
      List.forall₂_same]
    intro e present
    have known := Section.known_markup block e present
    refine ⟨_, e.declaredBy?_opening known, ?_⟩
    rw [trimmed_valued, isContained_valued]
    exact Css.read_style_iff known.styles

/-- A colour that holds another declaration: the markup declares two styles, the component one. -/
theorem Section.smuggledColor_declares_more :
    let s := ofBlock { base := { background := .solid "red; color: blue" }, content := .divider {} }
    ¬ ∃ rendered, (Script.source? .western .typed (s.elementSource .typed)).bind (renderAll? []) =
        some rendered ∧
      List.Forall₂ (fun tag styles =>
          declaredBy? (Piece.write [tag]) = some (valued (styles.map trimmed)))
        (openings (s.markup.pieces none)) (Rendered.styleListsOfAll rendered) := by
  intro s
  rintro ⟨rendered, given, same⟩
  rw [source?_elementSource, Option.bind_some] at given
  cases given.symm.trans (renderAll?_components [_])
  have known := known_markup
    { base := { background := .solid "red; color: blue" }, content := .divider {} }
  rw [Markup.openings_pieces, Section.markup, shells_cons, List.map_cons] at same
  obtain ⟨first, -⟩ := List.forall₂_cons.1 same
  rw [Shell.declaredBy?_opening (known _ List.mem_cons_self)] at first
  exact absurd first (by decide)

end PageBuilder
