import PageBuilder.Proofs.Component.Rendering
import PageBuilder.Proofs.Markup.Writer
import PageBuilder.Proofs.Templates.Contents
import PageBuilder.Proofs.Templates.Strict

set_option autoImplicit false

namespace PageBuilder

variable {trusted : Bool} {shapes : Shapes} {scope : Scope} {env : Environment}

/-- Entries under names that can be undone give what each of them makes. -/
theorem entries?_eq {α : Type} {make : String → Value → Option (List α)}
    {name back : String → String} {entries : List (String × Expr)}
    (distinct : (entries.map Prod.fst).Nodup) (undone : ∀ a ∈ entries, back (name a.1) = a.1)
    {each : String × Expr → List α}
    (makes : ∀ a ∈ entries, (a.2.run? env).bind (make (name a.1)) = some (each a)) :
    entries? env make (entries.map fun a => (name a.1, a.2)) = some (entries.flatMap each) := by
  have named : ((entries.map fun a => (name a.1, a.2)).map Prod.fst).Nodup := by
    refine List.Nodup.of_map back ?_
    rw [List.map_map, List.map_map]
    rw [← List.map_congr_left undone] at distinct
    exact distinct
  rw [entries?, guard, if_pos named, List.mapM_map, Function.comp_def, mapM_eq_some_map makes]
  rfl

theorem attributes?_agrees {a : String × Expr} (fits : AttributeFits shapes a)
    (bound : Bound shapes scope env) :
    (a.2.run? env).bind (Value.attributes? (propertyName a.1)) =
      some (Attribute.ofValue? a.1 (a.2.eval scope)).toList := by
  obtain ⟨known, shaped⟩ := fits
  have plain := propertyName_plain a.1 known
  have flag := propertyName_flag a.1 known
  have name := domName_propertyName a.1 known
  split at shaped
  · rename_i isFlag
    obtain ⟨b, eval, run⟩ := (Expr.run?_agrees bound a.2 .flag shaped.1).flag_eq
    rw [run, eval, Option.bind_some, Value.attributes?, if_neg plain, if_pos (flag.2 isFlag), name]
    cases b <;> rfl
  · rename_i isText
    obtain ⟨s, eval, run⟩ := (Expr.run?_agrees bound a.2 .text shaped.1).text_eq
    rw [run, eval, Option.bind_some, Value.attributes?, if_neg plain, if_neg (mt flag.1 isText)]
    simp only [name]
    rfl

theorem entries?_attributes {attributes : List (String × Expr)}
    (distinct : (attributes.map Prod.fst).Nodup)
    (fit : ∀ a ∈ attributes, AttributeFits shapes a) (bound : Bound shapes scope env) :
    entries? env Value.attributes? (attributes.map fun a => (propertyName a.1, a.2)) =
      some (attributesOf scope attributes) := by
  have made := entries?_eq distinct
    (fun a h => domName_propertyName a.1 (fit a h).1) fun a h => attributes?_agrees (fit a h) bound
  rw [attributesOf, List.filterMap_eq_flatMap_toList]
  exact made

theorem declarations?_agrees {s : String × Expr} (fits : StyleFits shapes s)
    (bound : Bound shapes scope env) :
    (s.2.run? env).bind (Value.declarations? (styleKey s.1)) =
      some (if (s.2.display scope).isEmpty then [] else [(s.1, s.2.display scope)]) := by
  obtain ⟨known, shaped⟩ := fits
  obtain ⟨text, eval, run⟩ := (Expr.run?_agrees bound s.2 .text shaped.1).text_eq
  rw [run, Expr.display, eval, Option.bind_some, Value.declarations?, cssName_styleKey s.1 known]
  rfl

theorem stylesOf_eq_flatMap (styles : List (String × Expr)) :
    stylesOf scope styles = styles.flatMap fun s =>
      if (s.2.display scope).isEmpty then [] else [(s.1, s.2.display scope)] := by
  induction styles with
  | nil => rfl
  | cons s styles ih =>
    rw [List.flatMap_cons, ← ih]
    cases empty : (s.2.display scope).isEmpty <;> simp [stylesOf, empty]

theorem entries?_styles {styles : List (String × Expr)} (distinct : (styles.map Prod.fst).Nodup)
    (fit : ∀ s ∈ styles, StyleFits shapes s) (bound : Bound shapes scope env) :
    entries? env Value.declarations? (styles.map fun s => (styleKey s.1, s.2)) =
      some (stylesOf scope styles) := by
  rw [stylesOf_eq_flatMap]
  exact entries?_eq distinct (fun s h => cssName_styleKey s.1 (fit s h).1)
    fun s h => declarations?_agrees (fit s h) bound

theorem valued_stylesOf (styles : List (String × Expr)) :
    Rendered.valued (stylesOf scope styles) = stylesOf scope styles := by
  rw [Rendered.valued, stylesOf, List.filter_filter]
  simp

namespace Rendered

theorem ofAll_append (nodes others : List Markup) :
    ofAll (nodes ++ others) = ofAll nodes ++ ofAll others := by
  induction nodes with
  | nil => rfl
  | cons node nodes ih => rw [List.cons_append, ofAll, ofAll, ih, List.cons_append]

end Rendered

theorem Value.ofItems_eq (items : List Json) : Value.ofItems items = items.map Value.ofJson := by
  induction items with
  | nil => rfl
  | cons v rest ih => rw [Value.ofItems, ih, List.map_cons]

theorem Items.values?_agrees {items : Items} {shape : Shape} (fits : items.Fits shapes shape)
    (bound : Bound shapes scope env) :
    items.values? env = some ((items.toList scope).map Value.ofJson) ∧
      ∀ i ∈ items.toList scope, shape.Holds i := by
  cases items with
  | inline v =>
    obtain ⟨⟨list, rfl, each⟩, -⟩ := fits
    refine ⟨?_, each⟩
    rw [values?, Value.ofJson, Value.ofItems_eq]
    rfl
  | of list =>
    obtain ⟨items, eval, run, each⟩ := (Expr.run?_agrees bound list (.list shape) fits.1).list_eq
    rw [values?, toList, run, eval]
    refine ⟨?_, each⟩
    rw [Value.ofJson, Value.ofItems_eq]
    rfl
  | range count =>
    obtain ⟨rfl, small⟩ := fits
    refine ⟨?_, ?_⟩
    · rw [values?, toList, List.map_map]
      rfl
    · intro i h
      obtain ⟨n, member, rfl⟩ := List.mem_map.1 h
      have below : n < pow2 53 := Nat.lt_trans (List.mem_range.1 member) small
      exact ⟨.whole n, rfl, Binary64.isFinite_ofInt below (by decide)⟩

theorem renderEach?_eq {make : Nat → Value → Option (List Rendered)} {f : Json → List Markup}
    {items : List Json}
    (each : ∀ i ∈ items, ∀ index, make index (.ofJson i) = some (Rendered.ofAll (f i)))
    (first : Nat) : renderEach? make first (items.map Value.ofJson) =
      some (Rendered.ofAll (items.flatMap f)) := by
  induction items generalizing first with
  | nil => rfl
  | cons i items ih =>
    rw [List.map_cons, renderEach?, each i List.mem_cons_self,
      ih fun j h => each j (List.mem_cons_of_mem _ h), List.flatMap_cons, Rendered.ofAll_append]
    rfl

/-- An index is never taken for an item. -/
theorem Bound.withItem (bound : Bound shapes scope env) {binding : String}
    (known : binding ∈ bindingNames) {shape : Shape} {v : Json} (holds : shape.Holds v)
    (index : Nat) :
    Bound ((binding, shape) :: shapes) ((binding, v) :: scope)
      (env.withItem binding index (.ofJson v)) := by
  intro other otherShape found
  rw [List.lookup_cons] at found
  rw [Scope.get?, Environment.withItem, List.lookup_cons, List.lookup_cons, List.lookup_cons]
  by_cases same : other = binding
  · subst same
    simp only [beq_self_eq_true] at found ⊢
    cases found
    exact ⟨known, v, rfl, rfl, holds⟩
  · rw [beq_false_of_ne same] at found ⊢
    obtain ⟨otherKnown, w, inScope, inEnv, otherHolds⟩ := bound other otherShape found
    have notIndex : other ≠ binding ++ "Index" := by
      rintro rfl
      exact index_not_binding binding known otherKnown
    rw [beq_false_of_ne notIndex]
    exact ⟨otherKnown, w, inScope, inEnv, otherHolds⟩

theorem render?_line (texts : List Expr) :
    (Inside.line texts).render? env false =
      renderAll? env (componentsOf (texts.map Node.text)) := by
  rw [Inside.render?, if_neg Bool.false_ne_true]
  induction texts with
  | nil => rfl
  | cons e texts ih =>
    rw [List.map_cons, componentsOf, renderAll?, ← ih, List.mapM_cons, Node.component,
      Component.render?]
    simp [Option.bind_assoc]

theorem ofBody_ite (condition : Bool) (nodes : List Markup) :
    Rendered.ofBody (if condition then .inline nodes else .block nodes) = Rendered.ofAll nodes := by
  cases condition <;> rfl

theorem render?_element {tag : String} {attributes styles : List (String × Expr)}
    (distinct : (attributes.map Prod.fst).Nodup)
    (fit : ∀ a ∈ attributes, AttributeFits shapes a) (stylesDistinct : (styles.map Prod.fst).Nodup)
    (stylesFit : ∀ s ∈ styles, StyleFits shapes s) (bound : Bound shapes scope env)
    {inside : Inside} {body : Body}
    (same : inside.render? env (isVoidTag tag) = some (Rendered.ofBody body)) :
    (Component.element tag (attributes.map fun a => (propertyName a.1, a.2))
        (styles.map fun s => (styleKey s.1, s.2)) inside).render? env =
      some [Rendered.ofMarkup
        (.element tag (attributesOf scope attributes) (stylesOf scope styles) body)] := by
  rw [Component.render?, entries?_attributes distinct fit bound,
    entries?_styles stylesDistinct stylesFit bound, same, Rendered.ofMarkup, valued_stylesOf]
  rfl

mutual

theorem Element.render?_agrees : ∀ (e : Element) {shapes : Shapes} {scope : Scope}
    {env : Environment}, e.Fits trusted shapes → Bound shapes scope env →
    e.component.render? env = some [Rendered.ofMarkup (e.unroll scope)]
  | { tag, attributes, styles, markup, children }, shapes, scope, env, fits, bound => by
    obtain ⟨_, distinct, attributesFit, stylesDistinct, stylesFit, markupFits, void, childrenFit⟩ :=
      fits
    refine render?_element distinct attributesFit stylesDistinct stylesFit bound ?_
    cases isVoid : isVoidTag tag with
    | true =>
      obtain ⟨rfl, rfl⟩ := void isVoid
      rfl
    | false =>
      cases markup with
      | some e =>
        obtain ⟨s, eval, run⟩ := (Expr.run?_agrees bound e .text (markupFits e rfl).2.1).text_eq
        simp only [Bool.false_eq_true, if_false, Inside.render?, run, Expr.display, eval]
        rfl
      | none =>
        simp only [Bool.false_eq_true, if_false, ofBody_ite]
        rw [← renderAll?_agrees children childrenFit bound]
        split
        · rename_i empty
          rw [List.isEmpty_iff.1 empty]
          rfl
        · split
          · rename_i texts found
            rw [render?_line, eq_of_textsOf? found]
          · rfl

theorem Node.render?_agrees : ∀ (node : Node) {shapes : Shapes} {scope : Scope}
    {env : Environment}, node.Fits trusted shapes → Bound shapes scope env →
    node.component.render? env = some (Rendered.ofAll (node.unroll scope))
  | .element e, _, scope, env, fits, bound => by
    rw [Node.component, e.render?_agrees fits bound]
    rfl
  | .text e, _, scope, env, fits, bound => by
    obtain ⟨s, eval, run⟩ := (Expr.run?_agrees bound e .text fits.1).text_eq
    rw [Node.component, Component.render?, run, Node.unroll, Expr.display, eval]
    rfl
  | .repeat binding items body, _, scope, env, ⟨known, shape, itemsFit, fits⟩, bound => by
    obtain ⟨values, each⟩ := Items.values?_agrees itemsFit bound
    rw [Node.component, Component.render?, values]
    exact renderEach?_eq (fun i member index =>
      renderAll?_agrees body fits (bound.withItem known (each i member) index)) 0
  | .choice condition yes no, _, scope, env, ⟨shaped, yesFits, noFits⟩, bound => by
    have decided : ∃ w, condition.run? env = some w ∧
        w.isTruthy = (condition.eval scope).holds := by
      rcases shaped with flag | text
      · exact (Expr.run?_agrees bound condition .flag flag.1).isTruthy_eq
      · exact (Expr.run?_agrees bound condition .text text.1).isTruthy_eq
    obtain ⟨w, run, truthy⟩ := decided
    rw [Node.component, Component.render?, run, Node.unroll, ← truthy]
    simp only [Option.bind_eq_bind, Option.bind_some]
    split
    · exact renderAll?_agrees yes yesFits bound
    · exact renderAll?_agrees no noFits bound

theorem renderAll?_agrees : ∀ (nodes : List Node) {shapes : Shapes} {scope : Scope}
    {env : Environment}, FitAll trusted shapes nodes → Bound shapes scope env →
    renderAll? env (componentsOf nodes) = some (Rendered.ofAll (unrollAll scope nodes))
  | [], _, _, _, _, _ => rfl
  | node :: rest, _, scope, env, ⟨fits, others⟩, bound => by
    rw [componentsOf, renderAll?, node.render?_agrees fits bound,
      renderAll?_agrees rest others bound, unrollAll, Rendered.ofAll_append]
    rfl

end

theorem Element.ofMarkup_unroll {e : Element} (unmarked : e.markup = none)
    (inside : isVoidTag e.tag = false) :
    Rendered.ofMarkup (e.unroll scope) = .element e.tag (attributesOf scope e.attributes)
      (stylesOf scope e.styles) (Rendered.ofAll (unrollAll scope e.children)) := by
  obtain ⟨tag, attributes, styles, markup, children⟩ := e
  cases unmarked
  simp only [Element.unroll, inside, Bool.false_eq_true, if_false, Rendered.ofMarkup, ofBody_ite,
    valued_stylesOf]

namespace Section

def element (s : Section) : Element where
  tag := "section"
  attributes := (s.anchor.map fun anchor => ("id", .literal anchor)).toList ++
    [("class", .literal s.style.className)]
  styles := s.style.background.map fun d => (d.1, .literal d.2)
  markup := none
  children := s.body

theorem element_fits (block : Block) :
    (ofBlock block).element.Fits block.content.holdsMarkup [] := by
  have root : (block.content.root block.base.background).Fits block.content.holdsMarkup [] :=
    block.content.root_fits block.base.background
  refine (Element.fits_iff _).2 ⟨?_, ?_, ?_, ?_, ?_, ?_, ?_, (fitAll_cons _ _).2 ⟨root, trivial⟩⟩
  · exact (by decide : "section" ∈ tagNames)
  · simp only [element]
    cases (ofBlock block).anchor <;> simp
  · simp only [element]
    cases (ofBlock block).anchor <;> simp [AttributeFits, attributeNames, flagNames]
  · simp only [element, ofBlock, ResolvedStyle.ofBase]
    cases block.base.background <;> simp [Background.declarations]
  · simp only [element, ofBlock, ResolvedStyle.ofBase]
    cases block.base.background <;> simp [Background.declarations, StyleFits, styleNames]
  · intro e absurd
    cases absurd
  · exact fun void => absurd void (by decide : ¬isVoidTag "section")

theorem components_eq (block : Block) : (ofBlock block).components =
    [.comment (ofBlock block).kind, (ofBlock block).element.component] := by
  have properties : (ofBlock block).element.attributes.map (fun a => (propertyName a.1, a.2)) =
      ((ofBlock block).anchor.map fun anchor => ("id", Expr.literal anchor)).toList ++
        [("className", .literal (ofBlock block).style.className)] := by
    simp only [element]
    cases (ofBlock block).anchor <;> rfl
  have styles : (ofBlock block).element.styles.map (fun s => (styleKey s.1, s.2)) =
      (ofBlock block).style.background.map fun d => (styleKey d.1, .literal d.2) := by
    rw [element, List.map_map]
    rfl
  rw [components, ← properties, ← styles]
  rfl

theorem ofMarkup_markup (s : Section) :
    Rendered.ofMarkup s.markup = Rendered.ofMarkup (s.element.unroll []) := by
  have attributes : attributesOf [] s.element.attributes =
      (s.anchor.map fun anchor => ⟨"id", some anchor⟩).toList ++
        [⟨"class", some s.style.className⟩] := by
    simp only [element]
    cases s.anchor <;> rfl
  have styles : stylesOf [] s.element.styles = Rendered.valued s.style.background := by
    rw [stylesOf, element, List.map_map, Rendered.valued]
    congr 1
    exact List.map_id _
  have inside : isVoidTag s.element.tag = false := rfl
  rw [Element.ofMarkup_unroll rfl inside, attributes, styles]
  rfl

theorem render?_component (block : Block) : (ofBlock block).element.component.render? [] =
    some [Rendered.ofMarkup (ofBlock block).markup] := by
  have unbound : Bound [] [] [] := by
    intro binding shape found
    cases found
  rw [ofMarkup_markup, Element.render?_agrees _ (element_fits block) unbound]

theorem renderAll?_components (blocks : List Block) :
    renderAll? [] (blocks.map fun block => (ofBlock block).element.component) =
      some (blocks.map fun block => Rendered.ofMarkup (ofBlock block).markup) := by
  induction blocks with
  | nil => rfl
  | cons block blocks ih =>
    rw [List.map_cons, renderAll?, render?_component, ih]
    rfl

end Section

end PageBuilder
