import PageBuilder.Page.Templates.Parts
import PageBuilder.Markup.Unrolled
import PageBuilder.Proofs.Script.Expressions
import PageBuilder.Proofs.Templates.Shapes

set_option autoImplicit false

/-!
# Fitting templates

A template fits the shapes of its items if its names are known, no attribute or style stands twice,
and every expression is readable and gives what its place needs. Trusted markup is allowed or not.
-/

namespace PageBuilder

def tagNames : List String :=
  ["section", "div", "h1", "h2", "h3", "p", "blockquote", "span", "a", "img", "figure",
    "figcaption", "ul", "li", "form", "label", "input", "textarea", "button", "iframe", "details",
    "summary"]

def attributeNames : List String :=
  ["id", "class", "href", "src", "alt", "title", "width", "height", "frameborder", "loading",
    "type", "placeholder", "required"]

def flagNames : List String := ["required"]

def styleNames : List String :=
  ["color", "background", "background-color", "background-image", "background-size",
    "background-position", "border", "border-color", "width", "height", "margin", "opacity",
    "aspect-ratio", "text-align", "font-weight"]

def bindingNames : List String :=
  ["link", "feature", "social", "field", "plan", "star", "item", "member"]

namespace Expr

def IsText (shapes : Shapes) (e : Expr) : Prop := e.shape? shapes = some .text ∧ e.isReadable .latin

def IsFlag (shapes : Shapes) (e : Expr) : Prop := e.shape? shapes = some .flag ∧ e.isReadable .latin

@[simp]
theorem isText_literal (shapes : Shapes) (s : String) : IsText shapes (.literal s) := ⟨rfl, rfl⟩

end Expr

/-- A known attribute, with a flag where one stands and else with a text. -/
def AttributeFits (shapes : Shapes) (a : String × Expr) : Prop :=
  a.1 ∈ attributeNames ∧ if a.1 ∈ flagNames then a.2.IsFlag shapes else a.2.IsText shapes

def StyleFits (shapes : Shapes) (s : String × Expr) : Prop := s.1 ∈ styleNames ∧ s.2.IsText shapes

/-- The items of a repetition have a shape. -/
def Items.Fits (shapes : Shapes) (shape : Shape) : Items → Prop
  | .inline v => (Shape.list shape).Holds v ∧ v.Whole
  | .of list => list.shape? shapes = some (.list shape) ∧ list.isReadable .latin
  | .range count => shape = .number ∧ count < pow2 53

mutual

def Element.Fits (trusted : Bool) (shapes : Shapes) : Element → Prop
  | { tag, attributes, styles, markup, children } =>
    tag ∈ tagNames ∧ (attributes.map Prod.fst).Nodup ∧ (∀ a ∈ attributes, AttributeFits shapes a) ∧
      (styles.map Prod.fst).Nodup ∧ (∀ s ∈ styles, StyleFits shapes s) ∧
      (∀ e ∈ markup, trusted ∧ e.IsText shapes) ∧
      (isVoidTag tag → markup = none ∧ children = []) ∧ FitAll trusted shapes children

def Node.Fits (trusted : Bool) (shapes : Shapes) : Node → Prop
  | .element e => e.Fits trusted shapes
  | .text e => e.IsText shapes
  | .repeat binding items body =>
    binding ∈ bindingNames ∧
      ∃ shape, items.Fits shapes shape ∧ FitAll trusted ((binding, shape) :: shapes) body
  | .choice condition yes no =>
    (condition.IsFlag shapes ∨ condition.IsText shapes) ∧ FitAll trusted shapes yes ∧
      FitAll trusted shapes no

def FitAll (trusted : Bool) (shapes : Shapes) : List Node → Prop
  | [] => True
  | node :: rest => node.Fits trusted shapes ∧ FitAll trusted shapes rest

end

variable {trusted : Bool} {shapes : Shapes}

@[simp]
theorem fitAll_nil : FitAll trusted shapes [] := trivial

@[simp]
theorem fitAll_cons (node : Node) (nodes : List Node) :
    FitAll trusted shapes (node :: nodes) ↔
      node.Fits trusted shapes ∧ FitAll trusted shapes nodes := Iff.rfl

@[simp]
theorem fitAll_append (nodes others : List Node) :
    FitAll trusted shapes (nodes ++ others) ↔
      FitAll trusted shapes nodes ∧ FitAll trusted shapes others := by
  induction nodes with
  | nil => simp
  | cons node nodes ih => rw [List.cons_append, fitAll_cons, fitAll_cons, ih, and_assoc]

@[simp]
theorem Node.fits_element (e : Element) :
    (Node.element e).Fits trusted shapes ↔ e.Fits trusted shapes := Iff.rfl

@[simp]
theorem Node.fits_text (e : Expr) : (Node.text e).Fits trusted shapes ↔ e.IsText shapes := Iff.rfl

@[simp]
theorem Node.fits_choice (condition : Expr) (yes no : List Node) :
    (Node.choice condition yes no).Fits trusted shapes ↔
      (condition.IsFlag shapes ∨ condition.IsText shapes) ∧ FitAll trusted shapes yes ∧
        FitAll trusted shapes no := Iff.rfl

theorem whole_sorted_list {α : Type} [Json.Codec α] [Json.LawfulCodec α] (list : List α) :
    (Json.Codec.encode list).sorted.Whole :=
  Json.whole_sorted (Json.LawfulCodec.roundTrips.whole trivial)

theorem Node.fits_each {α : Type} [Json.Codec α] [Json.LawfulCodec α] [Shaped α] {binding : String}
    (known : binding ∈ bindingNames) (list : List α) {body : Element}
    (fits : body.Fits trusted ((binding, Shaped.shape α) :: shapes)) :
    (Node.each binding list body).Fits trusted shapes :=
  ⟨known, Shaped.shape α, ⟨holds_sorted_list list, whole_sorted_list list⟩, fits, trivial⟩

namespace Element

@[simp]
theorem new_parts (tag : String) : (new tag).tag = tag ∧ (new tag).attributes = [] ∧
    (new tag).styles = [] ∧ (new tag).markup = none := ⟨rfl, rfl, rfl, rfl⟩

@[simp]
theorem attr_parts (e : Element) (name : String) (value : Expr) :
    (e.attr name value).tag = e.tag ∧
      (e.attr name value).attributes = e.attributes ++ [(name, value)] ∧
      (e.attr name value).styles = e.styles ∧ (e.attr name value).markup = e.markup :=
  ⟨rfl, rfl, rfl, rfl⟩

@[simp]
theorem style_parts (e : Element) (property : String) (value : Expr) :
    (e.style property value).tag = e.tag ∧ (e.style property value).attributes = e.attributes ∧
      (e.style property value).styles = e.styles ++ [(property, value)] ∧
      (e.style property value).markup = e.markup :=
  ⟨rfl, rfl, rfl, rfl⟩

@[simp]
theorem child_parts (e : Element) (node : Node) :
    (e.child node).tag = e.tag ∧ (e.child node).attributes = e.attributes ∧
      (e.child node).styles = e.styles ∧ (e.child node).markup = e.markup :=
  ⟨rfl, rfl, rfl, rfl⟩

@[simp]
theorem append_parts (e : Element) (nodes : List Node) :
    (e.append nodes).tag = e.tag ∧ (e.append nodes).attributes = e.attributes ∧
      (e.append nodes).styles = e.styles ∧ (e.append nodes).markup = e.markup :=
  ⟨rfl, rfl, rfl, rfl⟩

theorem withClass_eq (e : Element) (classes : String) :
    e.withClass classes = e ∨ ∃ c, e.withClass classes = e.attr "class" (.literal c) := by
  unfold withClass
  by_cases empty : (Text.collapse classes).isEmpty
  · exact .inl (if_pos empty)
  · exact .inr ⟨_, if_neg empty⟩

@[simp]
theorem classed_parts (tag classes : String) : (classed tag classes).tag = tag ∧
    (classed tag classes).styles = [] ∧ (classed tag classes).markup = none := by
  unfold classed
  rcases withClass_eq (new tag) classes with same | ⟨c, same⟩ <;>
    rw [same] <;> exact ⟨rfl, rfl, rfl⟩

@[simp]
theorem not_mem_classed {name : String} (other : name ≠ "class") (tag classes : String) :
    name ∉ (classed tag classes).attributes.map Prod.fst := by
  unfold classed
  rcases withClass_eq (new tag) classes with same | ⟨c, same⟩ <;> rw [same] <;> simp [other]

theorem fits_iff (e : Element) : e.Fits trusted shapes ↔
    e.tag ∈ tagNames ∧ (e.attributes.map Prod.fst).Nodup ∧
      (∀ a ∈ e.attributes, AttributeFits shapes a) ∧
      (e.styles.map Prod.fst).Nodup ∧ (∀ s ∈ e.styles, StyleFits shapes s) ∧
      (∀ m ∈ e.markup, trusted ∧ m.IsText shapes) ∧
      (isVoidTag e.tag → e.markup = none ∧ e.children = []) ∧ FitAll trusted shapes e.children := by
  cases e
  rfl

@[simp]
theorem fits_new (tag : String) : (new tag).Fits trusted shapes ↔ tag ∈ tagNames := by
  simp [fits_iff, new]

@[simp]
theorem fits_attr (e : Element) (name : String) (value : Expr) :
    (e.attr name value).Fits trusted shapes ↔ e.Fits trusted shapes ∧
      name ∉ e.attributes.map Prod.fst ∧ AttributeFits shapes (name, value) := by
  simp only [fits_iff, attr, List.map_append, List.map_cons, List.map_nil, List.forall_mem_append,
    List.forall_mem_singleton, List.nodup_append_comm, List.singleton_append, List.nodup_cons]
  tauto

@[simp]
theorem fits_style (e : Element) (property : String) (value : Expr) :
    (e.style property value).Fits trusted shapes ↔ e.Fits trusted shapes ∧
      property ∉ e.styles.map Prod.fst ∧ StyleFits shapes (property, value) := by
  simp only [fits_iff, style, List.map_append, List.map_cons, List.map_nil, List.forall_mem_append,
    List.forall_mem_singleton, List.nodup_append_comm, List.singleton_append, List.nodup_cons]
  tauto

@[simp]
theorem fits_append {e : Element} (inside : isVoidTag e.tag = false) (nodes : List Node) :
    (e.append nodes).Fits trusted shapes ↔
      e.Fits trusted shapes ∧ FitAll trusted shapes nodes := by
  simp only [fits_iff, append, inside, fitAll_append, Bool.false_eq_true, false_implies]
  tauto

@[simp]
theorem fits_child {e : Element} (inside : isVoidTag e.tag = false) (node : Node) :
    (e.child node).Fits trusted shapes ↔
      e.Fits trusted shapes ∧ node.Fits trusted shapes := by
  change (e.append [node]).Fits trusted shapes ↔ _
  rw [fits_append inside, fitAll_cons, and_iff_left fitAll_nil]

@[simp]
theorem fits_text_child {e : Element} (inside : isVoidTag e.tag = false) (value : Expr) :
    (e.text value).Fits trusted shapes ↔ e.Fits trusted shapes ∧ value.IsText shapes :=
  fits_child inside (.text value)

@[simp]
theorem fits_html {e : Element} (inside : isVoidTag e.tag = false) (unmarked : e.markup = none)
    (value : Expr) : (e.html value).Fits trusted shapes ↔
      e.Fits trusted shapes ∧ trusted ∧ value.IsText shapes := by
  simp only [fits_iff, html, inside, unmarked, Option.mem_some_iff, forall_eq', Bool.false_eq_true,
    false_implies]
  simp
  tauto

@[simp]
theorem fits_classed (tag classes : String) :
    (classed tag classes).Fits trusted shapes ↔ tag ∈ tagNames := by
  unfold classed
  rcases withClass_eq (new tag) classes with same | ⟨c, same⟩ <;> rw [same] <;>
    simp [AttributeFits, attributeNames, flagNames]

@[simp]
theorem text_parts (e : Element) (value : Expr) :
    (e.text value).tag = e.tag ∧ (e.text value).attributes = e.attributes ∧
      (e.text value).styles = e.styles ∧ (e.text value).markup = e.markup :=
  ⟨rfl, rfl, rfl, rfl⟩

@[simp]
theorem fits_container (classes : String) : (container classes).Fits trusted shapes := by
  simp [container, tagNames]

@[simp]
theorem container_tag (classes : String) : (container classes).tag = "div" := by
  simp [container]

@[simp]
theorem fits_colored {tag : String} (inside : isVoidTag tag = false) (classes : String)
    (color value : Expr) : (colored tag classes color value).Fits trusted shapes ↔
      tag ∈ tagNames ∧ color.IsText shapes ∧ value.IsText shapes := by
  simp [colored, inside, StyleFits, styleNames, and_assoc]

@[simp]
theorem colored_tag (tag classes : String) (color value : Expr) :
    (colored tag classes color value).tag = tag := by
  simp [colored]

@[simp]
theorem fits_picture (classes : String) (source alt : Expr) :
    (picture classes source alt).Fits trusted shapes ↔
      source.IsText shapes ∧ alt.IsText shapes := by
  simp [picture, AttributeFits, attributeNames, flagNames, tagNames]

@[simp]
theorem fits_symbol (classes : String) (name : Expr) :
    (symbol classes name).Fits trusted shapes ↔ name.IsText shapes := by
  simp [symbol, isVoidTag, tagNames]

@[simp]
theorem fits_filledLink (classes : String) (address background color value : Expr) :
    (filledLink classes address background color value).Fits trusted shapes ↔
      address.IsText shapes ∧ background.IsText shapes ∧ color.IsText shapes ∧
        value.IsText shapes := by
  simp [filledLink, isVoidTag, AttributeFits, attributeNames, flagNames, StyleFits, styleNames,
    tagNames, and_assoc]

end Element
end PageBuilder
