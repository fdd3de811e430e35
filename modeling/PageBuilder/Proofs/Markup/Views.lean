import PageBuilder.Proofs.Markup.Layouts

set_option autoImplicit false

namespace PageBuilder

/-- What is looked for at an element, by its tag, its attributes and its nodes. -/
abbrev Dom.View (α : Type) := String → List Attribute → List Dom → List α

variable {α : Type} {view : Dom.View α}

namespace Dom

mutual

def seen (view : View α) : Dom → List α
  | .text _ => []
  | .element tag attributes nodes => view tag attributes nodes ++ seenIn view nodes

def seenIn (view : View α) : List Dom → List α
  | [] => []
  | node :: rest => node.seen view ++ seenIn view rest

end

theorem seenIn_elements (nodes : List Dom) : seenIn view (elements nodes) = seenIn view nodes := by
  induction nodes with
  | nil => rfl
  | cons node nodes ih =>
    cases node with
    | text s => exact ih
    | element tag attributes inside => exact congrArg (seen view _ ++ ·) ih

theorem seenIn_append (nodes others : List Dom) :
    seenIn view (nodes ++ others) = seenIn view nodes ++ seenIn view others := by
  induction nodes with
  | nil => rfl
  | cons node nodes ih => rw [List.cons_append, seenIn, seenIn, ih, List.append_assoc]

def inner (nodes : List Dom) : List Dom :=
  nodes.flatMap fun
    | .element _ _ inside => elements inside
    | .text _ => []

theorem inner_elements (nodes : List Dom) : inner (elements nodes) = inner nodes := by
  induction nodes with
  | nil => rfl
  | cons node nodes ih =>
    cases node with
    | text s => exact ih
    | element tag attributes inside => exact congrArg (elements inside ++ ·) ih

end Dom

/-- A view sees the same in every reading of the markup. -/
def Markup.Shows (view : Dom.View α) (m : Markup) (shown : List α) : Prop :=
  ∀ node, m.IsRead node → node.seen view = shown

def ShowAll (view : Dom.View α) (inside : List Markup) (shown : List α) : Prop :=
  ∀ nodes, AreRead inside nodes → Dom.seenIn view nodes = shown

theorem ShowAll.nil : ShowAll view [] [] := by
  rintro nodes rfl
  rfl

theorem ShowAll.cons {m : Markup} {rest : List Markup} {shown others : List α}
    (first : m.Shows view shown) (more : ShowAll view rest others) :
    ShowAll view (m :: rest) (shown ++ others) := fun nodes read => by
  cases nodes with
  | nil => exact read.elim
  | cons node nodes => rw [Dom.seenIn, first node read.1, more nodes read.2]

theorem ShowAll.append {first second : List Markup} {shown more : List α}
    (showFirst : ShowAll view first shown) (showSecond : ShowAll view second more) :
    ShowAll view (first ++ second) (shown ++ more) := fun nodes read => by
  obtain ⟨before, after, rfl, readFirst, readSecond⟩ := exists_of_areRead_append read
  rw [Dom.seenIn_append, showFirst _ readFirst, showSecond _ readSecond]

theorem ShowAll.map {ι : Type} {items : List ι} {f : ι → Markup} {shown : ι → List α}
    (each : ∀ i ∈ items, (f i).Shows view (shown i)) :
    ShowAll view (items.map f) (items.flatMap shown) := by
  induction items with
  | nil => exact .nil
  | cons i items ih =>
    obtain ⟨first, others⟩ := List.forall_mem_cons.1 each
    exact .cons first (ih others)

theorem ShowAll.singleton {m : Markup} {shown : List α} (shows : m.Shows view shown) :
    ShowAll view [m] shown := fun nodes read => by
  rw [ShowAll.cons shows .nil nodes read, List.append_nil]

namespace Markup

variable {tag : String} {attributes : List Attribute} {styles : List Declaration}
  {inside : List Markup}

theorem Shows.block {shown : List α} (quiet : ∀ attributes nodes, view tag attributes nodes = [])
    (each : ShowAll view inside shown) :
    (element tag attributes styles (.block inside)).Shows view shown
  | .element _ _ nodes, ⟨rfl, _, read⟩ => by
    rw [Dom.seen, quiet, List.nil_append, ← Dom.seenIn_elements, each _ read]

theorem Shows.void :
    (element tag attributes styles .void).Shows view
      (view tag (attributes ++ styleAttribute styles) [])
  | .element _ _ _, ⟨rfl, rfl, rfl⟩ => List.append_nil _

/-- In an inline element without elements, only the element itself is seen. -/
theorem Shows.inline (silent : Dom.seenIn view (Dom.ofMarkup inside) = []) :
    (element tag attributes styles (.inline inside)).Shows view
      (view tag (attributes ++ styleAttribute styles) (Dom.ofMarkup inside))
  | .element _ _ _, ⟨rfl, rfl, rfl⟩ => by rw [Dom.seen, silent, List.append_nil]

end Markup

theorem areRead_inner {tag : String} {attributes : List Attribute} {styles : List Declaration}
    {inside : List Markup} {nodes : List Dom}
    (read : AreRead [.element tag attributes styles (.block inside)] nodes) :
    AreRead inside (Dom.inner nodes) := by
  match nodes, read with
  | [.element _ _ _], ⟨⟨_, _, areRead⟩, _⟩ =>
    rw [Dom.inner, List.flatMap_singleton]
    exact areRead

theorem map_seen_of_areRead {ι : Type} {items : List ι} {f : ι → Markup} {shown : ι → List α}
    (each : ∀ i, (f i).Shows view (shown i)) {nodes : List Dom}
    (read : AreRead (items.map f) nodes) : nodes.map (Dom.seen view) = items.map shown := by
  induction items generalizing nodes with
  | nil =>
    rw [List.map_nil, AreRead] at read
    rw [read]
    rfl
  | cons i items ih =>
    cases nodes with
    | nil => exact read.elim
    | cons node nodes => rw [List.map_cons, List.map_cons, each i node read.1, ih read.2]

theorem unrollAll_append (scope : Scope) (nodes others : List Node) :
    unrollAll scope (nodes ++ others) = unrollAll scope nodes ++ unrollAll scope others := by
  induction nodes with
  | nil => rfl
  | cons node nodes ih => rw [List.cons_append, unrollAll, unrollAll, ih, List.append_assoc]

theorem Node.unroll_repeat (scope : Scope) (binding : String) (items : Items) (e : Element) :
    (Node.repeat binding items [.element e]).unroll scope =
      (items.toList scope).map fun item => e.unroll (scope.push binding item) := by
  rw [Node.unroll, List.map_eq_flatMap]
  rfl

namespace Element

variable {scope : Scope}

theorem unroll_eq (e : Element) : e.unroll scope =
    .element e.tag (attributesOf scope e.attributes) (stylesOf scope e.styles)
      (if isVoidTag e.tag then .void
      else match e.markup with
        | some m => .inline [.raw (m.display scope)]
        | none =>
          if e.children.isEmpty || e.children.any Node.isText then
            .inline (unrollAll scope e.children)
          else .block (unrollAll scope e.children)) := by
  cases e
  rfl

/-- No text stands right in an element, which can have nodes. -/
structure IsFrame (e : Element) : Prop where
  inside : isVoidTag e.tag = false
  unmarked : e.markup = none
  textless : ∀ node ∈ e.children, node.isText = false

theorem IsFrame.unroll {e : Element} (frame : e.IsFrame) (filled : e.children ≠ []) :
    e.unroll scope = .element e.tag (attributesOf scope e.attributes) (stylesOf scope e.styles)
      (.block (unrollAll scope e.children)) := by
  have laid : (e.children.isEmpty || e.children.any Node.isText) = false := by
    rw [Bool.or_eq_false_iff, List.isEmpty_eq_false_iff, List.any_eq_false]
    refine ⟨filled, fun node mem => ?_⟩
    rw [frame.textless node mem]
    exact Bool.false_ne_true
  rw [unroll_eq, frame.inside, frame.unmarked]
  simp only [laid, Bool.false_eq_true, if_false]

def allAttributes (e : Element) (scope : Scope) : List Attribute :=
  attributesOf scope e.attributes ++ styleAttribute (stylesOf scope e.styles)

theorem shows_empty {e : Element} (unmarked : e.markup = none) (empty : e.children = []) :
    (e.unroll scope).Shows view (view e.tag (e.allAttributes scope) []) := by
  rw [unroll_eq, unmarked, empty]
  split
  · exact .void
  · exact .inline rfl

theorem shows_of_text {e : Element} (inside : isVoidTag e.tag = false) (unmarked : e.markup = none)
    (value : Expr) (children : e.children = [.text value]) :
    (e.unroll scope).Shows view
      (view e.tag (e.allAttributes scope) (Dom.ofMarkup [.text (value.display scope)])) := by
  have silent : Dom.seenIn view (Dom.ofMarkup [.text (value.display scope)]) = [] := by
    simp only [Dom.ofMarkup, Dom.putAll, Dom.put, Dom.putText]
    split <;> rfl
  rw [unroll_eq, inside, unmarked]
  simp only [children, List.isEmpty_cons, List.any_cons, Node.isText, Bool.true_or,
    Bool.or_true, Bool.false_eq_true, if_true, if_false]
  exact .inline silent

theorem IsFrame.shows {e : Element} (frame : e.IsFrame)
    (quiet : ∀ attributes nodes, view e.tag attributes nodes = []) {shown : List α}
    (each : ShowAll view (unrollAll scope e.children) shown) :
    (e.unroll scope).Shows view shown := by
  by_cases empty : e.children = []
  · have shows : (e.unroll scope).Shows view _ := shows_empty frame.unmarked empty
    rw [empty, unrollAll] at each
    rwa [quiet, ← Dom.seenIn, each [] rfl] at shows
  · rw [frame.unroll empty]
    exact .block quiet each

@[simp]
theorem children_new (tag : String) : (new tag).children = [] := rfl

@[simp]
theorem children_attr (e : Element) (name : String) (value : Expr) :
    (e.attr name value).children = e.children := rfl

@[simp]
theorem children_style (e : Element) (property : String) (value : Expr) :
    (e.style property value).children = e.children := rfl

@[simp]
theorem children_child (e : Element) (node : Node) :
    (e.child node).children = e.children ++ [node] := rfl

@[simp]
theorem children_text (e : Element) (value : Expr) :
    (e.text value).children = e.children ++ [.text value] := rfl

@[simp]
theorem children_classed (tag classes : String) : (classed tag classes).children = [] := by
  unfold classed
  rcases withClass_eq (new tag) classes with same | ⟨c, same⟩ <;> rw [same] <;> rfl

theorem IsFrame.new {tag : String} (inside : isVoidTag tag = false) : (Element.new tag).IsFrame :=
  ⟨inside, rfl, nofun⟩

theorem IsFrame.classed {tag : String} (inside : isVoidTag tag = false) (classes : String) :
    (Element.classed tag classes).IsFrame := by
  obtain ⟨same, _, unmarked⟩ := classed_parts tag classes
  constructor
  · rwa [same]
  · exact unmarked
  · rw [children_classed]
    exact nofun

theorem IsFrame.container (classes : String) : (Element.container classes).IsFrame :=
  .classed rfl _

theorem IsFrame.style {e : Element} (frame : e.IsFrame) (property : String) (value : Expr) :
    (e.style property value).IsFrame := ⟨frame.inside, frame.unmarked, frame.textless⟩

theorem IsFrame.child {e : Element} {node : Node} (frame : e.IsFrame)
    (textless : node.isText = false) : (e.child node).IsFrame := by
  refine ⟨frame.inside, frame.unmarked, ?_⟩
  rw [children_child]
  exact List.forall_mem_append.2 ⟨frame.textless, List.forall_mem_singleton.2 textless⟩

theorem showAll_child {e : Element} {node : Node} {shown more : List α}
    (each : ShowAll view (unrollAll scope e.children) shown)
    (last : ShowAll view (node.unroll scope) more) :
    ShowAll view (unrollAll scope (e.child node).children) (shown ++ more) := by
  rw [children_child, unrollAll_append, unrollAll, unrollAll, List.append_nil]
  exact each.append last

theorem showAll_first {e : Element} {node : Node} {shown : List α} (empty : e.children = [])
    (only : ShowAll view (node.unroll scope) shown) :
    ShowAll view (unrollAll scope (e.child node).children) shown := by
  have none : ShowAll view (unrollAll scope e.children) [] := by
    rw [empty]
    exact .nil
  exact showAll_child none only

theorem showAll_silent {e : Element} {node : Node} {shown : List α}
    (each : ShowAll view (unrollAll scope e.children) shown)
    (last : ShowAll view (node.unroll scope) []) :
    ShowAll view (unrollAll scope (e.child node).children) shown := by
  have all := showAll_child each last
  rwa [List.append_nil] at all

theorem IsFrame.shows_child {e : Element} {node : Node} (frame : (e.child node).IsFrame)
    (quiet : ∀ attributes nodes, view e.tag attributes nodes = []) (empty : e.children = [])
    {shown : List α} (only : ShowAll view (node.unroll scope) shown) :
    ((e.child node).unroll scope).Shows view shown :=
  frame.shows quiet (showAll_first empty only)

theorem IsFrame.areRead_child {e : Element} {node : Node} (frame : (e.child node).IsFrame)
    (empty : e.children = []) {nodes : List Dom}
    (read : AreRead [(e.child node).unroll scope] nodes) :
    AreRead (node.unroll scope) (Dom.inner nodes) := by
  have children : (e.child node).children = [node] := by rw [children_child, empty, List.nil_append]
  rw [frame.unroll (by rw [children]; exact List.cons_ne_nil _ _), children] at read
  have inside := areRead_inner read
  rwa [unrollAll, unrollAll, List.append_nil] at inside

theorem shows_colored {tag : String} (inside : isVoidTag tag = false)
    (quiet : ∀ attributes nodes, view tag attributes nodes = []) (classes : String)
    (color value : Expr) : ((colored tag classes color value).unroll scope).Shows view [] := by
  have shows : ((colored tag classes color value).unroll scope).Shows view _ :=
    shows_of_text (by simpa using inside) (by simp [colored]) value (by simp [colored])
  rwa [colored_tag, quiet] at shows

theorem shows_picture (quiet : ∀ attributes nodes, view "img" attributes nodes = [])
    (classes : String) (source alt : Expr) :
    ((picture classes source alt).unroll scope).Shows view [] := by
  have shows : ((picture classes source alt).unroll scope).Shows view _ :=
    shows_empty (by simp [picture]) (by simp [picture])
  have tag : (picture classes source alt).tag = "img" := by simp [picture]
  rwa [tag, quiet] at shows

end Element

/-- What a view sees in the fragment of a block, if it does not look at the section itself. -/
theorem Section.seen_fragment (block : Block) (plain : block.content.holdsMarkup = false)
    {indent : Option String} (inertIndent : ∀ text ∈ indent, Reader.isInert text)
    (quiet : ∀ attributes nodes, view "section" attributes nodes = []) {shown : List α}
    (root : ((block.content.root block.base.background).unroll []).Shows view shown) :
    (Reader.read ((Rendering.html indent).fragment block.appearance)).map (Dom.seenIn view) =
      some shown := by
  obtain ⟨nodes, read, areRead⟩ := Section.read_fragment block plain inertIndent
  have body : ShowAll view (unrollAll [] (Section.ofBlock block).body) shown := .singleton root
  have whole : (Section.ofBlock block).markup.Shows view shown := .block quiet body
  have all := ShowAll.singleton whole _ areRead
  rw [Dom.seenIn_elements] at all
  rw [read, Option.map_some, all]

end PageBuilder
