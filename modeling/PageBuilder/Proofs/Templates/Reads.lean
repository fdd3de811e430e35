import PageBuilder.Proofs.Templates.Fits

set_option autoImplicit false

namespace PageBuilder

/-- The value under a path, if every key of the path is there. -/
def Json.at? : List String → Json → Option Json
  | [], v => some v
  | key :: path, v => (v.get? key).bind (at? path)

theorem Json.follow_eq_getD (path : List String) (v : Json) :
    v.follow path = (v.at? path).getD .null := by
  induction path generalizing v with
  | nil => rfl
  | cons key path ih =>
    rw [follow, at?]
    cases v.get? key with
    | none => rfl
    | some next => exact ih next

theorem Shape.ne_null_of_holds {shape inner : Shape} {item v : Json} {key : String}
    (holds : shape.Holds item) (follows : shape.follow [key] = some inner)
    (there : item.at? [key] = some v) : v ≠ .null := by
  cases shape with
  | record fields =>
    obtain ⟨next, found, _⟩ := Option.bind_eq_some_iff.1 follows
    obtain ⟨w, has, same⟩ := Option.bind_eq_some_iff.1 there
    cases same
    rintro rfl
    exact (holds_of_lookup holds.2 found).2 has
  | _ => cases follows

abbrev Read := String × List String

/-- The text of a badge, which a plan may be without. -/
def badgeText : Read := ("plan", ["badgeText"])

namespace Expr

mutual

def reads : Expr → List Read
  | .literal _ | .number _ => []
  | .field binding path => [(binding, path)]
  | .template parts => readsOfAll parts
  | .or a b | .equals a b | .lessThan a b => a.reads ++ b.reads
  | .ternary c a b => c.reads ++ a.reads ++ b.reads

def readsOfAll : List Expr → List Read
  | [] => []
  | e :: rest => e.reads ++ readsOfAll rest

end

mutual

/-- Nothing but the text of a badge has another text to take its place. -/
def Definite : Expr → Prop
  | .literal _ | .number _ | .field _ _ => True
  | .template parts => AllDefinite parts
  | .or a b =>
    (a = .field badgeText.1 badgeText.2 ∨ ∃ x, b = .number x) ∧ a.Definite ∧ b.Definite
  | .equals a b | .lessThan a b => a.Definite ∧ b.Definite
  | .ternary c a b => c.Definite ∧ a.Definite ∧ b.Definite

def AllDefinite : List Expr → Prop
  | [] => True
  | e :: rest => e.Definite ∧ AllDefinite rest

end

end Expr

/-- A read follows the shape of its binding to a value that is there, or to the text of a badge. -/
def Shapes.Give (shapes : Shapes) (read : Read) : Prop :=
  ∃ shape inner, shapes.lookup read.1 = some shape ∧ shape.follow read.2 = some inner ∧
    (inner ≠ .optional ∨ read = badgeText)

namespace Expr

variable {shapes : Shapes}

mutual

theorem give_of_shape? : ∀ (e : Expr) (shape : Shape), e.Definite → e.shape? shapes = some shape →
    shape ≠ .optional → ∀ read ∈ e.reads, shapes.Give read
  | .literal _, _, _, _, _ => fun _ none => nomatch none
  | .number _, _, _, _, _ => fun _ none => nomatch none
  | .field binding path, inner, _, typed, present => by
    rw [reads, List.forall_mem_singleton]
    obtain ⟨shape, found, follows⟩ := Option.bind_eq_some_iff.1 typed
    exact ⟨shape, inner, found, follows, .inl present⟩
  | .template parts, _, definite, typed, _ =>
    give_of_areTexts parts definite (shape?_template_eq_some.1 typed).2
  | .or a b, shape, ⟨rare, definiteA, definiteB⟩, typed, present => by
    obtain ⟨left, typedA, typedB, stays⟩ := shape?_or_eq_some.1 typed
    rw [reads, List.forall_mem_append]
    refine ⟨?_, b.give_of_shape? _ definiteB typedB present⟩
    rcases stays with ⟨rfl, _⟩ | ⟨rfl, rfl⟩
    · exact a.give_of_shape? _ definiteA typedA present
    · rcases rare with rfl | ⟨x, rfl⟩
      · rw [reads, List.forall_mem_singleton]
        obtain ⟨shape, found, follows⟩ := Option.bind_eq_some_iff.1 typedA
        exact ⟨shape, _, found, follows, .inr rfl⟩
      · cases (shape?_number_eq_some.1 typedB).1
  | .equals a b, _, ⟨definiteA, definiteB⟩, typed, _ => by
    obtain ⟨_, typedA, typedB⟩ := shape?_equals_eq_some.1 typed
    rw [reads, List.forall_mem_append]
    exact ⟨a.give_of_shape? _ definiteA typedA nofun, b.give_of_shape? _ definiteB typedB nofun⟩
  | .lessThan a b, _, ⟨definiteA, definiteB⟩, typed, _ => by
    obtain ⟨_, typedA, typedB⟩ := shape?_lessThan_eq_some.1 typed
    rw [reads, List.forall_mem_append]
    exact ⟨a.give_of_shape? _ definiteA typedA nofun, b.give_of_shape? _ definiteB typedB nofun⟩
  | .ternary c a b, _, ⟨definiteC, definiteA, definiteB⟩, typed, _ => by
    obtain ⟨_, typedC, typedA, typedB⟩ := shape?_ternary_eq_some.1 typed
    rw [reads, List.forall_mem_append, List.forall_mem_append]
    exact ⟨⟨c.give_of_shape? _ definiteC typedC nofun, a.give_of_shape? _ definiteA typedA nofun⟩,
      b.give_of_shape? _ definiteB typedB nofun⟩

theorem give_of_areTexts : ∀ parts : List Expr, AllDefinite parts → areTexts shapes parts →
    ∀ read ∈ readsOfAll parts, shapes.Give read
  | [], _, _ => fun _ none => nomatch none
  | e :: rest, ⟨definite, others⟩, texts => by
    obtain ⟨typed, texts⟩ := areTexts_cons.1 texts
    rw [readsOfAll, List.forall_mem_append]
    exact ⟨e.give_of_shape? _ definite typed nofun, give_of_areTexts rest others texts⟩

end

end Expr

namespace Items

def list? : Items → Option Expr
  | .of list => some list
  | _ => none

def value (scope : Scope) : Items → Json
  | .inline v => v
  | .of list => list.eval scope
  | .range count => .array ((List.range count).map fun n => .whole (n : Nat))

end Items

mutual

/-- Every expression has a property, under the bindings of the repetitions around it. -/
def Element.Each (P : List String → Expr → Prop) (bindings : List String) : Element → Prop
  | { attributes, styles, markup, children, .. } =>
    (∀ a ∈ attributes, P bindings a.2) ∧ (∀ s ∈ styles, P bindings s.2) ∧
      (∀ e ∈ markup, P bindings e) ∧ EachOf P bindings children

def Node.Each (P : List String → Expr → Prop) (bindings : List String) : Node → Prop
  | .element e => e.Each P bindings
  | .text e => P bindings e
  | .repeat binding items body =>
    (∀ e ∈ items.list?, P bindings e) ∧ EachOf P (binding :: bindings) body
  | .choice condition yes no =>
    P bindings condition ∧ EachOf P bindings yes ∧ EachOf P bindings no

def EachOf (P : List String → Expr → Prop) (bindings : List String) : List Node → Prop
  | [] => True
  | node :: rest => node.Each P bindings ∧ EachOf P bindings rest

end

/-- A read meets a bound item and gives what it has under the path, which is not null; only a plan
may be without the text of its badge. -/
def Scope.Meets (scope : Scope) (read : Read) : Prop :=
  ∃ item, scope.get? read.1 = some item ∧
    ((∃ v, item.at? read.2 = some v ∧ v ≠ .null ∧ (Expr.field read.1 read.2).eval scope = v) ∨
      (read = badgeText ∧ item.at? read.2 = none))

def Expr.Met (scope : Scope) (e : Expr) : Prop := ∀ read ∈ e.reads, scope.Meets read

mutual

/-- However the tree is unrolled, every read is met and all values for repetitions are lists. -/
def Element.Met (scope : Scope) : Element → Prop
  | { attributes, styles, markup, children, .. } =>
    (∀ a ∈ attributes, a.2.Met scope) ∧ (∀ s ∈ styles, s.2.Met scope) ∧
      (∀ e ∈ markup, e.Met scope) ∧ AllMet scope children

def Node.Met (scope : Scope) : Node → Prop
  | .element e => e.Met scope
  | .text e => e.Met scope
  | .repeat binding items body =>
    (∀ e ∈ items.list?, e.Met scope) ∧ items.value scope = .array (items.toList scope) ∧
      ∀ item ∈ items.toList scope, AllMet ((binding, item) :: scope) body
  | .choice condition yes no => condition.Met scope ∧ AllMet scope yes ∧ AllMet scope no

def AllMet (scope : Scope) : List Node → Prop
  | [] => True
  | node :: rest => node.Met scope ∧ AllMet scope rest

end

def Shapes.Hold (shapes : Shapes) (scope : Scope) : Prop :=
  ∀ binding shape, shapes.lookup binding = some shape →
    ∃ item, scope.get? binding = some item ∧ shape.Holds item

theorem Shapes.hold_nil : Shapes.Hold [] [] := fun _ _ none => nomatch none

theorem Shapes.Hold.cons {shapes : Shapes} {scope : Scope} (hold : shapes.Hold scope)
    {shape : Shape} {item : Json} (holds : shape.Holds item) (binding : String) :
    Shapes.Hold ((binding, shape) :: shapes) ((binding, item) :: scope) := by
  intro name inner found
  rw [List.lookup_cons] at found
  rw [Scope.get?, List.lookup_cons]
  split at found
  · cases found
    exact ⟨item, rfl, holds⟩
  · exact hold name inner found

theorem Shapes.Give.meets {shapes : Shapes} {scope : Scope} (hold : shapes.Hold scope)
    {read : Read} (give : shapes.Give read) : scope.Meets read := by
  obtain ⟨shape, inner, found, follows, present⟩ := give
  obtain ⟨item, bound, holds⟩ := hold _ _ found
  refine ⟨item, bound, ?_⟩
  have value := Shape.follow_holds holds follows
  have eval : (Expr.field read.1 read.2).eval scope = item.follow read.2 := by
    rw [Expr.eval, bound]
  rw [Json.follow_eq_getD] at value eval
  cases there : item.at? read.2 with
  | some v =>
    rw [there] at value eval
    refine .inl ⟨v, rfl, ?_, eval⟩
    rcases present with strict | rfl
    · rintro rfl
      exact strict (Shape.eq_optional_of_holds_null value)
    · exact Shape.ne_null_of_holds holds follows there
  | none =>
    rw [there] at value
    have rare := Shape.eq_optional_of_holds_null value
    exact .inr ⟨present.resolve_left (not_not_intro rare), rfl⟩

section

variable {shapes : Shapes} {scope : Scope} {e : Expr}

theorem Expr.met_of_shape? (hold : shapes.Hold scope) (definite : e.Definite) {shape : Shape}
    (typed : e.shape? shapes = some shape) (present : shape ≠ .optional) : e.Met scope :=
  fun read mem => (e.give_of_shape? shape definite typed present read mem).meets hold

theorem Expr.IsText.met (text : e.IsText shapes) (hold : shapes.Hold scope)
    (definite : e.Definite) : e.Met scope :=
  met_of_shape? hold definite text.1 nofun

theorem Expr.IsFlag.met (flag : e.IsFlag shapes) (hold : shapes.Hold scope)
    (definite : e.Definite) : e.Met scope :=
  met_of_shape? hold definite flag.1 nofun

theorem AttributeFits.met {a : String × Expr} (fits : AttributeFits shapes a)
    (hold : shapes.Hold scope) (definite : a.2.Definite) : a.2.Met scope := by
  obtain ⟨_, typed⟩ := fits
  split at typed
  · exact typed.met hold definite
  · exact typed.met hold definite

theorem Expr.holds_of_list (hold : shapes.Hold scope) {shape : Shape}
    (typed : e.shape? shapes = some (.list shape)) : (Shape.list shape).Holds (e.eval scope) := by
  cases e with
  | field binding path =>
    obtain ⟨outer, found, follows⟩ := Option.bind_eq_some_iff.1 typed
    obtain ⟨item, bound, holds⟩ := hold binding outer found
    rw [eval, bound]
    exact Shape.follow_holds holds follows
  | literal => cases typed
  | number | template | or | equals | lessThan | ternary =>
    rw [shape?] at typed
    split at typed <;> cases typed

theorem Items.Fits.value {items : Items} {shape : Shape} (fits : items.Fits shapes shape)
    (scopeHolds : shapes.Hold scope) (definite : ∀ e ∈ items.list?, e.Definite) :
    (∀ e ∈ items.list?, e.Met scope) ∧ items.value scope = .array (items.toList scope) ∧
      ∀ item ∈ items.toList scope, shape.Holds item := by
  cases items with
  | inline v =>
    obtain ⟨⟨list, rfl, each⟩, _⟩ := fits
    exact ⟨nofun, rfl, each⟩
  | of list =>
    obtain ⟨typed, _⟩ := fits
    obtain ⟨items, eval, each⟩ := Expr.holds_of_list scopeHolds typed
    rw [Items.value, Items.toList, eval]
    refine ⟨fun e mem => ?_, rfl, each⟩
    obtain rfl := Option.some.inj mem
    exact Expr.met_of_shape? scopeHolds (definite _ rfl) typed nofun
  | range count =>
    obtain ⟨rfl, small⟩ := fits
    refine ⟨nofun, rfl, fun item mem => ?_⟩
    obtain ⟨n, below, rfl⟩ := List.mem_map.1 mem
    have bound : n < pow2 53 := Nat.lt_trans (List.mem_range.1 below) small
    exact ⟨.whole n, rfl, Binary64.isFinite_ofInt bound (by decide)⟩

end

mutual

theorem Element.met_of_fits {trusted : Bool} : ∀ (e : Element) (shapes : Shapes),
    e.Fits trusted shapes → ∀ bindings, e.Each (fun _ e => e.Definite) bindings →
    ∀ scope, shapes.Hold scope → e.Met scope
  | { attributes, styles, markup, children, .. }, shapes, fits, bindings, each, scope, hold => by
    obtain ⟨_, _, attributesFit, _, stylesFit, markupFits, _, childrenFit⟩ := fits
    obtain ⟨attributesEach, stylesEach, markupEach, childrenEach⟩ := each
    refine ⟨fun a mem => (attributesFit a mem).met hold (attributesEach a mem),
      fun s mem => (stylesFit s mem).2.met hold (stylesEach s mem),
      fun e mem => (markupFits e mem).2.met hold (markupEach e mem), ?_⟩
    exact allMet_of_fits children shapes childrenFit bindings childrenEach scope hold

theorem Node.met_of_fits {trusted : Bool} : ∀ (node : Node) (shapes : Shapes),
    node.Fits trusted shapes → ∀ bindings, node.Each (fun _ e => e.Definite) bindings →
    ∀ scope, shapes.Hold scope → node.Met scope
  | .element e, shapes, fits, bindings, each, scope, hold =>
    e.met_of_fits shapes fits bindings each scope hold
  | .text _, _, fits, _, each, _, hold => Expr.IsText.met fits hold each
  | .repeat binding items body, shapes, ⟨_, shape, itemsFit, bodyFits⟩, bindings,
    ⟨itemsEach, bodyEach⟩, scope, hold => by
    obtain ⟨met, list, holds⟩ := itemsFit.value hold itemsEach
    refine ⟨met, list, fun item mem => ?_⟩
    exact allMet_of_fits body _ bodyFits _ bodyEach _ (hold.cons (holds item mem) binding)
  | .choice condition yes no, shapes, ⟨conditionFits, yesFits, noFits⟩, bindings,
    ⟨conditionEach, yesEach, noEach⟩, scope, hold =>
    ⟨conditionFits.elim (fun flag => flag.met hold conditionEach)
      (fun text => text.met hold conditionEach),
      allMet_of_fits yes shapes yesFits bindings yesEach scope hold,
      allMet_of_fits no shapes noFits bindings noEach scope hold⟩

theorem allMet_of_fits {trusted : Bool} : ∀ (nodes : List Node) (shapes : Shapes),
    FitAll trusted shapes nodes → ∀ bindings, EachOf (fun _ e => e.Definite) bindings nodes →
    ∀ scope, shapes.Hold scope → AllMet scope nodes
  | [], _, _, _, _, _, _ => trivial
  | node :: rest, shapes, ⟨fits, others⟩, bindings, ⟨each, eachOther⟩, scope, hold =>
    ⟨node.met_of_fits shapes fits bindings each scope hold,
      allMet_of_fits rest shapes others bindings eachOther scope hold⟩

end
end PageBuilder
