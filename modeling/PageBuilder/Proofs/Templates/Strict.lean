import PageBuilder.Proofs.Templates.Reads

set_option autoImplicit false

/-!
# Strict unrolling

Unrolling as it is, but for one thing: it gives up at a read without a binding or a member, unless it
is the text of a badge, at a read of null, and at a repetition over what is no list. Where all reads
are met it does not give up.
-/

namespace PageBuilder

theorem mapM_eq_some_map {α β : Type} {f : α → Option β} {g : α → β} {list : List α}
    (each : ∀ a ∈ list, f a = some (g a)) : list.mapM f = some (list.map g) := by
  induction list with
  | nil => rfl
  | cons a list ih =>
    rw [List.mapM_cons, each a List.mem_cons_self, ih fun b h => each b (List.mem_cons_of_mem _ h)]
    rfl

def Scope.read? (scope : Scope) (read : Read) : Option Json :=
  (scope.get? read.1).bind fun item =>
    match item.at? read.2 with
    | some .null => none
    | some v => some v
    | none => if read = badgeText then some .null else none

theorem Scope.Meets.read?_eq {scope : Scope} {read : Read} (meets : scope.Meets read) :
    scope.read? read = some ((Expr.field read.1 read.2).eval scope) := by
  obtain ⟨item, bound, ⟨v, there, present, eval⟩ | ⟨rfl, missing⟩⟩ := meets
  · rw [read?, bound, eval, Option.bind_some, there]
    cases v with
    | null => exact absurd rfl present
    | _ => rfl
  · rw [read?, bound, Option.bind_some, missing, Expr.eval, bound]
    simp only [if_true, Json.follow_eq_getD, missing, Option.getD_none]

namespace Expr

mutual

def eval? (scope : Scope) : Expr → Option Json
  | .field binding path => scope.read? (binding, path)
  | .template parts => (displayAll? scope parts).map .string
  | .or a b => do
    let left ← a.eval? scope
    if left.holds then some left else b.eval? scope
  | .equals a b => do return .bool ((← a.eval? scope).same (← b.eval? scope))
  | .lessThan a b => do return .bool ((← a.eval? scope).less (← b.eval? scope))
  | .ternary c a b => do if (← c.eval? scope).holds then a.eval? scope else b.eval? scope
  | e => some (e.eval scope)

def displayAll? (scope : Scope) : List Expr → Option String
  | [] => some ""
  | e :: rest => do return (← e.eval? scope).display ++ (← displayAll? scope rest)

end

variable {scope : Scope}

mutual

theorem Met.eval?_eq : ∀ {e : Expr}, e.Met scope → e.eval? scope = some (e.eval scope)
  | .literal _, _ => rfl
  | .number _, _ => rfl
  | .field binding path, met => (met (binding, path) List.mem_cons_self).read?_eq
  | .template parts, met => by rw [eval?, displayAll?_eq met, eval, Option.map_some]
  | .or a b, met => by
    obtain ⟨left, right⟩ := List.forall_mem_append.1 met
    simp only [eval?, Met.eval?_eq left, Met.eval?_eq right, eval, Option.bind_eq_bind,
      Option.bind_some]
    split <;> rfl
  | .equals a b, met => by
    obtain ⟨left, right⟩ := List.forall_mem_append.1 met
    simp only [eval?, Met.eval?_eq left, Met.eval?_eq right, eval, Option.bind_eq_bind,
      Option.bind_some, Option.pure_def]
  | .lessThan a b, met => by
    obtain ⟨left, right⟩ := List.forall_mem_append.1 met
    simp only [eval?, Met.eval?_eq left, Met.eval?_eq right, eval, Option.bind_eq_bind,
      Option.bind_some, Option.pure_def]
  | .ternary c a b, met => by
    obtain ⟨first, right⟩ := List.forall_mem_append.1 met
    obtain ⟨condition, left⟩ := List.forall_mem_append.1 first
    simp only [eval?, Met.eval?_eq condition, Met.eval?_eq left, Met.eval?_eq right, eval,
      Option.bind_eq_bind, Option.bind_some]
    split <;> rfl

theorem displayAll?_eq : ∀ {parts : List Expr}, (∀ read ∈ readsOfAll parts, scope.Meets read) →
    displayAll? scope parts = some (displayAll scope parts)
  | [], _ => rfl
  | e :: rest, met => by
    obtain ⟨first, others⟩ := List.forall_mem_append.1 met
    simp only [displayAll?, Met.eval?_eq first, displayAll?_eq others, displayAll,
      Option.bind_eq_bind, Option.bind_some, Option.pure_def]

end

end Expr

def Items.toList? (scope : Scope) : Items → Option (List Json)
  | .inline (.array items) => some items
  | .inline _ => none
  | .of list =>
    match list.eval? scope with
    | some (.array items) => some items
    | _ => none
  | .range count => some ((List.range count).map fun n => .whole (n : Nat))

def attributesOf? (scope : Scope) (attributes : List (String × Expr)) : Option (List Attribute) :=
  (attributes.mapM fun (a : String × Expr) => (a.2.eval? scope).map (Attribute.ofValue? a.1)).map
    List.reduceOption

def stylesOf? (scope : Scope) (styles : List (String × Expr)) : Option (List Declaration) :=
  (styles.mapM fun (s : String × Expr) => (s.2.eval? scope).map fun v => (s.1, v.display)).map
    (List.filter fun d => !d.2.isEmpty)

mutual

def Element.unroll? (scope : Scope) : Element → Option Markup
  | { tag, attributes, styles, markup, children } => do
    let attributes ← attributesOf? scope attributes
    let styles ← stylesOf? scope styles
    if isVoidTag tag then return .element tag attributes styles .void
    match markup with
    | some e => return .element tag attributes styles (.inline [.raw (← e.eval? scope).display])
    | none =>
      let nodes ← unrollAll? scope children
      return .element tag attributes styles <|
        if children.isEmpty || children.any Node.isText then .inline nodes else .block nodes

def Node.unroll? (scope : Scope) : Node → Option (List Markup)
  | .element e => do return [← e.unroll? scope]
  | .text e => do return [.text (← e.eval? scope).display]
  | .repeat binding items body => do
    let items ← items.toList? scope
    return (← items.mapM fun item => unrollAll? (scope.push binding item) body).flatten
  | .choice condition yes no => do
    if (← condition.eval? scope).holds then unrollAll? scope yes else unrollAll? scope no

def unrollAll? (scope : Scope) : List Node → Option (List Markup)
  | [] => some []
  | node :: rest => do return (← node.unroll? scope) ++ (← unrollAll? scope rest)

end

section

variable {scope : Scope}

theorem Items.toList?_eq {items : Items} (met : ∀ e ∈ items.list?, e.Met scope)
    (list : items.value scope = .array (items.toList scope)) :
    items.toList? scope = some (items.toList scope) := by
  cases items with
  | inline v =>
    cases v with
    | array items => rfl
    | _ => cases list
  | of e =>
    change e.eval scope = _ at list
    rw [toList?, (met e rfl).eval?_eq, list]
  | range count => rfl

theorem attributesOf?_eq {attributes : List (String × Expr)}
    (met : ∀ a ∈ attributes, a.2.Met scope) :
    attributesOf? scope attributes = some (attributesOf scope attributes) := by
  have each : ∀ a ∈ attributes, (a.2.eval? scope).map (Attribute.ofValue? a.1) =
      some (Attribute.ofValue? a.1 (a.2.eval scope)) := fun a mem => by
    rw [(met a mem).eval?_eq, Option.map_some]
  rw [attributesOf?, mapM_eq_some_map each, Option.map_some, List.reduceOption, List.filterMap_map]
  rfl

theorem stylesOf?_eq {styles : List (String × Expr)} (met : ∀ s ∈ styles, s.2.Met scope) :
    stylesOf? scope styles = some (stylesOf scope styles) := by
  have each : ∀ s ∈ styles, (s.2.eval? scope).map (fun v => (s.1, v.display)) =
      some (s.1, s.2.display scope) := fun s mem => by
    rw [(met s mem).eval?_eq]
    rfl
  rw [stylesOf?, mapM_eq_some_map each]
  rfl

end

mutual

theorem Element.Met.unroll?_eq : ∀ {e : Element} {scope : Scope}, e.Met scope →
    e.unroll? scope = some (e.unroll scope)
  | { tag, attributes, styles, markup, children }, scope, met => by
    obtain ⟨attributesMet, stylesMet, markupMet, childrenMet⟩ := met
    have inside := AllMet.unrollAll?_eq childrenMet
    simp only [Element.unroll?, Element.unroll, attributesOf?_eq attributesMet,
      stylesOf?_eq stylesMet, inside, Option.bind_eq_bind, Option.bind_some, Option.pure_def]
    split
    · rfl
    · cases markup with
      | none => rfl
      | some e =>
        simp only [(markupMet e rfl).eval?_eq, Option.bind_some]
        rfl

theorem Node.Met.unroll?_eq : ∀ {node : Node} {scope : Scope}, node.Met scope →
    node.unroll? scope = some (node.unroll scope)
  | .element e, scope, met => by
    have own : e.unroll? scope = _ := Element.Met.unroll?_eq met
    simp only [Node.unroll?, own, Option.bind_eq_bind, Option.bind_some, Option.pure_def,
      Node.unroll]
  | .text e, scope, met => by
    have own : e.eval? scope = _ := Expr.Met.eval?_eq met
    simp only [Node.unroll?, own, Option.bind_eq_bind, Option.bind_some, Option.pure_def,
      Node.unroll, Expr.display]
  | .repeat binding items body, scope, ⟨itemsMet, list, bodyMet⟩ => by
    have each := mapM_eq_some_map fun item mem => AllMet.unrollAll?_eq (bodyMet item mem)
    simp only [Node.unroll?, Items.toList?_eq itemsMet list, Option.bind_eq_bind, Option.bind_some,
      Scope.push, each, Option.pure_def, Node.unroll, List.flatMap_def]
  | .choice condition yes no, scope, ⟨conditionMet, yesMet, noMet⟩ => by
    simp only [Node.unroll?, conditionMet.eval?_eq, AllMet.unrollAll?_eq yesMet,
      AllMet.unrollAll?_eq noMet, Option.bind_eq_bind, Option.bind_some, Node.unroll]
    split <;> rfl

theorem AllMet.unrollAll?_eq : ∀ {nodes : List Node} {scope : Scope}, AllMet scope nodes →
    unrollAll? scope nodes = some (unrollAll scope nodes)
  | [], _, _ => rfl
  | node :: rest, scope, ⟨met, others⟩ => by
    simp only [unrollAll?, Node.Met.unroll?_eq met, AllMet.unrollAll?_eq others,
      Option.bind_eq_bind, Option.bind_some, Option.pure_def, unrollAll]

end
end PageBuilder
