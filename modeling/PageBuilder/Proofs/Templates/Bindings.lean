import PageBuilder.Proofs.Templates.Reads

set_option autoImplicit false

namespace PageBuilder

namespace Scope

@[simp]
theorem pop_push (scope : Scope) (binding : String) (item : Json) :
    (scope.push binding item).pop = scope := rfl

@[simp]
theorem get?_push_self (scope : Scope) (binding : String) (item : Json) :
    (scope.push binding item).get? binding = some item := by
  rw [get?, push, List.lookup_cons_self]

theorem get?_push_of_ne (scope : Scope) {binding name : String} (other : name ≠ binding)
    (item : Json) : (scope.push binding item).get? name = scope.get? name := by
  rw [get?, push, List.lookup_cons, beq_false_of_ne other]
  rfl

end Scope

namespace Expr

def bindings (e : Expr) : List String := e.reads.map Prod.fst

variable {s t : Scope}

mutual

theorem eval_congr : ∀ e : Expr, (∀ read ∈ e.reads, s.get? read.1 = t.get? read.1) →
    e.eval s = e.eval t
  | .literal _, _ => rfl
  | .number _, _ => rfl
  | .field binding path, agree => by
    rw [eval, eval, agree (binding, path) (List.mem_singleton_self _)]
  | .template parts, agree => by
    rw [eval, eval, displayAll_congr parts agree]
  | .or a b, agree => by
    obtain ⟨left, right⟩ := List.forall_mem_append.1 agree
    rw [eval, eval, eval_congr a left, eval_congr b right]
  | .equals a b, agree => by
    obtain ⟨left, right⟩ := List.forall_mem_append.1 agree
    rw [eval, eval, eval_congr a left, eval_congr b right]
  | .lessThan a b, agree => by
    obtain ⟨left, right⟩ := List.forall_mem_append.1 agree
    rw [eval, eval, eval_congr a left, eval_congr b right]
  | .ternary c a b, agree => by
    obtain ⟨agree, no⟩ := List.forall_mem_append.1 agree
    obtain ⟨condition, yes⟩ := List.forall_mem_append.1 agree
    rw [eval, eval, eval_congr c condition, eval_congr a yes, eval_congr b no]

theorem displayAll_congr : ∀ parts : List Expr,
    (∀ read ∈ readsOfAll parts, s.get? read.1 = t.get? read.1) →
    displayAll s parts = displayAll t parts
  | [], _ => rfl
  | e :: rest, agree => by
    obtain ⟨first, others⟩ := List.forall_mem_append.1 agree
    rw [displayAll, displayAll, eval_congr e first, displayAll_congr rest others]

end

mutual

theorem isStatic_iff : ∀ e : Expr, e.isStatic ↔ e.reads = []
  | .literal _ | .number _ => by simp [isStatic, reads]
  | .field _ _ => by simp [isStatic, reads]
  | .template parts => by rw [isStatic, reads, areStatic_iff parts]
  | .or a b | .equals a b | .lessThan a b => by
    rw [isStatic, reads, Bool.and_eq_true, isStatic_iff a, isStatic_iff b, List.append_eq_nil_iff]
  | .ternary c a b => by
    rw [isStatic, reads, Bool.and_eq_true, Bool.and_eq_true, isStatic_iff c, isStatic_iff a,
      isStatic_iff b, List.append_eq_nil_iff, List.append_eq_nil_iff]

theorem areStatic_iff : ∀ parts : List Expr, areStatic parts ↔ readsOfAll parts = []
  | [] => by simp [areStatic, readsOfAll]
  | e :: rest => by
    rw [areStatic, readsOfAll, Bool.and_eq_true, isStatic_iff e, areStatic_iff rest,
      List.append_eq_nil_iff]

end

/--
Evaluation depends only on the bindings that an expression reads. Two scopes with the same innermost
items for these, or with none, give the same value; an expression without bindings is a static one,
and has the same value in every scope. Another binding that is put in front changes nothing until it
is taken off, while a binding that is read hides the outer ones, and all values are back after it.
-/
theorem eval_depends_on_bindings (e : Expr) :
    (∀ s t : Scope, (∀ name ∈ e.bindings, s.get? name = t.get? name) → e.eval s = e.eval t) ∧
    (e.isStatic ↔ e.bindings = []) ∧
    (e.isStatic → ∀ s t : Scope, e.eval s = e.eval t) ∧
    (∀ (s : Scope) (binding : String) (item : Json),
      (binding ∉ e.bindings → e.eval (s.push binding item) = e.eval s) ∧
      (∀ path, e = .field binding path → e.eval (s.push binding item) = item.follow path) ∧
      e.eval (s.push binding item).pop = e.eval s) := by
  have agree : ∀ s t : Scope, (∀ name ∈ e.bindings, s.get? name = t.get? name) →
      e.eval s = e.eval t := fun s t same =>
    e.eval_congr fun read mem => same read.1 (List.mem_map_of_mem mem)
  have static : e.isStatic ↔ e.bindings = [] := by
    rw [isStatic_iff, bindings, List.map_eq_nil_iff]
  refine ⟨agree, static, fun fixed s t => ?_, fun s binding item => ⟨fun other => ?_, ?_, ?_⟩⟩
  · refine agree s t fun name mem => ?_
    rw [static.1 fixed] at mem
    cases mem
  · refine agree _ _ fun name mem => s.get?_push_of_ne ?_ item
    rintro rfl
    exact other mem
  · rintro path rfl
    rw [eval, Scope.get?_push_self]
  · rw [Scope.pop_push]

theorem eval_of_shadowed_item :
    let e : Expr := .or (.equals (.field "item" ["name"]) "a") (.template ["b", .field "item" []])
    let outer : Scope := [("item", .string "x"), ("star", .bool false)]
    let inner : Scope := outer.push "item" (.string "y")
    (∀ name ∈ e.bindings, inner.get? name = Scope.get? [("item", .string "y")] name) ∧
      e.eval inner = e.eval [("item", .string "y")] ∧
      "star" ∉ e.bindings ∧ e.eval (inner.push "star" (.bool true)) = e.eval inner ∧
      (Expr.member "item" "").eval inner = .string "y" ∧ e.eval inner.pop = e.eval outer ∧
      Expr.isStatic "b" ∧ Expr.eval inner "b" = Expr.eval [] "b" := by
  intro e outer inner
  have same : ∀ name ∈ e.bindings, inner.get? name = Scope.get? [("item", .string "y")] name := by
    rintro name mem
    obtain rfl : name = "item" := by simpa [e, bindings, reads, readsOfAll] using mem
    rfl
  have other : "star" ∉ e.bindings := by decide
  have path : Expr.member "item" "" = .field "item" [] := by simp [Expr.member, pathOf]
  obtain ⟨agree, _, _, pushed⟩ := eval_depends_on_bindings e
  obtain ⟨_, _, fixed, _⟩ := eval_depends_on_bindings "b"
  obtain ⟨_, _, _, seen⟩ := eval_depends_on_bindings (.member "item" "")
  exact ⟨same, agree _ _ same, other, (pushed inner "star" (.bool true)).1 other,
    (seen outer "item" (.string "y")).2.1 [] path, (pushed outer "item" (.string "y")).2.2,
    rfl, fixed rfl inner []⟩

end Expr
end PageBuilder
