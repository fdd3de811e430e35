import PageBuilder.Proofs.Templates.Fits

set_option autoImplicit false

/-!
# Values of a component

The values of the language that a component is written in, and what its expressions give. Where the
language throws, or would need a rule that is not described here, there is no value. An expression
that has a shape has a value, which agrees with its value in the markup.
-/

namespace PageBuilder

inductive Value where
  | undefined
  | null
  | bool (value : Bool)
  | number (value : Binary64)
  | string (value : String)
  | array (items : List Value)
  | object (members : List (String × Value))

namespace Value

mutual

def ofJson : Json → Value
  | .null => .null
  | .bool b => .bool b
  | .number n => .number n.toBinary64
  | .string s => .string s
  | .array items => .array (ofItems items)
  | .object members => .object (ofMembers members)

def ofItems : List Json → List Value
  | [] => []
  | v :: rest => ofJson v :: ofItems rest

def ofMembers : List (String × Json) → List (String × Value)
  | [] => []
  | (key, v) :: rest => (key, ofJson v) :: ofMembers rest

end

def isTruthy : Value → Bool
  | .undefined | .null => false
  | .bool b => b
  | .number x => !x.isZero && !x.isNaN
  | .string s => !s.isEmpty
  | .array _ | .object _ => true

def lastMember? (key : String) : List (String × Value) → Option Value
  | [] => none
  | (k, v) :: rest => (lastMember? key rest).or (if k = key then some v else none)

/-- An absent member is undefined; what is no object throws or has members of another kind. -/
def member? (key : String) : Value → Option Value
  | .object members => some ((lastMember? key members).getD .undefined)
  | _ => none

def follow? : List String → Value → Option Value
  | [], v => some v
  | key :: path, v => (v.member? key).bind (follow? path)

def strictlyEquals? : Value → Value → Option Bool
  | .undefined, .undefined | .null, .null => some true
  | .bool a, .bool b => some (a == b)
  | .number x, .number y => some (!x.isNaN && !y.isNaN && x.same y)
  | .string a, .string b => some (a == b)
  | .array _, .array _ | .object _, .object _ => none
  | _, _ => some false

def less? : Value → Value → Option Bool
  | .number x, .number y => some (!x.isNaN && !y.isNaN && x.less y)
  | _, _ => none

def text? : Value → Option String
  | .undefined => some "undefined"
  | .null => some "null"
  | .bool b => some (if b then "true" else "false")
  | .string s => some s
  | .number _ | .array _ | .object _ => none

end Value

abbrev Environment := List (String × Value)

namespace Expr

mutual

def run? (env : Environment) : Expr → Option Value
  | .literal s => some (.string s)
  | .number x => if x.isFinite then some (.number x.written) else none
  | .field binding path => (env.lookup binding).bind (Value.follow? path)
  | .template parts => (runAll? env parts).map .string
  | .or a b => do
    let left ← a.run? env
    if left.isTruthy then return left else b.run? env
  | .equals a b => do return .bool (← (← a.run? env).strictlyEquals? (← b.run? env))
  | .lessThan a b => do return .bool (← (← a.run? env).less? (← b.run? env))
  | .ternary c a b => do if (← c.run? env).isTruthy then a.run? env else b.run? env

def runAll? (env : Environment) : List Expr → Option String
  | [] => some ""
  | e :: rest => do return (← (← e.run? env).text?) ++ (← runAll? env rest)

end

end Expr

namespace Value

/-- The value of a component that stands where the markup has a JSON value. What is absent is
undefined for the one and null for the other. -/
def Matches (w : Value) (v : Json) : Prop := w = .ofJson v ∨ v = .null ∧ w = .undefined

theorem lastMember?_ofMembers {members : Json.Members} (distinct : Json.DistinctKeys members)
    (key : String) :
    lastMember? key (ofMembers members) = (Json.member? key members).map .ofJson := by
  induction members with
  | nil => rfl
  | cons m rest ih =>
    obtain ⟨k, v⟩ := m
    obtain ⟨fresh, restDistinct⟩ := List.nodup_cons.1 distinct
    rw [ofMembers, lastMember?, ih restDistinct, Json.member?]
    split
    · rename_i same
      subst same
      rw [Json.member?_eq_none fresh]
      rfl
    · rw [Option.or_none]

theorem follow?_matches {path : List String} {shape inner : Shape} {v : Json}
    (holds : shape.Holds v) (found : shape.follow path = some inner) :
    ∃ w, (ofJson v).follow? path = some w ∧ w.Matches (v.follow path) := by
  induction path generalizing shape v with
  | nil => exact ⟨ofJson v, rfl, .inl rfl⟩
  | cons key path ih =>
    cases shape with
    | record fields =>
      obtain ⟨next, lookup, rest⟩ := Option.bind_eq_some_iff.1 found
      have holdsNext := (Shape.holds_of_lookup holds.2 lookup).1
      obtain ⟨⟨members, rfl, distinct⟩, _⟩ := holds
      rw [Json.follow, follow?, ofJson, member?, lastMember?_ofMembers distinct]
      rw [Json.get?] at holdsNext ⊢
      cases member : Json.member? key members with
      | some next =>
        rw [member] at holdsNext
        exact ih holdsNext rest
      | none =>
        rw [member] at holdsNext
        cases path with
        | nil => exact ⟨.undefined, rfl, .inr ⟨rfl, rfl⟩⟩
        | cons key path =>
          cases next with
          | record fields =>
            obtain ⟨⟨_, absurd, _⟩, _⟩ := holdsNext
            cases absurd
          | _ => cases rest
    | _ => cases found

def Agrees (shape : Shape) (v : Json) (w? : Option Value) : Prop :=
  shape.Holds v ∧ ∃ w, w? = some w ∧ w.Matches v

section

variable {v : Json} {w? : Option Value}

theorem Agrees.eq_ofJson {shape : Shape} (agrees : Agrees shape v w?) (present : v ≠ .null) :
    w? = some (ofJson v) := by
  obtain ⟨_, w, given, rfl | ⟨null, _⟩⟩ := agrees
  · exact given
  · exact absurd null present

theorem Agrees.text_eq (agrees : Agrees .text v w?) :
    ∃ s, v = .string s ∧ w? = some (.string s) := by
  obtain ⟨s, rfl⟩ := agrees.1
  exact ⟨s, rfl, agrees.eq_ofJson Json.noConfusion⟩

theorem Agrees.flag_eq (agrees : Agrees .flag v w?) : ∃ b, v = .bool b ∧ w? = some (.bool b) := by
  obtain ⟨b, rfl⟩ := agrees.1
  exact ⟨b, rfl, agrees.eq_ofJson Json.noConfusion⟩

theorem Agrees.number_eq (agrees : Agrees .number v w?) :
    ∃ n, v = .number n ∧ w? = some (.number n.toBinary64) ∧ n.toBinary64.isNaN = false := by
  obtain ⟨n, rfl, finite⟩ := agrees.1
  exact ⟨n, rfl, agrees.eq_ofJson Json.noConfusion, Binary64.isNaN_of_isFinite finite⟩

theorem Agrees.list_eq {item : Shape} (agrees : Agrees (.list item) v w?) :
    ∃ items, v = .array items ∧ w? = some (ofJson (.array items)) ∧ ∀ i ∈ items, item.Holds i := by
  obtain ⟨items, rfl, each⟩ := agrees.1
  exact ⟨items, rfl, agrees.eq_ofJson Json.noConfusion, each⟩

theorem Matches.isTruthy_eq {shape : Shape} {w : Value} (same : Matches w v)
    (holds : shape.Holds v) : w.isTruthy = v.holds := by
  rcases same with rfl | ⟨rfl, rfl⟩
  · cases v with
    | number n =>
      have real : n.toBinary64.isNaN = false := by
        cases shape with
        | number =>
          obtain ⟨_, given, finite⟩ := holds
          cases given
          exact Binary64.isNaN_of_isFinite finite
        | _ => simp [Shape.Holds] at holds
      rw [ofJson, isTruthy, real, Json.holds, Bool.not_false, Bool.and_true]
    | _ => rfl
  · rfl

theorem Agrees.isTruthy_eq {shape : Shape} (agrees : Agrees shape v w?) :
    ∃ w, w? = some w ∧ w.isTruthy = v.holds := by
  obtain ⟨holds, w, given, same⟩ := agrees
  exact ⟨w, given, same.isTruthy_eq holds⟩

end

end Value

def Bound (shapes : Shapes) (scope : Scope) (env : Environment) : Prop :=
  ∀ binding shape, shapes.lookup binding = some shape → binding ∈ bindingNames ∧
    ∃ v, scope.get? binding = some v ∧ env.lookup binding = some (.ofJson v) ∧ shape.Holds v

open Value (Agrees)

namespace Expr

variable {shapes : Shapes} {scope : Scope} {env : Environment}

section

variable {a b c : Expr} {shape : Shape}

/-- The left side stays only if it holds, and then it is not null. -/
theorem agrees_or {left : Shape} (agreesA : Agrees left (a.eval scope) (a.run? env))
    (agreesB : Agrees shape (b.eval scope) (b.run? env))
    (stays : left = shape ∨ left = .optional ∧ shape = .text) :
    Agrees shape ((or a b).eval scope) ((or a b).run? env) := by
  obtain ⟨holds, w, run, same⟩ := agreesA
  rw [eval, run?, run]
  change Agrees shape _ (if w.isTruthy then some w else b.run? env)
  rw [same.isTruthy_eq holds]
  by_cases true : (a.eval scope).holds
  · rw [if_pos true, if_pos true]
    refine ⟨?_, w, rfl, same⟩
    rcases stays with rfl | ⟨rfl, rfl⟩
    · exact holds
    · refine holds.resolve_left fun null => ?_
      rw [null] at true
      cases true
  · rw [if_neg true, if_neg true]
    exact agreesB

theorem agrees_equals (agreesA : Agrees .text (a.eval scope) (a.run? env))
    (agreesB : Agrees .text (b.eval scope) (b.run? env)) :
    Agrees .flag ((equals a b).eval scope) ((equals a b).run? env) := by
  obtain ⟨s, evalA, runA⟩ := agreesA.text_eq
  obtain ⟨t, evalB, runB⟩ := agreesB.text_eq
  rw [eval, run?, runA, runB, evalA, evalB]
  exact ⟨⟨_, rfl⟩, _, rfl, .inl rfl⟩

theorem agrees_lessThan (agreesA : Agrees .number (a.eval scope) (a.run? env))
    (agreesB : Agrees .number (b.eval scope) (b.run? env)) :
    Agrees .flag ((lessThan a b).eval scope) ((lessThan a b).run? env) := by
  obtain ⟨m, evalA, runA, realA⟩ := agreesA.number_eq
  obtain ⟨n, evalB, runB, realB⟩ := agreesB.number_eq
  have less : (Value.number m.toBinary64).less? (.number n.toBinary64) =
      some (m.toBinary64.less n.toBinary64) := by
    rw [Value.less?, realA, realB]
    rfl
  rw [eval, run?, runA, runB, evalA, evalB]
  simp only [Option.bind_eq_bind, Option.bind_some, less]
  exact ⟨⟨_, rfl⟩, _, rfl, .inl rfl⟩

theorem agrees_ternary {decided : Shape} (agreesC : Agrees decided (c.eval scope) (c.run? env))
    (agreesA : Agrees shape (a.eval scope) (a.run? env))
    (agreesB : Agrees shape (b.eval scope) (b.run? env)) :
    Agrees shape ((ternary c a b).eval scope) ((ternary c a b).run? env) := by
  obtain ⟨w, run, truthy⟩ := agreesC.isTruthy_eq
  rw [eval, run?, run]
  change Agrees shape _ (if w.isTruthy then a.run? env else b.run? env)
  rw [truthy]
  by_cases true : (c.eval scope).holds
  · rw [if_pos true, if_pos true]
    exact agreesA
  · rw [if_neg true, if_neg true]
    exact agreesB

end

mutual

theorem run?_agrees (bound : Bound shapes scope env) : ∀ (e : Expr) (shape : Shape),
    e.shape? shapes = some shape → Agrees shape (e.eval scope) (e.run? env)
  | .literal s, shape, typed => by
    cases typed
    exact ⟨⟨s, rfl⟩, .string s, rfl, .inl rfl⟩
  | .number x, shape, typed => by
    obtain ⟨rfl, finite, exact⟩ := shape?_number_eq_some.1 typed
    rw [eval, run?, if_pos finite, if_pos finite, exact]
    exact ⟨⟨.real x, rfl, finite⟩, _, rfl, .inl rfl⟩
  | .field binding path, shape, typed => by
    obtain ⟨item, found, path⟩ := Option.bind_eq_some_iff.1 typed
    obtain ⟨_, v, inScope, inEnv, holds⟩ := bound binding item found
    rw [eval, run?, inScope, inEnv]
    exact ⟨Shape.follow_holds holds path, Value.follow?_matches holds path⟩
  | .template parts, shape, typed => by
    obtain ⟨rfl, texts⟩ := shape?_template_eq_some.1 typed
    rw [eval, run?, runAll?_eq bound parts texts]
    exact ⟨⟨_, rfl⟩, _, rfl, .inl rfl⟩
  | .or a b, shape, typed => by
    obtain ⟨left, typedA, typedB, stays⟩ := shape?_or_eq_some.1 typed
    exact agrees_or (run?_agrees bound a left typedA) (run?_agrees bound b shape typedB)
      (stays.imp_left And.left)
  | .equals a b, shape, typed => by
    obtain ⟨rfl, typedA, typedB⟩ := shape?_equals_eq_some.1 typed
    exact agrees_equals (run?_agrees bound a _ typedA) (run?_agrees bound b _ typedB)
  | .lessThan a b, shape, typed => by
    obtain ⟨rfl, typedA, typedB⟩ := shape?_lessThan_eq_some.1 typed
    exact agrees_lessThan (run?_agrees bound a _ typedA) (run?_agrees bound b _ typedB)
  | .ternary c a b, shape, typed => by
    obtain ⟨rfl, typedC, typedA, typedB⟩ := shape?_ternary_eq_some.1 typed
    exact agrees_ternary (run?_agrees bound c _ typedC) (run?_agrees bound a _ typedA)
      (run?_agrees bound b _ typedB)

theorem runAll?_eq (bound : Bound shapes scope env) : ∀ parts : List Expr,
    areTexts shapes parts → runAll? env parts = some (displayAll scope parts)
  | [], _ => rfl
  | e :: rest, texts => by
    obtain ⟨typed, others⟩ := areTexts_cons.1 texts
    obtain ⟨s, eval, run⟩ := (run?_agrees bound e .text typed).text_eq
    rw [runAll?, displayAll, run, runAll?_eq bound rest others, eval]
    rfl

end

end Expr
end PageBuilder
