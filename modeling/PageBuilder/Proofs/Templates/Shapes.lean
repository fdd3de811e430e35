import PageBuilder.Component.Script
import PageBuilder.Proofs.Number.Binary64
import PageBuilder.Proofs.Saving.Records

set_option autoImplicit false

namespace PageBuilder

open Json (Codec Record DistinctKeys)

/-- What a value looks like; an optional text may be absent. -/
inductive Shape where
  | text
  | optional
  | flag
  | number
  | list (item : Shape)
  | record (fields : List (String × Shape))

abbrev Shapes := List (String × Shape)

namespace Shape

mutual

def Holds : Shape → Json → Prop
  | .text, v => ∃ s, v = .string s
  | .optional, v => v = .null ∨ ∃ s, v = .string s
  | .flag, v => ∃ b, v = .bool b
  | .number, v => ∃ n, v = .number n ∧ n.toBinary64.isFinite
  | .list item, v => ∃ items, v = .array items ∧ ∀ i ∈ items, item.Holds i
  | .record fields, v =>
    (∃ members, v = .object members ∧ DistinctKeys members) ∧ FieldsHold fields v

/-- The members of a record have their shapes. A missing one counts as null, and none is null. -/
def FieldsHold : List (String × Shape) → Json → Prop
  | [], _ => True
  | (key, shape) :: rest, v =>
    shape.Holds ((v.get? key).getD .null) ∧ v.get? key ≠ some .null ∧ FieldsHold rest v

end

def follow : List String → Shape → Option Shape
  | [], shape => some shape
  | key :: path, .record fields => (fields.lookup key).bind (follow path)
  | _ :: _, _ => none

theorem eq_optional_of_holds_null {shape : Shape} (holds : shape.Holds .null) :
    shape = .optional := by
  cases shape with
  | optional => rfl
  | text | flag =>
    obtain ⟨_, absurd⟩ := holds
    cases absurd
  | number | list =>
    obtain ⟨_, absurd, _⟩ := holds
    cases absurd
  | record =>
    obtain ⟨⟨_, absurd, _⟩, _⟩ := holds
    cases absurd

theorem holds_of_lookup {fields : List (String × Shape)} {v : Json} (holds : FieldsHold fields v)
    {key : String} {shape : Shape} (found : fields.lookup key = some shape) :
    shape.Holds ((v.get? key).getD .null) ∧ v.get? key ≠ some .null := by
  induction fields with
  | nil => cases found
  | cons field fields ih =>
    obtain ⟨k, first⟩ := field
    obtain ⟨holdsFirst, present, others⟩ := holds
    rw [List.lookup_cons] at found
    split at found
    · rename_i same
      cases found
      rw [eq_of_beq same]
      exact ⟨holdsFirst, present⟩
    · exact ih others found

theorem follow_holds {path : List String} {shape inner : Shape} {v : Json} (holds : shape.Holds v)
    (found : shape.follow path = some inner) : inner.Holds (v.follow path) := by
  induction path generalizing shape v with
  | nil =>
    cases found
    exact holds
  | cons key path ih =>
    cases shape with
    | record fields =>
      obtain ⟨next, lookup, rest⟩ := Option.bind_eq_some_iff.1 found
      have holdsNext := (holds_of_lookup holds.2 lookup).1
      rw [Json.follow]
      cases member : v.get? key with
      | some w =>
        rw [member] at holdsNext
        exact ih holdsNext rest
      | none =>
        rw [member] at holdsNext
        cases path with
        | nil =>
          cases rest
          exact holdsNext
        | cons key path =>
          cases next with
          | record fields =>
            obtain ⟨⟨members, absurd, _⟩, _⟩ := holdsNext
            cases absurd
          | _ => cases rest
    | _ => cases found

end Shape

/-- The number that a number literal reads as. -/
def Binary64.written (x : Binary64) : Binary64 :=
  if x.isWhole then .ofInt (clampToWord x.truncate) else x

namespace Expr

mutual

/-- What an expression gives for items of known shapes. -/
def shape? (shapes : Shapes) : Expr → Option Shape
  | .literal _ => some .text
  | .number x => if x.isFinite ∧ x.written = x then some .number else none
  | .field binding path => (shapes.lookup binding).bind (Shape.follow path)
  | .template parts => if areTexts shapes parts then some .text else none
  | .or a b =>
    match a.shape? shapes, b.shape? shapes with
    | some .text, some .text | some .optional, some .text => some .text
    | some .number, some .number => some .number
    | _, _ => none
  | .equals a b =>
    match a.shape? shapes, b.shape? shapes with
    | some .text, some .text => some .flag
    | _, _ => none
  | .lessThan a b =>
    match a.shape? shapes, b.shape? shapes with
    | some .number, some .number => some .flag
    | _, _ => none
  | .ternary c a b =>
    match c.shape? shapes, a.shape? shapes, b.shape? shapes with
    | some .flag, some .text, some .text => some .text
    | _, _, _ => none

def areTexts (shapes : Shapes) : List Expr → Bool
  | [] => true
  | e :: rest =>
    (match e.shape? shapes with
    | some .text => true
    | _ => false) && areTexts shapes rest

end

section

variable {shapes : Shapes} {shape : Shape} {a b c : Expr}

theorem shape?_number_eq_some {x : Binary64} : (number x).shape? shapes = some shape ↔
    shape = .number ∧ x.isFinite ∧ x.written = x := by
  rw [shape?]
  split <;> grind

theorem shape?_template_eq_some {parts : List Expr} :
    (template parts).shape? shapes = some shape ↔ shape = .text ∧ areTexts shapes parts := by
  rw [shape?]
  split <;> grind

/-- A text may take the place of an optional one, and else both sides have one shape. -/
theorem shape?_or_eq_some : (or a b).shape? shapes = some shape ↔
    ∃ left, a.shape? shapes = some left ∧ b.shape? shapes = some shape ∧
      (left = shape ∧ (shape = .text ∨ shape = .number) ∨ left = .optional ∧ shape = .text) := by
  rw [shape?]
  split <;> grind

theorem shape?_equals_eq_some : (equals a b).shape? shapes = some shape ↔
    shape = .flag ∧ a.shape? shapes = some .text ∧ b.shape? shapes = some .text := by
  rw [shape?]
  split <;> grind

theorem shape?_lessThan_eq_some : (lessThan a b).shape? shapes = some shape ↔
    shape = .flag ∧ a.shape? shapes = some .number ∧ b.shape? shapes = some .number := by
  rw [shape?]
  split <;> grind

theorem shape?_ternary_eq_some : (ternary c a b).shape? shapes = some shape ↔
    shape = .text ∧ c.shape? shapes = some .flag ∧ a.shape? shapes = some .text ∧
      b.shape? shapes = some .text := by
  rw [shape?]
  split <;> grind

theorem areTexts_cons {rest : List Expr} : areTexts shapes (a :: rest) ↔
    a.shape? shapes = some .text ∧ areTexts shapes rest := by
  rw [areTexts, Bool.and_eq_true]
  split <;> simp_all

end

end Expr

class Shaped (α : Type) [Codec α] where
  shape : Shape
  holds : ∀ x : α, shape.Holds (Codec.encode x).sorted

instance : Shaped String := ⟨.text, fun s => ⟨s, rfl⟩⟩

instance : Shaped Bool := ⟨.flag, fun b => ⟨b, rfl⟩⟩

instance {α : Type} [Token α] : Shaped α := ⟨.text, fun option => ⟨Token.text option, rfl⟩⟩

instance : Shaped UInt8 :=
  ⟨.number, fun n => ⟨.whole n.toNat, rfl, Binary64.isFinite_ofInt n.toNat_lt (by decide)⟩⟩

theorem holds_sorted_list {α : Type} [Codec α] [Shaped α] (list : List α) :
    (Shape.list (Shaped.shape α)).Holds (Codec.encode list).sorted := by
  refine ⟨(list.map Codec.encode).map Json.sorted, ?_, ?_⟩
  · change (Json.array (list.map Codec.encode)).sorted = _
    rw [Json.sorted, Json.sortedItems_eq]
  · simp only [List.forall_mem_map]
    exact fun x _ => Shaped.holds x

instance {α : Type} [Codec α] [Shaped α] : Shaped (List α) :=
  ⟨.list (Shaped.shape α), holds_sorted_list⟩

theorem Json.Record.holds {α : Type} {r : Record α} (nodup : r.keys.Nodup) {x : α}
    {fields : List (String × Shape)} (each : fields.Forall fun field =>
      field.2.Holds (((member? field.1 (r.members x)).map Json.sorted).getD .null))
    (present : ∀ key, (key, .optional) ∈ fields →
      (member? key (r.members x)).map Json.sorted ≠ some .null := by simp) :
    (Shape.record fields).Holds (r.encode x).sorted := by
  have distinct := r.members_distinct nodup x
  change (Shape.record fields).Holds (object (r.members x)).sorted
  rw [sorted_object]
  refine ⟨⟨_, rfl, (arranged_ascending _).distinctKeys⟩, ?_⟩
  rw [List.forall_iff_forall_mem] at each
  induction fields with
  | nil => trivial
  | cons field fields ih =>
    have first := each field List.mem_cons_self
    refine ⟨?_, ?_, ih (fun f h => each f (List.mem_cons_of_mem _ h))
      fun key h => present key (List.mem_cons_of_mem _ h)⟩ <;>
      rw [get?, member?_arranged_sorted distinct]
    · exact first
    · intro null
      rw [null] at first
      have rare := Shape.eq_optional_of_holds_null first
      exact present field.1 (List.mem_cons.2 (.inl (Prod.ext rfl rare.symm))) null

instance : Shaped NavLink where
  shape := .record [("label", .text), ("href", .text)]
  holds x := Record.holds (by decide) ⟨Shaped.holds x.label, Shaped.holds x.href⟩

instance : Shaped FeatureItem where
  shape := .record [("icon", .text), ("title", .text), ("description", .text)]
  holds x := Record.holds (by decide)
    ⟨Shaped.holds x.icon, Shaped.holds x.title, Shaped.holds x.description⟩

instance : Shaped SocialLink where
  shape := .record [("platform", .text), ("url", .text)]
  holds x := Record.holds (by decide) ⟨Shaped.holds x.platform, Shaped.holds x.url⟩

instance : Shaped FormField where
  shape := .record [("type", .text), ("label", .text), ("placeholder", .text), ("required", .flag)]
  holds x := Record.holds (by decide) ⟨Shaped.holds x.fieldType, Shaped.holds x.label,
    Shaped.holds x.placeholder, Shaped.holds x.required⟩

theorem PricingPlan.badgeText_holds (x : PricingPlan) :
    Shape.optional.Holds
        (((Json.member? "badgeText" (record.members x)).map Json.sorted).getD .null) ∧
      (Json.member? "badgeText" (record.members x)).map Json.sorted ≠ some .null := by
  have field : .optional "badgeText" PricingPlan.badgeText (fun v x => { x with badgeText := v }) ∈
      record.fields := by simp [record]
  have found := Record.member?_members record_faithful.keys_nodup field x
  change Json.member? "badgeText" (record.members x) = x.badgeText.map Codec.encode at found
  rw [found]
  cases x.badgeText with
  | none => exact ⟨.inl rfl, (Option.some_ne_none _).symm⟩
  | some text =>
    refine ⟨.inr ⟨text, rfl⟩, fun null => ?_⟩
    cases (Option.some.inj null : Json.string text = .null)

instance : Shaped PricingPlan where
  shape := .record [("name", .text), ("price", .text), ("period", .text), ("features", .list .text),
    ("buttonText", .text), ("isPopular", .flag), ("badgeText", .optional)]
  holds x := Record.holds (by decide) ⟨Shaped.holds x.name, Shaped.holds x.price,
    Shaped.holds x.period, Shaped.holds x.features, Shaped.holds x.buttonText,
    Shaped.holds x.isPopular, x.badgeText_holds.1⟩ (by simpa using x.badgeText_holds.2)

instance : Shaped TestimonialItem where
  shape := .record
    [("name", .text), ("role", .text), ("avatar", .text), ("quote", .text), ("rating", .number)]
  holds x := Record.holds (by decide) ⟨Shaped.holds x.name, Shaped.holds x.role,
    Shaped.holds x.avatar, Shaped.holds x.quote, Shaped.holds x.rating⟩

instance : Shaped TeamMember where
  shape := .record [("name", .text), ("role", .text), ("image", .text), ("bio", .text)]
  holds x := Record.holds (by decide) ⟨Shaped.holds x.name, Shaped.holds x.role,
    Shaped.holds x.image, Shaped.holds x.bio⟩

instance : Shaped FaqItem where
  shape := .record [("question", .text), ("answer", .text)]
  holds x := Record.holds (by decide) ⟨Shaped.holds x.question, Shaped.holds x.answer⟩

end PageBuilder
