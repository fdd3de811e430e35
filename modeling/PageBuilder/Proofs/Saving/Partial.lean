import PageBuilder.Proofs.Saving.Blocks

set_option autoImplicit false

namespace PageBuilder

open Json (Codec Members Record)

namespace Json

variable {v : Json} {keys : List String}

theorem get?_without (key : String) :
    (v.without keys).get? key = if key ∈ keys then none else v.get? key := by
  cases v with
  | object members =>
    rw [without, get?, member?_filter (fun key => decide (key ∉ keys)) members key]
    by_cases gone : key ∈ keys <;> simp [gone, get?]
  | _ => split <;> rfl

theorem get?_withMembers {extra : Members} {key : String} (other : ∀ m ∈ extra, m.1 ≠ key) :
    (v.withMembers extra).get? key = v.get? key := by
  cases v with
  | object members =>
    let p : String → Bool := fun k => decide (k = key)
    have out : ∀ m ∈ extra, p m.1 = false := fun m mem => decide_eq_false (other m mem)
    have only : ∀ members, member? key (members.filter fun m => p m.1) = member? key members :=
      fun members => (member?_filter p members key).trans (if_pos (decide_eq_true rfl))
    rw [withMembers, get?, get?, ← only, filter_foldl_insertMember out, only]
  | _ => rfl

theorem sorted_object_ext {members others : Members}
    (same : ∀ key, (object members).sorted.get? key = (object others).sorted.get? key) :
    (object members).sorted = (object others).sorted := by
  simp only [sorted_object] at same ⊢
  exact congrArg object ((arranged_ascending _).ext (arranged_ascending _) same)

end Json

def BlockKind.keys (kind : BlockKind) : List String :=
  Base.record.keys ++ "type" :: (Content.stored kind).record.keys

namespace Block

open Content (stored)

def blank (kind : BlockKind) : Block := ⟨{}, .ofKind kind⟩

/-- The tag alone decides which content is read beside the base fields. -/
theorem ofJson_of_tag {v : Json} {kind : BlockKind} (tagged : typeTag v = kind.tag) :
    ofJson v = do
      let base : Base ← Codec.decode (.value v)
      return ⟨base, ← Content.decode kind (.value v)⟩ := by
  have known : BlockKind.ofTag? (typeTag v) = some kind := tagged ▸ kind.ofTag?_tag
  unfold typeTag at known
  simp only [ofJson, known]

/-- The block of a kind that is written from its base fields and a value of its record. -/
def ofStored (kind : BlockKind) (base : Base) (x : (stored kind).α) : Block :=
  ⟨base, (stored kind).wrap x⟩

theorem exists_ofStored {b : Block} {kind : BlockKind} (known : b.kind? = some kind) :
    ∃ base x, b = ofStored kind base x := by
  obtain ⟨base, content⟩ := b
  obtain ⟨x, rfl⟩ := (stored kind).exists_eq known
  exact ⟨base, x, rfl⟩

theorem blank_eq (kind : BlockKind) :
    blank kind = ofStored kind Base.record.blank (stored kind).record.blank :=
  congrArg (Block.mk {}) (stored kind).ofKind_eq

section Members

variable (kind : BlockKind) (base : Base) (x : (stored kind).α)

theorem encode_ofStored : (ofStored kind base x).encode =
    (Json.object (flat base kind.tag ((stored kind).record.members x))).sorted := by
  rw [ofStored, encode_eq, (stored kind).encode_wrap,
    Content.tag_of_kind ((stored kind).kind_eq x)]
  rfl

theorem ofStored_distinct :
    Json.DistinctKeys (flat base kind.tag ((stored kind).record.members x)) :=
  flat_distinct (stored kind).apart (Record.members_keys_sublist x) base kind.tag

theorem get?_ofStored (key : String) : (ofStored kind base x).encode.get? key =
    (Json.member? key (flat base kind.tag ((stored kind).record.members x))).map Json.sorted := by
  rw [encode_ofStored, Json.sorted_object, Json.get?,
    Json.member?_arranged_sorted (ofStored_distinct kind base x)]

theorem get?_ofStored_base {f : Json.Field Base} (mem : f ∈ Base.record.fields) :
    (ofStored kind base x).encode.get? f.key = (f.write base).map Json.sorted := by
  rw [get?_ofStored,
    member?_flat_base (stored kind).apart (Record.members_keys_sublist x) base kind.tag f mem]

theorem get?_ofStored_content {f : Json.Field (stored kind).α}
    (mem : f ∈ (stored kind).record.fields) :
    (ofStored kind base x).encode.get? f.key = (f.write x).map Json.sorted := by
  rw [get?_ofStored, member?_flat_content (stored kind).apart base kind.tag x f mem]

theorem get?_ofStored_type :
    (ofStored kind base x).encode.get? "type" = some (.string kind.tag) := by
  rw [encode_ofStored]
  exact get?_flat_type (stored kind).apart (Record.members_keys_sublist x) base kind.tag

theorem get?_ofStored_of_unknown {key : String} (unknown : key ∉ kind.keys) :
    (ofStored kind base x).encode.get? key = none := by
  have keys : ((flat base kind.tag ((stored kind).record.members x)).map Prod.fst).Sublist
      kind.keys := by
    rw [flat, List.map_append, List.map_cons]
    exact (Record.members_keys_sublist base).append ((Record.members_keys_sublist x).cons_cons _)
  rw [get?_ofStored, Json.member?_eq_none fun mem => unknown (keys.subset mem)]
  rfl

theorem get?_of_fields_blank {base' : Base} {y : (stored kind).α} {removed : List String}
    (tagged : "type" ∉ removed)
    (baseFields : ∀ f ∈ Base.record.fields,
      f.write base' = if f.key ∈ removed then f.write Base.record.blank else f.write base)
    (contentFields : ∀ f ∈ (stored kind).record.fields,
      f.write y = if f.key ∈ removed then f.write (stored kind).record.blank else f.write x)
    (key : String) :
    (ofStored kind base' y).encode.get? key = if key ∈ removed
      then (blank kind).encode.get? key else (ofStored kind base x).encode.get? key := by
  rw [blank_eq]
  by_cases inside : key ∈ kind.keys
  · rcases List.mem_append.1 inside with inBase | beyond
    · obtain ⟨f, mem, rfl⟩ := List.mem_map.1 inBase
      simp only [get?_ofStored_base _ _ _ mem, baseFields f mem]
      split <;> rfl
    · rcases List.mem_cons.1 beyond with rfl | inContent
      · simp only [get?_ofStored_type, if_neg tagged]
      · obtain ⟨f, mem, rfl⟩ := List.mem_map.1 inContent
        simp only [get?_ofStored_content _ _ _ mem, contentFields f mem]
        split <;> rfl
  · simp only [get?_ofStored_of_unknown _ _ _ inside, ite_self]

end Members

theorem eq_of_get?_encode {b c : Block} {kind : BlockKind} (known : b.kind? = some kind)
    (same : c.kind? = some kind) (agree : ∀ key, b.encode.get? key = c.encode.get? key) :
    b = c := by
  have encoded : b.encode = c.encode := Json.sorted_object_ext agree
  have read := ofJson_encode (Content.decodable_of_kind known)
  rw [encoded, ofJson_encode (Content.decodable_of_kind same)] at read
  exact (Except.ok.inj read).symm

theorem ofJson_without {b : Block} {kind : BlockKind} (known : b.kind? = some kind)
    {removed : List String} (tagged : "type" ∉ removed) :
    ∃ c, ofJson (b.encode.without removed) = .ok c ∧ c.kind? = some kind ∧
      ∀ key, c.encode.get? key =
        if key ∈ removed then (blank kind).encode.get? key else b.encode.get? key := by
  obtain ⟨base, x, rfl⟩ := exists_ofStored known
  have apart := (stored kind).apart
  have distinct := ofStored_distinct kind base x
  -- Each layer reads the one object that is left, and knows its own keys only.
  obtain ⟨base', readBase, _, baseFields⟩ := Base.record_faithful.lawful.decode_without trivial
    distinct (member?_flat_base apart (Record.members_keys_sublist x) base kind.tag) removed
  obtain ⟨y, readContent, _, contentFields⟩ := (stored kind).faithful.lawful.decode_without trivial
    distinct (member?_flat_content apart base kind.tag x) removed
  rw [← encode_ofStored kind base x] at readBase readContent
  have tag : typeTag ((ofStored kind base x).encode.without removed) = kind.tag := by
    rw [typeTag, Json.get?_without, if_neg tagged, get?_ofStored_type]
    rfl
  refine ⟨ofStored kind base' y, ?_, (stored kind).kind_eq y,
    get?_of_fields_blank kind base x tagged baseFields contentFields⟩
  rw [ofJson_of_tag tag, (stored kind).decode_eq]
  change (do
    let base ← Base.record.decode _
    let content ← (do return (stored kind).wrap (← (stored kind).record.decode _))
    return (⟨base, content⟩ : Block)) = _
  rw [readBase, readContent]
  rfl

theorem ofJson_withMembers {v : Json} {kind : BlockKind} (tagged : typeTag v = kind.tag)
    {extra : Members} (unknown : ∀ m ∈ extra, m.1 ∉ kind.keys) :
    ofJson (v.withMembers extra) = ofJson v := by
  have beyondBase : ∀ m ∈ extra, m.1 ∉ Base.record.keys := fun m mem inside =>
    unknown m mem (List.mem_append_left _ inside)
  have beyondContent : ∀ m ∈ extra, m.1 ∉ (stored kind).record.keys := fun m mem inside =>
    unknown m mem (List.mem_append_right _ (List.mem_cons_of_mem _ inside))
  have beyondType : ∀ m ∈ extra, m.1 ≠ "type" := fun m mem same =>
    unknown m mem (same ▸ List.mem_append_right _ List.mem_cons_self)
  have tag : typeTag (v.withMembers extra) = kind.tag := by
    rw [typeTag, Json.get?_withMembers beyondType]
    exact tagged
  rw [ofJson_of_tag tag, ofJson_of_tag tagged, (stored kind).decode_eq, (stored kind).decode_eq,
    Record.decode_withMembers beyondContent]
  exact congrArg (· >>= _) (Record.decode_withMembers beyondBase v)

/-- Blocks are decoded field by field: without some members, those fields and no others are at
their defaults, and members that are not fields of the kind change nothing. -/
theorem decodes_field_by_field (kind : BlockKind) :
    (∀ (b : Block) (removed : List String), b.kind? = some kind → "type" ∉ removed →
      ∃ c, ofJson (b.encode.without removed) = .ok c ∧
        ∀ other : Block, other = c ↔ other.kind? = some kind ∧ ∀ key, other.encode.get? key =
          if key ∈ removed then (blank kind).encode.get? key else b.encode.get? key) ∧
    ∀ (v : Json) (extra : Members), typeTag v = kind.tag → (∀ m ∈ extra, m.1 ∉ kind.keys) →
      ofJson (v.withMembers extra) = ofJson v := by
  refine ⟨fun b removed known tagged => ?_, fun v extra tagged => ofJson_withMembers tagged⟩
  obtain ⟨c, read, same, fields⟩ := ofJson_without known tagged
  refine ⟨c, read, fun other => ⟨?_, ?_⟩⟩
  · rintro rfl
    exact ⟨same, fields⟩
  · rintro ⟨otherKind, otherFields⟩
    exact eq_of_get?_encode otherKind same fun key => (otherFields key).trans (fields key).symm

def smallPricing : Block :=
  ⟨{ id := "pricing-1", instanceId := ⟨"7-0"⟩, anchorId := some "prices",
     background := .solid "#000", paddingTop := .lg, paddingBottom := .sm, animation := .fadeIn },
   .pricing { plans := [], cardBg := "#111", textColor := "#222", accentColor := "#333",
              radius := .none }⟩

def partialPricing : Json := smallPricing.encode.without ["plans", "anchorId", "paddingTop"]

def filledPricing : Block :=
  ⟨{ smallPricing.base with anchorId := none, paddingTop := .md },
   .pricing { cardBg := "#111", textColor := "#222", accentColor := "#333", radius := .none }⟩

/-- A member that only another kind would read makes no difference. -/
theorem partialPricing_filled :
    ofJson partialPricing = .ok filledPricing ∧
      ofJson (partialPricing.withMembers [("items", .null)]) = .ok filledPricing ∧
      filledPricing.encode.get? "plans" = (blank .pricing).encode.get? "plans" ∧
      filledPricing.encode.get? "radius" = smallPricing.encode.get? "radius" := by
  have read : ofJson partialPricing = .ok filledPricing := by decide +kernel
  obtain ⟨c, same, fields⟩ := (decodes_field_by_field .pricing).1 smallPricing
    ["plans", "anchorId", "paddingTop"] rfl (by decide)
  obtain rfl : c = filledPricing := by
    rw [← partialPricing, read] at same
    exact (Except.ok.inj same).symm
  obtain ⟨-, each⟩ := (fields filledPricing).1 rfl
  refine ⟨read, ?_, (each "plans").trans (if_pos (by decide)),
    (each "radius").trans (if_neg (by decide))⟩
  rw [(decodes_field_by_field .pricing).2 partialPricing _ (by decide +kernel) (by decide), read]

end Block
end PageBuilder
