import PageBuilder.Block
import PageBuilder.Proofs.Saving.Records

set_option autoImplicit false

namespace PageBuilder

open Json (Codec Decoded Field LawfulCodec Members Record RoundTrips Shows Source)

instance : LawfulCodec InstanceId where
  bound := 0
  roundTrips := by
    refine ⟨fun _ => trivial, fun _ => Nat.le_refl _, ?_⟩
    intro id source _ shows
    change (do return (⟨← source.string "a string"⟩ : InstanceId)) = _
    rw [Shows.string_eq (s := id.text) shows]
    rfl

namespace Background

def members : Background → Members
  | .solid s => [("color", .string s), ("type", .string "solid")]
  | .gradient s => [("css", .string s), ("type", .string "gradient")]
  | .image s => [("type", .string "image"), ("url", .string s)]

theorem encode_eq (b : Background) : encode b = .object b.members := by
  have color : "color" < "type" := by decide
  have css : "css" < "type" := by decide
  have url : ¬ "url" < "type" := by decide
  cases b <;>
    simp [encode, mode, content, Mode.name, Mode.key, Json.ofMembers, Json.insertMember, members,
      color, css, url]

theorem sorted_encode (b : Background) : (encode b).sorted = .object b.members := by
  have strings : b.members.map (fun m => (m.1, m.2.sorted)) = b.members := by
    cases b <;> rfl
  have ascending : Json.Ascending b.members := by
    have color : "color" < "type" := by decide
    have css : "css" < "type" := by decide
    have url : "type" < "url" := by decide
    cases b <;> exact List.pairwise_pair.2 (by assumption)
  rw [encode_eq, Json.sorted_object, strings, Json.arranged_of_ascending ascending]

theorem Mode.decode_shown (mode : Mode) {source : Source}
    (shows : Shows source (.string mode.name)) : Mode.decode source = .ok mode := by
  rw [Mode.decode, shows.string_eq]
  cases mode <;> rfl

theorem splitMembers_tag (mode : Mode) {depth : Nat} (room : depth < 128) (members : Members)
    (rest : List (List Json.Letter × Json.Tree)) :
    splitMembers depth none members
        ((Json.lettersOf "type", (Json.string mode.name).tree) :: rest) =
      splitMembers depth (some mode) members rest := by
  rw [splitMembers, Json.stringOf_lettersOf]
  change (do
    let mode ← Mode.decode (.text (Json.string mode.name).tree depth)
    splitMembers depth (some mode) members rest) = _
  rw [mode.decode_shown (.text trivial room)]
  rfl

theorem splitMembers_other {key : String} (other : key ≠ "type") (s : String) (depth : Nat)
    (mode : Option Mode) (members : Members) (rest : List (List Json.Letter × Json.Tree)) :
    splitMembers depth mode members ((Json.lettersOf key, (Json.string s).tree) :: rest) =
      splitMembers depth mode ((key, .string s) :: members) rest := by
  rw [splitMembers, Json.stringOf_lettersOf, Json.tree, Json.Tree.toJson, Json.stringOf_lettersOf]
  exact if_neg other

theorem splitMembers_members (b : Background) {depth : Nat} (room : depth < 128) :
    splitMembers depth none [] (Json.membersTree b.members) =
      .ok (some b.mode, [(b.mode.key, .string b.content)]) := by
  cases b with
  | solid s =>
    exact (splitMembers_other (by decide) s depth none [] _).trans
      (splitMembers_tag .solid room _ _)
  | gradient s =>
    exact (splitMembers_other (by decide) s depth none [] _).trans
      (splitMembers_tag .gradient room _ _)
  | image s =>
    exact (splitMembers_tag .image room [] _).trans
      (splitMembers_other (by decide) s depth (some .image) [] _)

theorem ofMembers_content (b : Background) :
    ofMembers b.mode [(b.mode.key, .string b.content)] = .ok b := by
  cases b <;> rfl

theorem decode_shown (b : Background) {source : Source} (shows : Shows source (encode b)) :
    decode source = .ok b := by
  cases shows with
  | value =>
    rw [sorted_encode]
    cases b <;> rfl
  | @text _ depth whole room =>
    rw [encode_eq] at room ⊢
    have inside : depth + 1 < 128 := by
      rw [Json.levels] at room
      omega
    rw [Json.tree, decode, Json.enter_ok inside]
    simp only [Decoded.ofSyntax, Except.mapError, bind, Except.bind]
    rw [splitMembers_members b inside]
    exact ofMembers_content b

instance : LawfulCodec Background where
  bound := 1
  roundTrips := by
    refine ⟨fun {b} _ => ?_, fun {b} _ => ?_, fun {b} _ _ => decode_shown b⟩
    · change (encode b).Whole
      rw [encode_eq]
      cases b <;> exact ⟨trivial, trivial, trivial⟩
    · change (encode b).levels ≤ 1
      rw [encode_eq]
      cases b <;> exact Nat.le_refl 1

end Background

theorem Base.record_faithful : Base.record.Faithful 1 where
  restored := by
    repeat refine .cons (.plain (by decide) fun _ _ => rfl) ?_
    refine .cons (.optional (by decide) (fun _ => by simp [Codec.encode]) rfl fun _ _ => rfl) ?_
    repeat refine .cons (.plain (by decide) fun _ _ => rfl) ?_
    exact .nil
  determined := by
    rintro ⟨⟩ ⟨⟩ same
    simpa [Record.writes, Base.record, Field.of, Field.optional] using same

instance : LawfulCodec Base := Base.record_faithful.lawfulCodec

theorem BlockKind.ofTag?_tag (kind : BlockKind) : ofTag? kind.tag = some kind := by
  cases kind <;> rfl

theorem BlockKind.tag_of_ofTag? {tag : String} {kind : BlockKind} (found : ofTag? tag = some kind) :
    kind.tag = tag := by
  simpa using List.find?_some found

/-- How the content of a kind is kept as a record: its keys are not those of the base fields, and
every content of the kind is one of its values. -/
structure Content.Stored (kind : BlockKind) where
  {α : Type}
  record : Record α
  {bound : Nat}
  wrap : α → Content
  faithful : record.Faithful bound
  apart : (Base.record.keys ++ "type" :: record.keys).Nodup := by decide
  kind_eq : ∀ x, (wrap x).kind? = some kind := by exact fun _ => rfl
  encode_wrap : ∀ x, (wrap x).encode = record.encode x := by exact fun _ => rfl
  decode_eq : ∀ source, decode kind source = do return wrap (← record.decode source) := by
    exact fun _ => rfl
  ofKind_eq : ofKind kind = wrap record.blank := by rfl
  exists_eq : ∀ {c : Content}, c.kind? = some kind → ∃ x, c = wrap x := by
    intro c same
    cases c <;> first
      | exact ⟨_, rfl⟩
      | cases same

def Content.stored : (kind : BlockKind) → Stored kind
  | .navigation =>
    { record := Navigation.record, wrap := .navigation, faithful := Navigation.record_faithful }
  | .hero => { record := Hero.record, wrap := .hero, faithful := Hero.record_faithful }
  | .feature =>
    { record := Features.record, wrap := .feature, faithful := Features.record_faithful }
  | .cta =>
    { record := CallToAction.record, wrap := .cta, faithful := CallToAction.record_faithful }
  | .footer => { record := Footer.record, wrap := .footer, faithful := Footer.record_faithful }
  | .split => { record := Split.record, wrap := .split, faithful := Split.record_faithful }
  | .map => { record := MapEmbed.record, wrap := .map, faithful := MapEmbed.record_faithful }
  | .form =>
    { record := ContactForm.record, wrap := .form, faithful := ContactForm.record_faithful }
  | .image => { record := Picture.record, wrap := .image, faithful := Picture.record_faithful }
  | .text => { record := Prose.record, wrap := .text, faithful := Prose.record_faithful }
  | .button =>
    { record := ButtonLink.record, wrap := .button, faithful := ButtonLink.record_faithful }
  | .divider => { record := Divider.record, wrap := .divider, faithful := Divider.record_faithful }
  | .pricing => { record := Pricing.record, wrap := .pricing, faithful := Pricing.record_faithful }
  | .testimonial =>
    { record := Testimonials.record, wrap := .testimonial,
      faithful := Testimonials.record_faithful }
  | .team => { record := Team.record, wrap := .team, faithful := Team.record_faithful }
  | .faq => { record := Faq.record, wrap := .faq, faithful := Faq.record_faithful }

theorem Content.tag_of_kind {c : Content} {kind : BlockKind} (known : c.kind? = some kind) :
    c.tag = kind.tag := by
  cases c <;> cases known <;> rfl

theorem Content.kind_of_decode {kind : BlockKind} {source : Source} {content : Content}
    (read : decode kind source = .ok content) : content.kind? = some kind := by
  rw [(stored kind).decode_eq] at read
  obtain ⟨x, _, same⟩ := Decoded.bind_eq_ok.1 read
  cases same
  exact (stored kind).kind_eq x

def Content.Decodable : Content → Prop
  | .unsupported tag => BlockKind.ofTag? tag = none
  | _ => True

theorem Content.decodable_of_kind {c : Content} {kind : BlockKind} (known : c.kind? = some kind) :
    c.Decodable := by
  cases c with
  | unsupported tag => cases known
  | _ => trivial

/-- What decoding a block can give. -/
def Block.Decodable (b : Block) : Prop := b.content.Decodable

theorem Content.encode_plain (c : Content) : c.encode.Whole ∧ c.encode.levels ≤ 4 := by
  cases c <;> first
    | exact ⟨LawfulCodec.roundTrips.whole trivial,
        Nat.le_trans (LawfulCodec.roundTrips.levels_le trivial) (by decide)⟩
    | exact ⟨trivial, Nat.le_add_left 1 3⟩

namespace Block

def flat (base : Base) (tag : String) (content : Members) : Members :=
  Base.record.members base ++ ("type", .string tag) :: content

theorem encode_eq (b : Block) :
    b.encode = (Json.object (flat b.base b.content.tag (membersOf b.content.encode))).sorted := rfl

variable {keys : List String} {content : Members}

theorem flat_distinct (apart : (Base.record.keys ++ "type" :: keys).Nodup)
    (sub : (content.map Prod.fst).Sublist keys) (base : Base) (tag : String) :
    Json.DistinctKeys (flat base tag content) := by
  refine apart.sublist ?_
  rw [flat, List.map_append, List.map_cons]
  exact (Record.members_keys_sublist base).append (sub.cons_cons _)

theorem member?_flat_base (apart : (Base.record.keys ++ "type" :: keys).Nodup)
    (sub : (content.map Prod.fst).Sublist keys) (base : Base) (tag : String) :
    ∀ f ∈ Base.record.fields, Json.member? f.key (flat base tag content) = f.write base := by
  intro f mem
  have beyond : f.key ∉ (("type", Json.string tag) :: content).map Prod.fst := by
    intro h
    have inside : f.key ∈ Base.record.keys := List.mem_map_of_mem mem
    exact (List.nodup_append.1 apart).2.2 _ inside _ ((sub.cons_cons "type").subset h) rfl
  rw [flat, Json.member?_append, Record.member?_members (by decide) mem,
    Json.member?_eq_none beyond, Option.or_none]

theorem decode_flat_base (apart : (Base.record.keys ++ "type" :: keys).Nodup)
    (sub : (content.map Prod.fst).Sublist keys) (base : Base) (tag : String) :
    Codec.decode (.value (Json.object (flat base tag content)).sorted) =
      (.ok base : Decoded Base) := by
  obtain ⟨z, read, _, same⟩ := Base.record_faithful.lawful.decode_value trivial
    (flat_distinct apart sub base tag) (member?_flat_base apart sub base tag)
  cases Base.record_faithful.determined same
  exact read

theorem get?_flat_type (apart : (Base.record.keys ++ "type" :: keys).Nodup)
    (sub : (content.map Prod.fst).Sublist keys) (base : Base) (tag : String) :
    (Json.object (flat base tag content)).sorted.get? "type" = some (.string tag) := by
  have inside : ("type", Json.string tag) ∈ flat base tag content :=
    List.mem_append_right _ List.mem_cons_self
  have distinct := flat_distinct apart sub base tag
  rw [Json.sorted_object, Json.get?, Json.member?_arranged_sorted distinct,
    Json.member?_eq_some distinct inside]
  rfl

theorem member?_flat_content {α : Type} {r : Record α}
    (apart : (Base.record.keys ++ "type" :: r.keys).Nodup) (base : Base) (tag : String) (x : α) :
    ∀ f ∈ r.fields, Json.member? f.key (flat base tag (r.members x)) = f.write x := by
  intro f mem
  obtain ⟨_, nodup, disjoint⟩ := List.nodup_append.1 apart
  obtain ⟨untagged, nodup⟩ := List.nodup_cons.1 nodup
  have inside : f.key ∈ r.keys := List.mem_map_of_mem mem
  have tagless : "type" ≠ f.key := fun same => untagged (same ▸ inside)
  have beyond : f.key ∉ Base.record.keys :=
    fun h => disjoint _ h _ (List.mem_cons_of_mem _ inside) rfl
  rw [flat, Json.member?_append, Record.member?_members_of_not_mem beyond, Option.none_or,
    Json.member?, if_neg tagless, Record.member?_members nodup mem]

theorem ofJson_flat {α : Type} {r : Record α} {bound : Nat} (faithful : r.Faithful bound)
    (apart : (Base.record.keys ++ "type" :: r.keys).Nodup) (kind : BlockKind) (wrap : α → Content)
    (decode : ∀ source, Content.decode kind source = do return wrap (← r.decode source))
    (base : Base) (x : α) :
    ofJson (Json.object (flat base kind.tag (r.members x))).sorted = .ok ⟨base, wrap x⟩ := by
  have sub := Record.members_keys_sublist (r := r) x
  obtain ⟨z, read, _, same⟩ := faithful.lawful.decode_value trivial
    (flat_distinct apart sub base kind.tag) (member?_flat_content apart base kind.tag x)
  cases faithful.determined same
  rw [ofJson, decode_flat_base apart sub, get?_flat_type apart sub]
  simp only [bind, Except.bind, Option.bind_some, Json.string?, Option.getD_some, kind.ofTag?_tag,
    decode]
  rw [read]
  rfl

theorem ofJson_flat_unsupported {tag : String} (unknown : BlockKind.ofTag? tag = none)
    (base : Base) :
    ofJson (Json.object (flat base tag [])).sorted = .ok ⟨base, .unsupported tag⟩ := by
  have apart : (Base.record.keys ++ ["type"]).Nodup := by decide
  have sub : (([] : Members).map Prod.fst).Sublist [] := .slnil
  rw [ofJson, decode_flat_base apart sub, get?_flat_type apart sub]
  simp only [bind, Except.bind, Option.bind_some, Json.string?, Option.getD_some, unknown]
  rfl

theorem ofJson_encode {b : Block} (decodable : b.Decodable) : ofJson b.encode = .ok b := by
  obtain ⟨base, content⟩ := b
  cases known : content.kind? with
  | some kind =>
    let stored := Content.stored kind
    obtain ⟨x, rfl⟩ := stored.exists_eq known
    rw [encode_eq, stored.encode_wrap, Content.tag_of_kind known]
    exact ofJson_flat stored.faithful stored.apart kind stored.wrap stored.decode_eq base x
  | none =>
    cases content with
    | unsupported tag => exact ofJson_flat_unsupported decodable base
    | _ => cases known

def typeTag (v : Json) : String := ((v.get? "type").bind Json.string?).getD ""

/-- A decoded block keeps the text under `type`, whether it names a known kind or not. -/
theorem tag_of_ofJson {v : Json} {b : Block} (read : ofJson v = .ok b) :
    b.content.tag = typeTag v := by
  obtain ⟨base, _, read⟩ := Decoded.bind_eq_ok.1 read
  dsimp only at read
  split at read
  · rename_i kind found
    obtain ⟨content, decoded, same⟩ := Decoded.bind_eq_ok.1 read
    cases same
    have known : content.tag = kind.tag := Content.tag_of_kind (Content.kind_of_decode decoded)
    exact known.trans (BlockKind.tag_of_ofTag? found)
  · cases read
    rfl

theorem mem_membersOf {v : Json} {m : String × Json} (h : m ∈ membersOf v) :
    ∃ members, v = .object members ∧ m ∈ members := by
  cases v with
  | object members => exact ⟨members, rfl, h⟩
  | _ => cases h

theorem encode_plain (b : Block) : b.encode.Whole ∧ b.encode.levels ≤ 4 := by
  have base : (Base.record.encode b.base).Whole ∧ (Base.record.encode b.base).levels ≤ 3 + 1 :=
    ⟨Base.record_faithful.lawful.whole trivial,
      Nat.le_trans (Base.record_faithful.lawful.levels_le trivial) (by decide)⟩
  have each : ∀ m ∈ flat b.base b.content.tag (membersOf b.content.encode),
      m.2.Whole ∧ m.2.levels ≤ 3 := by
    intro m mem
    rcases List.mem_append.1 mem with inBase | beyond
    · exact ⟨(Json.whole_object_iff _).1 base.1 m inBase,
        (Json.levels_object_le_iff _ _).1 base.2 m inBase⟩
    · rcases List.mem_cons.1 beyond with rfl | inContent
      · exact ⟨trivial, Nat.zero_le 3⟩
      · obtain ⟨members, same, inside⟩ := mem_membersOf inContent
        have content := b.content.encode_plain
        rw [same] at content
        exact ⟨(Json.whole_object_iff _).1 content.1 m inside,
          (Json.levels_object_le_iff _ _).1 content.2 m inside⟩
  rw [encode_eq]
  refine ⟨Json.whole_sorted ((Json.whole_object_iff _).2 fun m h => (each m h).1), ?_⟩
  exact Nat.le_trans (Json.levels_sorted _)
    ((Json.levels_object_le_iff _ _).2 fun m h => (each m h).2)

theorem sorted_encode (b : Block) : b.encode.sorted = b.encode := Json.sorted_sorted _

theorem roundTrips : RoundTrips Block Decodable 4 := by
  refine ⟨fun {b} _ => b.encode_plain.1, fun {b} _ => b.encode_plain.2, ?_⟩
  intro b source decodable shows
  have value : source.toJson = .ok b.encode := by
    cases shows with
    | value => exact congrArg Except.ok b.sorted_encode
    | text whole room =>
      have read := Json.toJson_tree _ whole _ room
      rw [Source.toJson, read]
      exact congrArg Except.ok b.sorted_encode
  change (do ofJson (← source.toJson)) = _
  rw [value]
  exact ofJson_encode decodable

end Block
end PageBuilder
