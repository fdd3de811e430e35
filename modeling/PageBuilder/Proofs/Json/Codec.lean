import PageBuilder.Json.Codec
import PageBuilder.Proofs.Json.Reading

set_option autoImplicit false

namespace PageBuilder.Json

theorem Decoded.bind_eq_ok {α β : Type} {x : Decoded α} {f : α → Decoded β} {y : β} :
    x >>= f = .ok y ↔ ∃ a, x = .ok a ∧ f a = .ok y := by
  cases x with
  | error e => simp [bind, Except.bind]
  | ok a => simp [bind, Except.bind]

/-- A source shows a value in key order, or the tree of its text where the nesting leaves room. -/
inductive Shows : Source → Json → Prop
  | value (v : Json) : Shows (.value v.sorted) v
  | text {v : Json} {depth : Nat} (whole : v.Whole) (room : depth + v.levels < 128) :
    Shows (.text v.tree depth) v

/-- Valid values are decoded from all that shows their encoding, which nests within a bound. -/
structure RoundTrips (α : Type) [Codec α] (Valid : α → Prop) (bound : Nat) : Prop where
  whole : ∀ {x : α}, Valid x → (Codec.encode x).Whole
  levels_le : ∀ {x : α}, Valid x → (Codec.encode x).levels ≤ bound
  decode_shown : ∀ {x : α} {source : Source}, Valid x → Shows source (Codec.encode x) →
    Codec.decode source = .ok x

theorem RoundTrips.encode_inj {α : Type} [Codec α] {Valid : α → Prop} {bound : Nat}
    (trips : RoundTrips α Valid bound) {x y : α} (validX : Valid x) (validY : Valid y)
    (same : Codec.encode x = Codec.encode y) : x = y := by
  have first := trips.decode_shown validX (.value _)
  rw [same, trips.decode_shown validY (.value _)] at first
  exact (Except.ok.inj first).symm

/-- A codec with which all values round trip. -/
class LawfulCodec (α : Type) [Codec α] where
  bound : Nat
  roundTrips : RoundTrips α (fun _ => True) bound

@[simp]
theorem encode_eq_iff {α : Type} [Codec α] [LawfulCodec α] {x y : α} :
    Codec.encode x = Codec.encode y ↔ x = y :=
  ⟨LawfulCodec.roundTrips.encode_inj trivial trivial, congrArg _⟩

@[simp]
theorem map_encode_eq_iff {α : Type} [Codec α] [LawfulCodec α] {x y : Option α} :
    x.map Codec.encode = y.map Codec.encode ↔ x = y :=
  Option.map_inj_right fun _ _ => encode_eq_iff.1

theorem Shows.isNull_eq_false {source : Source} {v : Json} (shows : Shows source v)
    (notNull : v ≠ .null) : source.isNull = false := by
  cases shows with
  | value => cases v <;> first | rfl | contradiction
  | text => cases v <;> first | rfl | contradiction

theorem Shows.string_eq {source : Source} {s : String} (shows : Shows source (.string s))
    (expected : String) : source.string expected = .ok s := by
  cases shows with
  | value => rfl
  | text =>
    rw [tree, Source.string, stringOf_lettersOf]
    rfl

instance : LawfulCodec String where
  bound := 0
  roundTrips := ⟨fun _ => trivial, fun _ => Nat.le_refl _, fun _ shows => shows.string_eq _⟩

instance : LawfulCodec Bool where
  bound := 0
  roundTrips := by
    refine ⟨fun _ => trivial, fun _ => Nat.le_refl _, ?_⟩
    intro b source _ shows
    cases shows <;> rfl

theorem Shows.natural_eq {source : Source} {n bound : Nat} (shows : Shows source (whole n))
    (le : n ≤ bound) (expected : String) : source.natural bound expected = .ok n := by
  have number : source.number expected = .ok (.whole n) := by
    cases shows with
    | value => rfl
    | text whole =>
      rw [Json.whole, tree, Source.number, toNumber_numeral whole.1 whole.2]
      rfl
  rw [Source.natural, number]
  change (if 0 ≤ (n : Int) ∧ (n : Int) ≤ bound then _ else _) = _
  rw [if_pos (by omega), Int.toNat_natCast]
  rfl

theorem whole_natural {n : Nat} (lt : n < pow2 63) : (whole n).Whole := by
  refine ⟨?_, ?_⟩ <;> simp only [pow2, Nat.pow_eq] at lt ⊢ <;> omega

instance : LawfulCodec UInt8 where
  bound := 0
  roundTrips := by
    refine ⟨fun {n} _ => ?_, fun _ => Nat.le_refl _, ?_⟩
    · exact whole_natural (Nat.lt_trans n.toNat_lt (by decide))
    · intro n source _ shows
      have lt := n.toNat_lt
      change (do return UInt8.ofNat (← source.natural 255 "u8")) = _
      rw [shows.natural_eq (by omega)]
      exact congrArg Except.ok n.ofNat_toNat

instance : LawfulCodec UInt32 where
  bound := 0
  roundTrips := by
    refine ⟨fun {n} _ => ?_, fun _ => Nat.le_refl _, ?_⟩
    · exact whole_natural (Nat.lt_trans n.toNat_lt (by decide))
    · intro n source _ shows
      have lt := n.toNat_lt
      change (do return UInt32.ofNat (← source.natural 4294967295 "u32")) = _
      rw [shows.natural_eq (by omega)]
      exact congrArg Except.ok n.ofNat_toNat

theorem mapM_map_ok {α β : Type} {decode : β → Decoded α} {encode : α → β} {items : List α}
    (decoded : ∀ x ∈ items, decode (encode x) = .ok x) :
    (items.map encode).mapM decode = .ok items := by
  induction items with
  | nil => rfl
  | cons x items ih =>
    rw [List.map_cons, List.mapM_cons, decoded x List.mem_cons_self,
      ih fun y h => decoded y (List.mem_cons_of_mem _ h)]
    rfl

theorem shows_items {items : List Json} {depth : Nat} (whole : (array items).Whole)
    (room : depth + (array items).levels < 128) :
    enter depth = .ok (depth + 1) ∧ ∀ v ∈ items, Shows (.text v.tree (depth + 1)) v := by
  have lower := (levels_array_le_iff items _).1 (Nat.le_refl _)
  rw [levels] at room
  refine ⟨enter_ok (by omega), fun v h => .text ((whole_array_iff _).1 whole v h) ?_⟩
  have le := lower v h
  omega

theorem RoundTrips.list {α : Type} [Codec α] {Valid : α → Prop} {bound : Nat}
    (trips : RoundTrips α Valid bound) :
    RoundTrips (List α) (fun items => ∀ x ∈ items, Valid x) (bound + 1) where
  whole valid := (whole_array_iff _).2 (List.forall_mem_map.2 fun x h => trips.whole (valid x h))
  levels_le valid :=
    (levels_array_le_iff _ _).2 (List.forall_mem_map.2 fun x h => trips.levels_le (valid x h))
  decode_shown {items} source valid shows := by
    change Shows source (array (items.map Codec.encode)) at shows
    change Source.list Codec.decode source = _
    cases shows with
    | value =>
      rw [sorted, sortedItems_eq, List.map_map]
      exact mapM_map_ok fun x h => trips.decode_shown (valid x h) (.value _)
    | @text _ depth whole room =>
      obtain ⟨entered, inside⟩ := shows_items whole room
      have decoded : ((items.map Codec.encode).map tree).mapM
          (fun t => Codec.decode (.text t (depth + 1))) = (.ok items : Decoded (List α)) := by
        rw [List.map_map]
        exact mapM_map_ok fun x h =>
          trips.decode_shown (valid x h) (inside _ (List.mem_map_of_mem h))
      rw [tree, itemsTree_eq, Source.list, entered]
      change (do
        let values ← ((items.map Codec.encode).map tree).mapM
          fun t => Codec.decode (.text t (depth + 1))
        Decoded.ofSyntax (endingOf none)
        return values) = _
      rw [decoded]
      rfl

instance {α : Type} [Codec α] [LawfulCodec α] : LawfulCodec (List α) where
  bound := LawfulCodec.bound α + 1
  roundTrips := by
    have trips := (@LawfulCodec.roundTrips α _ _).list
    exact ⟨fun _ => trips.whole fun _ _ => trivial, fun _ => trips.levels_le fun _ _ => trivial,
      fun _ => trips.decode_shown fun _ _ => trivial⟩

theorem shows_members {members : Members} {depth : Nat} (whole : (object members).Whole)
    (room : depth + (object members).levels < 128) :
    enter depth = .ok (depth + 1) ∧ ∀ m ∈ members, Shows (.text m.2.tree (depth + 1)) m.2 := by
  have lower := (levels_object_le_iff members _).1 (Nat.le_refl _)
  rw [levels] at room
  refine ⟨enter_ok (by omega), fun m h => .text ((whole_object_iff _).1 whole m h) ?_⟩
  have le := lower m h
  omega

theorem Shows.variant_name_eq {α : Type} {decode : String → Option Source → Decoded α}
    {source : Source} {name : String} (shows : Shows source (.string name)) :
    Source.variant decode source = decode name none := by
  cases shows with
  | value => rfl
  | text =>
    rw [tree, Source.variant, stringOf_lettersOf]
    rfl

theorem Shows.variant_eq {α : Type} {decode : String → Option Source → Decoded α}
    {source : Source} {name : String} {v : Json} (shows : Shows source (.object [(name, v)]))
    {x : α} (content : ∀ source, Shows source v → decode name (some source) = .ok x) :
    Source.variant decode source = .ok x := by
  cases shows with
  | value => exact content (.value v.sorted) (.value v)
  | @text _ depth whole room =>
    obtain ⟨entered, inside⟩ := shows_members whole room
    have decoded := content _ (inside (name, v) List.mem_cons_self)
    rw [tree, membersTree, membersTree, Source.variant, entered]
    change (do
      let x ← decode (← Decoded.ofSyntax (stringOf (lettersOf name)))
        (some (.text v.tree (depth + 1)))
      Source.endOfVariant false none
      return x) = _
    rw [stringOf_lettersOf]
    change (do
      let x ← decode name (some (.text v.tree (depth + 1)))
      Source.endOfVariant false none
      return x) = _
    rw [decoded]
    rfl

theorem RoundTrips.decodeText_of_read {α : Type} [Codec α] {Valid : α → Prop} {bound : Nat}
    (trips : RoundTrips α Valid bound) (shallow : bound < 128) {x : α} (valid : Valid x)
    {text : List Char} (read : Text.read text = ⟨(Codec.encode x).tree, false⟩) :
    decodeText (String.ofList text) = .ok x := by
  have room : 0 + (Codec.encode x).levels < 128 := by
    have le := trips.levels_le valid
    omega
  rw [decodeText, String.toList_ofList, read]
  dsimp only
  rw [trips.decode_shown valid (.text (trips.whole valid) room)]
  rfl

theorem RoundTrips.decodeText_compact {α : Type} [Codec α] {Valid : α → Prop} {bound : Nat}
    (trips : RoundTrips α Valid bound) (shallow : bound < 128) {x : α} (valid : Valid x) :
    decodeText (Codec.encode x).compact = .ok x :=
  trips.decodeText_of_read shallow valid (read_compactChars (trips.whole valid))

theorem RoundTrips.decodeText_pretty {α : Type} [Codec α] {Valid : α → Prop} {bound : Nat}
    (trips : RoundTrips α Valid bound) (shallow : bound < 128) {x : α} (valid : Valid x) :
    decodeText (Codec.encode x).pretty = .ok x :=
  trips.decodeText_of_read shallow valid (read_prettyChars (trips.whole valid))

end PageBuilder.Json
