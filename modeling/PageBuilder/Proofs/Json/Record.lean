import PageBuilder.Proofs.Json.Codec

set_option autoImplicit false

/-!
# Round trips of records

A record is decoded from its members in any order, whatever unknown members stand beside them, if
reading a field restores that field and leaves the others alone. Fields without a member stay blank.
-/

namespace PageBuilder.Json.Record

variable {α : Type} (r : Record α)

def keys : List String := r.fields.map Field.key

def writes (x : α) : List (Option Json) := r.fields.map fun f => f.write x

def members (x : α) : Members := r.fields.filterMap fun f => (f.write x).map (f.key, ·)

/-- What shows the writing of a field is read into that field, at position `i`, and no other. -/
structure Restores (Valid : α → Prop) (bound i : Nat) (f : Field α) : Prop where
  blank : ∀ {x : α}, f.write x = none → f.write r.blank = none
  whole : ∀ {x : α} {v : Json}, Valid x → f.write x = some v → v.Whole
  levels_le : ∀ {x : α} {v : Json}, Valid x → f.write x = some v → v.levels ≤ bound
  read : ∀ {x : α} {v : Json} {source : Source}, Valid x → f.write x = some v → Shows source v →
    ∃ set, f.read source = .ok set ∧
      ∀ y, Valid y → Valid (set y) ∧ r.writes (set y) = (r.writes y).set i (some v)

/-- All fields from position `i` on restore what they write. -/
inductive Restored (Valid : α → Prop) (bound : Nat) : Nat → List (Field α) → Prop
  | nil {i : Nat} : Restored Valid bound i []
  | cons {i : Nat} {f : Field α} {rest : List (Field α)} (first : r.Restores Valid bound i f)
    (others : Restored Valid bound (i + 1) rest) : Restored Valid bound i (f :: rest)

/-- The fields have keys of their own and restore what they write. -/
structure Lawful (Valid : α → Prop) (bound : Nat) : Prop where
  keys_nodup : r.keys.Nodup := by decide
  blank_valid : Valid r.blank := by trivial
  restored : r.Restored Valid bound 0 r.fields

variable {r} {Valid : α → Prop} {bound : Nat}

theorem Restores.of {β : Type} [Codec β] {ValidField : β → Prop} {inner i : Nat}
    (trips : RoundTrips β ValidField inner) (le : inner ≤ bound) {key : String} {get : α → β}
    {set : β → α → α} (get_valid : ∀ x, Valid x → ValidField (get x))
    (set_valid : ∀ x y, Valid x → Valid y → Valid (set (get x) y))
    (writes_set : ∀ v y, r.writes (set v y) = (r.writes y).set i (some (Codec.encode v))) :
    r.Restores Valid bound i (.of key get set) where
  blank h := by cases h
  whole valid h := by
    cases h
    exact trips.whole (get_valid _ valid)
  levels_le valid h := by
    cases h
    exact Nat.le_trans (trips.levels_le (get_valid _ valid)) le
  read {x} _ source valid h shows := by
    cases h
    refine ⟨set (get x), ?_, fun y validY => ⟨set_valid x y valid validY, writes_set _ y⟩⟩
    change (do return set (← Codec.decode source)) = _
    rw [trips.decode_shown (get_valid _ valid) shows]
    rfl

theorem Restores.plain {β : Type} [Codec β] [LawfulCodec β] {i : Nat} {key : String} {get : α → β}
    {set : β → α → α} (le : LawfulCodec.bound β ≤ bound)
    (writes_set : ∀ v y, r.writes (set v y) = (r.writes y).set i (some (Codec.encode v))) :
    r.Restores (fun _ => True) bound i (.of key get set) :=
  .of LawfulCodec.roundTrips le (fun _ _ => trivial) (fun _ _ _ _ => trivial) writes_set

theorem Restores.optional {β : Type} [Codec β] [LawfulCodec β] {i : Nat} {key : String}
    {get : α → Option β} {set : Option β → α → α} (le : LawfulCodec.bound β ≤ bound)
    (notNull : ∀ v : β, Codec.encode v ≠ .null) (blank : get r.blank = none)
    (writes_set : ∀ v y, r.writes (set v y) = (r.writes y).set i (v.map Codec.encode)) :
    r.Restores (fun _ => True) bound i (.optional key get set) where
  blank _ := congrArg (Option.map Codec.encode) blank
  whole _ h := by
    obtain ⟨b, _, rfl⟩ := Option.map_eq_some_iff.1 h
    exact LawfulCodec.roundTrips.whole trivial
  levels_le _ h := by
    obtain ⟨b, _, rfl⟩ := Option.map_eq_some_iff.1 h
    exact Nat.le_trans (LawfulCodec.roundTrips.levels_le trivial) le
  read {x} _ source _ h shows := by
    obtain ⟨b, _, rfl⟩ := Option.map_eq_some_iff.1 h
    refine ⟨set (some b), ?_, fun y _ => ⟨trivial, writes_set (some b) y⟩⟩
    change (do
      if source.isNull then return set none
      return set (some (← Codec.decode source))) = _
    rw [shows.isNull_eq_false (notNull b), LawfulCodec.roundTrips.decode_shown trivial shows]
    rfl

theorem Restored.get {i : Nat} {fields : List (Field α)} (h : r.Restored Valid bound i fields)
    {k : Nat} {f : Field α} (at' : fields[k]? = some f) : r.Restores Valid bound (i + k) f := by
  induction h generalizing k with
  | nil => cases at'
  | cons first _ ih =>
    cases k with
    | zero =>
      cases at'
      exact first
    | succ k =>
      have later := ih at'
      rwa [Nat.add_assoc, Nat.add_comm 1 k] at later

theorem mem_members {x : α} {m : String × Json} :
    m ∈ r.members x ↔ ∃ f ∈ r.fields, f.key = m.1 ∧ f.write x = some m.2 := by
  obtain ⟨k, v⟩ := m
  simp only [members, List.mem_filterMap, Option.map_eq_some_iff, Prod.mk.injEq]
  constructor
  · rintro ⟨f, mem, v', written, rfl, rfl⟩
    exact ⟨f, mem, rfl, written⟩
  · rintro ⟨f, mem, rfl, written⟩
    exact ⟨f, mem, v, written, rfl, rfl⟩

theorem members_keys_sublist (x : α) : (r.members x).map Prod.fst |>.Sublist r.keys := by
  unfold members keys
  induction r.fields with
  | nil => exact .slnil
  | cons f fields ih =>
    rw [List.filterMap_cons]
    cases f.write x with
    | none => exact ih.cons _
    | some v => exact ih.cons_cons _

theorem members_distinct (nodup : r.keys.Nodup) (x : α) : DistinctKeys (r.members x) :=
  nodup.sublist (members_keys_sublist x)

theorem eq_of_key_eq (nodup : r.keys.Nodup) {f g : Field α} (memF : f ∈ r.fields)
    (memG : g ∈ r.fields) (same : f.key = g.key) : f = g :=
  List.inj_on_of_nodup_map nodup memF memG same

theorem member?_members (nodup : r.keys.Nodup) {f : Field α} (mem : f ∈ r.fields) (x : α) :
    member? f.key (r.members x) = f.write x := by
  cases written : f.write x with
  | some v =>
    exact member?_eq_some (members_distinct nodup x) (mem_members.2 ⟨f, mem, rfl, written⟩)
  | none =>
    refine member?_eq_none fun h => ?_
    obtain ⟨m, memM, key⟩ := List.mem_map.1 h
    obtain ⟨g, memG, same, written'⟩ := mem_members.1 memM
    cases eq_of_key_eq nodup memG mem (same.trans key)
    rw [written] at written'
    cases written'

theorem member?_members_of_not_mem {key : String} (absent : key ∉ r.keys) (x : α) :
    member? key (r.members x) = none :=
  member?_eq_none fun h => absent ((members_keys_sublist x).subset h)

theorem Lawful.restores (lawful : r.Lawful Valid bound) {i : Nat} {f : Field α}
    (at' : r.fields[i]? = some f) : r.Restores Valid bound i f := by
  have restores := lawful.restored.get at'
  rwa [Nat.zero_add] at restores

theorem Lawful.whole (lawful : r.Lawful Valid bound) {x : α} (valid : Valid x) :
    (r.encode x).Whole := by
  refine (whole_object_iff _).2 fun m mem => ?_
  obtain ⟨f, memF, _, written⟩ := mem_members.1 mem
  obtain ⟨i, at'⟩ := List.mem_iff_getElem?.1 memF
  exact (lawful.restores at').whole valid written

theorem Lawful.levels_le (lawful : r.Lawful Valid bound) {x : α} (valid : Valid x) :
    (r.encode x).levels ≤ bound + 1 := by
  refine (levels_object_le_iff _ _).2 fun m mem => ?_
  obtain ⟨f, memF, _, written⟩ := mem_members.1 mem
  obtain ⟨i, at'⟩ := List.mem_iff_getElem?.1 memF
  exact (lawful.restores at').levels_le valid written

def readFrom (r : Record α) (y : α) (key : String) (source : Source) : Decoded α :=
  match r.field? key with
  | none => .ok y
  | some f => return (← f.read source) y

/-- The fields whose keys are seen hold what they hold in `x`, the others are blank. -/
def Filled (r : Record α) (x : α) (seen : List String) (y : α) : Prop :=
  r.writes y = r.fields.map fun f => if f.key ∈ seen then f.write x else f.write r.blank

/-- Every field with a key among the sources is shown there as it is in `x`. -/
def ShownAt (r : Record α) (x : α) (key : String) (source : Source) : Prop :=
  ∀ f ∈ r.fields, f.key = key → ∃ v, f.write x = some v ∧ Shows source v

theorem field?_eq_some {key : String} {f : Field α} (h : r.field? key = some f) :
    f ∈ r.fields ∧ f.key = key :=
  ⟨List.mem_of_find?_eq_some h, by simpa using List.find?_some h⟩

theorem field?_eq_none {key : String} (h : r.field? key = none) : ∀ f ∈ r.fields, f.key ≠ key := by
  simpa [field?] using h

theorem Filled.of_set (nodup : r.keys.Nodup) {x y z : α} {seen : List String}
    (filled : r.Filled x seen y) {i : Nat} {f : Field α} (at' : r.fields[i]? = some f) {v : Json}
    (written : f.write x = some v) (same : r.writes z = (r.writes y).set i (some v)) :
    r.Filled x (f.key :: seen) z := by
  rw [Filled, same, filled]
  refine List.ext_getElem? fun j => ?_
  rw [List.getElem?_set, List.length_map, List.getElem?_map]
  by_cases here : i = j
  · subst here
    have lt : i < r.fields.length := (List.getElem?_eq_some_iff.1 at').1
    rw [if_pos rfl, if_pos lt, List.getElem?_map, at']
    simp [written]
  · rw [if_neg here, List.getElem?_map]
    cases atJ : r.fields[j]? with
    | none => rfl
    | some g =>
      have apart : g.key ≠ f.key := by
        intro key
        have unique : (r.fields.map Field.key)[j]? = (r.fields.map Field.key)[i]? := by
          rw [List.getElem?_map, List.getElem?_map, atJ, at']
          exact congrArg some key
        have lt : j < (r.fields.map Field.key).length := by
          rw [List.length_map]
          exact (List.getElem?_eq_some_iff.1 atJ).1
        exact here ((List.getElem?_inj lt nodup).1 unique).symm
      simp [apart]

theorem readFrom_filled (lawful : r.Lawful Valid bound) {x y : α} (validX : Valid x)
    (validY : Valid y) {seen : List String} (filled : r.Filled x seen y) {key : String}
    {source : Source} (shown : r.ShownAt x key source) :
    ∃ z, r.readFrom y key source = .ok z ∧ Valid z ∧ r.Filled x (key :: seen) z := by
  unfold readFrom
  cases found : r.field? key with
  | none =>
    refine ⟨y, rfl, validY, ?_⟩
    rw [Filled, filled]
    refine List.map_congr_left fun f mem => ?_
    simp [field?_eq_none found f mem]
  | some f =>
    obtain ⟨mem, rfl⟩ := field?_eq_some found
    obtain ⟨i, at'⟩ := List.mem_iff_getElem?.1 mem
    obtain ⟨v, written, shows⟩ := shown f mem rfl
    obtain ⟨set, read, sets⟩ := (lawful.restores at').read validX written shows
    refine ⟨set y, ?_, (sets y validY).1,
      filled.of_set lawful.keys_nodup at' written (sets y validY).2⟩
    change (do return (← f.read source) y) = _
    rw [read]
    rfl

theorem foldlM_readFrom (lawful : r.Lawful Valid bound) {x : α} (validX : Valid x)
    (shown : List (String × Source)) (each : ∀ m ∈ shown, r.ShownAt x m.1 m.2) {y : α}
    (validY : Valid y) {seen : List String} (filled : r.Filled x seen y) :
    ∃ z, shown.foldlM (fun y m => r.readFrom y m.1 m.2) y = .ok z ∧ Valid z ∧
      r.Filled x ((shown.map Prod.fst).reverse ++ seen) z := by
  induction shown generalizing y seen with
  | nil => exact ⟨y, rfl, validY, filled⟩
  | cons m shown ih =>
    obtain ⟨z, read, validZ, filledZ⟩ :=
      readFrom_filled lawful validX validY filled (each m List.mem_cons_self)
    obtain ⟨w, rest, validW, filledW⟩ :=
      ih (fun m h => each m (List.mem_cons_of_mem _ h)) validZ filledZ
    refine ⟨w, ?_, validW, ?_⟩
    · rw [List.foldlM_cons, read]
      exact rest
    · simpa using filledW

theorem read_some (lawful : r.Lawful Valid bound) {x : α} (valid : Valid x)
    {shown : List (String × Source)} (each : ∀ m ∈ shown, r.ShownAt x m.1 m.2) :
    ∃ z, shown.foldlM (fun y m => r.readFrom y m.1 m.2) r.blank = .ok z ∧ Valid z ∧
      ∀ f ∈ r.fields, f.write z =
        if f.key ∈ shown.map Prod.fst then f.write x else f.write r.blank := by
  have start : r.Filled x [] r.blank := by
    refine List.map_congr_left fun f _ => ?_
    rw [if_neg List.not_mem_nil]
  obtain ⟨z, read, validZ, filled⟩ :=
    foldlM_readFrom lawful valid shown each lawful.blank_valid start
  refine ⟨z, read, validZ, fun f mem => ?_⟩
  simpa only [List.append_nil, List.mem_reverse] using List.map_inj_left.1 filled f mem

theorem Lawful.write_eq_blank (lawful : r.Lawful Valid bound) {f : Field α} (mem : f ∈ r.fields)
    {x : α} (unwritten : f.write x = none) : f.write r.blank = f.write x := by
  obtain ⟨i, at'⟩ := List.mem_iff_getElem?.1 mem
  rw [unwritten, (lawful.restores at').blank unwritten]

theorem read_shown (lawful : r.Lawful Valid bound) {x : α} (valid : Valid x)
    {shown : List (String × Source)} (each : ∀ m ∈ shown, r.ShownAt x m.1 m.2)
    (complete : ∀ f ∈ r.fields, f.write x ≠ none → f.key ∈ shown.map Prod.fst) :
    ∃ z, shown.foldlM (fun y m => r.readFrom y m.1 m.2) r.blank = .ok z ∧ Valid z ∧
      r.writes z = r.writes x := by
  obtain ⟨z, read, validZ, fields⟩ := read_some lawful valid each
  refine ⟨z, read, validZ, List.map_congr_left fun f mem => ?_⟩
  rw [fields f mem]
  split
  · rfl
  · rename_i absent
    refine lawful.write_eq_blank mem ?_
    by_contra written
    exact absent (complete f mem written)

theorem mem_sorted_of_member? {all : Members} (distinct : DistinctKeys all) {key : String}
    {v : Json} (found : member? key all = some v) :
    (key, v.sorted) ∈ arranged (all.map fun m => (m.1, m.2.sorted)) :=
  (arranged_perm ((distinctKeys_map sorted).2 distinct)).mem_iff.2
    (List.mem_map.2 ⟨_, mem_of_member? found, rfl⟩)

theorem shownAt_sorted {x : α} {all : Members} (distinct : DistinctKeys all)
    (found : ∀ f ∈ r.fields, member? f.key all = f.write x) :
    ∀ m ∈ arranged (all.map fun m => (m.1, m.2.sorted)), r.ShownAt x m.1 (.value m.2) := by
  intro m mem f memF key
  obtain ⟨⟨k, v⟩, inside, rfl⟩ := List.mem_map.1 (mem_of_mem_arranged mem)
  cases key
  rw [← found f memF]
  exact ⟨v, member?_eq_some distinct inside, .value v⟩

/-- A value in key order without some of its members gives what a record writes, with those fields
blank, whatever members stand beside it. -/
theorem Lawful.decode_without (lawful : r.Lawful Valid bound) {x : α} (valid : Valid x)
    {all : Members} (distinct : DistinctKeys all)
    (found : ∀ f ∈ r.fields, member? f.key all = f.write x) (removed : List String) :
    ∃ z, r.decode (.value ((object all).sorted.without removed)) = .ok z ∧ Valid z ∧
      ∀ f ∈ r.fields, f.write z = if f.key ∈ removed then f.write r.blank else f.write x := by
  let rest := (arranged (all.map fun m => (m.1, m.2.sorted))).filter (·.1 ∉ removed)
  have shown : ∀ m ∈ rest.map fun m => (m.1, Source.value m.2), r.ShownAt x m.1 m.2 := by
    refine List.forall_mem_map.2 fun m mem => ?_
    exact shownAt_sorted distinct found m (List.mem_of_mem_filter mem)
  obtain ⟨z, read, validZ, fields⟩ := read_some lawful valid shown
  rw [List.foldlM_map] at read
  refine ⟨z, by rw [sorted_object]; exact read, validZ, fun f mem => ?_⟩
  rw [fields f mem, List.map_map]
  change (if f.key ∈ rest.map Prod.fst then _ else _) = _
  by_cases gone : f.key ∈ removed
  · have absent : f.key ∉ rest.map Prod.fst := by
      intro held
      obtain ⟨m, inRest, same⟩ := List.mem_map.1 held
      have kept : m.1 ∉ removed := by simpa using (List.mem_filter.1 inRest).2
      exact kept (same ▸ gone)
    rw [if_neg absent, if_pos gone]
  · rw [if_neg gone]
    split
    · rfl
    · rename_i absent
      refine lawful.write_eq_blank mem ?_
      by_contra written
      obtain ⟨v, some_v⟩ := Option.ne_none_iff_exists'.1 written
      have inside := mem_sorted_of_member? distinct ((found f mem).trans some_v)
      exact absent (List.mem_map.2 ⟨_, List.mem_filter.2 ⟨inside, by simpa using gone⟩, rfl⟩)

theorem Lawful.decode_value (lawful : r.Lawful Valid bound) {x : α} (valid : Valid x)
    {all : Members} (distinct : DistinctKeys all)
    (found : ∀ f ∈ r.fields, member? f.key all = f.write x) :
    ∃ z, r.decode (.value (object all).sorted) = .ok z ∧ Valid z ∧ r.writes z = r.writes x := by
  have whole : (object all).sorted.without [] = (object all).sorted := by
    simp [sorted_object, without]
  obtain ⟨z, read, validZ, writes⟩ := lawful.decode_without valid distinct found []
  exact ⟨z, whole ▸ read, validZ, List.map_congr_left fun f mem => by simpa using writes f mem⟩

theorem readMember_of_unknown {m : String × Json} (unknown : m.1 ∉ r.keys) (x : α) :
    r.readMember x m = .ok x := by
  unfold readMember
  split
  · rfl
  · rename_i f found
    obtain ⟨mem, key⟩ := field?_eq_some found
    exact absurd (key ▸ List.mem_map_of_mem mem) unknown

/-- Members under unknown keys do not matter, whatever the others hold. -/
theorem decode_filter {p : String → Bool} (knows : ∀ key ∈ r.keys, p key) (members : Members) :
    r.decode (.value (.object (members.filter fun m => p m.1))) =
      r.decode (.value (.object members)) := by
  change (members.filter fun m => p m.1).foldlM r.readMember r.blank =
    members.foldlM r.readMember r.blank
  generalize r.blank = x
  induction members generalizing x with
  | nil => rfl
  | cons m rest ih =>
    cases kept : p m.1 with
    | true =>
      rw [List.filter_cons, if_pos kept, List.foldlM_cons, List.foldlM_cons]
      exact congrArg _ (funext ih)
    | false =>
      have unknown : m.1 ∉ r.keys := fun known =>
        Bool.false_ne_true (kept.symm.trans (knows _ known))
      rw [List.filter_cons, if_neg (by simp [kept]), List.foldlM_cons,
        readMember_of_unknown unknown]
      exact ih x

theorem decode_withMembers {extra : Members} (unknown : ∀ m ∈ extra, m.1 ∉ r.keys) (v : Json) :
    r.decode (.value (v.withMembers extra)) = r.decode (.value v) := by
  cases v with
  | object members =>
    let p : String → Bool := fun key => decide (key ∈ r.keys)
    have knows : ∀ key ∈ r.keys, p key := fun key mem => decide_eq_true mem
    have out : ∀ m ∈ extra, p m.1 = false := fun m mem => decide_eq_false (unknown m mem)
    rw [withMembers, ← decode_filter knows, filter_foldl_insertMember out, decode_filter knows]
  | _ => rfl

theorem readMembers_eq (depth : Nat) {members : Members} (distinct : DistinctKeys members)
    (known : ∀ m ∈ members, r.field? m.1 ≠ none) {seen : List String}
    (fresh : ∀ m ∈ members, m.1 ∉ seen) (y : α) :
    r.readMembers depth seen y (membersTree members) =
      members.foldlM (fun y m => r.readFrom y m.1 (.text m.2.tree depth)) y := by
  induction members generalizing seen y with
  | nil => rfl
  | cons m members ih =>
    obtain ⟨k, v⟩ := m
    obtain ⟨first, restDistinct⟩ := List.nodup_cons.1 distinct
    obtain ⟨f, found⟩ := Option.ne_none_iff_exists'.1 (known _ List.mem_cons_self)
    have unseen : seen.contains k = false := by
      simpa using fresh (k, v) List.mem_cons_self
    have freshRest : ∀ m ∈ members, m.1 ∉ k :: seen := by
      intro m mem
      rw [List.mem_cons, not_or]
      refine ⟨fun same => first (List.mem_map.2 ⟨m, mem, same⟩), ?_⟩
      exact fresh m (List.mem_cons_of_mem _ mem)
    have step := ih restDistinct (fun m mem => known m (List.mem_cons_of_mem _ mem)) freshRest
    rw [membersTree, readMembers, stringOf_lettersOf, List.foldlM_cons, readFrom]
    change (match r.field? k with
      | none => _
      | some f => _) = _
    rw [found]
    change (if seen.contains k then _ else _ : Decoded α) = _
    rw [unseen, if_neg Bool.false_ne_true]
    dsimp only
    cases f.read (.text v.tree depth) with
    | error e => rfl
    | ok set => exact step (set y)

theorem field?_ne_none_of_mem_members {x : α} {m : String × Json} (mem : m ∈ r.members x) :
    r.field? m.1 ≠ none := by
  intro absent
  obtain ⟨f, memF, key, _⟩ := mem_members.1 mem
  exact field?_eq_none absent f memF key

theorem shownAt_of_mem_members (nodup : r.keys.Nodup) {x : α} {m : String × Json}
    (mem : m ∈ r.members x) {source : Source} (shows : Shows source m.2) :
    r.ShownAt x m.1 source := by
  intro f memF key
  obtain ⟨g, memG, same, written⟩ := mem_members.1 mem
  cases eq_of_key_eq nodup memG memF (same.trans key.symm)
  exact ⟨m.2, written, shows⟩

theorem read_members (lawful : r.Lawful Valid bound) {x : α} (valid : Valid x)
    (sourceOf : Json → Source) (shows : ∀ m ∈ r.members x, Shows (sourceOf m.2) m.2) :
    ∃ z, (r.members x).foldlM (fun y m => r.readFrom y m.1 (sourceOf m.2)) r.blank = .ok z ∧
      Valid z ∧ r.writes z = r.writes x := by
  have each : ∀ m ∈ (r.members x).map (fun m => (m.1, sourceOf m.2)), r.ShownAt x m.1 m.2 :=
    List.forall_mem_map.2 fun m mem => shownAt_of_mem_members lawful.keys_nodup mem (shows m mem)
  have complete : ∀ f ∈ r.fields, f.write x ≠ none →
      f.key ∈ ((r.members x).map fun m => (m.1, sourceOf m.2)).map Prod.fst := by
    intro f mem written
    obtain ⟨v, some_v⟩ := Option.ne_none_iff_exists'.1 written
    rw [List.map_map]
    have member : (f.key, v) ∈ r.members x := mem_members.2 ⟨f, mem, rfl, some_v⟩
    exact List.mem_map.2 ⟨_, member, rfl⟩
  simpa only [List.foldlM_map] using read_shown lawful valid each complete

theorem Lawful.decode_text (lawful : r.Lawful Valid bound) {x : α} (valid : Valid x) {depth : Nat}
    (room : depth + (r.encode x).levels < 128) :
    ∃ z, r.decode (.text (r.encode x).tree depth) = .ok z ∧ Valid z ∧ r.writes z = r.writes x := by
  obtain ⟨entered, inside⟩ := shows_members (lawful.whole valid) room
  obtain ⟨z, read, validZ, same⟩ :=
    read_members lawful valid (fun v => .text v.tree (depth + 1)) inside
  refine ⟨z, ?_, validZ, same⟩
  have members := readMembers_eq (depth + 1) (members_distinct lawful.keys_nodup x)
    (fun _ mem => field?_ne_none_of_mem_members mem) (fun _ _ => List.not_mem_nil) r.blank
  change r.decode (.text (.object (membersTree (r.members x)) none) depth) = _
  rw [decode, entered]
  change (do
    let x ← r.readMembers (depth + 1) [] r.blank (membersTree (r.members x))
    Decoded.ofSyntax (endingOf none)
    return x) = _
  rw [members, read]
  rfl

theorem Lawful.decode_shown (lawful : r.Lawful Valid bound) {x : α} (valid : Valid x)
    {source : Source} (shows : Shows source (r.encode x)) :
    ∃ z, r.decode source = .ok z ∧ Valid z ∧ r.writes z = r.writes x := by
  cases shows with
  | value =>
    have nodup := lawful.keys_nodup
    exact lawful.decode_value valid (members_distinct nodup x)
      fun f mem => member?_members nodup mem x
  | text _ room => exact lawful.decode_text valid room

/-- A record round trips if no two valid records are written the same. -/
theorem Lawful.roundTrips (lawful : r.Lawful Valid bound)
    (determined : ∀ x y, Valid x → Valid y → r.writes x = r.writes y → x = y) :
    @RoundTrips α r.codec Valid (bound + 1) := by
  let _ := r.codec
  refine ⟨fun valid => lawful.whole valid, fun valid => lawful.levels_le valid, ?_⟩
  intro x source valid shows
  obtain ⟨z, read, validZ, same⟩ := lawful.decode_shown valid shows
  cases determined z x validZ valid same
  exact read

variable (r) in
/-- All values of a record type are valid, and no two of them are written the same. -/
structure Faithful (bound : Nat) : Prop where
  keys_nodup : r.keys.Nodup := by decide
  restored : r.Restored (fun _ => True) bound 0 r.fields := by
    repeat refine .cons (.plain (by decide) fun _ _ => rfl) ?_
    exact .nil
  determined : ∀ {x y : α}, r.writes x = r.writes y → x = y

theorem Faithful.lawful (faithful : r.Faithful bound) : r.Lawful (fun _ => True) bound :=
  ⟨faithful.keys_nodup, trivial, faithful.restored⟩

@[reducible]
def Faithful.lawfulCodec (faithful : r.Faithful bound) : @LawfulCodec α r.codec :=
  let _ := r.codec
  ⟨bound + 1, faithful.lawful.roundTrips fun _ _ _ _ => faithful.determined⟩

end PageBuilder.Json.Record
