import PageBuilder.Mutation
import PageBuilder.Project
import PageBuilder.Proofs.Saving.Blocks

set_option autoImplicit false

namespace PageBuilder

open Json (Codec Decoded Field LawfulCodec Record RoundTrips Shows Source)

def Document.Decodable (d : Document) : Prop := ∀ b ∈ d.blocks, b.Decodable

def Project.Decodable (p : Project) : Prop := p.document.Decodable

theorem Document.record_lawful : record.Lawful Decodable 5 where
  blank_valid := by
    intro b h
    cases h
  restored := by
    refine .cons (.of Block.roundTrips.list (by decide) (fun _ valid => valid)
      (fun _ _ valid _ => valid) fun _ _ => rfl) ?_
    exact .cons (.of LawfulCodec.roundTrips (by decide) (fun _ _ => trivial)
      (fun _ _ _ valid => valid) fun _ _ => rfl) .nil

theorem Document.roundTrips : RoundTrips Document Decodable 6 := by
  refine record_lawful.roundTrips fun x y validX validY same => ?_
  obtain ⟨blocks, settings⟩ := x
  obtain ⟨otherBlocks, otherSettings⟩ := y
  simp only [Record.writes, record, Field.of, List.map_cons, List.map_nil, List.cons.injEq,
    Option.some.injEq, Json.encode_eq_iff, and_true] at same
  obtain ⟨sameBlocks, rfl⟩ := same
  cases Block.roundTrips.list.encode_inj validX validY sameBlocks
  rfl

theorem Project.record_lawful : record.Lawful Decodable 6 where
  blank_valid := by
    intro b h
    cases h
  restored := by
    refine .cons (.of Document.roundTrips (by decide) (fun _ valid => valid)
      (fun _ _ valid _ => valid) fun _ _ => rfl) ?_
    exact .cons (.of LawfulCodec.roundTrips (by decide) (fun _ _ => trivial)
      (fun _ _ _ valid => valid) fun _ _ => rfl) .nil

theorem Project.roundTrips : RoundTrips Project Decodable 7 := by
  refine record_lawful.roundTrips fun x y validX validY same => ?_
  obtain ⟨document, preferences⟩ := x
  obtain ⟨otherDocument, otherPreferences⟩ := y
  simp only [Record.writes, record, Field.of, List.map_cons, List.map_nil, List.cons.injEq,
    Option.some.injEq, Json.encode_eq_iff, and_true] at same
  obtain ⟨sameDocument, rfl⟩ := same
  cases Document.roundTrips.encode_inj validX validY sameDocument
  rfl

theorem Project.ofText_toText {p : Project} (decodable : p.Decodable) :
    ofText p.toText = .ok p := by
  rw [ofText, toText, roundTrips.decodeText_pretty (by decide) decodable]
  rfl

instance : LawfulCodec BlockKind where
  bound := 0
  roundTrips := by
    refine ⟨fun _ => trivial, fun _ => Nat.le_refl _, ?_⟩
    intro kind source _ shows
    change (do
      let tag ← source.string "a string"
      match BlockKind.ofTag? tag with
      | some kind => return kind
      | none => throw (Json.DecodeError.unknownKind tag)) = _
    rw [Shows.string_eq (s := kind.tag) shows]
    cases kind <;> rfl

instance : LawfulCodec Direction where
  bound := 0
  roundTrips := by
    refine ⟨fun _ => trivial, fun _ => Nat.le_refl _, ?_⟩
    intro direction source _ shows
    have named : Shows source (.string direction.name) := shows
    change Source.variant _ source = _
    rw [named.variant_name_eq]
    cases direction <;> rfl

namespace Mutation

def Decodable : Mutation → Prop
  | .updateBlock _ block => block.Decodable
  | _ => True

namespace Arguments

def Decodable (x : Arguments) : Prop := ∀ b, x.block = some b → b.Decodable

variable {r : Record Arguments} {i : Nat}

theorem restores {β : Type} [Codec β] {ValidField : β → Prop} {inner : Nat}
    (trips : RoundTrips β ValidField inner) (le : inner ≤ 4) {key : String}
    {get : Arguments → Option β} {set : β → Arguments → Arguments} (blank : get r.blank = none)
    (get_valid : ∀ x v, x.Decodable → get x = some v → ValidField v)
    (set_valid : ∀ v y, ValidField v → y.Decodable → (set v y).Decodable)
    (writes_set : ∀ v y, r.writes (set v y) = (r.writes y).set i (some (Codec.encode v))) :
    r.Restores Decodable 4 i (argument key get set) where
  blank _ := congrArg (Option.map Codec.encode) blank
  whole valid h := by
    obtain ⟨v, given, rfl⟩ := Option.map_eq_some_iff.1 h
    exact trips.whole (get_valid _ v valid given)
  levels_le valid h := by
    obtain ⟨v, given, rfl⟩ := Option.map_eq_some_iff.1 h
    exact Nat.le_trans (trips.levels_le (get_valid _ v valid given)) le
  read valid h shows := by
    obtain ⟨v, given, rfl⟩ := Option.map_eq_some_iff.1 h
    have validField := get_valid _ v valid given
    refine ⟨set v, ?_, fun y validY => ⟨set_valid v y validField validY, writes_set v y⟩⟩
    change (do return set (← Codec.decode _)) = _
    rw [trips.decode_shown validField shows]
    rfl

theorem restores_plain {β : Type} [Codec β] [LawfulCodec β] (le : LawfulCodec.bound β ≤ 4)
    {key : String} {get : Arguments → Option β} {set : β → Arguments → Arguments}
    (blank : get r.blank = none) (other : ∀ v y, (set v y).block = y.block)
    (writes_set : ∀ v y, r.writes (set v y) = (r.writes y).set i (some (Codec.encode v))) :
    r.Restores Decodable 4 i (argument key get set) := by
  refine restores LawfulCodec.roundTrips le blank (fun _ _ _ _ => trivial) ?_ writes_set
  intro v y _ valid b given
  exact valid b ((other v y).symm.trans given)

theorem restores_block (blank : r.blank.block = none)
    (writes_set : ∀ v y, r.writes { y with block := some v } =
      (r.writes y).set i (some (Codec.encode v))) :
    r.Restores Decodable 4 i blockField := by
  refine restores Block.roundTrips (Nat.le_refl 4) blank (fun x v valid => valid v) ?_ writes_set
  intro v y valid _ b given
  cases given
  exact valid

theorem record_lawful (name : Name) : (record name).Lawful Decodable 4 where
  keys_nodup := by cases name <;> decide
  blank_valid := by
    intro b h
    cases h
  restored := by
    cases name with
    | insertBlock =>
      exact .cons (restores_plain (by decide) rfl (fun _ _ => rfl) fun _ _ => rfl) .nil
    | updateBlock =>
      exact .cons (restores_plain (by decide) rfl (fun _ _ => rfl) fun _ _ => rfl)
        (.cons (restores_block rfl fun _ _ => rfl) .nil)
    | moveBlock =>
      exact .cons (restores_plain (by decide) rfl (fun _ _ => rfl) fun _ _ => rfl)
        (.cons (restores_plain (by decide) rfl (fun _ _ => rfl) fun _ _ => rfl) .nil)
    | removeBlock | duplicateBlock | updateSettings =>
      exact .cons (restores_plain (by decide) rfl (fun _ _ => rfl) fun _ _ => rfl) .nil

theorem ofMutation_decodable {m : Mutation} (decodable : m.Decodable) :
    (ofMutation m).Decodable := by
  intro b given
  cases m <;> cases given
  exact decodable

theorem decode_shown {name : Name} {x : Arguments} (valid : x.Decodable) {source : Source}
    (shows : Shows source ((record name).encode x)) :
    ∃ z, decode name source = .ok z ∧ z.Decodable ∧
      (record name).writes z = (record name).writes x := by
  obtain ⟨z, read, rest⟩ := (record_lawful name).decode_shown valid shows
  refine ⟨z, ?_, rest⟩
  cases shows with
  | value => exact read
  | text => exact read

theorem eq_some_of_written {β : Type} [Codec β] [LawfulCodec β] {given : Option β} {v : β}
    (written : given.map Codec.encode = some (Codec.encode v)) : given = some v :=
  Json.map_encode_eq_iff.1 written

/-- Arguments that are written as those of a mutation make up that mutation. -/
theorem toMutation_of_writes {m : Mutation} (decodable : m.Decodable) {z : Arguments}
    (valid : z.Decodable)
    (same : (record m.name).writes z = (record m.name).writes (ofMutation m)) :
    z.toMutation m.name = .ok m := by
  cases m with
  | insertBlock kind =>
    have kindGiven : z.kind = some kind := eq_some_of_written (List.cons.inj same).1
    rw [name, toMutation, kindGiven]
    rfl
  | updateBlock id block =>
    have idGiven : z.id = some id := eq_some_of_written (List.cons.inj same).1
    have written : z.block.map Codec.encode = some (Codec.encode block) :=
      (List.cons.inj (List.cons.inj same).2).1
    obtain ⟨b, blockGiven, sameEncoding⟩ := Option.map_eq_some_iff.1 written
    cases Block.roundTrips.encode_inj (valid b blockGiven) decodable sameEncoding
    rw [name, toMutation, idGiven, blockGiven]
    rfl
  | moveBlock id direction =>
    have idGiven : z.id = some id := eq_some_of_written (List.cons.inj same).1
    have directionGiven : z.direction = some direction :=
      eq_some_of_written (List.cons.inj (List.cons.inj same).2).1
    rw [name, toMutation, idGiven, directionGiven]
    rfl
  | removeBlock id =>
    have idGiven : z.id = some id := eq_some_of_written (List.cons.inj same).1
    rw [name, toMutation, idGiven]
    rfl
  | duplicateBlock id =>
    have idGiven : z.id = some id := eq_some_of_written (List.cons.inj same).1
    rw [name, toMutation, idGiven]
    rfl
  | updateSettings settings =>
    have settingsGiven : z.settings = some settings := eq_some_of_written (List.cons.inj same).1
    rw [name, toMutation, settingsGiven]
    rfl

end Arguments

theorem Name.find?_text (name : Name) : Name.all.find? (·.text = name.text) = some name := by
  cases name <;> rfl

theorem roundTrips : RoundTrips Mutation Decodable 6 where
  whole {m} decodable := by
    have valid := Arguments.ofMutation_decodable decodable
    exact ⟨(Arguments.record_lawful m.name).whole valid, trivial⟩
  levels_le {m} decodable := by
    have valid := Arguments.ofMutation_decodable decodable
    refine (Json.levels_object_le_iff [_] 5).2 fun member h => ?_
    cases List.mem_singleton.1 h
    exact (Arguments.record_lawful m.name).levels_le valid
  decode_shown {m} source decodable shows := by
    have valid := Arguments.ofMutation_decodable decodable
    refine Shows.variant_eq shows fun content shown => ?_
    obtain ⟨z, read, validZ, same⟩ := Arguments.decode_shown valid shown
    rw [Name.find?_text]
    dsimp only
    rw [read]
    exact Arguments.toMutation_of_writes decodable validZ same

end Mutation

/--
Saving loses nothing: a project is loaded from its text as it was, a block is decoded from its
value, and a mutation from its value and from both of its texts.
-/
theorem Project.reads_back_saved :
    (∀ p : Project, p.Decodable → ofText p.toText = .ok p) ∧
      (∀ b : Block, b.Decodable → Block.ofJson b.encode = .ok b) ∧
      ∀ m : Mutation, m.Decodable →
        Json.decodeValue (Codec.encode m).sorted = .ok m ∧
          Json.decodeText (Codec.encode m).compact = .ok m ∧
          Json.decodeText (Codec.encode m).pretty = .ok m := by
  refine ⟨fun p => ofText_toText, fun b => Block.ofJson_encode, fun m decodable => ⟨?_, ?_, ?_⟩⟩
  · exact Mutation.roundTrips.decode_shown decodable (.value _)
  · exact Mutation.roundTrips.decodeText_compact (by decide) decodable
  · exact Mutation.roundTrips.decodeText_pretty (by decide) decodable

theorem Project.reads_back_carousel :
    let b : Block := ⟨{ anchorId := some "\"Zoë\" \\ <b>\n" }, .unsupported "carousel"⟩
    BlockKind.ofTag? "carousel" = none ∧
      ofText (toText { document := { blocks := [b] } }) = .ok { document := { blocks := [b] } } ∧
      Block.ofJson b.encode = .ok b ∧
      Json.decodeText (Codec.encode (Mutation.updateBlock ⟨"a-1"⟩ b)).compact =
        .ok (Mutation.updateBlock ⟨"a-1"⟩ b) := by
  intro b
  have unknown : BlockKind.ofTag? "carousel" = none := by decide
  have decodable : Project.Decodable { document := { blocks := [b] } } := by
    intro other h
    cases List.mem_singleton.1 h
    exact unknown
  exact ⟨unknown, reads_back_saved.1 _ decodable, reads_back_saved.2.1 b unknown,
    (reads_back_saved.2.2 (.updateBlock ⟨"a-1"⟩ b) unknown).2.1⟩

end PageBuilder
