import PageBuilder.Catalog
import PageBuilder.Proofs.Saving.Projects

set_option autoImplicit false

namespace PageBuilder

open Json (Codec Decoded Field Record Source)

namespace Json

theorem Decoded.of_mem_mapM {α β : Type} {decode : β → Decoded α} {sources : List β}
    {items : List α} (read : sources.mapM decode = .ok items) :
    ∀ x ∈ items, ∃ source, decode source = .ok x := by
  induction sources generalizing items with
  | nil =>
    cases read
    exact fun _ none => nomatch none
  | cons source sources ih =>
    rw [List.mapM_cons] at read
    obtain ⟨first, decoded, read⟩ := Decoded.bind_eq_ok.1 read
    obtain ⟨rest, others, same⟩ := Decoded.bind_eq_ok.1 read
    cases same
    exact List.forall_mem_cons.2 ⟨⟨source, decoded⟩, ih others⟩

theorem Source.of_mem_list {α : Type} {decode : Source → Decoded α} {source : Source}
    {items : List α} (read : Source.list decode source = .ok items) :
    ∀ x ∈ items, ∃ item, decode item = .ok x := by
  intro x mem
  unfold Source.list at read
  split at read
  · obtain ⟨v, decoded⟩ := Decoded.of_mem_mapM read x mem
    exact ⟨_, decoded⟩
  · obtain ⟨depth, _, read⟩ := Decoded.bind_eq_ok.1 read
    obtain ⟨values, each, read⟩ := Decoded.bind_eq_ok.1 read
    obtain ⟨_, _, same⟩ := Decoded.bind_eq_ok.1 read
    cases same
    obtain ⟨tree, decoded⟩ := Decoded.of_mem_mapM each x mem
    exact ⟨_, decoded⟩
  · obtain ⟨_, _, read⟩ := Decoded.bind_eq_ok.1 read
    cases read

namespace Record

variable {α : Type} {r : Record α} {Valid : α → Prop}

/-- What a field reads is put into a record without breaking a property of it. -/
def Keeps (Valid : α → Prop) (f : Field α) : Prop :=
  ∀ source set, f.read source = .ok set → ∀ x, Valid x → Valid (set x)

theorem readMember_keeps (each : ∀ f ∈ r.fields, Keeps Valid f) {x y : α} {member : String × Json}
    (read : r.readMember x member = .ok y) (valid : Valid x) : Valid y := by
  unfold readMember at read
  split at read
  · cases read
    exact valid
  · next f found =>
    obtain ⟨set, fieldRead, same⟩ := Decoded.bind_eq_ok.1 read
    cases same
    exact each f (field?_eq_some found).1 _ _ fieldRead x valid

theorem foldlM_readMember_keeps (each : ∀ f ∈ r.fields, Keeps Valid f) {members : Members}
    {x y : α} (read : members.foldlM r.readMember x = .ok y) (valid : Valid x) : Valid y := by
  induction members generalizing x with
  | nil =>
    cases read
    exact valid
  | cons member members ih =>
    rw [List.foldlM_cons] at read
    obtain ⟨next, first, rest⟩ := Decoded.bind_eq_ok.1 read
    exact ih rest (readMember_keeps each first valid)

theorem readMembers_keeps (each : ∀ f ∈ r.fields, Keeps Valid f) {depth : Nat}
    {members : List (List Letter × Tree)} {seen : List String} {x y : α}
    (read : r.readMembers depth seen x members = .ok y) (valid : Valid x) : Valid y := by
  induction members generalizing seen x with
  | nil =>
    cases read
    exact valid
  | cons member members ih =>
    obtain ⟨letters, tree⟩ := member
    rw [readMembers] at read
    obtain ⟨key, _, read⟩ := Decoded.bind_eq_ok.1 read
    split at read
    · obtain ⟨_, _, read⟩ := Decoded.bind_eq_ok.1 read
      exact ih read valid
    · next f found =>
      split at read
      · cases read
      · obtain ⟨set, fieldRead, read⟩ := Decoded.bind_eq_ok.1 read
        exact ih read (each f (field?_eq_some found).1 _ _ fieldRead x valid)

theorem readItems_keeps {fields : List (Field α)} (each : ∀ f ∈ fields, Keeps Valid f)
    {sources : List Source} {x y : α} (read : readItems fields x sources = .ok y)
    (valid : Valid x) : Valid y := by
  fun_induction readItems fields x sources with
  | case1 f fields x source sources ih =>
    obtain ⟨set, fieldRead, read⟩ := Decoded.bind_eq_ok.1 read
    exact ih set (fun g h => each g (List.mem_cons_of_mem _ h)) read
      (each f List.mem_cons_self _ _ fieldRead x valid)
  | case2 =>
    cases read
    exact valid

theorem decode_keeps (blank : Valid r.blank) (each : ∀ f ∈ r.fields, Keeps Valid f)
    {source : Source} {x : α} (read : r.decode source = .ok x) : Valid x := by
  unfold decode at read
  split at read
  · exact foldlM_readMember_keeps each read blank
  · obtain ⟨y, items, read⟩ := Decoded.bind_eq_ok.1 read
    split at read
    · cases read
    · cases read
      exact readItems_keeps each items blank
  · obtain ⟨depth, _, read⟩ := Decoded.bind_eq_ok.1 read
    obtain ⟨y, members, read⟩ := Decoded.bind_eq_ok.1 read
    obtain ⟨_, _, same⟩ := Decoded.bind_eq_ok.1 read
    cases same
    exact readMembers_keeps each members blank
  · obtain ⟨depth, _, read⟩ := Decoded.bind_eq_ok.1 read
    obtain ⟨y, items, read⟩ := Decoded.bind_eq_ok.1 read
    dsimp only at read
    split at read <;>
      · obtain ⟨_, _, same⟩ := Decoded.bind_eq_ok.1 read
        cases same
        exact readItems_keeps each items blank
  · obtain ⟨_, _, read⟩ := Decoded.bind_eq_ok.1 read
    cases read

theorem Keeps.of {β : Type} [Codec β] {key : String} {get : α → β} {set : β → α → α}
    (kept : ∀ source v, Codec.decode source = .ok v → ∀ x, Valid x → Valid (set v x)) :
    Keeps Valid (.of key get set) := by
  intro source put read x valid
  obtain ⟨v, decoded, same⟩ := Decoded.bind_eq_ok.1 read
  cases same
  exact kept source v decoded x valid

end Record
end Json

namespace Block

theorem decodable_of_ofJson {v : Json} {b : Block} (read : ofJson v = .ok b) : b.Decodable := by
  obtain ⟨base, _, read⟩ := Json.Decoded.bind_eq_ok.1 read
  dsimp only at read
  split at read
  · obtain ⟨content, decoded, same⟩ := Json.Decoded.bind_eq_ok.1 read
    cases same
    exact Content.decodable_of_kind (Content.kind_of_decode decoded)
  · next unknown =>
    cases read
    exact unknown

theorem decodable_of_decode {source : Source} {b : Block} (read : Codec.decode source = .ok b) :
    b.Decodable := by
  obtain ⟨v, _, read⟩ := Json.Decoded.bind_eq_ok.1 read
  exact decodable_of_ofJson read

theorem decodable_template (kind : BlockKind) : kind.template.Decodable := by
  cases kind <;> trivial

end Block

theorem Document.decodable_of_decode {source : Source} {d : Document}
    (read : Codec.decode source = .ok d) : d.Decodable := by
  refine Record.decode_keeps (r := record) (fun b none => nomatch none) ?_ read
  refine List.forall_mem_cons.2
    ⟨.of fun _ _ decoded _ _ b mem => ?_, List.forall_mem_singleton.2 ?_⟩
  · obtain ⟨item, found⟩ := Source.of_mem_list decoded b mem
    exact Block.decodable_of_decode found
  · exact .of fun _ _ _ _ valid => valid

namespace Project

theorem decodable_of_decode {source : Source} {p : Project} (read : Codec.decode source = .ok p) :
    p.Decodable := by
  refine Record.decode_keeps (r := record) (fun b none => nomatch none) ?_ read
  refine List.forall_mem_cons.2
    ⟨.of fun _ _ decoded _ _ => ?_, List.forall_mem_singleton.2 ?_⟩
  · exact Document.decodable_of_decode decoded
  · exact .of fun _ _ _ _ valid => valid

theorem decodable_of_ofText {text : String} {p : Project} (read : ofText text = .ok p) :
    p.Decodable := by
  have decoded : Json.decodeText text = .ok p := by
    unfold ofText at read
    cases result : (Json.decodeText text : Decoded Project) with
    | error e =>
      rw [result] at read
      cases read
    | ok q =>
      rw [result] at read
      cases read
      rfl
  obtain ⟨q, found, read⟩ := Json.Decoded.bind_eq_ok.1 decoded
  split at read
  · cases read
  · cases read
    exact decodable_of_decode found

end Project
end PageBuilder
