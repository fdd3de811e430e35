import PageBuilder.Proofs.Editing.Positions
import PageBuilder.Proofs.Identity.Edits

set_option autoImplicit false

namespace PageBuilder.Document

variable {d : Document}

/-- An exchange of neighbours keeps the ids distinct. -/
theorem distinct_swapped {before after : List Block} {a b : Block} (distinct : d.ids.Nodup)
    (blocks : d.blocks = before ++ a :: b :: after) :
    ({ d with blocks := before ++ b :: a :: after } : Document).ids.Nodup := by
  rw [ids, blocks] at distinct
  refine (List.Perm.map _ ?_).nodup_iff.1 distinct
  exact (List.Perm.swap b a after).append_left before

theorem move_down_move_up {id : InstanceId} (distinct : d.ids.Nodup)
    (notFirst : d.ids.head? ≠ some id) : (d.move id .up).move id .down = d := by
  by_cases held : id ∈ d.ids
  · obtain ⟨before, block, after, blocks, rfl, first⟩ := exists_split held
    rcases before.eq_nil_or_concat' with rfl | ⟨front, previous, rfl⟩
    · refine absurd ?_ notFirst
      rw [ids, blocks]
      rfl
    · rw [List.append_assoc] at blocks
      rw [move_up_split blocks first]
      have apart := apart_of_split (distinct_swapped distinct blocks) rfl
      rw [move_down_split rfl apart.1]
      exact congrArg (Document.mk · d.settings) blocks.symm
  · rw [move_of_missing held, move_of_missing held]

theorem move_up_move_down {id : InstanceId} (distinct : d.ids.Nodup)
    (notLast : d.ids.getLast? ≠ some id) : (d.move id .down).move id .up = d := by
  by_cases held : id ∈ d.ids
  · obtain ⟨before, block, after, blocks, rfl, first⟩ := exists_split held
    cases after with
    | nil =>
      refine absurd ?_ notLast
      rw [ids, blocks, List.map_append]
      exact List.getLast?_concat
    | cons next rest =>
      rw [move_down_split blocks first]
      have moved : (before ++ [next]) ++ block :: rest = before ++ next :: block :: rest := by simp
      have apart := apart_of_split (distinct_swapped distinct blocks) moved.symm
      rw [move_up_split rfl apart.1]
      exact congrArg (Document.mk · d.settings) blocks.symm
  · rw [move_of_missing held, move_of_missing held]

theorem remove_insert (d : Document) (kind : BlockKind) (g : IdGenerator) :
    (d.insert kind g).1.remove (d.insert kind g).2.1 = d := by
  have fresh := g.drawFresh_not_mem d.ids
  have removed := remove_split (d := (d.insert kind g).1) rfl fresh List.not_mem_nil
  rw [List.append_nil] at removed
  exact removed

theorem remove_duplicate {id : InstanceId} (held : id ∈ d.ids) (g : IdGenerator) :
    ∃ copy, (∀ other, other ∈ (d.duplicate id g).1.ids ∧ other ∉ d.ids ↔ other = copy) ∧
      (d.duplicate id g).1.remove copy = d := by
  have fresh := g.drawFresh_not_mem d.ids
  refine ⟨(g.drawFresh d.ids).1, fun other => ?_, ?_⟩
  · rcases d.duplicate_eq id g with ⟨_, missing⟩ | ⟨_, _, perm⟩
    · exact absurd held (position?_eq_none.1 missing)
    · rw [perm.mem_iff, List.mem_cons]
      constructor
      · rintro ⟨rfl | old, new⟩
        · rfl
        · exact absurd old new
      · rintro rfl
        exact ⟨.inl rfl, fresh⟩
  · obtain ⟨before, block, after, blocks, rfl, first⟩ := exists_split held
    rw [duplicate_split blocks first]
    generalize (g.drawFresh d.ids).1 = copy at fresh ⊢
    have parts : d.blocks = (before ++ [block]) ++ after := by simp [blocks]
    rw [ids, parts, List.map_append, List.mem_append, not_or] at fresh
    have copied : before ++ block :: block.withInstanceId copy :: after =
        (before ++ [block]) ++ block.withInstanceId copy :: after := by simp
    have removed := remove_split
      (d := { d with blocks := before ++ block :: block.withInstanceId copy :: after }) copied
      fresh.1 fresh.2
    exact removed.trans (congrArg (Document.mk · d.settings) parts.symm)

/--
Edits are taken back by their inverses, whatever the generator has drawn. Moving a block that is not
the first one up and down again gives the same document, as does moving one that is not the last one
down and up; and so does removing an inserted block by the id that was returned, or a copy by the one
id that is new.
-/
theorem edits_taken_back (distinct : d.ids.Nodup) (g : IdGenerator) :
    (∀ id, d.ids.head? ≠ some id → (d.move id .up).move id .down = d) ∧
      (∀ id, d.ids.getLast? ≠ some id → (d.move id .down).move id .up = d) ∧
      (∀ kind, (d.insert kind g).1.remove (d.insert kind g).2.1 = d) ∧
      ∀ id ∈ d.ids, ∃ copy,
        (∀ other, other ∈ (d.duplicate id g).1.ids ∧ other ∉ d.ids ↔ other = copy) ∧
          (d.duplicate id g).1.remove copy = d :=
  ⟨fun _ => move_down_move_up distinct, fun _ => move_up_move_down distinct,
    fun kind => d.remove_insert kind g, fun _ held => remove_duplicate held g⟩

theorem twoTexts_restored :
    twoTexts.ids.Nodup ∧ (twoTexts.move ⟨"b"⟩ .up).move ⟨"b"⟩ .down = twoTexts ∧
      (twoTexts.move ⟨"a-1"⟩ .down).move ⟨"a-1"⟩ .up = twoTexts ∧
      (twoTexts.insert .faq (.ofSeed "a")).1.remove ⟨"a-2"⟩ = twoTexts ∧
      (twoTexts.duplicate ⟨"a-1"⟩ (.ofSeed "a")).1.remove ⟨"a-2"⟩ = twoTexts := by
  have distinct : twoTexts.ids.Nodup := by decide
  obtain ⟨down, up, inserted, copied⟩ := edits_taken_back distinct (.ofSeed "a")
  have drawn : (twoTexts.insert .faq (.ofSeed "a")).2.1 = ⟨"a-2"⟩ := by decide +kernel
  obtain ⟨copy, new, restored⟩ := copied ⟨"a-1"⟩ (by decide)
  have same : ⟨"a-2"⟩ = copy := (new _).1 (by decide +kernel)
  exact ⟨distinct, down _ (by decide), up _ (by decide), drawn ▸ inserted .faq, same ▸ restored⟩

end PageBuilder.Document
