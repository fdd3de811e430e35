import PageBuilder.Proofs.Editing.Effects

set_option autoImplicit false

namespace PageBuilder.Document

variable {d : Document} {before after : List Block} {block : Block}

theorem exists_split {id : InstanceId} (held : id ∈ d.ids) :
    ∃ before block after, d.blocks = before ++ block :: after ∧ block.instanceId = id ∧
      id ∉ before.map Block.instanceId := by
  obtain ⟨front, rest, ids, first⟩ := List.eq_append_cons_of_mem held
  obtain ⟨before, others, blocks, rfl, tail⟩ := List.map_eq_append_iff.1 ids
  obtain ⟨block, after, rfl, same, _⟩ := List.map_eq_cons_iff.1 tail
  exact ⟨before, block, after, blocks, same, first⟩

theorem apart_of_split (distinct : d.ids.Nodup) (blocks : d.blocks = before ++ block :: after) :
    block.instanceId ∉ before.map Block.instanceId ∧
      block.instanceId ∉ after.map Block.instanceId := by
  rw [ids, blocks, List.map_append, List.map_cons] at distinct
  obtain ⟨_, tail, apart⟩ := List.nodup_append.1 distinct
  refine ⟨fun mem => ?_, (List.nodup_cons.1 tail).1⟩
  exact apart _ mem _ List.mem_cons_self rfl

theorem position?_eq_none {id : InstanceId} : d.position? id = none ↔ id ∉ d.ids := by
  rw [← Option.not_isSome_iff_eq_none, position?_isSome, get?_isSome]

theorem position?_split (blocks : d.blocks = before ++ block :: after)
    (first : block.instanceId ∉ before.map Block.instanceId) :
    d.position? block.instanceId = some before.length := by
  have others : before.findIdx? (·.instanceId = block.instanceId) = none := by
    simpa using first
  rw [position?, blocks, List.findIdx?_append, others]
  simp [List.findIdx?_cons]

theorem get?_split (blocks : d.blocks = before ++ block :: after)
    (first : block.instanceId ∉ before.map Block.instanceId) :
    d.get? block.instanceId = some block := by
  have others : before.find? (·.instanceId = block.instanceId) = none := by
    simpa using first
  rw [get?, blocks, List.find?_append, others]
  simp

section

variable {id : InstanceId} (missing : id ∉ d.ids)
include missing

theorem update_of_missing (new : Block) : d.update id new = d := by
  rw [update, position?_eq_none.2 missing]

theorem move_of_missing (direction : Direction) : d.move id direction = d := by
  simp [move, position?_eq_none.2 missing]

theorem duplicate_of_missing (g : IdGenerator) : d.duplicate id g = (d, g) := by
  simp [duplicate, position?_eq_none.2 missing]

end

theorem update_split (blocks : d.blocks = before ++ block :: after)
    (first : block.instanceId ∉ before.map Block.instanceId) (new : Block) :
    d.update block.instanceId new =
      { d with blocks := before ++ new.withInstanceId block.instanceId :: after } := by
  unfold update
  rw [position?_split blocks first]
  simp only [blocks, List.set_append_right _ _ (Nat.le_refl _), Nat.sub_self, List.set_cons_zero]

theorem swapAt_split (before : List Block) (a b : Block) (after : List Block) :
    swapAt before.length (before ++ a :: b :: after) = before ++ b :: a :: after := by
  induction before with
  | nil => rfl
  | cons first before ih => rw [List.length_cons, List.cons_append, swapAt, ih, List.cons_append]

theorem move_down_split {next : Block} (blocks : d.blocks = before ++ block :: next :: after)
    (first : block.instanceId ∉ before.map Block.instanceId) :
    d.move block.instanceId .down = { d with blocks := before ++ next :: block :: after } := by
  have found := position?_split blocks first
  have swapped := swapAt_split before block next after
  unfold move
  rw [found]
  cases before with
  | nil => rw [blocks]; rfl
  | cons => simp only [blocks, swapped]

theorem move_up_split {previous : Block} (blocks : d.blocks = before ++ previous :: block :: after)
    (first : block.instanceId ∉ (before ++ [previous]).map Block.instanceId) :
    d.move block.instanceId .up = { d with blocks := before ++ block :: previous :: after } := by
  have split : d.blocks = (before ++ [previous]) ++ block :: after := by
    rw [blocks, List.append_assoc]
    rfl
  have found := position?_split split first
  rw [List.length_append, List.length_singleton] at found
  unfold move
  rw [found]
  simp only [blocks, swapAt_split]

theorem move_up_first (blocks : d.blocks = block :: after) : d.move block.instanceId .up = d := by
  have found := position?_split (show d.blocks = [] ++ block :: after from blocks) List.not_mem_nil
  unfold move
  rw [found]
  rfl

theorem move_down_last (blocks : d.blocks = before ++ [block])
    (first : block.instanceId ∉ before.map Block.instanceId) :
    d.move block.instanceId .down = d := by
  have found := position?_split blocks first
  have length : d.blocks.length ≤ before.length + 1 := by simp [blocks]
  have last : { d with blocks := swapAt before.length d.blocks } = d := by
    rw [swapAt_of_length_le length]
  unfold move
  rw [found]
  cases before <;> exact last

theorem insertIdx_split (before : List Block) (block copy : Block) (after : List Block) :
    (before ++ block :: after).insertIdx (before.length + 1) copy =
      before ++ block :: copy :: after := by
  induction before with
  | nil => rfl
  | cons first before ih =>
    rw [List.length_cons, List.cons_append, List.insertIdx_succ_cons, ih, List.cons_append]

theorem duplicate_split (blocks : d.blocks = before ++ block :: after)
    (first : block.instanceId ∉ before.map Block.instanceId) (g : IdGenerator) :
    (d.duplicate block.instanceId g).1 =
      { d with
        blocks := before ++ block :: block.withInstanceId (g.drawFresh d.ids).1 :: after } := by
  unfold duplicate
  rw [position?_split blocks first, get?_split blocks first]
  simp only [blocks, insertIdx_split]

theorem remove_split (blocks : d.blocks = before ++ block :: after)
    (first : block.instanceId ∉ before.map Block.instanceId)
    (last : block.instanceId ∉ after.map Block.instanceId) :
    d.remove block.instanceId = { d with blocks := before ++ after } := by
  have kept : ∀ {others : List Block}, block.instanceId ∉ others.map Block.instanceId →
      others.filter (·.instanceId ≠ block.instanceId) = others := fun absent =>
    List.filter_eq_self.2 fun b mem =>
      decide_eq_true fun same => absent (same ▸ List.mem_map_of_mem mem)
  unfold remove
  rw [blocks, List.filter_append, kept first, List.filter_cons, kept last]
  simp

end PageBuilder.Document
