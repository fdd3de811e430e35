import PageBuilder.Proofs.Identity.Document

set_option autoImplicit false

namespace PageBuilder

inductive Document.Edit where
  | insert (kind : BlockKind)
  | insertBlock (block : Block)
  | update (id : InstanceId) (block : Block)
  | move (id : InstanceId) (direction : Direction)
  | remove (id : InstanceId)
  | duplicate (id : InstanceId)
  | withSettings (settings : Settings)
  | repairIds

namespace Document

def edit (d : Document) (g : IdGenerator) : Edit → Document × IdGenerator
  | .insert kind => ((d.insert kind g).1, (d.insert kind g).2.2)
  | .insertBlock block => (d.insertBlock block, g)
  | .update id block => (d.update id block, g)
  | .move id direction => (d.move id direction, g)
  | .remove id => (d.remove id, g)
  | .duplicate id => d.duplicate id g
  | .withSettings settings => (d.withSettings settings, g)
  | .repairIds => d.repairIds g

def editAll (d : Document) (g : IdGenerator) : List Edit → Document × IdGenerator
  | [] => (d, g)
  | e :: rest => (d.edit g e).1.editAll (d.edit g e).2 rest

theorem Identified.insertBlock {d : Document} (h : d.Identified) (block : Block) :
    (d.insertBlock block).Identified := by
  unfold Document.insertBlock
  split
  · rename_i accepted
    obtain ⟨assigned, free⟩ : block.instanceId.isAssigned ∧ d.position? block.instanceId = none := by
      simpa using accepted
    have fresh : block.instanceId ∉ d.ids := by
      rw [← get?_isSome, ← d.position?_isSome, free]
      exact Bool.false_ne_true
    refine h.of_perm_cons ?_ assigned fresh
    change ((d.blocks ++ [block]).map Block.instanceId).Perm _
    rw [List.map_append]
    exact List.perm_append_singleton _ _
  · exact h

theorem Identified.edit {d : Document} (h : d.Identified) (g : IdGenerator) (e : Edit) :
    (d.edit g e).1.Identified := by
  cases e with
  | insert kind => exact Mutation.apply_identified (.insertBlock kind) g h
  | insertBlock block => exact h.insertBlock block
  | update id block => exact Mutation.apply_identified (.updateBlock id block) g h
  | move id direction => exact Mutation.apply_identified (.moveBlock id direction) g h
  | remove id => exact Mutation.apply_identified (.removeBlock id) g h
  | duplicate id => exact Mutation.apply_identified (.duplicateBlock id) g h
  | withSettings settings => exact Mutation.apply_identified (.updateSettings settings) g h
  | repairIds => exact d.repairIds_identified g

/-- Edits of an identified document leave an identified one, whatever the generator starts from. -/
theorem editAll_identified {d : Document} (h : d.Identified) (g : IdGenerator)
    (edits : List Edit) : (d.editAll g edits).1.Identified := by
  induction edits generalizing d g with
  | nil => exact h
  | cons e edits ih => exact ih (h.edit g e) (d.edit g e).2

def twoTexts : Document where
  blocks := [BlockKind.text.template.withInstanceId ⟨"a-1"⟩,
    BlockKind.text.template.withInstanceId ⟨"b"⟩]

def carelessEdits : List Edit :=
  [.update ⟨"a-1"⟩ (BlockKind.hero.template.withInstanceId ⟨"b"⟩),
    .insertBlock (BlockKind.hero.template.withInstanceId ⟨"a-1"⟩),
    .insertBlock BlockKind.hero.template, .duplicate ⟨"b"⟩, .insert .faq, .move ⟨"b"⟩ .down,
    .repairIds]

/-- The generator has drawn nothing yet, so its first id is taken. -/
theorem identified_after_carelessEdits :
    twoTexts.Identified ∧ (twoTexts.editAll (.ofSeed "a") carelessEdits).1.Identified ∧
      (twoTexts.editAll (.ofSeed "a") carelessEdits).1.ids =
        [⟨"a-1"⟩, ⟨"a-2"⟩, ⟨"b"⟩, ⟨"a-3"⟩] := by
  have identified : twoTexts.Identified := ⟨by decide, by decide⟩
  exact ⟨identified, editAll_identified identified _ _, by decide +kernel⟩

end Document
end PageBuilder
