import PageBuilder.Mutation
import PageBuilder.Proofs.Identity.Draws

set_option autoImplicit false

namespace PageBuilder

open IdGenerator

/-- The ids are assigned and pairwise distinct. -/
structure Document.Identified (d : Document) : Prop where
  assigned : ∀ id ∈ d.ids, id.isAssigned
  distinct : d.ids.Nodup

namespace Document

theorem Identified.of_subperm {d e : Document} (h : d.Identified) (sub : e.ids.Subperm d.ids) :
    e.Identified where
  assigned id hid := h.assigned id (sub.subset hid)
  distinct := by
    obtain ⟨ids, perm, sublist⟩ := sub
    exact perm.nodup_iff.1 (h.distinct.sublist sublist)

theorem Identified.of_perm_cons {d e : Document} {id : InstanceId} (h : d.Identified)
    (perm : e.ids.Perm (id :: d.ids)) (assigned : id.isAssigned) (fresh : id ∉ d.ids) :
    e.Identified where
  assigned other hother := by
    rcases List.mem_cons.1 (perm.subset hother) with rfl | old
    · exact assigned
    · exact h.assigned other old
  distinct := perm.nodup_iff.2 (List.nodup_cons.2 ⟨fresh, h.distinct⟩)

theorem ids_insert (d : Document) (kind : BlockKind) (g : IdGenerator) :
    (d.insert kind g).1.ids = d.ids ++ [(g.drawFresh d.ids).1] := by
  simp [Document.insert, ids, Block.instanceId, Block.withInstanceId]

theorem map_instanceId_set {blocks : List Block} (block : Block) {i : Nat}
    (found : blocks.findIdx? (·.instanceId = block.instanceId) = some i) :
    (blocks.set i block).map Block.instanceId = blocks.map Block.instanceId := by
  obtain ⟨lt, hit, _⟩ := List.findIdx?_eq_some_iff_getElem.1 found
  have bound : i < (blocks.map Block.instanceId).length := by simpa using lt
  have same : (blocks.map Block.instanceId)[i] = block.instanceId := by simpa using hit
  rw [List.map_set, ← same, List.set_getElem_self]

theorem ids_update (d : Document) (id : InstanceId) (block : Block) :
    (d.update id block).ids = d.ids := by
  unfold update
  split
  · rfl
  · rename_i i found
    exact map_instanceId_set (block.withInstanceId id) found

theorem swapAt_perm (i : Nat) (blocks : List Block) : (swapAt i blocks).Perm blocks := by
  fun_induction swapAt i blocks with
  | case1 a b rest => exact .swap a b rest
  | case2 i a rest ih => exact ih.cons a
  | case3 => exact .refl _

theorem ids_move (d : Document) (id : InstanceId) (direction : Direction) :
    (d.move id direction).ids.Perm d.ids := by
  unfold move
  split
  · exact (swapAt_perm _ d.blocks).map Block.instanceId
  · exact (swapAt_perm _ d.blocks).map Block.instanceId
  · exact .refl _

theorem ids_remove (d : Document) (id : InstanceId) : (d.remove id).ids.Sublist d.ids :=
  List.filter_sublist.map Block.instanceId

theorem position?_isSome (d : Document) (id : InstanceId) :
    (d.position? id).isSome = (d.get? id).isSome := by
  rw [position?, get?, List.findIdx?_isSome, Bool.eq_iff_iff, List.find?_isSome, List.any_eq_true]

theorem get?_isSome {d : Document} {id : InstanceId} : (d.get? id).isSome ↔ id ∈ d.ids := by
  simp [get?, ids]

theorem duplicate_eq (d : Document) (id : InstanceId) (g : IdGenerator) :
    (d.duplicate id g = (d, g) ∧ d.position? id = none) ∨
      (∃ i, d.position? id = some i) ∧ (d.duplicate id g).2 = (g.drawFresh d.ids).2 ∧
        (d.duplicate id g).1.ids.Perm ((g.drawFresh d.ids).1 :: d.ids) := by
  have both := d.position?_isSome id
  cases found : d.position? id with
  | none => exact .inl ⟨by simp [duplicate, found], rfl⟩
  | some i =>
    rw [found] at both
    obtain ⟨block, got⟩ := Option.isSome_iff_exists.1 both.symm
    have bound : i + 1 ≤ d.blocks.length := by
      obtain ⟨lt, _⟩ := List.findIdx?_eq_some_iff_getElem.1 found
      exact lt
    refine .inr ⟨⟨i, rfl⟩, by simp only [duplicate, found, got], ?_⟩
    simp only [duplicate, found, got]
    exact (List.perm_insertIdx _ _ bound).map Block.instanceId

theorem repairBlocks_of_new {all seen : List InstanceId} {block : Block}
    (new : block.instanceId.isAssigned ∧ block.instanceId ∉ seen) (rest : List Block)
    (g : IdGenerator) :
    let repaired := repairBlocks all (block.instanceId :: seen) rest g
    repairBlocks all seen (block :: rest) g = (block :: repaired.1, repaired.2) := by
  rw [repairBlocks, if_pos (by simpa using new)]

theorem repairBlocks_of_spent {all seen : List InstanceId} {block : Block}
    (spent : ¬(block.instanceId.isAssigned ∧ block.instanceId ∉ seen)) (rest : List Block)
    (g : IdGenerator) :
    let drawn := g.drawFresh (seen ++ all)
    let repaired := repairBlocks all (drawn.1 :: seen) rest drawn.2
    repairBlocks all seen (block :: rest) g =
      (block.withInstanceId drawn.1 :: repaired.1, repaired.2) := by
  rw [repairBlocks, if_neg (by simpa using spent)]

theorem repairBlocks_ids (all seen : List InstanceId) (blocks : List Block) (g : IdGenerator) :
    let repaired := repairBlocks all seen blocks g
    let ids := repaired.1.map Block.instanceId
    (∀ id ∈ ids, id.isAssigned ∧ id ∉ seen) ∧ ids.Nodup ∧ g.Reaches repaired.2 ∧
      ((∀ block ∈ blocks, g.Covers block.instanceId) → repaired.2.count ≤ counterLimit →
        ∀ id ∈ ids, repaired.2.Covers id) := by
  induction blocks generalizing seen g with
  | nil => exact ⟨by simp [repairBlocks], by simp [repairBlocks], .refl g, by simp [repairBlocks]⟩
  | cons block rest ih =>
    by_cases new : block.instanceId.isAssigned ∧ block.instanceId ∉ seen
    · obtain ⟨clear, distinct, reach, covered⟩ := ih (block.instanceId :: seen) g
      simp only [repairBlocks_of_new new, List.map_cons, List.forall_mem_cons]
      refine ⟨⟨new, fun id hid => ?_⟩, List.nodup_cons.2 ⟨fun hid => ?_, distinct⟩,
        reach, fun cover bounded => ⟨(cover.1).mono reach, covered cover.2 bounded⟩⟩
      · exact ⟨(clear id hid).1, fun old => (clear id hid).2 (List.mem_cons_of_mem _ old)⟩
      · exact (clear _ hid).2 List.mem_cons_self
    · let drawn := g.drawFresh (seen ++ all)
      obtain ⟨clear, distinct, reach, covered⟩ := ih (drawn.1 :: seen) drawn.2
      have step := g.drawFresh_reaches (seen ++ all)
      have unseen : drawn.1 ∉ seen := fun old =>
        g.drawFresh_not_mem (seen ++ all) (List.mem_append_left _ old)
      simp only [repairBlocks_of_spent new, List.map_cons, List.forall_mem_cons]
      refine ⟨⟨⟨g.drawFresh_isAssigned _, unseen⟩, fun id hid => ?_⟩,
        List.nodup_cons.2 ⟨fun hid => ?_, distinct⟩, step.trans reach,
        fun cover bounded => ⟨?_, ?_⟩⟩
      · exact ⟨(clear id hid).1, fun old => (clear id hid).2 (List.mem_cons_of_mem _ old)⟩
      · exact (clear _ hid).2 List.mem_cons_self
      · exact (drawFresh_covered g _ (Nat.le_trans reach.2 bounded)).mono reach
      · exact covered (fun b hb => (cover.2 b hb).mono step) bounded

theorem repairIds_identified (d : Document) (g : IdGenerator) : (d.repairIds g).1.Identified := by
  obtain ⟨clear, distinct, _⟩ := repairBlocks_ids d.ids [] d.blocks g
  exact ⟨fun id hid => (clear id hid).1, distinct⟩

end Document

namespace Mutation

def minted? (m : Mutation) (d : Document) (g : IdGenerator) : Option InstanceId :=
  match m with
  | .insertBlock _ => (m.apply d g).inserted
  | .duplicateBlock id => if (d.position? id).isSome then some (g.drawFresh d.ids).1 else none
  | _ => none

/-- A mutation either mints nothing and keeps the generator and, up to order, at most the ids there
are, or it adds to them the id that the generator draws. -/
theorem apply_ids (m : Mutation) (d : Document) (g : IdGenerator) :
    (m.minted? d g = none ∧ (m.apply d g).ids = g ∧ (m.apply d g).document.ids.Subperm d.ids) ∨
      (m.minted? d g = some (g.drawFresh d.ids).1 ∧ (m.apply d g).ids = (g.drawFresh d.ids).2 ∧
        (m.apply d g).document.ids.Perm ((g.drawFresh d.ids).1 :: d.ids)) := by
  cases m with
  | insertBlock kind =>
    refine .inr ⟨rfl, rfl, ?_⟩
    change (d.insert kind g).1.ids.Perm _
    rw [d.ids_insert kind g]
    exact List.perm_append_singleton _ _
  | updateBlock id block =>
    refine .inl ⟨rfl, rfl, ?_⟩
    change (d.update id block).ids.Subperm d.ids
    rw [d.ids_update id block]
  | moveBlock id direction => exact .inl ⟨rfl, rfl, (d.ids_move id direction).subperm⟩
  | removeBlock id => exact .inl ⟨rfl, rfl, (d.ids_remove id).subperm⟩
  | duplicateBlock id =>
    rcases d.duplicate_eq id g with ⟨same, missing⟩ | ⟨⟨i, found⟩, ids, perm⟩
    · exact .inl ⟨by simp [minted?, missing], by simp [apply, same],
        by simp [apply, same, List.Subperm.refl]⟩
    · exact .inr ⟨by simp [minted?, found], ids, perm⟩
  | updateSettings settings => exact .inl ⟨rfl, rfl, .refl _⟩

theorem apply_reaches (m : Mutation) (d : Document) (g : IdGenerator) :
    g.Reaches (m.apply d g).ids := by
  rcases m.apply_ids d g with ⟨_, same, _⟩ | ⟨_, drawn, _⟩
  · rw [same]
    exact .refl g
  · rw [drawn]
    exact g.drawFresh_reaches d.ids

theorem apply_identified (m : Mutation) {d : Document} (g : IdGenerator) (h : d.Identified) :
    (m.apply d g).document.Identified := by
  rcases m.apply_ids d g with ⟨_, _, sub⟩ | ⟨_, _, perm⟩
  · exact h.of_subperm sub
  · exact h.of_perm_cons perm (g.drawFresh_isAssigned _) (g.drawFresh_not_mem _)

theorem apply_covers (m : Mutation) {d : Document} {g : IdGenerator}
    (cover : ∀ id ∈ d.ids, g.Covers id) (bounded : (m.apply d g).ids.count ≤ counterLimit) :
    ∀ id ∈ (m.apply d g).document.ids, (m.apply d g).ids.Covers id := by
  intro id hid
  rcases m.apply_ids d g with ⟨_, same, sub⟩ | ⟨_, drawn, perm⟩
  · rw [same]
    exact cover id (sub.subset hid)
  · rw [drawn] at bounded ⊢
    rcases List.mem_cons.1 (perm.subset hid) with rfl | old
    · exact drawFresh_covered g d.ids bounded
    · exact (cover id old).mono (g.drawFresh_reaches d.ids)

theorem minted?_spec {m : Mutation} {d : Document} {g : IdGenerator} {id : InstanceId}
    (minted : m.minted? d g = some id) (bounded : (m.apply d g).ids.count ≤ counterLimit) :
    id ∈ (m.apply d g).document.ids ∧ ∀ other, g.Covers other → other ≠ id := by
  rcases m.apply_ids d g with ⟨none, _, _⟩ | ⟨same, drawn, perm⟩
  · rw [none] at minted
    cases minted
  · rw [same] at minted
    cases minted
    rw [drawn] at bounded
    exact ⟨perm.symm.subset List.mem_cons_self, fun _ cover => ne_drawFresh_of_covers cover bounded⟩

end Mutation
end PageBuilder
