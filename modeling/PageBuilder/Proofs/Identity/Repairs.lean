import PageBuilder.Proofs.Identity.Document

set_option autoImplicit false

namespace PageBuilder

namespace Document

/-- The blocks after are those before, under other ids where an id was unassigned or repeated. -/
structure Repaired (before after : List Block) : Prop where
  same : List.Forall₂ (fun a b => b = a.withInstanceId b.instanceId) before after
  kept : ∀ (i : Nat) (a : Block), before[i]? = some a → a.instanceId.isAssigned →
    a.instanceId ∉ (before.take i).map Block.instanceId → after[i]? = some a

theorem Repaired.exists_mem {before after : List Block} (repaired : Repaired before after)
    {b : Block} (mem : b ∈ after) : ∃ a ∈ before, b = a.withInstanceId b.instanceId := by
  obtain ⟨i, bound, rfl⟩ := List.mem_iff_getElem.1 mem
  have inside : i < before.length := repaired.same.length_eq ▸ bound
  exact ⟨before[i], List.getElem_mem inside, repaired.same.get inside bound⟩

theorem Repaired.eq {before after : List Block} (repaired : Repaired before after)
    (assigned : ∀ a ∈ before, a.instanceId.isAssigned)
    (distinct : (before.map Block.instanceId).Nodup) : after = before := by
  refine List.ext_getElem? fun i => ?_
  cases held : before[i]? with
  | none =>
    have length := repaired.same.length_eq
    have beyond := List.getElem?_eq_none_iff.1 held
    exact List.getElem?_eq_none (length ▸ beyond)
  | some a =>
    obtain ⟨bound, rfl⟩ := List.getElem?_eq_some_iff.1 held
    refine repaired.kept i _ held (assigned _ (List.getElem_mem bound)) fun earlier => ?_
    obtain ⟨b, mem, same⟩ := List.mem_map.1 earlier
    obtain ⟨j, lt, rfl⟩ := List.mem_take_iff_getElem.1 mem
    have apart := List.pairwise_iff_getElem.1 (List.pairwise_map.1 distinct)
    exact apart j i (by omega) bound (by omega) same

theorem repairBlocks_same (all seen : List InstanceId) (blocks : List Block) (g : IdGenerator) :
    List.Forall₂ (fun a b => b = a.withInstanceId b.instanceId) blocks
      (repairBlocks all seen blocks g).1 := by
  induction blocks generalizing seen g with
  | nil => exact .nil
  | cons block rest ih =>
    rw [repairBlocks]
    split
    · exact .cons rfl (ih _ _)
    · exact .cons rfl (ih _ _)

/-- A drawn id is none of the ids of the document, so it takes no later block its own. -/
theorem repairBlocks_kept {all seen : List InstanceId} {blocks : List Block} (g : IdGenerator)
    (inside : ∀ b ∈ blocks, b.instanceId ∈ all) {i : Nat} {a : Block} (held : blocks[i]? = some a)
    (assigned : a.instanceId.isAssigned) (new : a.instanceId ∉ seen)
    (first : a.instanceId ∉ (blocks.take i).map Block.instanceId) :
    (repairBlocks all seen blocks g).1[i]? = some a := by
  induction blocks generalizing seen g i with
  | nil => cases held
  | cons block rest ih =>
    obtain ⟨_, others⟩ := List.forall_mem_cons.1 inside
    cases i with
    | zero =>
      obtain rfl := Option.some.inj held
      rw [repairBlocks_of_new ⟨assigned, new⟩]
      rfl
    | succ i =>
      obtain ⟨other, later⟩ := List.ne_and_not_mem_of_not_mem_cons first
      have mem : a ∈ rest := List.mem_of_getElem? held
      rw [repairBlocks]
      split
      · exact ih g others held (List.not_mem_cons_of_ne_of_not_mem other new) later
      · refine ih _ others held (List.not_mem_cons_of_ne_of_not_mem (fun drawn => ?_) new) later
        have taken : (g.drawFresh (seen ++ all)).1 ∈ all := drawn ▸ others a mem
        exact g.drawFresh_not_mem (seen ++ all) (List.mem_append_right _ taken)

theorem repairIds_repaired (d : Document) (g : IdGenerator) :
    Repaired d.blocks (d.repairIds g).1.blocks where
  same := repairBlocks_same d.ids [] d.blocks g
  kept _ _ held assigned first :=
    repairBlocks_kept g (fun _ => List.mem_map_of_mem) held assigned List.not_mem_nil first

theorem repairBlocks_of_distinct {all seen : List InstanceId} {blocks : List Block}
    (g : IdGenerator) (assigned : ∀ b ∈ blocks, b.instanceId.isAssigned)
    (distinct : (blocks.map Block.instanceId).Nodup)
    (new : ∀ b ∈ blocks, b.instanceId ∉ seen) :
    repairBlocks all seen blocks g = (blocks, g) := by
  induction blocks generalizing seen with
  | nil => rfl
  | cons block rest ih =>
    obtain ⟨here, others⟩ := List.forall_mem_cons.1 assigned
    obtain ⟨fresh, clear⟩ := List.forall_mem_cons.1 new
    obtain ⟨single, distinct⟩ := List.nodup_cons.1 distinct
    rw [repairBlocks_of_new ⟨here, fresh⟩, ih others distinct]
    intro b mem old
    rcases List.mem_cons.1 old with same | earlier
    · exact single (same ▸ List.mem_map_of_mem mem)
    · exact clear b mem earlier

theorem Identified.repairIds {d : Document} (identified : d.Identified) (g : IdGenerator) :
    d.repairIds g = (d, g) := by
  have same : repairBlocks d.ids [] d.blocks g = (d.blocks, g) :=
    repairBlocks_of_distinct g
      (fun _ mem => identified.assigned _ (List.mem_map_of_mem mem)) identified.distinct
      fun _ _ => List.not_mem_nil
  rw [Document.repairIds, same]

/-- A block whose id is unassigned, seen before or held by an earlier block gets one that the
document does not hold. -/
theorem repairBlocks_fresh {all seen : List InstanceId} {blocks : List Block} (g : IdGenerator)
    {i : Nat} {a b : Block} (before : blocks[i]? = some a)
    (after : (repairBlocks all seen blocks g).1[i]? = some b)
    (spent : a.instanceId.isAssigned → a.instanceId ∉ seen →
      a.instanceId ∈ (blocks.take i).map Block.instanceId) : b.instanceId ∉ all := by
  induction blocks generalizing seen g i with
  | nil => cases before
  | cons block rest ih =>
    by_cases first : block.instanceId.isAssigned ∧ block.instanceId ∉ seen
    · rw [repairBlocks_of_new first] at after
      cases i with
      | zero =>
        cases before
        exact absurd (spent first.1 first.2) List.not_mem_nil
      | succ i =>
        refine ih g before after fun assigned new => ?_
        obtain ⟨other, new⟩ := List.ne_and_not_mem_of_not_mem_cons new
        exact (List.mem_cons.1 (spent assigned new)).resolve_left other
    · rw [repairBlocks_of_spent first] at after
      cases i with
      | zero =>
        cases after
        exact fun old => g.drawFresh_not_mem _ (List.mem_append_right _ old)
      | succ i =>
        refine ih _ before after fun assigned new => ?_
        have unseen := List.not_mem_of_not_mem_cons new
        refine (List.mem_cons.1 (spent assigned unseen)).resolve_left fun same => first ?_
        exact same ▸ ⟨assigned, unseen⟩

/--
Repair is minimal, complete and done once. Every block stays where it is and keeps all but its id,
and the settings are kept. The first block with an assigned id keeps it; any other block gets an id
that stood nowhere in the document. Afterwards the ids are assigned and distinct, so repairing again
changes nothing, and where they were so before the generator draws nothing.
-/
theorem repairIds_replaces_least (d : Document) (g : IdGenerator) :
    let repaired := (d.repairIds g).1
    repaired.settings = d.settings ∧ repaired.blocks.length = d.blocks.length ∧
      (∀ (i : Nat) (a b : Block), d.blocks[i]? = some a → repaired.blocks[i]? = some b →
        b = a.withInstanceId b.instanceId ∧
          if a.instanceId.isAssigned ∧ a.instanceId ∉ d.ids.take i then b = a
          else b.instanceId ∉ d.ids) ∧
      repaired.Identified ∧ (d.Identified → d.repairIds g = (d, g)) ∧
      ∀ h : IdGenerator, repaired.repairIds h = (repaired, h) := by
  intro repaired
  have identified : repaired.Identified := d.repairIds_identified g
  obtain ⟨same, kept⟩ := d.repairIds_repaired g
  refine ⟨rfl, same.length_eq.symm, fun i a b before after => ⟨?_, ?_⟩, identified,
    fun already => already.repairIds g, fun h => identified.repairIds h⟩
  · obtain ⟨inBefore, rfl⟩ := List.getElem?_eq_some_iff.1 before
    obtain ⟨inAfter, rfl⟩ := List.getElem?_eq_some_iff.1 after
    exact same.get inBefore inAfter
  · rw [ids, ← List.map_take]
    split
    · rename_i first
      exact Option.some.inj (after.symm.trans (kept i a before first.1 first.2))
    · rename_i later
      refine repairBlocks_fresh g before after fun assigned _ => ?_
      by_contra first
      exact later ⟨assigned, first⟩

/-- Two blocks without an id and one with a repeated id, before and after ids that are the first of
the generator. -/
def mixedIds : Document where
  blocks := [⟨""⟩, ⟨"a-2"⟩, ⟨"a-2"⟩, ⟨"a-1"⟩, ⟨""⟩].map BlockKind.text.template.withInstanceId

theorem mixedIds_repaired :
    let repaired := (mixedIds.repairIds (.ofSeed "a")).1
    repaired.ids = [⟨"a-3"⟩, ⟨"a-2"⟩, ⟨"a-4"⟩, ⟨"a-1"⟩, ⟨"a-5"⟩] ∧ repaired.Identified ∧
      repaired.repairIds (.ofSeed "a") = (repaired, .ofSeed "a") := by
  obtain ⟨_, _, _, identified, _, again⟩ := repairIds_replaces_least mixedIds (.ofSeed "a")
  exact ⟨by decide +kernel, identified, again _⟩

end Document
end PageBuilder
