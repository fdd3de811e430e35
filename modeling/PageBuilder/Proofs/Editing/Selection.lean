import PageBuilder.Proofs.Editing.Sessions

set_option autoImplicit false

namespace PageBuilder

namespace Mutation

theorem mem_apply_ids {m : Mutation} {d : Document} {id : InstanceId} (g : IdGenerator)
    (held : id ∈ d.ids) (stays : m ≠ .removeBlock id) : id ∈ (m.apply d g).document.ids := by
  cases m with
  | insertBlock kind =>
    change id ∈ (d.insert kind g).1.ids
    rw [d.ids_insert kind g]
    exact List.mem_append_left _ held
  | updateBlock other block =>
    change id ∈ (d.update other block).ids
    rwa [d.ids_update other block]
  | moveBlock other direction => exact (d.ids_move other direction).mem_iff.2 held
  | removeBlock other =>
    have different : id ≠ other := by
      rintro rfl
      exact stays rfl
    obtain ⟨block, inside, rfl⟩ := List.mem_map.1 held
    exact List.mem_map_of_mem (List.mem_filter.2 ⟨inside, decide_eq_true different⟩)
  | duplicateBlock other =>
    change id ∈ (d.duplicate other g).1.ids
    rcases d.duplicate_eq other g with ⟨same, _⟩ | ⟨_, _, perm⟩
    · rwa [same]
    · exact perm.mem_iff.2 (List.mem_cons_of_mem _ held)
  | updateSettings settings => exact held

end Mutation

namespace Session

theorem selected_apply (s : Session) (m : Mutation) :
    (s.apply m).1.selected = s.selectionAfter m (m.apply s.document s.ids).inserted :=
  congrArg (·.1.selected) (s.apply_eq m)

theorem selected_apply_of_keeps {s : Session} {m : Mutation}
    (inserts : ∀ kind, m ≠ .insertBlock kind)
    (removes : ∀ id, s.selected = some id → m ≠ .removeBlock id) :
    (s.apply m).1.selected = s.selected := by
  rw [selected_apply]
  cases m with
  | insertBlock kind => exact absurd rfl (inserts kind)
  | removeBlock id => exact if_neg fun selected => removes id selected rfl
  | updateBlock | moveBlock | duplicateBlock | updateSettings => rfl

theorem insert_spec (s : Session) (kind : BlockKind) :
    ∃ id, (s.insert kind).2 = some id ∧ (s.insert kind).1.selected = some id ∧
      (s.insert kind).1.document.blocks =
        s.document.blocks ++ [kind.template.withInstanceId id] := by
  have selected : (s.apply (.insertBlock kind)).1.selected =
      some (s.document.insert kind s.ids).2.1 := s.selected_apply _
  refine ⟨_, selected, selected, ?_⟩
  exact congrArg Document.blocks (s.document_apply (.insertBlock kind))

theorem selected_dropStaleSelection (s : Session) :
    s.dropStaleSelection.selected = s.selected.filter fun id => id ∈ s.document.ids := by
  unfold dropStaleSelection selectedBlock
  cases selected : s.selected with
  | none => simp
  | some id =>
    by_cases present : id ∈ s.document.ids
    · obtain ⟨block, got⟩ := Option.isSome_iff_exists.1 (Document.get?_isSome.2 present)
      simp [got, present, selected, Option.filter_some]
    · have missing : s.document.get? id = none := by
        rw [← Option.not_isSome_iff_eq_none, Document.get?_isSome]
        exact present
      simp [missing, present, Option.filter_some]

theorem selected_travel (s : Session) (history : Option (History Document)) :
    (s.travel history).1.selected =
      s.selected.filter fun id => id ∈ (s.travel history).1.document.ids := by
  have same : (s.travel history).1.document = (history.getD s.history).current :=
    congrArg History.current (dropStaleSelection_history _).1
  rw [same]
  exact selected_dropStaleSelection { s with history := history.getD s.history }

/-- The selection is a block of the document. -/
def Anchored (s : Session) : Prop := ∀ id, s.selected = some id → id ∈ s.document.ids

theorem anchored_of_filter {s t : Session}
    (cleared : t.selected = s.selected.filter fun id => id ∈ t.document.ids) : t.Anchored := by
  intro id selected
  rw [cleared, Option.filter_eq_some_iff] at selected
  simpa using selected.2

theorem apply_anchored {s : Session} (m : Mutation) (anchored : s.Anchored) :
    (s.apply m).1.Anchored := by
  intro id selected
  have kept : s.selected = some id → m ≠ .removeBlock id → id ∈ (s.apply m).1.document.ids := by
    intro held stays
    rw [document_apply]
    exact m.mem_apply_ids s.ids (anchored id held) stays
  cases m with
  | insertBlock kind =>
    obtain ⟨new, _, now, blocks⟩ := s.insert_spec kind
    cases now.symm.trans selected
    change id ∈ (s.insert kind).1.document.blocks.map Block.instanceId
    rw [blocks, List.map_append]
    exact List.mem_append_right _ (List.mem_singleton_self _)
  | removeBlock other =>
    rw [selected_apply] at selected
    change (if s.selected = some other then none else s.selected) = some id at selected
    split at selected
    · cases selected
    · rename_i different
      refine kept selected ?_
      rintro ⟨⟩
      exact different selected
  | updateBlock | moveBlock | duplicateBlock | updateSettings =>
    rw [selected_apply] at selected
    exact kept selected nofun

theorem perform_anchored {s : Session} (op : Operation) (anchored : s.Anchored) :
    (s.perform op).Anchored := by
  cases op with
  | apply m => exact apply_anchored m anchored
  | undo => exact anchored_of_filter (s.selected_travel s.history.undo?)
  | redo => exact anchored_of_filter (s.selected_travel s.history.redo?)
  | select id =>
    intro other selected
    have found := (Option.filter_eq_some_iff.1 selected).2
    exact Document.get?_isSome.1 found

theorem Reachable.anchored {s : Session} (reached : Reachable s) : s.Anchored := by
  induction reached with
  | start project g => exact nofun
  | perform op _ ih => exact perform_anchored op ih
  | prefer _ _ ih => exact ih
  | file _ _ ih => exact ih

/-- In a session that can be reached, the selection is none or a block of the document. An inserted
block stands last and is the selection, removing the selected block clears it, and undo and redo
clear it exactly if its block is not in the document they lead to. Nothing else that a mutation does
changes it. -/
theorem selection_never_dangles {s : Session} (reached : Reachable s) :
    (∀ id, s.selected = some id → ∃ block ∈ s.document.blocks, block.instanceId = id) ∧
      (∀ kind, ∃ id, (s.insert kind).2 = some id ∧ (s.insert kind).1.selected = some id ∧
        (s.insert kind).1.document.blocks =
          s.document.blocks ++ [kind.template.withInstanceId id]) ∧
      (∀ id, s.selected = some id → (s.apply (.removeBlock id)).1.selected = none) ∧
      (∀ m, (∀ kind, m ≠ .insertBlock kind) →
        (∀ id, s.selected = some id → m ≠ .removeBlock id) →
          (s.apply m).1.selected = s.selected) ∧
      (s.undo.1.selected = s.selected.filter fun id => id ∈ s.undo.1.document.ids) ∧
      s.redo.1.selected = s.selected.filter fun id => id ∈ s.redo.1.document.ids := by
  refine ⟨fun id selected => ?_, s.insert_spec, fun id selected => ?_,
    fun m => selected_apply_of_keeps, s.selected_travel _, s.selected_travel _⟩
  · exact List.mem_map.1 (reached.anchored id selected)
  · rw [selected_apply]
    exact if_pos selected

/-- The inserted block vanishes with its insertion and takes the selection with it; redoing brings
back the block alone. -/
theorem selection_cleared_by_undone_insert :
    let s := ((start repeatedIds (.ofSeed "a")).insert .text).1
    Reachable s ∧ s.selected = some ⟨"a-4"⟩ ∧
      (∃ block ∈ s.document.blocks, block.instanceId = ⟨"a-4"⟩) ∧
      s.undo.1.selected = none ∧ s.undo.1.redo.1.selected = none ∧
      (s.apply (.removeBlock ⟨"a-1"⟩)).1.selected = some ⟨"a-4"⟩ ∧
      (s.apply (.removeBlock ⟨"a-4"⟩)).1.selected = none := by
  intro s
  have reached : Reachable s := (Reachable.start repeatedIds (.ofSeed "a")).perform
    (.apply (.insertBlock .text))
  have selected : s.selected = some ⟨"a-4"⟩ := by decide +kernel
  obtain ⟨inside, _, removed, kept, undone, _⟩ := selection_never_dangles reached
  have cleared : s.undo.1.selected = none := by
    rw [undone, selected]
    decide +kernel
  obtain ⟨_, _, _, _, _, redone⟩ := selection_never_dangles (reached.perform .undo)
  change s.undo.1.redo.1.selected = _ at redone
  have others : ∀ id, s.selected = some id →
      Mutation.removeBlock ⟨"a-1"⟩ ≠ .removeBlock id := by
    rintro id now ⟨⟩
    exact absurd (selected.symm.trans now) (by decide)
  refine ⟨reached, selected, inside _ selected, cleared, ?_, ?_, removed _ selected⟩
  · rw [redone]
    change s.undo.1.selected.filter _ = none
    rw [cleared]
    rfl
  · rw [kept (.removeBlock ⟨"a-1"⟩) nofun others, selected]

end Session
end PageBuilder
