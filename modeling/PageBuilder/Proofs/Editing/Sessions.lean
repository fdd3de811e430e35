import PageBuilder.Proofs.Editing.Effects
import PageBuilder.Proofs.Editing.Timeline
import PageBuilder.Proofs.Identity.Session

set_option autoImplicit false

namespace PageBuilder

namespace History

variable {α : Type} [DecidableEq α]

theorem undo?_of_commit? {h k : History α} {x : α} (commit : h.commit? x = some k) :
    ∃ j, k.undo? = some j ∧ j.current = h.current ∧ j.redo? = some k := by
  obtain ⟨past, kept⟩ : ∃ past, trim h.limit (h.current :: h.past) = h.current :: past := by
    unfold trim
    split
    · exact ⟨h.past, rfl⟩
    · rename_i bounded
      obtain ⟨n, positive⟩ := Nat.exists_eq_succ_of_ne_zero bounded
      exact ⟨h.past.take n, by rw [positive, List.take_succ_cons]⟩
  obtain ⟨_, made⟩ := commit?_eq_some.1 commit
  have undo : k.undo? = some { h with past, future := [x] } := by
    rw [made]
    exact undo?_eq_some.2 ⟨h.current, past, kept, rfl⟩
  exact ⟨_, undo, rfl, redo?_of_undo? undo⟩

end History

namespace Session

/-- A session as it can come about: preferences and the file may be set at any time. -/
inductive Reachable : Session → Prop
  | start (project : Project) (g : IdGenerator) : Reachable (start project g)
  | perform {s : Session} (op : Operation) : Reachable s → Reachable (s.perform op)
  | prefer {s : Session} (preferences : Preferences) :
      Reachable s → Reachable { s with preferences }
  | file {s : Session} (path : Option Path) : Reachable s → Reachable { s with path }

theorem Reachable.run {s : Session} (reached : Reachable s) (ops : List Operation) :
    Reachable (s.run ops) := by
  induction ops generalizing s with
  | nil => exact reached
  | cons op ops ih => exact ih (reached.perform op)

/-- An operation adds to the documents of a session at most what a mutation makes of the current
one. -/
theorem snapshots_perform {s : Session} {op : Operation} {d : Document}
    (held : d ∈ (s.perform op).history.snapshots) :
    d ∈ s.history.snapshots ∨
      ∃ m, op = .apply m ∧ d = (m.apply s.document s.ids).document := by
  cases op with
  | apply m =>
    change d ∈ (s.apply m).1.history.snapshots at held
    rw [history_apply] at held
    cases commit : s.history.commit? (m.apply s.document s.ids).document with
    | none => exact .inl (by rwa [commit] at held)
    | some history =>
      rw [commit] at held
      exact (History.snapshots_commit? commit held).symm.imp_right fun same => ⟨m, rfl, same⟩
  | undo =>
    change d ∈ (dropStaleSelection _).history.snapshots at held
    rw [(dropStaleSelection_history _).1] at held
    cases undo : s.history.undo? with
    | none => exact .inl (by rwa [undo] at held)
    | some history => exact .inl (History.snapshots_undo? undo (by rwa [undo] at held))
  | redo =>
    change d ∈ (dropStaleSelection _).history.snapshots at held
    rw [(dropStaleSelection_history _).1] at held
    cases redo : s.history.redo? with
    | none => exact .inl (by rwa [redo] at held)
    | some history => exact .inl (History.snapshots_redo? redo (by rwa [redo] at held))
  | select id => exact .inl held

theorem Reachable.identified {s : Session} (reached : Reachable s) :
    ∀ d ∈ s.history.snapshots, d.Identified := by
  induction reached with
  | start project g =>
    intro d held
    rw [List.mem_singleton.1 held]
    exact project.document.repairIds_identified _
  | @perform s op _ ih =>
    intro d held
    rcases snapshots_perform held with old | ⟨m, _, rfl⟩
    · exact ih d old
    · exact m.apply_identified s.ids (ih _ s.history.current_mem_snapshots)
  | prefer _ _ ih => exact ih
  | file _ _ ih => exact ih

theorem changed_apply (s : Session) (m : Mutation) :
    (s.apply m).2 = (s.history.commit? (m.apply s.document s.ids).document).isSome :=
  congrArg Prod.snd (s.apply_eq m)

theorem changed_apply_iff (s : Session) (m : Mutation) :
    (s.apply m).2 = true ↔ (m.apply s.document s.ids).document ≠ s.document := by
  rw [changed_apply, Option.isSome_iff_ne_none, Ne, History.commit?_eq_none]
  rfl

/-- What a mutation makes of the document is the document afterwards, changed or not. -/
theorem document_apply (s : Session) (m : Mutation) :
    (s.apply m).1.document = (m.apply s.document s.ids).document := by
  rw [document, history_apply]
  cases commit : s.history.commit? (m.apply s.document s.ids).document with
  | none => exact (History.commit?_eq_none.1 commit).symm
  | some history =>
    obtain ⟨_, rfl⟩ := History.commit?_eq_some.1 commit
    rfl

theorem history_of_unchanged {s : Session} {m : Mutation} (unchanged : (s.apply m).2 = false) :
    (s.apply m).1.history = s.history := by
  rw [changed_apply] at unchanged
  rw [history_apply, Option.not_isSome_iff_eq_none.1 (ne_true_of_eq_false unchanged)]
  rfl

theorem travel_some (s : Session) (history : History Document) :
    (s.travel (some history)).2 = true ∧ (s.travel (some history)).1.history = history :=
  ⟨rfl, (dropStaleSelection_history _).1⟩

theorem undo_apply {s : Session} {m : Mutation} (changed : (s.apply m).2 = true) :
    let t := (s.apply m).1
    t.undo.2 = true ∧ t.undo.1.document = s.document ∧
      t.undo.1.redo.2 = true ∧ t.undo.1.redo.1.document = t.document := by
  intro t
  rw [changed_apply] at changed
  obtain ⟨k, commit⟩ := Option.isSome_iff_exists.1 changed
  have now : t.history = k := by
    rw [history_apply, commit]
    rfl
  obtain ⟨j, undo, before, redo⟩ := History.undo?_of_commit? commit
  obtain ⟨undone, earlier⟩ := t.travel_some j
  have undo_eq : t.undo = t.travel (some j) := by rw [Session.undo, now, undo]
  obtain ⟨redone, later⟩ := t.undo.1.travel_some k
  have redo_eq : t.undo.1.redo = t.undo.1.travel (some k) := by
    rw [Session.redo, undo_eq, earlier, redo]
  refine ⟨?_, ?_, ?_, ?_⟩
  · rw [undo_eq]
    exact undone
  · rw [document, undo_eq, earlier]
    exact before
  · rw [redo_eq]
    exact redone
  · rw [document, redo_eq, later, document, now]

/-- In a session that can be reached, a mutation answers that it changed the document exactly if it
did, and else the history stays as it is. One that fails its check changes nothing and mints no id.
One that passes changes the document, unless it puts back a block or settings that are there. A
change is undone by one undo, and redone by one redo. -/
theorem apply_agrees_with_check {s : Session} (reached : Reachable s) (m : Mutation) :
    ((s.apply m).2 = true ↔ (s.apply m).1.document ≠ s.document) ∧
      ((s.apply m).2 = false → (s.apply m).1.history = s.history) ∧
      (∀ e, m.check s.document = .error e → (s.apply m).2 = false ∧ (s.apply m).1.ids = s.ids) ∧
      (m.check s.document = .ok () → ((s.apply m).2 = true ↔ m.Alters s.document)) ∧
      ((s.apply m).2 = true →
        let t := (s.apply m).1
        t.undo.2 = true ∧ t.undo.1.document = s.document ∧
          t.undo.1.redo.2 = true ∧ t.undo.1.redo.1.document = t.document) := by
  have identified : s.document.Identified := reached.identified _ s.history.current_mem_snapshots
  refine ⟨?_, history_of_unchanged, fun e failed => ⟨?_, ?_⟩, fun passed => ?_, undo_apply⟩
  · rw [document_apply]
    exact changed_apply_iff s m
  · rw [← Bool.not_eq_true, changed_apply_iff, not_not, Mutation.apply_of_check_error s.ids failed]
  · rw [ids_apply, Mutation.apply_of_check_error s.ids failed]
  · rw [changed_apply_iff]
    exact Mutation.apply_ne_iff s.ids identified passed

/-- After an undone insertion, moving the first block down passes and is undone, moving it up
fails. -/
theorem apply_agrees_after_undone_insert :
    let s := (start repeatedIds (.ofSeed "a")).run undoneInsert
    let down : Mutation := .moveBlock ⟨"a-1"⟩ .down
    let up : Mutation := .moveBlock ⟨"a-1"⟩ .up
    Reachable s ∧ down.check s.document = .ok () ∧ (s.apply down).2 = true ∧
      (s.apply down).1.undo.1.document = s.document ∧
      up.check s.document = .error (.atBoundary ⟨"a-1"⟩) ∧ (s.apply up).2 = false := by
  intro s down up
  have reached : Reachable s := (Reachable.start repeatedIds (.ofSeed "a")).run undoneInsert
  have passed : down.check s.document = .ok () := by decide +kernel
  have failed : up.check s.document = .error (.atBoundary ⟨"a-1"⟩) := by decide +kernel
  obtain ⟨_, _, _, alters, undone⟩ := apply_agrees_with_check reached down
  have changed : (s.apply down).2 = true := (alters passed).2 trivial
  obtain ⟨_, _, unchanged, _⟩ := apply_agrees_with_check reached up
  exact ⟨reached, passed, changed, (undone changed).2.1, failed, (unchanged _ failed).1⟩

end Session
end PageBuilder
