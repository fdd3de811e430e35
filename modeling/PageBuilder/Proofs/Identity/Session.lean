import PageBuilder.Proofs.Editing.Timeline
import PageBuilder.Proofs.Identity.Document
import PageBuilder.Session

set_option autoImplicit false

/-!
# Ids over a session

Every document that the history of a session holds, undone ones included, is identified, and the
generator of the session covers its ids. An id that the session mints is therefore in no document
that the session held before, also in none that a commit has dropped since.
-/

namespace PageBuilder

open IdGenerator (counterLimit Reaches)

namespace History

variable {α : Type}

def snapshots (h : History α) : List α := h.past ++ h.current :: h.future

theorem mem_snapshots {h : History α} {x : α} :
    x ∈ h.snapshots ↔ x ∈ h.past ∨ x = h.current ∨ x ∈ h.future := by
  rw [snapshots, List.mem_append, List.mem_cons]

theorem current_mem_snapshots (h : History α) : h.current ∈ h.snapshots :=
  mem_snapshots.2 (.inr (.inl rfl))

theorem snapshots_commit? [DecidableEq α] {h k : History α} {x y : α}
    (commit : h.commit? x = some k) (hy : y ∈ k.snapshots) : y = x ∨ y ∈ h.snapshots := by
  obtain ⟨_, rfl⟩ := commit?_eq_some.1 commit
  rcases mem_snapshots.1 hy with past | same | future
  · rcases List.mem_cons.1 ((trim_isPrefix _ _).subset past) with rfl | older
    · exact .inr h.current_mem_snapshots
    · exact .inr (mem_snapshots.2 (.inl older))
  · exact .inl same
  · cases future

theorem snapshots_undo? {h k : History α} {x : α} (undo : h.undo? = some k)
    (hx : x ∈ k.snapshots) : x ∈ h.snapshots := by
  obtain ⟨y, past, full, rfl⟩ := undo?_eq_some.1 undo
  simp only [mem_snapshots, full, List.mem_cons] at hx ⊢
  tauto

theorem snapshots_redo? {h k : History α} {x : α} (redo : h.redo? = some k)
    (hx : x ∈ k.snapshots) : x ∈ h.snapshots := by
  obtain ⟨y, future, full, rfl⟩ := redo?_eq_some.1 redo
  simp only [mem_snapshots, full, List.mem_cons] at hx ⊢
  tauto

end History

namespace Session

inductive Operation where
  | apply (m : Mutation)
  | undo
  | redo
  | select (id : Option InstanceId)
deriving DecidableEq

def perform (s : Session) : Operation → Session
  | .apply m => (s.apply m).1
  | .undo => s.undo.1
  | .redo => s.redo.1
  | .select id => s.select id

def run (s : Session) (ops : List Operation) : Session := ops.foldl perform s

theorem run_append (s : Session) (before after : List Operation) :
    s.run (before ++ after) = (s.run before).run after := List.foldl_append

def minted? (s : Session) : Operation → Option InstanceId
  | .apply m => m.minted? s.document s.ids
  | _ => none

def mintedBy (s : Session) : List Operation → List InstanceId
  | [] => []
  | op :: rest => (s.minted? op).toList ++ (s.perform op).mintedBy rest

/-- What the history holds is identified, and its ids are behind the counter. -/
structure Traced (s : Session) : Prop where
  identified : ∀ d ∈ s.history.snapshots, d.Identified
  covered : ∀ d ∈ s.history.snapshots, ∀ id ∈ d.ids, s.ids.Covers id

theorem Traced.advance {s t : Session} (h : s.Traced) (reach : s.ids.Reaches t.ids)
    (held : ∀ d ∈ t.history.snapshots,
      d ∈ s.history.snapshots ∨ d.Identified ∧ ∀ id ∈ d.ids, t.ids.Covers id) : t.Traced where
  identified d hd := by
    rcases held d hd with old | new
    · exact h.identified d old
    · exact new.1
  covered d hd := by
    rcases held d hd with old | new
    · exact fun id hid => (h.covered d old id hid).mono reach
    · exact new.2

theorem start_traced (project : Project) (g : IdGenerator)
    (bounded : (start project g).ids.count ≤ counterLimit) : (start project g).Traced := by
  let d := project.document
  obtain ⟨_, _, _, covered⟩ := Document.repairBlocks_ids d.ids [] d.blocks (g.resume d.ids)
  have initial : (start project g).history.snapshots = [(d.repairIds (g.resume d.ids)).1] := rfl
  refine ⟨fun e he => ?_, fun e he => ?_⟩ <;> rw [initial, List.mem_singleton] at he <;> subst e
  · exact d.repairIds_identified _
  · refine covered (fun block hblock => ?_) bounded
    exact IdGenerator.resume_covers (List.mem_map_of_mem hblock) g

theorem apply_eq (s : Session) (m : Mutation) :
    let outcome := m.apply s.document s.ids
    let commit := s.history.commit? outcome.document
    s.apply m =
      ({ s with
        history := commit.getD s.history
        ids := outcome.ids
        selected := s.selectionAfter m outcome.inserted }, commit.isSome) := by
  unfold apply
  dsimp only
  split <;> rename_i commit <;> rw [commit] <;> rfl

theorem ids_apply (s : Session) (m : Mutation) :
    (s.apply m).1.ids = (m.apply s.document s.ids).ids :=
  congrArg (·.1.ids) (s.apply_eq m)

theorem history_apply (s : Session) (m : Mutation) :
    (s.apply m).1.history =
      (s.history.commit? (m.apply s.document s.ids).document).getD s.history :=
  congrArg (·.1.history) (s.apply_eq m)

theorem apply_traced {s : Session} (m : Mutation) (h : s.Traced)
    (bounded : (s.apply m).1.ids.count ≤ counterLimit) : (s.apply m).1.Traced := by
  have now := s.history.current_mem_snapshots
  rw [ids_apply] at bounded
  refine h.advance ?_ fun d hd => ?_
  · rw [ids_apply]
    exact m.apply_reaches s.document s.ids
  · rw [history_apply] at hd
    cases commit : s.history.commit? (m.apply s.document s.ids).document with
    | none => exact .inl (by rwa [commit] at hd)
    | some history =>
      rw [commit] at hd
      rcases History.snapshots_commit? commit hd with rfl | old
      · rw [ids_apply]
        exact .inr ⟨m.apply_identified s.ids (h.identified _ now),
          m.apply_covers (h.covered _ now) bounded⟩
      · exact .inl old

theorem dropStaleSelection_history (s : Session) :
    s.dropStaleSelection.history = s.history ∧ s.dropStaleSelection.ids = s.ids := by
  unfold dropStaleSelection
  split <;> exact ⟨rfl, rfl⟩

theorem travel_traced {s : Session} {history : Option (History Document)} (h : s.Traced)
    (held : ∀ k, history = some k → ∀ d ∈ k.snapshots, d ∈ s.history.snapshots) :
    (s.travel history).1.Traced := by
  obtain ⟨sameHistory, sameIds⟩ :=
    dropStaleSelection_history { s with history := history.getD s.history }
  refine h.advance ⟨congrArg _ sameIds, Nat.le_of_eq (congrArg _ sameIds.symm)⟩ fun d hd => .inl ?_
  change d ∈ (dropStaleSelection _).history.snapshots at hd
  rw [sameHistory] at hd
  cases history with
  | none => exact hd
  | some k => exact held k rfl d hd

theorem perform_traced {s : Session} (op : Operation) (h : s.Traced)
    (bounded : (s.perform op).ids.count ≤ counterLimit) : (s.perform op).Traced := by
  cases op with
  | apply m => exact apply_traced m h bounded
  | undo => exact travel_traced h fun k undo d hd => History.snapshots_undo? undo hd
  | redo => exact travel_traced h fun k redo d hd => History.snapshots_redo? redo hd
  | select id => exact h.advance (.refl _) fun d hd => .inl hd

theorem perform_reaches (s : Session) (op : Operation) : s.ids.Reaches (s.perform op).ids := by
  cases op with
  | apply m =>
    change s.ids.Reaches (s.apply m).1.ids
    rw [ids_apply]
    exact m.apply_reaches s.document s.ids
  | undo | redo =>
    change s.ids.Reaches (dropStaleSelection _).ids
    rw [(dropStaleSelection_history _).2]
    exact .refl _
  | select id => exact .refl _

theorem run_reaches (ops : List Operation) (s : Session) : s.ids.Reaches (s.run ops).ids := by
  induction ops generalizing s with
  | nil => exact .refl _
  | cons op ops ih => exact (s.perform_reaches op).trans (ih (s.perform op))

theorem run_traced {s : Session} (ops : List Operation) (h : s.Traced)
    (bounded : (s.run ops).ids.count ≤ counterLimit) : (s.run ops).Traced := by
  induction ops generalizing s with
  | nil => exact h
  | cons op ops ih =>
    have step := Nat.le_trans (run_reaches ops (s.perform op)).2 bounded
    exact ih (perform_traced op h step) bounded

theorem minted?_spec {s : Session} {op : Operation} {id : InstanceId}
    (minted : s.minted? op = some id)
    (bounded : (s.perform op).ids.count ≤ counterLimit) :
    id ∈ (s.perform op).document.ids ∧ ∀ other, s.ids.Covers other → other ≠ id := by
  cases op with
  | apply m =>
    change (s.apply m).1.ids.count ≤ counterLimit at bounded
    rw [ids_apply] at bounded
    obtain ⟨mem, fresh⟩ := Mutation.minted?_spec minted bounded
    refine ⟨?_, fresh⟩
    change id ∈ (s.apply m).1.history.current.ids
    rw [history_apply]
    unfold History.commit?
    split
    · rename_i same
      exact same ▸ mem
    · exact mem
  | undo | redo | select _ => cases minted

theorem mintedBy_covered {s : Session} (ops : List Operation) (h : s.Traced)
    (bounded : (s.run ops).ids.count ≤ counterLimit) :
    ∀ id ∈ s.mintedBy ops, (s.run ops).ids.Covers id := by
  induction ops generalizing s with
  | nil => simp [mintedBy]
  | cons op ops ih =>
    intro id hid
    have step := Nat.le_trans (run_reaches ops (s.perform op)).2 bounded
    have next := perform_traced op h step
    rcases List.mem_append.1 hid with now | later
    · have mem := (minted?_spec (Option.mem_toList.1 now) step).1
      have cover := next.covered _ (History.current_mem_snapshots _) id mem
      exact cover.mono (run_reaches ops (s.perform op))
    · exact ih next bounded id later

/-- While the counter stays within its limit, the ids of every document that a session ever holds
are assigned and distinct, and a minted id is none that the session has held or minted before. -/
theorem ids_unique_over_session (project : Project) (g : IdGenerator) (ops : List Operation)
    (bounded : ((start project g).run ops).ids.count ≤ counterLimit) :
    (∀ earlier, earlier <+: ops →
      ∀ d ∈ ((start project g).run earlier).history.snapshots, d.Identified) ∧
    ∀ before op after id, ops = before ++ op :: after →
      ((start project g).run before).minted? op = some id →
        id ∈ ((start project g).run (before ++ [op])).document.ids ∧
        (∀ earlier, earlier <+: before →
          ∀ d ∈ ((start project g).run earlier).history.snapshots, id ∉ d.ids) ∧
        id ∉ (start project g).mintedBy before := by
  have within : ∀ earlier, earlier <+: ops →
      ((start project g).run earlier).ids.count ≤ counterLimit := by
    rintro earlier ⟨later, rfl⟩
    rw [run_append] at bounded
    exact Nat.le_trans (run_reaches later _).2 bounded
  have initial : (start project g).Traced := start_traced project g (within [] List.nil_prefix)
  refine ⟨fun earlier he => (run_traced earlier initial (within earlier he)).identified, ?_⟩
  rintro before op after id rfl minted
  have boundedBefore := within before ⟨op :: after, rfl⟩
  have boundedAfter := within (before ++ [op]) ⟨after, by simp⟩
  rw [run_append] at boundedAfter ⊢
  obtain ⟨mem, fresh⟩ := minted?_spec minted boundedAfter
  refine ⟨mem, ?_, fun old => fresh id (mintedBy_covered before initial boundedBefore id old) rfl⟩
  rintro earlier ⟨later, rfl⟩ d hd old
  have traced := run_traced earlier initial (within earlier ⟨later ++ op :: after, by simp⟩)
  rw [run_append] at fresh
  exact fresh id ((traced.covered d hd id old).mono (run_reaches later _)) rfl

def repeatedIds : Project where
  document :=
    { blocks := [BlockKind.text.template.withInstanceId ⟨"a-1"⟩,
        BlockKind.text.template.withInstanceId ⟨"a-1"⟩, BlockKind.divider.template] }

def undoneInsert : List Operation := [.apply (.insertBlock .text), .undo]

def duplication : Operation := .apply (.duplicateBlock ⟨"a-1"⟩)

theorem ids_unique_after_undone_insert :
    let s := start repeatedIds (.ofSeed "a")
    (s.run (undoneInsert ++ [duplication])).ids.count ≤ counterLimit ∧
      (s.run undoneInsert).minted? duplication = some ⟨"a-5"⟩ ∧
        s.mintedBy undoneInsert = [⟨"a-4"⟩] ∧
          (∀ d ∈ (s.run (undoneInsert ++ [duplication])).history.snapshots, d.Identified) ∧
            ∀ d ∈ (s.run undoneInsert).history.snapshots, ⟨"a-5"⟩ ∉ d.ids := by
  have bounded : ((start repeatedIds (.ofSeed "a")).run (undoneInsert ++ [duplication])).ids.count ≤
      counterLimit := by decide +kernel
  have minted : ((start repeatedIds (.ofSeed "a")).run undoneInsert).minted? duplication =
      some ⟨"a-5"⟩ := by decide +kernel
  obtain ⟨identified, fresh⟩ := ids_unique_over_session repeatedIds (.ofSeed "a") _ bounded
  refine ⟨bounded, minted, by decide +kernel, identified _ List.prefix_rfl, ?_⟩
  exact (fresh undoneInsert duplication [] _ rfl minted).2.1 _ List.prefix_rfl

end Session
end PageBuilder
