import Mathlib.Data.List.Chain
import PageBuilder.History

set_option autoImplicit false

/-!
# Histories as timelines

The two stacks of a history without a bound, laid out around the current value, are one line of
values with a cursor. Every operation is a simple one on that line, neighbours on it differ, and
undone steps come back by redoing as many.
-/

namespace PageBuilder

/-- The state after operations, and what each of them answered. -/
def replay {σ ι : Type} (step : σ → ι → σ × Bool) : σ → List ι → σ × List Bool
  | s, [] => (s, [])
  | s, op :: ops =>
    ((replay step (step s op).1 ops).1, (step s op).2 :: (replay step (step s op).1 ops).2)

theorem replay_append {σ ι : Type} (step : σ → ι → σ × Bool) (s : σ) (before after : List ι) :
    replay step s (before ++ after) =
      ((replay step (replay step s before).1 after).1,
        (replay step s before).2 ++ (replay step (replay step s before).1 after).2) := by
  induction before generalizing s with
  | nil => rfl
  | cons op before ih =>
    rw [List.cons_append, replay, replay, ih]
    rfl

theorem replay_keeps {σ ι : Type} {step : σ → ι → σ × Bool} {p : σ → Prop}
    (kept : ∀ s op, p s → p (step s op).1) {s : σ} (start : p s) (ops : List ι) :
    p (replay step s ops).1 := by
  induction ops generalizing s with
  | nil => exact start
  | cons op ops ih => exact ih (kept s op start)

/-- Values in the order of time, and the position of the current one. -/
structure Timeline (α : Type) where
  entries : List α
  cursor : Nat
deriving DecidableEq

namespace History

inductive Operation (α : Type) where
  | commit (x : α)
  | undo
  | redo
  | clear
  | reset (x : α)

end History

variable {α : Type}

namespace Timeline

def start (x : α) : Timeline α := ⟨[x], 0⟩

def current? (t : Timeline α) : Option α := t.entries[t.cursor]?

/-- A commit cuts the line after the cursor, appends the value and moves onto it, unless the value
is the current one. Undo and redo move the cursor by one if there is an entry on that side. -/
def perform [DecidableEq α] (t : Timeline α) : History.Operation α → Timeline α × Bool
  | .commit x =>
    if t.current? = some x then (t, false)
    else (⟨t.entries.take (t.cursor + 1) ++ [x], t.cursor + 1⟩, true)
  | .undo => if 0 < t.cursor then (⟨t.entries, t.cursor - 1⟩, true) else (t, false)
  | .redo =>
    if t.cursor + 1 < t.entries.length then (⟨t.entries, t.cursor + 1⟩, true) else (t, false)
  | .clear => (⟨t.current?.toList, 0⟩, true)
  | .reset x => (start x, true)

end Timeline

namespace History

def attempt? [DecidableEq α] (h : History α) : Operation α → Option (History α)
  | .commit x => h.commit? x
  | .undo => h.undo?
  | .redo => h.redo?
  | .clear => some h.clear
  | .reset x => some (h.reset x)

def perform [DecidableEq α] (h : History α) (op : Operation α) : History α × Bool :=
  ((h.attempt? op).getD h, (h.attempt? op).isSome)

/-- The stacks around the current value, which is where the cursor is. -/
def timeline (h : History α) : Timeline α :=
  ⟨h.past.reverse ++ h.current :: h.future, h.past.length⟩

theorem timeline_current? (h : History α) : h.timeline.current? = some h.current := by
  simp [timeline, Timeline.current?]

theorem timeline_length (h : History α) :
    h.timeline.entries.length = h.past.length + h.future.length + 1 := by
  simp [timeline, Nat.add_assoc]

theorem timeline_take (h : History α) :
    h.timeline.entries.take (h.timeline.cursor + 1) = (h.current :: h.past).reverse := by
  simp [timeline, List.take_append, List.take_of_length_le]

theorem trim_isPrefix (limit : Nat) (past : List α) : trim limit past <+: past := by
  unfold trim
  split
  · exact List.prefix_rfl
  · exact List.take_prefix limit past

section Steps

variable {h k : History α}

theorem commit?_eq_some [DecidableEq α] {x : α} :
    h.commit? x = some k ↔
      x ≠ h.current ∧
        k = { h with past := trim h.limit (h.current :: h.past), current := x, future := [] } := by
  unfold commit?
  split
  · rename_i same
    simp [same]
  · rename_i new
    simp [new, eq_comm]

theorem undo?_eq_some :
    h.undo? = some k ↔ ∃ x past, h.past = x :: past ∧
      k = { h with past, current := x, future := h.current :: h.future } := by
  unfold undo?
  split
  · rename_i empty
    simp [empty]
  · rename_i x past full
    simp [full, eq_comm]

theorem redo?_eq_some :
    h.redo? = some k ↔ ∃ x future, h.future = x :: future ∧
      k = { h with past := h.current :: h.past, current := x, future } := by
  unfold redo?
  split
  · rename_i empty
    simp [empty]
  · rename_i x future full
    simp [full, eq_comm]

theorem undo?_eq_none : h.undo? = none ↔ h.past = [] := by
  unfold undo?
  split <;> rename_i past <;> simp [past]

theorem redo?_eq_none : h.redo? = none ↔ h.future = [] := by
  unfold redo?
  split <;> rename_i future <;> simp [future]

theorem redo?_of_undo? (undo : h.undo? = some k) : k.redo? = some h := by
  obtain ⟨x, past, full, rfl⟩ := undo?_eq_some.1 undo
  cases h
  cases full
  rfl

theorem timeline_undo? (undo : h.undo? = some k) :
    k.timeline.entries = h.timeline.entries ∧ k.timeline.cursor + 1 = h.timeline.cursor := by
  obtain ⟨x, past, full, rfl⟩ := undo?_eq_some.1 undo
  simp [timeline, full]

theorem timeline_redo? (redo : h.redo? = some k) :
    k.timeline.entries = h.timeline.entries ∧ k.timeline.cursor = h.timeline.cursor + 1 := by
  obtain ⟨x, future, full, rfl⟩ := redo?_eq_some.1 redo
  simp [timeline, full]

theorem timeline_commit? [DecidableEq α] {x : α} (unbounded : h.limit = 0)
    (commit : h.commit? x = some k) :
    k.timeline =
      ⟨h.timeline.entries.take (h.timeline.cursor + 1) ++ [x], h.timeline.cursor + 1⟩ := by
  obtain ⟨_, rfl⟩ := commit?_eq_some.1 commit
  rw [timeline_take]
  simp [timeline, trim, unbounded]

theorem commit?_eq_none [DecidableEq α] {x : α} : h.commit? x = none ↔ x = h.current := by
  unfold commit?
  split <;> rename_i same <;> simp [same]

theorem perform_of_none [DecidableEq α] {op : Operation α} (refused : h.attempt? op = none) :
    h.perform op = (h, false) := by
  rw [perform, refused]
  rfl

theorem perform_of_some [DecidableEq α] {op : Operation α} (taken : h.attempt? op = some k) :
    h.perform op = (k, true) := by
  rw [perform, taken]
  rfl

theorem attempt?_limit [DecidableEq α] {op : Operation α} (attempt : h.attempt? op = some k) :
    k.limit = h.limit := by
  cases op with
  | commit x =>
    obtain ⟨_, rfl⟩ := commit?_eq_some.1 attempt
    rfl
  | undo =>
    obtain ⟨_, _, _, rfl⟩ := undo?_eq_some.1 attempt
    rfl
  | redo =>
    obtain ⟨_, _, _, rfl⟩ := redo?_eq_some.1 attempt
    rfl
  | clear | reset x =>
    cases attempt
    rfl

theorem perform_limit [DecidableEq α] (h : History α) (op : Operation α) :
    (h.perform op).1.limit = h.limit := by
  cases attempt : h.attempt? op with
  | none => rw [perform_of_none attempt]
  | some k =>
    rw [perform_of_some attempt]
    exact attempt?_limit attempt

theorem timeline_refuses [DecidableEq α] {op : Operation α} (attempt : h.attempt? op = none) :
    h.timeline.perform op = (h.timeline, false) := by
  cases op with
  | commit x =>
    rw [Timeline.perform, timeline_current?, commit?_eq_none.1 attempt, if_pos rfl]
  | undo =>
    have first : h.timeline.cursor = 0 := by simp [timeline, undo?_eq_none.1 attempt]
    rw [Timeline.perform, first, if_neg (Nat.lt_irrefl 0)]
  | redo =>
    have last : h.timeline.entries.length = h.timeline.cursor + 1 := by
      rw [timeline_length, redo?_eq_none.1 attempt]
      rfl
    rw [Timeline.perform, last, if_neg (Nat.lt_irrefl _)]
  | clear | reset x => cases attempt

theorem timeline_follows [DecidableEq α] (unbounded : h.limit = 0) {op : Operation α}
    (attempt : h.attempt? op = some k) : h.timeline.perform op = (k.timeline, true) := by
  cases op with
  | commit x =>
    have new : h.timeline.current? ≠ some x := by
      rw [timeline_current?]
      exact fun same => (commit?_eq_some.1 attempt).1 (Option.some.inj same).symm
    rw [Timeline.perform, if_neg new, timeline_commit? unbounded attempt]
  | undo =>
    obtain ⟨entries, cursor⟩ := timeline_undo? attempt
    rw [Timeline.perform, ← cursor, ← entries, if_pos (Nat.succ_pos _)]
    rfl
  | redo =>
    obtain ⟨entries, cursor⟩ := timeline_redo? attempt
    have bound : k.timeline.cursor < k.timeline.entries.length := by
      rw [timeline_length]
      change k.past.length < _
      omega
    rw [Timeline.perform, ← cursor, ← entries, if_pos bound]
  | clear =>
    cases attempt
    rw [Timeline.perform, timeline_current?]
    rfl
  | reset x =>
    cases attempt
    rfl

/-- One operation on a history without a bound is the same operation on its timeline. -/
theorem timeline_perform [DecidableEq α] (unbounded : h.limit = 0) (op : Operation α) :
    h.timeline.perform op = ((h.perform op).1.timeline, (h.perform op).2) := by
  cases attempt : h.attempt? op with
  | none => rw [perform_of_none attempt, timeline_refuses attempt]
  | some k => rw [perform_of_some attempt, timeline_follows unbounded attempt]

/-- Neighbours in time differ. -/
def Varied (h : History α) : Prop := h.timeline.entries.IsChain (· ≠ ·)

theorem attempt?_varied [DecidableEq α] {op : Operation α} (unbounded : h.limit = 0)
    (varied : h.Varied) (attempt : h.attempt? op = some k) : k.Varied := by
  cases op with
  | commit x =>
    have new := (commit?_eq_some.1 attempt).1
    have kept : (h.current :: h.past).reverse.IsChain (· ≠ ·) := by
      rw [← timeline_take]
      exact varied.take _
    rw [Varied, timeline_commit? unbounded attempt, timeline_take, List.isChain_append]
    refine ⟨kept, .singleton x, ?_⟩
    simpa using new.symm
  | undo =>
    rw [Varied, (timeline_undo? attempt).1]
    exact varied
  | redo =>
    rw [Varied, (timeline_redo? attempt).1]
    exact varied
  | clear | reset x =>
    cases attempt
    exact .singleton _

theorem Varied.undo?_ne (varied : h.Varied) (undo : h.undo? = some k) :
    k.current ≠ h.current := by
  obtain ⟨x, past, full, rfl⟩ := undo?_eq_some.1 undo
  have split : h.timeline.entries = past.reverse ++ x :: h.current :: h.future := by
    simp [timeline, full]
  rw [Varied, split, List.isChain_append_cons_cons] at varied
  exact varied.2.1

theorem Varied.redo?_ne (varied : h.Varied) (redo : h.redo? = some k) :
    k.current ≠ h.current := by
  obtain ⟨x, future, full, rfl⟩ := redo?_eq_some.1 redo
  have split : h.timeline.entries = h.past.reverse ++ h.current :: x :: future := by
    simp [timeline, full]
  rw [Varied, split, List.isChain_append_cons_cons] at varied
  exact varied.2.1.symm

theorem perform_varied [DecidableEq α] (op : Operation α) (sound : h.limit = 0 ∧ h.Varied) :
    (h.perform op).1.limit = 0 ∧ (h.perform op).1.Varied := by
  refine ⟨(perform_limit h op).trans sound.1, ?_⟩
  cases attempt : h.attempt? op with
  | none =>
    rw [perform_of_none attempt]
    exact sound.2
  | some k =>
    rw [perform_of_some attempt]
    exact attempt?_varied sound.1 sound.2 attempt

end Steps

section Runs

variable [DecidableEq α]

theorem replay_timeline {h : History α} (unbounded : h.limit = 0) (ops : List (Operation α)) :
    replay Timeline.perform h.timeline ops =
      ((replay perform h ops).1.timeline, (replay perform h ops).2) := by
  induction ops generalizing h with
  | nil => rfl
  | cons op ops ih =>
    rw [replay, timeline_perform unbounded op, ih ((perform_limit h op).trans unbounded)]
    rfl

theorem undone_iff (n : Nat) (h : History α) :
    (replay perform h (List.replicate n .undo)).2 = List.replicate n true ↔
      n ≤ h.past.length := by
  induction n generalizing h with
  | zero => simp [replay]
  | succ n ih =>
    rw [List.replicate_succ, replay, List.replicate_succ, List.cons.injEq, ih]
    cases undo : h.undo? with
    | none =>
      have refused : h.perform .undo = (h, false) := perform_of_none undo
      simp [refused, undo?_eq_none.1 undo]
    | some k =>
      have moved : h.perform .undo = (k, true) := perform_of_some undo
      obtain ⟨x, past, full, rfl⟩ := undo?_eq_some.1 undo
      simp [moved, full]

/-- Redoing as many steps as were undone restores the whole history. -/
theorem redo_undone (n : Nat) (h : History α)
    (undone : (replay perform h (List.replicate n .undo)).2 = List.replicate n true) :
    replay perform (replay perform h (List.replicate n .undo)).1 (List.replicate n .redo) =
      (h, List.replicate n true) := by
  induction n generalizing h with
  | zero => rfl
  | succ n ih =>
    rw [List.replicate_succ, replay, List.replicate_succ] at undone
    obtain ⟨first, others⟩ := List.cons.inj undone
    obtain ⟨k, undo⟩ := Option.isSome_iff_exists.1 first
    have moved : h.perform .undo = (k, true) := perform_of_some undo
    have back : k.perform .redo = (h, true) := perform_of_some (redo?_of_undo? undo)
    rw [moved] at others
    -- The last of the redos takes back the first of the undos.
    rw [List.replicate_succ, replay, moved, List.replicate_succ', replay_append, ih k others,
      replay, replay, back, ← List.replicate_succ']

/-- Every run from a new history is the same run on a timeline, with the same answers. Where it
leads, neighbours in time differ, an undo or redo that succeeds changes the current value, and what
has no effect changes nothing; undone steps come back by redoing as many. -/
theorem refines_timeline (initial : α) (ops : List (Operation α)) :
    let h := (replay perform (new initial) ops).1
    replay Timeline.perform (.start initial) ops =
        (h.timeline, (replay perform (new initial) ops).2) ∧
      h.timeline.entries.IsChain (· ≠ ·) ∧
      (∀ op, op = .undo ∨ op = .redo → (h.perform op).2 = true →
        (h.perform op).1.current ≠ h.current) ∧
      (∀ op, (h.perform op).2 = false → (h.perform op).1 = h) ∧
      ∀ n, ((replay perform h (List.replicate n .undo)).2 = List.replicate n true ↔
          n ≤ h.past.length) ∧
        ((replay perform h (List.replicate n .undo)).2 = List.replicate n true →
          replay perform (replay perform h (List.replicate n .undo)).1 (List.replicate n .redo) =
            (h, List.replicate n true)) := by
  intro h
  have start : (new initial).limit = 0 ∧ (new initial).Varied := ⟨rfl, List.IsChain.singleton _⟩
  have varied : h.Varied :=
    (replay_keeps (p := fun h : History α => h.limit = 0 ∧ h.Varied)
      (fun _ op sound => perform_varied op sound) start ops).2
  refine ⟨replay_timeline start.1 ops, varied, ?_, ?_, fun n => ⟨undone_iff n h, redo_undone n h⟩⟩
  · rintro op moves effect
    obtain ⟨k, attempt⟩ := Option.isSome_iff_exists.1 effect
    rw [perform_of_some attempt]
    rcases moves with rfl | rfl
    · exact varied.undo?_ne attempt
    · exact varied.redo?_ne attempt
  · intro op refused
    rw [perform_of_none (Option.not_isSome_iff_eq_none.1 (ne_true_of_eq_false refused))]

end Runs
end History
end PageBuilder
