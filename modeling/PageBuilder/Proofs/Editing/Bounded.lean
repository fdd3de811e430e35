import PageBuilder.Proofs.Editing.Timeline

set_option autoImplicit false

/-!
# Histories with a bound

Only a commit trims a history, yet undoing and redoing never take it past its bound: they move a
step from one side of the current value to the other. A history with a bound shows the end of the
same history without one. Until it refuses an undo that the other takes, both give the same answers,
are at the same value and have the same steps to redo, and the earlier values that the bounded one
still has are the latest of the other.
-/

namespace PageBuilder
namespace History

section Trim

variable {α : Type}

theorem trim_of_length_le {limit : Nat} {past : List α} (room : past.length ≤ limit) :
    trim limit past = past := by
  unfold trim
  split
  · rfl
  · exact List.take_of_length_le room

theorem length_trim_le {limit : Nat} (bound : 0 < limit) (past : List α) :
    (trim limit past).length ≤ limit := by
  rw [trim, if_neg (by omega), List.length_take]
  omega

end Trim

variable {α : Type} [DecidableEq α]

/-- The steps to undo and to redo are together within the bound. -/
def Within (h : History α) : Prop := h.past.length + h.future.length ≤ h.limit

theorem perform_within {h : History α} (op : Operation α) (bound : 0 < h.limit)
    (within : h.Within) : (h.perform op).1.Within := by
  cases attempt : h.attempt? op with
  | none =>
    rw [perform_of_none attempt]
    exact within
  | some k =>
    rw [perform_of_some attempt]
    unfold Within at within ⊢
    cases op with
    | commit x =>
      obtain ⟨_, rfl⟩ := commit?_eq_some.1 attempt
      exact length_trim_le bound _
    | undo =>
      obtain ⟨x, past, full, rfl⟩ := undo?_eq_some.1 attempt
      simp only [full, List.length_cons] at within ⊢
      omega
    | redo =>
      obtain ⟨x, future, full, rfl⟩ := redo?_eq_some.1 attempt
      simp only [full, List.length_cons] at within ⊢
      omega
    | clear | reset x =>
      cases attempt
      exact Nat.zero_le _

/-- All that one history has, another without a bound has too, and maybe some earlier values. -/
structure Truncates (h k : History α) : Prop where
  unbounded : k.limit = 0
  current : h.current = k.current
  future : h.future = k.future
  past : h.past <+: k.past

theorem attempt?_truncates {h k : History α} (cut : h.Truncates k) (op : Operation α)
    (together : op = .undo → h.undo? = none → k.undo? = none) :
    (h.attempt? op = none ∧ k.attempt? op = none) ∨
      ∃ i j, h.attempt? op = some i ∧ k.attempt? op = some j ∧ i.Truncates j := by
  cases op with
  | commit x =>
    by_cases same : x = h.current
    · exact .inl ⟨commit?_eq_none.2 same, commit?_eq_none.2 (same.trans cut.current)⟩
    · have other : x ≠ k.current := fun h => same (h.trans cut.current.symm)
      refine .inr ⟨_, _, commit?_eq_some.2 ⟨same, rfl⟩, commit?_eq_some.2 ⟨other, rfl⟩, ?_⟩
      refine ⟨cut.unbounded, rfl, rfl, ?_⟩
      rw [cut.unbounded, cut.current]
      exact (trim_isPrefix _ _).trans (List.cons_prefix_cons.2 ⟨rfl, cut.past⟩)
  | undo =>
    cases first : h.undo? with
    | none => exact .inl ⟨first, together rfl first⟩
    | some i =>
      obtain ⟨x, past, full, rfl⟩ := undo?_eq_some.1 first
      -- What the bounded history undoes is the latest step of the other one too.
      obtain ⟨earlier, split⟩ := cut.past
      rw [full, List.cons_append] at split
      refine .inr ⟨_, _, first, undo?_eq_some.2 ⟨x, _, split.symm, rfl⟩, ?_⟩
      exact ⟨cut.unbounded, rfl, by rw [cut.current, cut.future], List.prefix_append _ _⟩
  | redo =>
    cases first : h.redo? with
    | none => exact .inl ⟨first, redo?_eq_none.2 (cut.future ▸ redo?_eq_none.1 first)⟩
    | some i =>
      obtain ⟨x, future, full, rfl⟩ := redo?_eq_some.1 first
      rw [cut.future] at full
      refine .inr ⟨_, _, first, redo?_eq_some.2 ⟨x, future, full, rfl⟩, ?_⟩
      refine ⟨cut.unbounded, rfl, rfl, ?_⟩
      rw [cut.current]
      exact List.cons_prefix_cons.2 ⟨rfl, cut.past⟩
  | clear =>
    exact .inr ⟨_, _, rfl, rfl, cut.unbounded, cut.current, rfl, List.prefix_rfl⟩
  | reset x => exact .inr ⟨_, _, rfl, rfl, cut.unbounded, rfl, rfl, List.prefix_rfl⟩

theorem perform_truncates {h k : History α} (cut : h.Truncates k) (op : Operation α)
    (together : op = .undo → (h.perform .undo).2 = false → (k.perform .undo).2 = false) :
    (h.perform op).2 = (k.perform op).2 ∧ (h.perform op).1.Truncates (k.perform op).1 := by
  have undone : op = .undo → h.undo? = none → k.undo? = none := by
    intro undo refused
    simpa [perform, attempt?, refused] using together undo
  rcases attempt?_truncates cut op undone with ⟨first, second⟩ | ⟨i, j, first, second, next⟩
  · rw [perform_of_none first, perform_of_none second]
    exact ⟨rfl, cut⟩
  · rw [perform_of_some first, perform_of_some second]
    exact ⟨rfl, next⟩

theorem replay_truncates {h k : History α} (cut : h.Truncates k) (ops : List (Operation α))
    (together : ∀ i : Nat, ops[i]? = some .undo → (replay perform h ops).2[i]? = some false →
      (replay perform k ops).2[i]? = some false) :
    (replay perform h ops).2 = (replay perform k ops).2 ∧
      (replay perform h ops).1.Truncates (replay perform k ops).1 := by
  induction ops generalizing h k with
  | nil => exact ⟨rfl, cut⟩
  | cons op ops ih =>
    have first : op = .undo → (h.perform .undo).2 = false → (k.perform .undo).2 = false := by
      rintro rfl refused
      simpa [replay, refused] using together 0
    obtain ⟨answer, next⟩ := perform_truncates cut op first
    obtain ⟨answers, last⟩ := ih next fun i => together (i + 1)
    refine ⟨?_, last⟩
    rw [replay, replay, answer, answers]

/-- A bound makes no difference to a step that leaves no more to undo than it allows. -/
theorem perform_limited {k : History α} (unbounded : k.limit = 0) {n : Nat} (op : Operation α)
    (room : (k.perform op).1.past.length ≤ n) :
    perform { k with limit := n } op = ({ (k.perform op).1 with limit := n }, (k.perform op).2) := by
  obtain ⟨past, current, future, limit⟩ := k
  cases unbounded
  cases op with
  | commit x =>
    by_cases same : x = current
    · simp [perform, attempt?, commit?, same]
    · have whole : trim 0 (current :: past) = current :: past := rfl
      have kept : trim n (current :: past) = current :: past := by
        apply trim_of_length_le
        simpa [perform, attempt?, commit?, same, whole] using room
      simp [perform, attempt?, commit?, same, whole, kept]
  | undo => cases past <;> rfl
  | redo => cases future <;> rfl
  | clear | reset x => rfl

theorem replay_limited {k : History α} (unbounded : k.limit = 0) {n : Nat}
    (ops : List (Operation α))
    (room : ∀ earlier, earlier <+: ops → (replay perform k earlier).1.past.length ≤ n) :
    replay perform { k with limit := n } ops =
      ({ (replay perform k ops).1 with limit := n }, (replay perform k ops).2) := by
  induction ops generalizing k with
  | nil => rfl
  | cons op ops ih =>
    have first : (k.perform op).1.past.length ≤ n := room [op] ⟨ops, rfl⟩
    have next : (k.perform op).1.limit = 0 := (perform_limit k op).trans unbounded
    rw [replay, perform_limited unbounded op first, ih next, replay]
    rintro earlier ⟨later, rfl⟩
    exact room (op :: earlier) ⟨later, rfl⟩

/-- With a bound, there are never more steps to undo and to redo than it allows. While no undo is
refused for the bound alone, the run gives the same answers as one without a bound, and leads to the
same value and steps to redo and to the latest of the earlier values. While there are no more of
these than the bound allows, there is no difference at all. -/
theorem bounded_truncates_new {n : Nat} (bound : 0 < n) (initial : α) (ops : List (Operation α)) :
    let capped := replay perform (bounded n initial) ops
    let free := replay perform (new initial) ops
    capped.1.past.length + capped.1.future.length ≤ n ∧
      ((∀ i : Nat, ops[i]? = some .undo → capped.2[i]? = some false → free.2[i]? = some false) →
        capped.1.current = free.1.current ∧ capped.1.future = free.1.future ∧
          capped.2 = free.2 ∧ capped.1.past <+: free.1.past) ∧
      ((∀ earlier, earlier <+: ops → (replay perform (new initial) earlier).1.past.length ≤ n) →
        capped = ({ free.1 with limit := n }, free.2)) := by
  intro capped free
  refine ⟨?_, fun together => ?_, replay_limited rfl ops⟩
  · have start : (bounded n initial).limit = n ∧ (bounded n initial).Within := ⟨rfl, Nat.zero_le n⟩
    have kept : ∀ (h : History α) op, h.limit = n ∧ h.Within →
        (h.perform op).1.limit = n ∧ (h.perform op).1.Within := by
      rintro h op ⟨rfl, within⟩
      exact ⟨perform_limit h op, perform_within op bound within⟩
    obtain ⟨limit, within⟩ := replay_keeps kept start ops
    exact limit ▸ within
  · have start : (bounded n initial).Truncates (new initial) := ⟨rfl, rfl, rfl, List.prefix_rfl⟩
    obtain ⟨answers, cut⟩ := replay_truncates start ops together
    exact ⟨cut.current, cut.future, answers, cut.past⟩

def undoneTwice : List (Operation Nat) := [.commit 1, .commit 2, .commit 3, .undo, .undo, .redo]

theorem bounded_truncates_undoneTwice :
    let capped := replay perform (bounded 2 0) undoneTwice
    let free := replay perform (new 0) undoneTwice
    0 < 2 ∧
      (∀ i : Nat, undoneTwice[i]? = some .undo → capped.2[i]? = some false →
        free.2[i]? = some false) ∧
      capped.1.past.length + capped.1.future.length ≤ 2 ∧
      capped.1.current = free.1.current ∧ capped.1.past <+: free.1.past ∧
      capped.1.past = [1] ∧ free.1.past = [1, 0] := by
  intro capped free
  have together : ∀ i : Nat, undoneTwice[i]? = some .undo → capped.2[i]? = some false →
      free.2[i]? = some false :=
    fun i _ refused => absurd (List.mem_of_getElem? refused) (by decide)
  obtain ⟨within, truncated, _⟩ := bounded_truncates_new (by decide : 0 < 2) 0 undoneTwice
  obtain ⟨current, _, _, past⟩ := truncated together
  exact ⟨by decide, together, within, current, past, by decide, by decide⟩

end History
end PageBuilder
