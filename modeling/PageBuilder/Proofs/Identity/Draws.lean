import Mathlib.Data.Finset.Card
import PageBuilder.Proofs.Identity.Generator

set_option autoImplicit false

/-!
# Draws

Draws that stay within the counter limit are new and differ from each other. Drawing around taken
ids is a loop without a bound of its own; it ends if the counter has a number whose id is not taken,
starting again at zero where it must. The ids that it draws differ, so at most as many of them as
there are taken ids can be taken.
-/

namespace PageBuilder.IdGenerator

def draws : Nat → IdGenerator → List InstanceId
  | 0, _ => []
  | k + 1, g => g.draw.1 :: draws k g.draw.2

theorem draws_eq (k : Nat) (g : IdGenerator) :
    draws k g = (List.range' (g.count + 1) k).map fun n => g.idOf (.ofNat n) := by
  induction k generalizing g with
  | zero => rfl
  | succ k ih =>
    rw [draws, ih, List.range'_succ, List.map_cons, draw_count, draw_id]
    rfl

theorem mem_draws {k : Nat} {g : IdGenerator} {id : InstanceId} :
    id ∈ draws k g ↔ ∃ n, g.count < n ∧ n ≤ g.count + k ∧ g.idOf (.ofNat n) = id := by
  simp only [draws_eq, List.mem_map, List.mem_range'_1]
  refine exists_congr fun n => ?_
  rw [← and_assoc]
  exact and_congr_left fun _ => by omega

/-- The counter gives every id once before it gives one again. -/
theorem draws_nodup {k : Nat} (g : IdGenerator) (once : k ≤ UInt64.size) : (draws k g).Nodup := by
  rw [draws_eq]
  refine List.Nodup.map_on (fun m hm n hn same => ?_) List.nodup_range'
  have words : m % UInt64.size = n % UInt64.size := by
    have numbers := congrArg UInt64.toNat (g.idOf_injective same)
    rwa [UInt64.toNat_ofNat', UInt64.toNat_ofNat'] at numbers
  rw [List.mem_range'_1] at hm hn
  simp only [UInt64.size] at words once
  omega

theorem not_mem_of_mem_draws {existing : List InstanceId} {g : IdGenerator} {k : Nat}
    (bounded : (g.resume existing).count + k ≤ counterLimit) {id : InstanceId}
    (drawn : id ∈ draws k (g.resume existing)) : id ∉ existing := by
  intro old
  obtain ⟨n, lt, le, rfl⟩ := mem_draws.1 drawn
  exact ne_idOf_of_covers (resume_covers old g) lt (Nat.le_trans le bounded) rfl

/-- The loop that draws until an id is not taken: how many draws it makes, and the last of them. -/
inductive FirstFree (taken : List InstanceId) :
    IdGenerator → Nat → InstanceId × IdGenerator → Prop
  | found {g : IdGenerator} (free : g.draw.1 ∉ taken) : FirstFree taken g 1 g.draw
  | again {g : IdGenerator} {n : Nat} {last : InstanceId × IdGenerator}
    (blocked : g.draw.1 ∈ taken) (rest : FirstFree taken g.draw.2 n last) :
    FirstFree taken g (n + 1) last

namespace FirstFree

variable {taken : List InstanceId} {g : IdGenerator} {n : Nat} {last : InstanceId × IdGenerator}

theorem unique (loop : FirstFree taken g n last) {m : Nat} {other : InstanceId × IdGenerator}
    (again : FirstFree taken g m other) : m = n ∧ other = last := by
  induction loop generalizing m with
  | found free =>
    cases again with
    | found _ => exact ⟨rfl, rfl⟩
    | again blocked _ => exact absurd blocked free
  | again blocked _ ih =>
    cases again with
    | found free => exact absurd blocked free
    | again _ rest =>
      obtain ⟨rfl, rfl⟩ := ih rest
      exact ⟨rfl, rfl⟩

theorem not_mem (loop : FirstFree taken g n last) : last.1 ∉ taken := by
  induction loop with
  | found free => exact free
  | again _ _ ih => exact ih

theorem pos (loop : FirstFree taken g n last) : 0 < n := by
  cases loop with
  | found _ => exact Nat.one_pos
  | again _ _ => exact Nat.succ_pos _

theorem counts (loop : FirstFree taken g n last) :
    last.1 = last.2.idOf last.2.counter ∧ last.2.seed = g.seed ∧ last.2.count = g.count + n := by
  induction loop with
  | found free => exact ⟨rfl, rfl, draw_count _⟩
  | @again g n last blocked rest ih =>
    obtain ⟨id, seed, count⟩ := ih
    refine ⟨id, seed, ?_⟩
    rw [count, draw_count]
    omega

theorem counter (loop : FirstFree taken g n last) : last.2.counter = g.counter + .ofNat n := by
  rw [← ofNat_count, loop.counts.2.2, UInt64.ofNat_add, ofNat_count]

theorem draws_subset (loop : FirstFree taken g n last) : draws (n - 1) g ⊆ taken := by
  induction loop with
  | found free => exact List.nil_subset _
  | @again g n last blocked rest ih =>
    obtain ⟨m, rfl⟩ := Nat.exists_eq_succ_of_ne_zero (Nat.ne_of_gt rest.pos)
    exact List.cons_subset.2 ⟨blocked, ih⟩

/-- A number that the counter comes to ends the loop, if the id with this number is not taken. -/
theorem of_free {k : Nat} (free : g.idOf (.ofNat (g.count + 1 + k)) ∉ taken) :
    ∃ n ≤ k + 1, ∃ last, FirstFree taken g n last := by
  induction k generalizing g with
  | zero => exact ⟨1, Nat.le_refl 1, g.draw, .found (g.draw_id ▸ free)⟩
  | succ k ih =>
    by_cases blocked : g.draw.1 ∈ taken
    · rw [← g.draw_reaches.idOf_eq, ← Nat.add_assoc, Nat.add_right_comm, ← draw_count] at free
      obtain ⟨n, le, last, rest⟩ := ih free
      exact ⟨n + 1, Nat.succ_le_succ le, last, .again blocked rest⟩
    · exact ⟨1, by omega, g.draw, .found blocked⟩

/-- The draws differ from each other, so no taken id stops the loop twice. -/
theorem le_card (loop : FirstFree taken g n last) (once : n ≤ UInt64.size) :
    n ≤ taken.toFinset.card + 1 := by
  have wasted : (draws (n - 1) g).toFinset ⊆ taken.toFinset := by
    intro id drawn
    exact List.mem_toFinset.2 (loop.draws_subset (List.mem_toFinset.1 drawn))
  have length : (draws (n - 1) g).length = n - 1 := by simp [draws_eq]
  have card := Finset.card_le_card wasted
  rw [List.toFinset_card_of_nodup (g.draws_nodup (by omega)), length] at card
  omega

theorem drawAround_eq (loop : FirstFree taken g n last) {spare : Nat} (enough : n ≤ spare) :
    g.drawAround taken spare = last := by
  induction loop generalizing spare with
  | found free =>
    obtain ⟨spare, rfl⟩ := Nat.exists_eq_succ_of_ne_zero (Nat.ne_of_gt enough)
    exact if_neg free
  | again blocked rest ih =>
    obtain ⟨spare, rfl⟩ := Nat.exists_eq_succ_of_ne_zero (Nat.ne_zero_of_lt enough)
    exact (if_pos blocked).trans (ih (Nat.le_of_succ_le_succ enough))

end FirstFree

theorem firstFree_of_free {taken : List InstanceId} {g : IdGenerator} {m : UInt64}
    (free : g.idOf m ∉ taken) :
    ∃ n ≤ taken.toFinset.card + 1, FirstFree taken g n (g.drawFresh taken) := by
  -- The counter comes to the number in this round or in the next one.
  let k := (m - (g.counter + 1)).toNat
  have reached : UInt64.ofNat (g.count + 1 + k) = m := by
    simp only [k, UInt64.ofNat_add, ofNat_count, UInt64.ofNat_toNat]
    rw [UInt64.add_comm]
    exact UInt64.sub_add_cancel m (g.counter + 1)
  obtain ⟨n, le, last, loop⟩ := FirstFree.of_free (reached.symm ▸ free)
  have few := loop.le_card (Nat.le_trans le (m - (g.counter + 1)).toNat_lt)
  have length := taken.toFinset_card_le
  have same : g.drawFresh taken = last := loop.drawAround_eq (by omega)
  exact ⟨n, few, same ▸ loop⟩

theorem exists_free {taken : List InstanceId} (g : IdGenerator)
    (few : taken.toFinset.card < UInt64.size) : ∃ m, g.idOf m ∉ taken := by
  by_contra all
  simp only [not_exists, not_not] at all
  have drawn : (draws UInt64.size g).toFinset ⊆ taken.toFinset := by
    intro id drawn
    obtain ⟨n, _, _, rfl⟩ := mem_draws.1 (List.mem_toFinset.1 drawn)
    exact List.mem_toFinset.2 (all _)
  have card := Finset.card_le_card drawn
  rw [List.toFinset_card_of_nodup (g.draws_nodup (Nat.le_refl _))] at card
  simp only [draws_eq, List.length_map, List.length_range'] at card
  exact Nat.not_le_of_lt few card

theorem longerThan_length (ids : List InstanceId) :
    0 < (longerThan ids).text.length ∧
      ∀ id ∈ ids, id.text.length < (longerThan ids).text.length := by
  induction ids with
  | nil => exact ⟨by decide, fun _ mem => nomatch mem⟩
  | cons first ids ih =>
    have whole : (longerThan (first :: ids)).text.length =
        first.text.length + (longerThan ids).text.length := String.length_append _ _
    rw [whole, List.forall_mem_cons]
    exact ⟨Nat.add_pos_right _ ih.1, Nat.lt_add_of_pos_right ih.1,
      fun id mem => Nat.lt_add_left _ (ih.2 id mem)⟩

theorem longerThan_not_mem (ids : List InstanceId) : longerThan ids ∉ ids :=
  fun mem => Nat.lt_irrefl _ ((longerThan_length ids).2 _ mem)

theorem longerThan_isAssigned (ids : List InstanceId) : (longerThan ids).isAssigned := by
  have some := (longerThan_length ids).1
  simp only [InstanceId.isAssigned, Bool.not_eq_true', String.isEmpty_eq_false_iff]
  rintro none
  rw [none] at some
  exact Nat.lt_irrefl 0 some

theorem drawAround_all {taken : List InstanceId} (spare : Nat) {g : IdGenerator}
    (all : ∀ m, g.idOf m ∈ taken) :
    let last := g.drawAround taken spare
    last.1 = longerThan taken ∧ last.2.seed = g.seed ∧ last.2.count = g.count + spare := by
  induction spare generalizing g with
  | zero => exact ⟨rfl, rfl, rfl⟩
  | succ spare ih =>
    have next : ∀ m, g.draw.2.idOf m ∈ taken := fun m => g.draw_reaches.idOf_eq m ▸ all m
    have blocked : g.drawAround taken (spare + 1) = g.draw.2.drawAround taken spare :=
      if_pos (all _)
    obtain ⟨id, seed, count⟩ := ih next
    rw [blocked]
    refine ⟨id, seed, ?_⟩
    rw [count, draw_count]
    omega

/-- The search ends with its first free id, or all ids of the generator are taken. -/
theorem drawFresh_cases (g : IdGenerator) (taken : List InstanceId) :
    (∃ n ≤ taken.toFinset.card + 1, FirstFree taken g n (g.drawFresh taken)) ∨
      (g.drawFresh taken).1 = longerThan taken ∧ (g.drawFresh taken).2.seed = g.seed ∧
        g.count < (g.drawFresh taken).2.count ∧ counterLimit < (g.drawFresh taken).2.count := by
  by_cases free : ∃ m, g.idOf m ∉ taken
  · obtain ⟨m, free⟩ := free
    exact .inl (firstFree_of_free free)
  · have full : counterLimit < taken.toFinset.card := by
      by_contra few
      exact free (g.exists_free (Nat.lt_succ_of_le (Nat.le_of_not_lt few)))
    have length := taken.toFinset_card_le
    simp only [not_exists, not_not] at free
    obtain ⟨id, seed, count⟩ := drawAround_all (taken.length + 1) free
    unfold drawFresh
    rw [count]
    exact .inr ⟨id, seed, by omega, by omega⟩

theorem drawFresh_not_mem (g : IdGenerator) (taken : List InstanceId) :
    (g.drawFresh taken).1 ∉ taken := by
  rcases g.drawFresh_cases taken with ⟨_, _, loop⟩ | ⟨longer, _⟩
  · exact loop.not_mem
  · rw [longer]
    exact longerThan_not_mem taken

theorem drawFresh_isAssigned (g : IdGenerator) (taken : List InstanceId) :
    (g.drawFresh taken).1.isAssigned := by
  rcases g.drawFresh_cases taken with ⟨_, _, loop⟩ | ⟨longer, _⟩
  · rw [loop.counts.1]
    exact idOf_isAssigned _ _
  · rw [longer]
    exact longerThan_isAssigned taken

theorem drawFresh_count_lt (g : IdGenerator) (taken : List InstanceId) :
    g.count < (g.drawFresh taken).2.count := by
  rcases g.drawFresh_cases taken with ⟨n, _, loop⟩ | ⟨_, _, lt, _⟩
  · rw [loop.counts.2.2]
    exact Nat.lt_add_of_pos_right loop.pos
  · exact lt

theorem drawFresh_reaches (g : IdGenerator) (taken : List InstanceId) :
    g.Reaches (g.drawFresh taken).2 := by
  refine ⟨?_, Nat.le_of_lt (g.drawFresh_count_lt taken)⟩
  rcases g.drawFresh_cases taken with ⟨_, _, loop⟩ | ⟨_, seed, _⟩
  · exact loop.counts.2.1
  · exact seed

/-- Within the counter limit the search has ended with an id under the number it came to. -/
theorem drawFresh_id {g : IdGenerator} {taken : List InstanceId}
    (bounded : (g.drawFresh taken).2.count ≤ counterLimit) :
    (g.drawFresh taken).1 = g.idOf (.ofNat (g.drawFresh taken).2.count) := by
  rcases g.drawFresh_cases taken with ⟨_, _, loop⟩ | ⟨_, _, _, beyond⟩
  · rw [loop.counts.1, ofNat_count, (g.drawFresh_reaches taken).idOf_eq]
  · exact absurd beyond (Nat.not_lt_of_le bounded)

theorem drawFresh_covered (g : IdGenerator) (taken : List InstanceId)
    (bounded : (g.drawFresh taken).2.count ≤ counterLimit) :
    (g.drawFresh taken).2.Covers (g.drawFresh taken).1 := by
  rw [drawFresh_id bounded, ← (g.drawFresh_reaches taken).idOf_eq]
  exact covers_idOf _ (Nat.le_of_eq (toNat_ofNat_of_le bounded))

/-- A drawn id is none of the ids that the generator has passed. -/
theorem ne_drawFresh_of_covers {g : IdGenerator} {taken : List InstanceId} {id : InstanceId}
    (cover : g.Covers id) (bounded : (g.drawFresh taken).2.count ≤ counterLimit) :
    id ≠ (g.drawFresh taken).1 := by
  rw [drawFresh_id bounded]
  exact ne_idOf_of_covers cover (g.drawFresh_count_lt taken) bounded

/--
The generator is fresh and its search ends. After resuming, draws that stay within the counter limit
give distinct assigned ids, none of which existed; resuming again changes nothing, and the order and
repetitions of the existing ids do not count. Drawing around taken ids ends exactly if some id of
the generator is free, which is so for all sets that a machine can hold. It then ends in one way
only and after at most one draw more than there are taken ids, also where the counter starts again
at zero. The id that it gives is not taken and has the number that the counter is left at.
-/
theorem draws_are_fresh_and_end (g : IdGenerator) :
    (∀ (existing : List InstanceId) (k : Nat), (g.resume existing).count + k ≤ counterLimit →
      (draws k (g.resume existing)).length = k ∧ (draws k (g.resume existing)).Nodup ∧
        ∀ id ∈ draws k (g.resume existing), id.isAssigned ∧ id ∉ existing) ∧
    (∀ existing, (g.resume existing).resume existing = g.resume existing) ∧
    (∀ existing others : List InstanceId, (∀ id, id ∈ existing ↔ id ∈ others) →
      g.resume existing = g.resume others) ∧
    ∀ taken : List InstanceId,
      ((∃ n last, FirstFree taken g n last) ↔ ∃ m, g.idOf m ∉ taken) ∧
      (taken.toFinset.card < UInt64.size →
        ∃ n ≤ taken.toFinset.card + 1,
          FirstFree taken g n (g.drawFresh taken) ∧
          (∀ m last, FirstFree taken g m last → m = n ∧ last = g.drawFresh taken) ∧
          (g.drawFresh taken).1 ∉ taken ∧
          (g.drawFresh taken).2.seed = g.seed ∧
          (g.drawFresh taken).2.counter = g.counter + .ofNat n ∧
          (g.drawFresh taken).2.count = g.count + n ∧
          (g.drawFresh taken).1 = g.idOf (g.drawFresh taken).2.counter ∧
          g.number? (g.drawFresh taken).1 = some (g.drawFresh taken).2.counter.toNat) := by
  refine ⟨fun existing k bounded => ⟨by simp [draws_eq], draws_nodup _ ?_, fun id drawn => ⟨?_, ?_⟩⟩,
    fun existing => g.resume_resume existing, fun _ _ same => resume_congr same g,
    fun taken => ⟨⟨?_, ?_⟩, fun few => ?_⟩⟩
  · exact Nat.le_trans (Nat.le_trans (Nat.le_add_left _ _) bounded) (Nat.le_succ _)
  · obtain ⟨n, _, _, rfl⟩ := mem_draws.1 drawn
    exact idOf_isAssigned _ _
  · exact not_mem_of_mem_draws bounded drawn
  · rintro ⟨n, last, loop⟩
    have id := loop.counts.1
    have free := loop.not_mem
    rw [id, idOf, loop.counts.2.1] at free
    exact ⟨_, free⟩
  · rintro ⟨m, free⟩
    obtain ⟨n, _, loop⟩ := firstFree_of_free free
    exact ⟨n, _, loop⟩
  · obtain ⟨m, free⟩ := g.exists_free few
    obtain ⟨n, le, loop⟩ := firstFree_of_free free
    obtain ⟨id, seed, count⟩ := loop.counts
    rw [(g.drawFresh_reaches taken).idOf_eq] at id
    refine ⟨n, le, loop, fun _ _ => loop.unique, loop.not_mem, seed, loop.counter, count, id, ?_⟩
    rw [id]
    exact g.number?_idOf _

/-- Numbers spelled with zeros or a sign push the counter, longer ones do not count, and the last
number there is makes the next draws start again at zero. -/
theorem draws_after_odd_spellings :
    let existing : List InstanceId :=
      [⟨"a-007"⟩, ⟨"a-+9"⟩, ⟨"a-18446744073709551616"⟩, ⟨"a-"⟩, ⟨"a-007"⟩]
    let g := (ofSeed "a").resume existing
    let last := (ofSeed "a").resume [⟨"a-18446744073709551615"⟩]
    g.count + 2 ≤ counterLimit ∧ draws 2 g = [⟨"a-10"⟩, ⟨"a-11"⟩] ∧
      (∀ id ∈ draws 2 g, id ∉ existing) ∧ g.resume existing = g ∧
      (∃ n ≤ 2, FirstFree [⟨"a-10"⟩] g n (⟨"a-11"⟩, ⟨"a", 11, 0⟩)) ∧
      ∃ n ≤ 2, FirstFree [⟨"a-0"⟩] last n (⟨"a-1"⟩, ⟨"a", 1, 1⟩) := by
  intro existing g last
  have bounded : g.count + 2 ≤ counterLimit := by decide +kernel
  obtain ⟨fresh, again, _, _⟩ := draws_are_fresh_and_end (ofSeed "a")
  obtain ⟨n, le, loop, _⟩ := ((draws_are_fresh_and_end g).2.2.2 [⟨"a-10"⟩]).2 (by decide)
  obtain ⟨k, few, turn, _⟩ := ((draws_are_fresh_and_end last).2.2.2 [⟨"a-0"⟩]).2 (by decide)
  have drawn : g.drawFresh [⟨"a-10"⟩] = (⟨"a-11"⟩, ⟨"a", 11, 0⟩) := by decide +kernel
  have turned : last.drawFresh [⟨"a-0"⟩] = (⟨"a-1"⟩, ⟨"a", 1, 1⟩) := by decide +kernel
  rw [drawn] at loop
  rw [turned] at turn
  exact ⟨bounded, by decide +kernel, fun id drawn => ((fresh existing 2 bounded).2.2 id drawn).2,
    again existing, ⟨n, le, loop⟩, k, few, turn⟩

end PageBuilder.IdGenerator
