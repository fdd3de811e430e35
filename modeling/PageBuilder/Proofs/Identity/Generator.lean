import Mathlib.Data.List.Basic
import PageBuilder.InstanceId

set_option autoImplicit false

/-!
# Minted ids

The number of a minted id reads back, so ids with different numbers differ. A generator covers an id
when its counter has passed the number of that id. Resuming covers the ids that exist, and depends
only on which they are.
-/

namespace PageBuilder.IdGenerator

theorem readCounter?_digits {digits : List Char} (nonempty : digits ≠ [])
    (all : ∀ c ∈ digits, c.isDigit) (bounded : Nat.ofDigitChars 10 digits 0 ≤ counterLimit) :
    readCounter? digits = some (Nat.ofDigitChars 10 digits 0) := by
  cases digits with
  | nil => contradiction
  | cons first rest =>
    have unsigned : first ≠ '+' := by
      rintro rfl
      exact absurd (all '+' List.mem_cons_self) (by decide)
    have digitsOnly : (first :: rest).all Char.isDigit = true := List.all_eq_true.2 all
    rw [Nat.ofDigitChars_eq_foldl] at bounded ⊢
    unfold readCounter?
    split
    · rename_i same
      exact absurd (List.cons.inj same).1 unsigned
    · simp only [digitsOnly, List.isEmpty_cons, Bool.not_true, Bool.or_self]
      exact if_pos bounded

theorem readCounter?_le {text : List Char} {n : Nat} (read : readCounter? text = some n) :
    n ≤ counterLimit := by
  simp only [readCounter?, Option.ite_none_left_eq_some, Option.ite_none_right_eq_some,
    Option.some.injEq] at read
  obtain ⟨_, bounded, rfl⟩ := read
  exact bounded

theorem number?_le {g : IdGenerator} {id : InstanceId} {n : Nat} (numbered : g.number? id = some n) :
    n ≤ counterLimit := by
  obtain ⟨_, _, read⟩ := Option.bind_eq_some_iff.1 numbered
  exact readCounter?_le read

theorem toNat_le_limit (n : UInt64) : n.toNat ≤ counterLimit := Nat.le_of_lt_succ n.toNat_lt

theorem toNat_ofNat_of_le {n : Nat} (bounded : n ≤ counterLimit) : (UInt64.ofNat n).toNat = n :=
  UInt64.toNat_ofNat_of_lt (Nat.lt_succ_of_le bounded)

theorem number?_idOf (g : IdGenerator) (n : UInt64) : g.number? (g.idOf n) = some n.toNat := by
  have tail : (g.seed ++ "-").toList.isPrefixOf? (g.idOf n).text.toList =
      some (Nat.toDigits 10 n.toNat) := by
    simp [idOf, List.isPrefixOf?_eq_some_iff_append_eq]
  have value : Nat.ofDigitChars 10 (Nat.toDigits 10 n.toNat) 0 = n.toNat :=
    Nat.ofDigitChars_ten_toDigits
  have digits : ∀ c ∈ Nat.toDigits 10 n.toNat, c.isDigit :=
    fun c h => Nat.isDigit_of_mem_toDigits (by decide) (by decide) h
  have read := readCounter?_digits Nat.toDigits_ne_nil digits (value.symm ▸ toNat_le_limit n)
  rw [value] at read
  rw [number?, tail]
  exact read

theorem idOf_injective (g : IdGenerator) : Function.Injective g.idOf := by
  intro m n same
  have numbers := congrArg g.number? same
  rw [number?_idOf, number?_idOf] at numbers
  exact UInt64.toNat_inj.1 (Option.some.inj numbers)

theorem idOf_isAssigned (g : IdGenerator) (n : UInt64) : (g.idOf n).isAssigned := by
  simp [InstanceId.isAssigned, idOf]

/-- The counter is what it has come to in all, less the rounds that it has made. -/
theorem ofNat_count (g : IdGenerator) : UInt64.ofNat g.count = g.counter := by
  rw [← UInt64.toNat_inj, UInt64.toNat_ofNat', count, Nat.mul_add_mod_self_left]
  exact Nat.mod_eq_of_lt g.counter.toNat_lt

theorem draw_count (g : IdGenerator) : g.draw.2.count = g.count + 1 := by
  have step : (g.counter + 1).toNat = (g.counter.toNat + 1) % UInt64.size := UInt64.toNat_add _ 1
  have bound : g.counter.toNat < UInt64.size := g.counter.toNat_lt
  by_cases wraps : g.counter + 1 = 0
  · have last : g.counter.toNat + 1 = UInt64.size := by
      rw [wraps] at step
      have zero : (g.counter.toNat + 1) % UInt64.size = 0 := step.symm
      have divides := Nat.dvd_of_mod_eq_zero zero
      exact Nat.le_antisymm bound (Nat.le_of_dvd (Nat.succ_pos _) divides)
    have next : (0 : UInt64).toNat = 0 := rfl
    simp only [draw, count, wraps, if_true, next, Nat.mul_succ]
    omega
  · have inside : g.counter.toNat + 1 < UInt64.size := by
      refine Nat.lt_of_le_of_ne bound fun last => wraps (UInt64.toNat_inj.1 ?_)
      rw [step, last, Nat.mod_self]
      rfl
    rw [Nat.mod_eq_of_lt inside] at step
    simp only [draw, count, wraps, if_false, step]
    omega

theorem draw_id (g : IdGenerator) : g.draw.1 = g.idOf (.ofNat (g.count + 1)) := by
  rw [UInt64.ofNat_add, ofNat_count]
  rfl

/-- A later state of the same generator. -/
def Reaches (g h : IdGenerator) : Prop := h.seed = g.seed ∧ g.count ≤ h.count

theorem Reaches.refl (g : IdGenerator) : g.Reaches g := ⟨rfl, Nat.le_refl _⟩

theorem Reaches.trans {g h k : IdGenerator} (a : g.Reaches h) (b : h.Reaches k) : g.Reaches k :=
  ⟨b.1.trans a.1, Nat.le_trans a.2 b.2⟩

theorem draw_reaches (g : IdGenerator) : g.Reaches g.draw.2 :=
  ⟨rfl, g.draw_count ▸ Nat.le_succ _⟩

/-- The counter has passed the number of an id, if the id has one. -/
def Covers (g : IdGenerator) (id : InstanceId) : Prop := ∀ n, g.number? id = some n → n ≤ g.count

theorem Reaches.number?_eq {g h : IdGenerator} (reach : g.Reaches h) (id : InstanceId) :
    h.number? id = g.number? id := by
  simp only [number?, reach.1]

theorem Reaches.idOf_eq {g h : IdGenerator} (reach : g.Reaches h) (n : UInt64) :
    h.idOf n = g.idOf n := by
  simp only [idOf, reach.1]

theorem Covers.mono {g h : IdGenerator} {id : InstanceId} (reach : g.Reaches h)
    (cover : g.Covers id) : h.Covers id := by
  intro n hn
  exact Nat.le_trans (cover n ((reach.number?_eq id).symm.trans hn)) reach.2

theorem covers_idOf (g : IdGenerator) {n : UInt64} (le : n.toNat ≤ g.count) :
    g.Covers (g.idOf n) := by
  intro m hm
  rw [number?_idOf] at hm
  cases hm
  exact le

theorem ne_idOf_of_covers {g : IdGenerator} {id : InstanceId} {n : Nat} (cover : g.Covers id)
    (lt : g.count < n) (bounded : n ≤ counterLimit) : id ≠ g.idOf (.ofNat n) := by
  rintro rfl
  have number := cover _ (g.number?_idOf (.ofNat n))
  rw [toNat_ofNat_of_le bounded] at number
  exact Nat.not_le_of_lt lt number

theorem observe_of_number {g : IdGenerator} {id : InstanceId} {n : Nat}
    (numbered : g.number? id = some n) :
    g.observe id = { g with counter := max g.counter (.ofNat n) } := by
  rw [observe, numbered]

theorem observe_of_none {g : IdGenerator} {id : InstanceId} (other : g.number? id = none) :
    g.observe id = g := by
  rw [observe, other]

theorem toNat_max (m n : UInt64) : (max m n).toNat = max m.toNat n.toNat := by
  change (if m ≤ n then n else m).toNat = _
  split
  · exact (Nat.max_eq_right ‹m ≤ n›).symm
  · exact (Nat.max_eq_left (Nat.le_of_not_le ‹¬m ≤ n›)).symm

theorem observe_counter_le_iff (g : IdGenerator) (id : InstanceId) {bound : Nat} :
    (g.observe id).counter.toNat ≤ bound ↔
      g.counter.toNat ≤ bound ∧ ∀ n, g.number? id = some n → n ≤ bound := by
  cases numbered : g.number? id with
  | none => simp [observe_of_none numbered]
  | some n =>
    have number := toNat_ofNat_of_le (number?_le numbered)
    rw [observe_of_number numbered, toNat_max, number, Nat.max_le]
    simp

theorem observe_fields (g : IdGenerator) (id : InstanceId) :
    (g.observe id).seed = g.seed ∧ (g.observe id).laps = g.laps := by
  unfold observe
  split <;> exact ⟨rfl, rfl⟩

theorem resume_fields (existing : List InstanceId) (g : IdGenerator) :
    (g.resume existing).seed = g.seed ∧ (g.resume existing).laps = g.laps := by
  induction existing generalizing g with
  | nil => exact ⟨rfl, rfl⟩
  | cons id existing ih =>
    obtain ⟨seed, laps⟩ := g.observe_fields id
    exact ⟨(ih (g.observe id)).1.trans seed, (ih (g.observe id)).2.trans laps⟩

/-- The counter after resuming is the least bound of the counter before and the numbers in use. -/
theorem resume_counter_le_iff (existing : List InstanceId) (g : IdGenerator) {bound : Nat} :
    (g.resume existing).counter.toNat ≤ bound ↔
      g.counter.toNat ≤ bound ∧ ∀ id ∈ existing, ∀ n, g.number? id = some n → n ≤ bound := by
  induction existing generalizing g with
  | nil => simp [resume]
  | cons id existing ih =>
    have same : ∀ other, (g.observe id).number? other = g.number? other := by
      simp only [number?, (g.observe_fields id).1, implies_true]
    change ((g.observe id).resume existing).counter.toNat ≤ bound ↔ _
    rw [ih, observe_counter_le_iff, List.forall_mem_cons, and_assoc]
    simp only [same]

theorem resume_reaches (existing : List InstanceId) (g : IdGenerator) :
    g.Reaches (g.resume existing) := by
  obtain ⟨seed, laps⟩ := g.resume_fields existing
  obtain ⟨start, _⟩ := (g.resume_counter_le_iff existing).1 (Nat.le_refl _)
  refine ⟨seed, ?_⟩
  rw [count, count, laps]
  exact Nat.add_le_add_left start _

theorem resume_covers {existing : List InstanceId} {id : InstanceId} (h : id ∈ existing)
    (g : IdGenerator) : (g.resume existing).Covers id := by
  intro n numbered
  rw [(g.resume_reaches existing).number?_eq] at numbered
  obtain ⟨_, each⟩ := (g.resume_counter_le_iff existing).1 (Nat.le_refl _)
  exact Nat.le_trans (each id h n numbered) (Nat.le_add_left _ _)

theorem resume_counter_le_of_subset {existing others : List InstanceId} (sub : existing ⊆ others)
    (g : IdGenerator) :
    (g.resume existing).counter.toNat ≤ (g.resume others).counter.toNat := by
  obtain ⟨start, each⟩ := (g.resume_counter_le_iff others).1 (Nat.le_refl _)
  exact (g.resume_counter_le_iff existing).2 ⟨start, fun id mem => each id (sub mem)⟩

theorem eq_of_fields {g h : IdGenerator} (seed : g.seed = h.seed) (counter : g.counter = h.counter)
    (laps : g.laps = h.laps) : g = h := by
  cases g
  cases h
  cases seed
  cases counter
  cases laps
  rfl

theorem resume_congr {existing others : List InstanceId}
    (same : ∀ id, id ∈ existing ↔ id ∈ others) (g : IdGenerator) :
    g.resume existing = g.resume others := by
  obtain ⟨seed, laps⟩ := g.resume_fields existing
  obtain ⟨otherSeed, otherLaps⟩ := g.resume_fields others
  refine eq_of_fields (seed.trans otherSeed.symm) (UInt64.toNat_inj.1 (Nat.le_antisymm ?_ ?_))
    (laps.trans otherLaps.symm)
  · exact resume_counter_le_of_subset (fun id => (same id).1) g
  · exact resume_counter_le_of_subset (fun id => (same id).2) g

theorem resume_resume (existing : List InstanceId) (g : IdGenerator) :
    (g.resume existing).resume existing = g.resume existing := by
  have twice : (g.resume existing).resume existing = g.resume (existing ++ existing) :=
    List.foldl_append.symm
  rw [twice]
  exact resume_congr (by simp) g

end PageBuilder.IdGenerator
