import Mathlib.Order.Basic
import PageBuilder.Proofs.Identity.Session

set_option autoImplicit false

namespace PageBuilder

open IdGenerator (counterLimit)

namespace IdGenerator

/-- The greatest number of the ids that have the form of this generator's ids, or zero. -/
def highest (g : IdGenerator) (ids : List InstanceId) : Nat := (ids.filterMap g.number?).foldr max 0

theorem highest_le_iff {g : IdGenerator} {ids : List InstanceId} {bound : Nat} :
    g.highest ids ≤ bound ↔ ∀ id ∈ ids, ∀ n, g.number? id = some n → n ≤ bound := by
  unfold highest
  induction ids with
  | nil => simp
  | cons id ids ih =>
    rw [List.forall_mem_cons, ← ih]
    cases found : g.number? id <;> simp [found]

theorem resume_count (ids : List InstanceId) {g : IdGenerator} (bounded : g.count ≤ counterLimit) :
    (g.resume ids).count = max g.count (g.highest ids) := by
  have first : g.laps = 0 := by
    simp only [count, UInt64.size, counterLimit] at bounded
    omega
  have whole : ∀ h : IdGenerator, h.laps = 0 → h.count = h.counter.toNat := by
    intro h none
    rw [count, none, Nat.mul_zero, Nat.zero_add]
  rw [whole _ ((g.resume_fields ids).2.trans first), whole g first]
  exact eq_of_forall_ge_iff fun bound => by
    rw [resume_counter_le_iff, max_le_iff, highest_le_iff]

theorem drawFresh_of_covers {g : IdGenerator} {taken : List InstanceId}
    (cover : ∀ id ∈ taken, g.Covers id) (bounded : g.count + 1 ≤ counterLimit) :
    g.drawFresh taken = g.draw := by
  have free : g.draw.1 ∉ taken := fun old =>
    ne_idOf_of_covers (cover _ old) (Nat.lt_succ_self _) bounded g.draw_id
  exact (FirstFree.found free).drawAround_eq (Nat.succ_pos _)

end IdGenerator

namespace Document

/-- The number of assigned ids that blocks have, each counted once, and those seen before not at
all. -/
def newIds (seen : List InstanceId) (blocks : List Block) : Nat :=
  ((blocks.map Block.instanceId).toFinset.filter fun id => id.isAssigned ∧ id ∉ seen).card

/-- The number of blocks that repair gives a new id: all but one for every assigned id. -/
def repairs (d : Document) : Nat := d.blocks.length - newIds [] d.blocks

variable {all seen : List InstanceId} {block : Block} {rest : List Block}

theorem newIds_le_length (seen : List InstanceId) (blocks : List Block) :
    newIds seen blocks ≤ blocks.length := by
  refine (Finset.card_filter_le _ _).trans ?_
  simpa using (blocks.map Block.instanceId).toFinset_card_le

theorem newIds_cons_of_new (new : block.instanceId.isAssigned ∧ block.instanceId ∉ seen) :
    newIds seen (block :: rest) = newIds (block.instanceId :: seen) rest + 1 := by
  rw [newIds, newIds, ← Finset.card_insert_of_notMem (a := block.instanceId) (by simp)]
  congr 1
  ext id
  by_cases same : id = block.instanceId
  · simp [same, new]
  · simp [same]

theorem newIds_cons_of_spent (spent : ¬(block.instanceId.isAssigned ∧ block.instanceId ∉ seen)) :
    newIds seen (block :: rest) = newIds seen rest := by
  rw [newIds, newIds, List.map_cons, List.toFinset_cons, Finset.filter_insert, if_neg spent]

theorem newIds_seen_cons {id : InstanceId} (absent : id ∉ rest.map Block.instanceId) :
    newIds (id :: seen) rest = newIds seen rest := by
  unfold newIds
  congr 1
  refine Finset.filter_congr fun other held => ?_
  have apart : other ≠ id := by
    rintro rfl
    exact absent (List.mem_toFinset.1 held)
  simp [apart]

theorem drawFresh_not_mem_ids (g : IdGenerator) {blocks : List Block}
    (inside : ∀ b ∈ blocks, b.instanceId ∈ all) :
    (g.drawFresh (seen ++ all)).1 ∉ blocks.map Block.instanceId := by
  intro held
  obtain ⟨b, mem, same⟩ := List.mem_map.1 held
  exact g.drawFresh_not_mem _ (List.mem_append_right _ (same ▸ inside b mem))

theorem le_repairBlocks_count (seen : List InstanceId) {blocks : List Block} (g : IdGenerator)
    (inside : ∀ b ∈ blocks, b.instanceId ∈ all) :
    g.count + blocks.length ≤
      (repairBlocks all seen blocks g).2.count + newIds seen blocks := by
  induction blocks generalizing seen g with
  | nil => exact Nat.le_refl _
  | cons block rest ih =>
    obtain ⟨_, inside⟩ := List.forall_mem_cons.1 inside
    by_cases new : block.instanceId.isAssigned ∧ block.instanceId ∉ seen
    · have least := ih (block.instanceId :: seen) g inside
      rw [repairBlocks_of_new new, newIds_cons_of_new new, List.length_cons]
      dsimp only
      omega
    · have advanced := g.drawFresh_count_lt (seen ++ all)
      have least := ih ((g.drawFresh (seen ++ all)).1 :: seen) (g.drawFresh (seen ++ all)).2 inside
      rw [newIds_seen_cons (drawFresh_not_mem_ids g inside)] at least
      rw [repairBlocks_of_spent new, newIds_cons_of_spent new, List.length_cons]
      dsimp only
      omega

/-- From a generator that covers all ids it draws just once for each, within the counter limit. -/
theorem repairBlocks_count (seen : List InstanceId) {blocks : List Block} (g : IdGenerator)
    (inside : ∀ b ∈ blocks, b.instanceId ∈ all) (cover : ∀ id ∈ seen ++ all, g.Covers id)
    (bounded : g.count + blocks.length ≤ counterLimit + newIds seen blocks) :
    (repairBlocks all seen blocks g).2.count + newIds seen blocks = g.count + blocks.length := by
  induction blocks generalizing seen g with
  | nil => rfl
  | cons block rest ih =>
    obtain ⟨held, inside⟩ := List.forall_mem_cons.1 inside
    rw [List.length_cons] at bounded ⊢
    by_cases new : block.instanceId.isAssigned ∧ block.instanceId ∉ seen
    · rw [newIds_cons_of_new new] at bounded ⊢
      have covered : ∀ id ∈ block.instanceId :: seen ++ all, g.Covers id :=
        List.forall_mem_cons.2 ⟨cover _ (List.mem_append_right _ held), cover⟩
      have rest := ih (block.instanceId :: seen) g inside covered (by omega)
      rw [repairBlocks_of_new new]
      dsimp only
      omega
    · rw [newIds_cons_of_spent new] at bounded ⊢
      have few := newIds_le_length seen rest
      have room : g.count + 1 ≤ counterLimit := by omega
      have once : g.drawFresh (seen ++ all) = g.draw := IdGenerator.drawFresh_of_covers cover room
      -- No later block holds the drawn id, so seeing it does not change what is left to count.
      have absent : g.draw.1 ∉ rest.map Block.instanceId := once ▸ drawFresh_not_mem_ids g inside
      have count : g.draw.2.count = g.count + 1 := g.draw_count
      have drawn : (g.drawFresh (seen ++ all)).2.Covers (g.drawFresh (seen ++ all)).1 :=
        g.drawFresh_covered _ (by rw [once, count]; exact room)
      have covered : ∀ id ∈ g.draw.1 :: seen ++ all, g.draw.2.Covers id :=
        List.forall_mem_cons.2 ⟨once ▸ drawn, fun id mem => (cover id mem).mono g.draw_reaches⟩
      have rest := ih (g.draw.1 :: seen) g.draw.2 inside covered
        (by rw [newIds_seen_cons absent]; omega)
      rw [newIds_seen_cons absent] at rest
      rw [repairBlocks_of_spent new, once]
      dsimp only
      omega

theorem ids_inside (d : Document) : ∀ b ∈ d.blocks, b.instanceId ∈ d.ids :=
  fun _ => List.mem_map_of_mem

theorem le_repairIds_count (d : Document) (g : IdGenerator) :
    g.count + d.repairs ≤ (d.repairIds g).2.count := by
  have least : _ ≤ (d.repairIds g).2.count + _ := le_repairBlocks_count [] g d.ids_inside
  have few := newIds_le_length [] d.blocks
  unfold repairs
  omega

theorem repairIds_count (d : Document) {g : IdGenerator} (cover : ∀ id ∈ d.ids, g.Covers id)
    (bounded : g.count + d.repairs ≤ counterLimit) :
    (d.repairIds g).2.count = g.count + d.repairs := by
  have few := newIds_le_length [] d.blocks
  unfold repairs at bounded ⊢
  have count : (d.repairIds g).2.count + _ = _ :=
    repairBlocks_count [] g d.ids_inside cover (by omega)
  omega

end Document

namespace Session

theorem minted?_length_le (s : Session) (op : Operation) : (s.minted? op).toList.length ≤ 1 := by
  cases s.minted? op <;> simp

theorem mintedBy_length_le (ops : List Operation) (s : Session) :
    (s.mintedBy ops).length ≤ ops.length := by
  induction ops generalizing s with
  | nil => exact Nat.le_refl 0
  | cons op ops ih =>
    have first := s.minted?_length_le op
    have rest := ih (s.perform op)
    rw [mintedBy, List.length_append, List.length_cons]
    omega

theorem perform_count (s : Session) (op : Operation) :
    let next := s.ids.count + (s.minted? op).toList.length
    next ≤ (s.perform op).ids.count ∧
      (s.Traced → next ≤ counterLimit → (s.perform op).ids.count = next) := by
  cases op with
  | apply m =>
    change _ ≤ (s.apply m).1.ids.count ∧ (_ → _ → (s.apply m).1.ids.count = _)
    rw [ids_apply]
    change s.ids.count + (m.minted? s.document s.ids).toList.length ≤ _ ∧ (_ →
      s.ids.count + (m.minted? s.document s.ids).toList.length ≤ _ →
        _ = s.ids.count + (m.minted? s.document s.ids).toList.length)
    rcases m.apply_ids s.document s.ids with ⟨none, same, _⟩ | ⟨minted, drawn, _⟩
    · rw [none, same]
      exact ⟨Nat.le_refl _, fun _ _ => rfl⟩
    · rw [minted, drawn]
      refine ⟨s.ids.drawFresh_count_lt _, fun traced bounded => ?_⟩
      have cover : ∀ id ∈ s.document.ids, s.ids.Covers id :=
        traced.covered _ s.history.current_mem_snapshots
      rw [IdGenerator.drawFresh_of_covers cover bounded]
      exact s.ids.draw_count
  | undo | redo =>
    change _ ≤ (dropStaleSelection _).ids.count ∧ (_ → _ → (dropStaleSelection _).ids.count = _)
    rw [(dropStaleSelection_history _).2]
    exact ⟨Nat.le_refl _, fun _ _ => rfl⟩
  | select id => exact ⟨Nat.le_refl _, fun _ _ => rfl⟩

/-- Operations make at least one step for every id that they mint, and just one within the limit. -/
theorem run_count (ops : List Operation) (s : Session) :
    let last := s.ids.count + (s.mintedBy ops).length
    last ≤ (s.run ops).ids.count ∧
      (s.Traced → last ≤ counterLimit → (s.run ops).ids.count = last) := by
  induction ops generalizing s with
  | nil => exact ⟨Nat.le_refl _, fun _ _ => rfl⟩
  | cons op ops ih =>
    obtain ⟨leastFirst, exactFirst⟩ := s.perform_count op
    obtain ⟨leastRest, exactRest⟩ := ih (s.perform op)
    have run : s.run (op :: ops) = (s.perform op).run ops := rfl
    rw [run, mintedBy, List.length_append]
    dsimp only at *
    refine ⟨by omega, fun traced bounded => ?_⟩
    have first := exactFirst traced (by omega)
    have rest := exactRest (perform_traced op traced (by omega)) (by omega)
    omega

theorem start_count (project : Project) (key : String) :
    let first := (IdGenerator.ofKey key).highest project.document.ids + project.document.repairs
    first ≤ (start project (.ofKey key)).ids.count ∧
      (first ≤ counterLimit → (start project (.ofKey key)).ids.count = first) := by
  let g := IdGenerator.ofKey key
  have resumed : (g.resume project.document.ids).count = g.highest project.document.ids := by
    rw [IdGenerator.resume_count _ (Nat.zero_le _)]
    exact Nat.zero_max _
  have cover : ∀ id ∈ project.document.ids, (g.resume project.document.ids).Covers id :=
    fun _ mem => IdGenerator.resume_covers mem g
  have least := project.document.le_repairIds_count (g.resume project.document.ids)
  have precise := project.document.repairIds_count cover
  rw [resumed] at least precise
  exact ⟨least, precise⟩

/--
A session passes the counter limit exactly if the greatest number in use, the repaired blocks and
the minted ids come to more than it; until then they are what the counter stands at. So blocks and
operations that fit between the greatest number and the limit are safe.
-/
theorem counter_within_limit_iff (project : Project) (key : String) (ops : List Operation) :
    let highest := (IdGenerator.ofKey key).highest project.document.ids
    let s := start project (.ofKey key)
    let needed := highest + project.document.repairs + (s.mintedBy ops).length
    ((∀ earlier, earlier <+: ops → (s.run earlier).ids.count ≤ counterLimit) ↔
        needed ≤ counterLimit) ∧
      (needed ≤ counterLimit → (s.run ops).ids.count = needed) ∧
      (highest + project.document.blocks.length + ops.length ≤ counterLimit →
        needed ≤ counterLimit) := by
  intro highest s needed
  have leastStart : highest + project.document.repairs ≤ s.ids.count := (start_count project key).1
  have exactStart : highest + project.document.repairs ≤ counterLimit →
      s.ids.count = highest + project.document.repairs := (start_count project key).2
  obtain ⟨least, precise⟩ := run_count ops s
  have exactRun : needed ≤ counterLimit → (s.run ops).ids.count = needed := by
    intro bounded
    have begun := exactStart (Nat.le_trans (Nat.le_add_right _ _) bounded)
    have traced : s.Traced := by
      refine start_traced project _ ?_
      rw [begun]
      exact Nat.le_trans (Nat.le_add_right _ _) bounded
    rw [begun] at precise
    exact precise traced bounded
  refine ⟨⟨fun within => ?_, fun bounded => ?_⟩, exactRun, fun room => ?_⟩
  · have last := within ops List.prefix_rfl
    dsimp only [needed]
    omega
  · rintro earlier ⟨later, rfl⟩
    have reach := run_reaches later (s.run earlier)
    rw [← run_append] at reach
    exact Nat.le_trans reach.2 (Nat.le_trans (Nat.le_of_eq (exactRun bounded)) bounded)
  · have minted := mintedBy_length_le ops s
    have repaired : project.document.repairs ≤ project.document.blocks.length := Nat.sub_le _ _
    dsimp only [needed]
    omega

def lastNumbers : String :=
  "\x7b\"document\": \x7b\"blocks\": [\x7b\"type\": \"text\", " ++
    "\"instanceId\": \"0-18446744073709551614\"\x7d]\x7d\x7d"

/-- The first insertion takes the last number, and the second one passes the limit. -/
theorem lastNumbers_overflow :
    ∃ project, Project.ofText lastNumbers = .ok project ∧
      let s := start project (.ofKey "")
      let insertion : Operation := .apply (.insertBlock .text)
      (s.run [insertion]).document.ids =
          [⟨"0-18446744073709551614"⟩, ⟨"0-18446744073709551615"⟩] ∧
        (s.run [insertion]).ids.count = counterLimit ∧
        counterLimit < (s.run [insertion, insertion]).ids.count := by
  let project : Project := { document := { blocks :=
    [⟨{ instanceId := ⟨"0-18446744073709551614"⟩ }, .ofKind .text⟩] } }
  have decoded : Json.decodeText lastNumbers = .ok project := by decide +kernel
  refine ⟨project, ?_, by decide +kernel⟩
  rw [Project.ofText, decoded]
  rfl

end Session
end PageBuilder
