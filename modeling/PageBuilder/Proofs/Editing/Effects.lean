import PageBuilder.Proofs.Identity.Document

set_option autoImplicit false

namespace PageBuilder

namespace Document

theorem get?_of_position? {d : Document} {id : InstanceId} {i : Nat}
    (found : d.position? id = some i) :
    ∃ lt : i < d.blocks.length, d.get? id = some d.blocks[i] := by
  obtain ⟨lt, hit, before⟩ := List.findIdx?_eq_some_iff_getElem.1 found
  have first : ∀ j (earlier : j < i), !decide (d.blocks[j].instanceId = id) := fun j earlier => by
    simpa using before j earlier
  exact ⟨lt, List.find?_eq_some_iff_getElem.2 ⟨hit, i, lt, rfl, first⟩⟩

theorem swapAt_of_length_le {i : Nat} {blocks : List Block} (last : blocks.length ≤ i + 1) :
    swapAt i blocks = blocks := by
  fun_induction swapAt i blocks with
  | case1 a b rest => simp at last
  | case2 i a rest ih => rw [ih (Nat.le_of_succ_le_succ last)]
  | case3 => rfl

theorem swapAt_ne {i : Nat} {blocks : List Block} (bound : i + 1 < blocks.length)
    (distinct : (blocks.map Block.instanceId).Nodup) : swapAt i blocks ≠ blocks := by
  fun_induction swapAt i blocks with
  | case1 a b rest =>
    intro same
    obtain ⟨rfl, _⟩ := List.cons.inj same
    simp at distinct
  | case2 i a rest ih =>
    intro same
    exact ih (Nat.lt_of_succ_lt_succ bound) (List.nodup_cons.1 distinct).2 (List.cons.inj same).2
  | case3 i blocks noPair noTail =>
    rcases blocks with _ | ⟨a, _ | ⟨b, rest⟩⟩
    · exact absurd bound (Nat.not_lt_zero _)
    · exact absurd (Nat.lt_of_succ_lt_succ bound) (Nat.not_lt_zero _)
    · cases i with
      | zero => exact absurd rfl (noPair a b rest rfl)
      | succ i => exact absurd rfl (noTail i a (b :: rest) rfl)

theorem update_ne_iff {d : Document} {id : InstanceId} {i : Nat} (found : d.position? id = some i)
    (block : Block) : d.update id block ≠ d ↔ d.get? id ≠ some (block.withInstanceId id) := by
  obtain ⟨lt, got⟩ := get?_of_position? found
  have put : d.update id block = { d with blocks := d.blocks.set i (block.withInstanceId id) } := by
    rw [update, found]
  rw [put, got, not_iff_not, Document.mk.injEq, Option.some_inj]
  constructor
  · rintro ⟨same, _⟩
    have stored : (d.blocks.set i (block.withInstanceId id))[i]? =
        some (block.withInstanceId id) := List.getElem?_set_self lt
    rwa [same, List.getElem?_eq_getElem lt, Option.some_inj] at stored
  · intro same
    rw [← same, List.set_getElem_self]
    exact ⟨rfl, rfl⟩

theorem remove_of_missing {d : Document} {id : InstanceId} (missing : d.position? id = none) :
    d.remove id = d := by
  have others : d.blocks.filter (·.instanceId ≠ id) = d.blocks := by
    rw [List.filter_eq_self]
    simpa [position?] using missing
  rw [remove, others]

theorem remove_ne {d : Document} {id : InstanceId} {i : Nat} (found : d.position? id = some i) :
    d.remove id ≠ d := by
  obtain ⟨lt, hit, _⟩ := List.findIdx?_eq_some_iff_getElem.1 found
  intro same
  have blocks : d.blocks.filter (·.instanceId ≠ id) = d.blocks := congrArg Document.blocks same
  have kept := List.filter_eq_self.1 blocks d.blocks[i] (List.getElem_mem lt)
  simp only [decide_eq_true_eq] at kept hit
  exact kept hit

theorem insert_ne (d : Document) (kind : BlockKind) (g : IdGenerator) :
    (d.insert kind g).1 ≠ d := by
  intro same
  have longer := congrArg (·.ids.length) same
  simp [ids_insert] at longer

theorem duplicate_ne {d : Document} {id : InstanceId} {i : Nat} (found : d.position? id = some i)
    (g : IdGenerator) : (d.duplicate id g).1 ≠ d := by
  obtain ⟨lt, got⟩ := get?_of_position? found
  have longer : (d.duplicate id g).1.blocks.length = d.blocks.length + 1 := by
    simp [duplicate, found, got, List.length_insertIdx, Nat.succ_le_of_lt lt]
  intro same
  rw [same] at longer
  exact Nat.succ_ne_self _ longer.symm

end Document

namespace Mutation

/-- Whether a mutation with a target in the document asks for something new. -/
def Alters (d : Document) : Mutation → Prop
  | .updateBlock id block => d.get? id ≠ some (block.withInstanceId id)
  | .updateSettings settings => settings ≠ d.settings
  | .insertBlock _ | .moveBlock _ _ | .removeBlock _ | .duplicateBlock _ => True

theorem position?_of_check {m : Mutation} {d : Document} {id : InstanceId}
    (target : m.target = some id) (passed : m.check d = .ok ()) :
    ∃ i, d.position? id = some i := by
  cases found : d.position? id with
  | some i => exact ⟨i, rfl⟩
  | none =>
    simp only [check, target, found] at passed
    cases passed

theorem move_of_check_error {d : Document} {id : InstanceId} {direction : Direction}
    {e : MutationError} (failed : (moveBlock id direction).check d = .error e) :
    d.move id direction = d := by
  cases found : d.position? id with
  | none => simp [Document.move, found]
  | some i =>
    cases direction with
    | up =>
      cases i with
      | zero => simp [Document.move, found]
      | succ i => simp [check, target, found] at failed
    | down =>
      have last : i + 1 = d.blocks.length := by
        by_contra inside
        simp [check, target, found, inside] at failed
      simp [Document.move, found, Document.swapAt_of_length_le (Nat.le_of_eq last.symm)]

theorem move_of_check {d : Document} {id : InstanceId} {direction : Direction}
    (passed : (moveBlock id direction).check d = .ok ()) :
    ∃ j, j + 1 < d.blocks.length ∧
      d.move id direction = { d with blocks := Document.swapAt j d.blocks } := by
  obtain ⟨i, found⟩ := position?_of_check rfl passed
  obtain ⟨lt, _⟩ := Document.get?_of_position? found
  cases direction with
  | up =>
    cases i with
    | zero => simp [check, target, found] at passed
    | succ i => exact ⟨i, lt, by simp [Document.move, found]⟩
  | down =>
    have inside : i + 1 ≠ d.blocks.length := fun last => by
      simp [check, target, found, last] at passed
    exact ⟨i, by omega, by simp [Document.move, found]⟩

theorem apply_of_check_error {m : Mutation} {d : Document} {e : MutationError} (g : IdGenerator)
    (failed : m.check d = .error e) : m.apply d g = ⟨d, none, g⟩ := by
  cases m with
  | insertBlock kind => cases failed
  | updateSettings settings => cases failed
  | updateBlock id block =>
    cases found : d.position? id with
    | none => simp [apply, Document.update, found]
    | some i => simp [check, target, found] at failed
  | removeBlock id =>
    cases found : d.position? id with
    | none => rw [apply, Document.remove_of_missing found]
    | some i => simp [check, target, found] at failed
  | duplicateBlock id =>
    cases found : d.position? id with
    | none => simp [apply, Document.duplicate, found]
    | some i => simp [check, target, found] at failed
  | moveBlock id direction => rw [apply, move_of_check_error failed]

/-- A mutation that passes its check changes the document exactly if it asks for something new. -/
theorem apply_ne_iff {m : Mutation} {d : Document} (g : IdGenerator) (identified : d.Identified)
    (passed : m.check d = .ok ()) : (m.apply d g).document ≠ d ↔ m.Alters d := by
  cases m with
  | updateSettings settings =>
    rw [Alters, apply, Document.withSettings, Ne, Document.mk.injEq]
    simp
  | updateBlock id block =>
    obtain ⟨i, found⟩ := position?_of_check rfl passed
    exact Document.update_ne_iff found block
  | insertBlock kind => exact iff_of_true (d.insert_ne kind g) trivial
  | removeBlock id =>
    obtain ⟨i, found⟩ := position?_of_check rfl passed
    exact iff_of_true (Document.remove_ne found) trivial
  | duplicateBlock id =>
    obtain ⟨i, found⟩ := position?_of_check rfl passed
    exact iff_of_true (Document.duplicate_ne found g) trivial
  | moveBlock id direction =>
    obtain ⟨j, bound, moved⟩ := move_of_check passed
    refine iff_of_true (fun same => ?_) trivial
    change d.move id direction = d at same
    rw [moved] at same
    exact Document.swapAt_ne bound identified.distinct (congrArg Document.blocks same)

end Mutation
end PageBuilder
