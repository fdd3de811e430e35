import PageBuilder.Proofs.Editing.Positions
import PageBuilder.Proofs.Identity.Edits

set_option autoImplicit false

namespace PageBuilder

namespace Document

variable {d : Document}

def mapBlocks (d : Document) (f : Block → Block) : Document := { d with blocks := d.blocks.map f }

/-- Changes blocks with one id only, and no ids. -/
structure ActsAt (id : InstanceId) (f : Block → Block) : Prop where
  keeps : ∀ b, (f b).instanceId = b.instanceId
  others : ∀ b, b.instanceId ≠ id → f b = b

def replaced (id : InstanceId) (new b : Block) : Block :=
  if b.instanceId = id then new.withInstanceId id else b

theorem replaced_actsAt (id : InstanceId) (new : Block) : ActsAt id (replaced id new) where
  keeps b := by
    unfold replaced
    split
    · rename_i same
      exact same.symm
    · rfl
  others _ other := if_neg other

theorem ActsAt.map_of_missing {id : InstanceId} {f : Block → Block} (acts : ActsAt id f)
    {blocks : List Block} (missing : id ∉ blocks.map Block.instanceId) : blocks.map f = blocks := by
  have same : ∀ b ∈ blocks, f b = b := by
    intro b mem
    refine acts.others b ?_
    rintro rfl
    exact missing (List.mem_map_of_mem mem)
  rw [List.map_congr_left same, List.map_id']

/-- Where ids are distinct, the target of an update is the only block with its id. -/
theorem update_eq_mapBlocks (distinct : d.ids.Nodup) (id : InstanceId) (new : Block) :
    d.update id new = d.mapBlocks (replaced id new) := by
  by_cases held : id ∈ d.ids
  · obtain ⟨before, block, after, blocks, rfl, first⟩ := exists_split held
    have acts := replaced_actsAt block.instanceId new
    have last := (apart_of_split distinct blocks).2
    have target : replaced block.instanceId new block = new.withInstanceId block.instanceId :=
      if_pos rfl
    rw [update_split blocks first, mapBlocks, blocks, List.map_append, List.map_cons,
      acts.map_of_missing first, acts.map_of_missing last, target]
  · rw [update_of_missing held, mapBlocks, (replaced_actsAt id new).map_of_missing held]

theorem map_swapAt (f : Block → Block) (i : Nat) (blocks : List Block) :
    (swapAt i blocks).map f = swapAt i (blocks.map f) := by
  induction blocks generalizing i with
  | nil => cases i <;> rfl
  | cons a rest ih =>
    cases i with
    | zero => cases rest <;> rfl
    | succ i => exact congrArg (f a :: ·) (ih i)

section

variable {id : InstanceId} {f : Block → Block} (acts : ActsAt id f)
include acts

theorem ActsAt.ids (d : Document) : (d.mapBlocks f).ids = d.ids := by
  rw [Document.ids, mapBlocks, List.map_map]
  exact List.map_congr_left fun b _ => acts.keeps b

theorem ActsAt.hasId_comp (target : InstanceId) :
    (fun b : Block => decide (b.instanceId = target)) ∘ f =
      fun b => decide (b.instanceId = target) := by
  funext b
  rw [Function.comp_apply, acts.keeps]

theorem ActsAt.position? (d : Document) (target : InstanceId) :
    (d.mapBlocks f).position? target = d.position? target := by
  rw [Document.position?, mapBlocks, List.findIdx?_map, acts.hasId_comp]
  rfl

theorem ActsAt.get? (d : Document) (target : InstanceId) :
    (d.mapBlocks f).get? target = (d.get? target).map f := by
  rw [Document.get?, mapBlocks, List.find?_map, acts.hasId_comp]
  rfl

theorem ActsAt.move (d : Document) (target : InstanceId) (direction : Direction) :
    (d.mapBlocks f).move target direction = (d.move target direction).mapBlocks f := by
  unfold Document.move
  rw [acts.position?]
  split
  · simp only [mapBlocks, map_swapAt]
  · simp only [mapBlocks, map_swapAt]
  · rfl

theorem ActsAt.remove (d : Document) (target : InstanceId) :
    (d.mapBlocks f).remove target = (d.remove target).mapBlocks f := by
  have same : (fun b : Block => decide (b.instanceId ≠ target)) ∘ f =
      fun b => decide (b.instanceId ≠ target) := by
    funext b
    rw [Function.comp_apply, acts.keeps]
  rw [Document.remove, Document.remove, mapBlocks, mapBlocks, List.filter_map, same]

theorem ActsAt.update {target : InstanceId} (other : target ≠ id) (d : Document) (new : Block) :
    (d.mapBlocks f).update target new = (d.update target new).mapBlocks f := by
  have fixed : f (new.withInstanceId target) = new.withInstanceId target := acts.others _ other
  unfold Document.update
  rw [acts.position?]
  split
  · rfl
  · simp only [mapBlocks, List.map_set, fixed]

/-- A new block is not the one that is acted at. -/
theorem ActsAt.drawn (held : id ∈ d.ids) (g : IdGenerator) (b : Block) :
    f (b.withInstanceId (g.drawFresh d.ids).1) = b.withInstanceId (g.drawFresh d.ids).1 := by
  refine acts.others _ fun same => g.drawFresh_not_mem d.ids ?_
  change (g.drawFresh d.ids).1 = id at same
  rwa [same]

theorem ActsAt.insert (held : id ∈ d.ids) (kind : BlockKind) (g : IdGenerator) :
    (d.mapBlocks f).insert kind g =
      ((d.insert kind g).1.mapBlocks f, (d.insert kind g).2) := by
  have fixed := acts.drawn held g kind.template
  unfold Document.insert
  rw [acts.ids]
  simp only [mapBlocks, List.map_append, List.map_singleton, fixed]

theorem ActsAt.duplicate {target : InstanceId} (other : target ≠ id) (held : id ∈ d.ids)
    (g : IdGenerator) : (d.mapBlocks f).duplicate target g =
      ((d.duplicate target g).1.mapBlocks f, (d.duplicate target g).2) := by
  unfold Document.duplicate
  rw [acts.position?, acts.get?, acts.ids]
  cases d.position? target with
  | none => rfl
  | some i =>
    cases got : d.get? target with
    | none => rfl
    | some block =>
      have named := List.find?_some got
      rw [decide_eq_true_eq] at named
      have fixed : f block = block := acts.others block (named ▸ other)
      simp only [Option.map_some, fixed, mapBlocks, List.map_insertIdx, acts.drawn held g block]

end

theorem position?_withSettings (d : Document) (settings : Settings) (target : InstanceId) :
    (d.withSettings settings).position? target = d.position? target := rfl

theorem update_withSettings (d : Document) (settings : Settings) (target : InstanceId)
    (new : Block) : (d.withSettings settings).update target new =
      (d.update target new).withSettings settings := by
  unfold Document.update
  rw [position?_withSettings]
  split <;> rfl

theorem move_withSettings (d : Document) (settings : Settings) (target : InstanceId)
    (direction : Direction) : (d.withSettings settings).move target direction =
      (d.move target direction).withSettings settings := by
  unfold Document.move
  rw [position?_withSettings]
  split <;> rfl

theorem duplicate_withSettings (d : Document) (settings : Settings) (target : InstanceId)
    (g : IdGenerator) : (d.withSettings settings).duplicate target g =
      ((d.duplicate target g).1.withSettings settings, (d.duplicate target g).2) := by
  have found : (d.withSettings settings).get? target = d.get? target := rfl
  unfold Document.duplicate
  rw [position?_withSettings, found]
  split <;> rfl

end Document

namespace Mutation

open Document (ActsAt replaced_actsAt update_eq_mapBlocks)

/-- Two mutations have the same effects in either order: they leave the same document and the same
generator, and each of them reports the same inserted id. -/
structure Commutes (m n : Mutation) (d : Document) (g : IdGenerator) : Prop where
  document : (n.apply (m.apply d g).document (m.apply d g).ids).document =
    (m.apply (n.apply d g).document (n.apply d g).ids).document
  ids : (n.apply (m.apply d g).document (m.apply d g).ids).ids =
    (m.apply (n.apply d g).document (n.apply d g).ids).ids
  insertedFirst : (m.apply d g).inserted =
    (m.apply (n.apply d g).document (n.apply d g).ids).inserted
  insertedSecond : (n.apply (m.apply d g).document (m.apply d g).ids).inserted =
    (n.apply d g).inserted

/-- Neither replaces nor removes nor copies a block. -/
def Spares (id : InstanceId) : Mutation → Prop
  | .updateBlock other _ | .removeBlock other | .duplicateBlock other => other ≠ id
  | .moveBlock _ _ | .insertBlock _ | .updateSettings _ => True

variable {d : Document} {g : IdGenerator}

theorem commutes_of_apply {m n : Mutation} {first last : Document}
    (before : m.apply d g = ⟨first, none, g⟩)
    (after : m.apply (n.apply d g).document (n.apply d g).ids =
      ⟨last, none, (n.apply d g).ids⟩)
    (same : n.apply first g = { n.apply d g with document := last }) : Commutes m n d g := by
  constructor <;> simp only [before, after, same]

theorem apply_mapBlocks {id : InstanceId} {f : Block → Block} (acts : ActsAt id f)
    (held : id ∈ d.ids) {n : Mutation} (spares : n.Spares id) (g : IdGenerator) :
    n.apply (d.mapBlocks f) g =
      { n.apply d g with document := (n.apply d g).document.mapBlocks f } := by
  cases n with
  | insertBlock kind => simp only [apply, acts.insert held kind g]
  | updateBlock other new => simp only [apply, acts.update spares d new]
  | moveBlock other direction => simp only [apply, acts.move d other direction]
  | removeBlock other => simp only [apply, acts.remove d other]
  | duplicateBlock other => simp only [apply, acts.duplicate spares held g]
  | updateSettings settings => rfl

theorem apply_withSettings {n : Mutation} (others : ∀ settings, n ≠ .updateSettings settings)
    (d : Document) (g : IdGenerator) (settings : Settings) :
    n.apply (d.withSettings settings) g =
      { n.apply d g with document := (n.apply d g).document.withSettings settings } := by
  cases n with
  | insertBlock kind => rfl
  | updateBlock other new => simp only [apply, Document.update_withSettings]
  | moveBlock other direction => simp only [apply, Document.move_withSettings]
  | removeBlock other => rfl
  | duplicateBlock other => simp only [apply, Document.duplicate_withSettings]
  | updateSettings other => exact absurd rfl (others other)

/--
Mutations of an identified document commute if neither touches what the other one changes. Replacing
a block of the document commutes with replacing, removing and copying another block, with moving any
block, with inserting one, and with changing the settings; and changing the settings commutes with
everything but another change of the settings. In both orders the document, the ids that are reported
and the generator are the same.
-/
theorem independent_mutations_commute (identified : d.Identified) (g : IdGenerator) :
    (∀ id ∈ d.ids, ∀ (new : Block) (n : Mutation), n.Spares id →
      Commutes (.updateBlock id new) n d g) ∧
    ∀ (settings : Settings) (n : Mutation), (∀ other, n ≠ .updateSettings other) →
      Commutes (.updateSettings settings) n d g := by
  refine ⟨fun id held new n spares => ?_, fun settings n others => ?_⟩
  · have identifiedAfter := n.apply_identified g identified
    have update : ∀ {e : Document} (h : IdGenerator), e.Identified →
        (updateBlock id new).apply e h = ⟨e.mapBlocks (Document.replaced id new), none, h⟩ :=
      fun h identified => by rw [apply, update_eq_mapBlocks identified.distinct]
    exact commutes_of_apply (update g identified) (update _ identifiedAfter)
      (apply_mapBlocks (replaced_actsAt id new) held spares g)
  · exact commutes_of_apply rfl rfl (apply_withSettings others d g settings)

theorem replacement_commutes_with_copy :
    Document.twoTexts.Identified ∧ (⟨"a-1"⟩ : InstanceId) ∈ Document.twoTexts.ids ∧
      (duplicateBlock ⟨"b"⟩).Spares ⟨"a-1"⟩ ∧
      Commutes (.updateBlock ⟨"a-1"⟩ (BlockKind.hero.template.withInstanceId ⟨"b"⟩))
        (.duplicateBlock ⟨"b"⟩) Document.twoTexts (.ofSeed "a") ∧
      Commutes (.updateSettings { title := "New" }) (.insertBlock .faq) Document.twoTexts
        (.ofSeed "a") := by
  have identified : Document.twoTexts.Identified := ⟨by decide, by decide⟩
  have held : (⟨"a-1"⟩ : InstanceId) ∈ Document.twoTexts.ids := by decide
  have spares : (duplicateBlock ⟨"b"⟩).Spares ⟨"a-1"⟩ := by
    change (⟨"b"⟩ : InstanceId) ≠ ⟨"a-1"⟩
    decide
  obtain ⟨replace, settings⟩ := independent_mutations_commute identified (.ofSeed "a")
  exact ⟨identified, held, spares, replace _ held _ _ spares, settings _ _ nofun⟩

end Mutation
end PageBuilder
