import Mathlib.Data.List.Find
import PageBuilder.Proofs.Editing.Positions
import PageBuilder.Proofs.Identity.Edits
import PageBuilder.Proofs.Identity.Repairs

set_option autoImplicit false

namespace PageBuilder.Document

namespace Edit

def target? : Edit → Option InstanceId
  | .update id _ | .move id _ | .remove id | .duplicate id => some id
  | .insert _ | .insertBlock _ | .withSettings _ | .repairIds => none

def settings? : Edit → Option Settings
  | .withSettings settings => some settings
  | _ => none

end Edit

/-- What an edit makes of blocks with distinct ids, and the ids of the blocks that it puts in, takes
out, replaces or moves: one case for each thing that an edit can do. -/
inductive Changes : Edit → List InstanceId → List Block → List Block → Prop
  | insert {blocks : List Block} (kind : BlockKind) {id : InstanceId} (assigned : id.isAssigned)
      (fresh : id ∉ blocks.map Block.instanceId) :
      Changes (.insert kind) [id] blocks (blocks ++ [kind.template.withInstanceId id])
  | insertBlock {blocks : List Block} {block : Block} (assigned : block.instanceId.isAssigned)
      (free : block.instanceId ∉ blocks.map Block.instanceId) :
      Changes (.insertBlock block) [block.instanceId] blocks (blocks ++ [block])
  | refuse {blocks : List Block} {block : Block}
      (taken : block.instanceId.isAssigned → block.instanceId ∈ blocks.map Block.instanceId) :
      Changes (.insertBlock block) [] blocks blocks
  | update {before after : List Block} {block : Block} (new : Block) :
      Changes (.update block.instanceId new) [block.instanceId] (before ++ block :: after)
        (before ++ new.withInstanceId block.instanceId :: after)
  | up {before after : List Block} {previous block : Block} :
      Changes (.move block.instanceId .up) [block.instanceId] (before ++ previous :: block :: after)
        (before ++ block :: previous :: after)
  | first {after : List Block} {block : Block} :
      Changes (.move block.instanceId .up) [] (block :: after) (block :: after)
  | down {before after : List Block} {block next : Block} :
      Changes (.move block.instanceId .down) [block.instanceId] (before ++ block :: next :: after)
        (before ++ next :: block :: after)
  | last {before : List Block} {block : Block} :
      Changes (.move block.instanceId .down) [] (before ++ [block]) (before ++ [block])
  | remove {before after : List Block} {block : Block} :
      Changes (.remove block.instanceId) [block.instanceId] (before ++ block :: after)
        (before ++ after)
  | duplicate {before after : List Block} {block : Block} {id : InstanceId}
      (assigned : id.isAssigned) (fresh : id ∉ (before ++ block :: after).map Block.instanceId) :
      Changes (.duplicate block.instanceId) [id] (before ++ block :: after)
        (before ++ block :: block.withInstanceId id :: after)
  | miss {blocks : List Block} {e : Edit} {id : InstanceId} (target : e.target? = some id)
      (missing : id ∉ blocks.map Block.instanceId) : Changes e [] blocks blocks
  | withSettings {blocks : List Block} (settings : Settings) :
      Changes (.withSettings settings) [] blocks blocks
  | repairIds {blocks : List Block} : Changes .repairIds [] blocks blocks

theorem Changes.others {e : Edit} {named : List InstanceId} {blocks after : List Block}
    (changes : Changes e named blocks after) :
    after.filter (·.instanceId ∉ named) = blocks.filter (·.instanceId ∉ named) := by
  have renamed : ∀ (b : Block) (id : InstanceId), (b.withInstanceId id).instanceId = id :=
    fun _ _ => rfl
  cases changes with
  | refuse | first | last | miss | withSettings | repairIds => rfl
  | insert kind | insertBlock | update new | up | down | remove | duplicate =>
    simp [List.filter_append, List.filter_cons, renamed]

theorem find?_eq_find?_filter {id : InstanceId} {named : List InstanceId} (other : id ∉ named)
    (blocks : List Block) : blocks.find? (·.instanceId = id) =
      (blocks.filter (·.instanceId ∉ named)).find? (·.instanceId = id) := by
  rw [List.find?_filter]
  refine List.find?_congr fun b _ => decide_eq_decide.2 ⟨fun same => ⟨?_, ?_⟩, fun both => ?_⟩
  · rw [same]
    exact decide_eq_true other
  · exact decide_eq_true same
  · exact of_decide_eq_true both.2

variable {d : Document}

theorem edit_of_missing {e : Edit} {id : InstanceId} (target : e.target? = some id)
    (missing : id ∉ d.ids) (g : IdGenerator) : d.edit g e = (d, g) := by
  cases e with
  | insert | insertBlock | withSettings | repairIds => cases target
  | update other block =>
    cases target
    rw [edit, update_of_missing missing]
  | move other direction =>
    cases target
    rw [edit, move_of_missing missing]
  | remove other =>
    cases target
    rw [edit, remove_of_missing (position?_eq_none.2 missing)]
  | duplicate other =>
    cases target
    exact duplicate_of_missing missing g

theorem changes_move {before after : List Block} {block : Block} (distinct : d.ids.Nodup)
    (blocks : d.blocks = before ++ block :: after) (direction : Direction) :
    ∃ named, Changes (.move block.instanceId direction) named d.blocks
      (d.move block.instanceId direction).blocks := by
  obtain ⟨first, _⟩ := apart_of_split distinct blocks
  cases direction with
  | up =>
    rcases before.eq_nil_or_concat' with rfl | ⟨front, previous, rfl⟩
    · rw [move_up_first blocks, blocks]
      exact ⟨_, .first⟩
    · rw [List.append_assoc] at blocks
      rw [move_up_split blocks first, blocks]
      exact ⟨_, .up⟩
  | down =>
    cases after with
    | nil =>
      rw [move_down_last blocks first, blocks]
      exact ⟨_, .last⟩
    | cons next rest =>
      rw [move_down_split blocks first, blocks]
      exact ⟨_, .down⟩

theorem changes_insertBlock (block : Block) :
    ∃ named, Changes (.insertBlock block) named d.blocks (d.insertBlock block).blocks := by
  have free : (d.position? block.instanceId).isNone ↔ block.instanceId ∉ d.ids := by
    rw [Option.isNone_iff_eq_none, position?_eq_none]
  unfold Document.insertBlock
  split
  · rename_i accepted
    rw [Bool.and_eq_true, free] at accepted
    exact ⟨_, .insertBlock accepted.1 accepted.2⟩
  · rename_i refused
    rw [Bool.and_eq_true, free, not_and, not_not] at refused
    exact ⟨_, .refuse refused⟩

theorem changes_edit (identified : d.Identified) (g : IdGenerator) (e : Edit) :
    ∃ named, Changes e named d.blocks (d.edit g e).1.blocks := by
  have assigned := g.drawFresh_isAssigned d.ids
  have fresh := g.drawFresh_not_mem d.ids
  have distinct := identified.distinct
  by_cases missing : ∃ id, e.target? = some id ∧ id ∉ d.ids
  · obtain ⟨id, target, missing⟩ := missing
    rw [edit_of_missing target missing g]
    exact ⟨[], .miss target missing⟩
  · have held : ∀ id, e.target? = some id → ∃ before block after,
        d.blocks = before ++ block :: after ∧ block.instanceId = id ∧
          id ∉ before.map Block.instanceId := fun id target =>
      exists_split (by_contra fun absent => missing ⟨id, target, absent⟩)
    cases e with
    | insert kind => exact ⟨_, .insert kind assigned fresh⟩
    | insertBlock block => exact changes_insertBlock block
    | update id new =>
      obtain ⟨before, block, after, blocks, rfl, first⟩ := held id rfl
      rw [edit, update_split blocks first, blocks]
      exact ⟨_, .update new⟩
    | move id direction =>
      obtain ⟨before, block, after, blocks, rfl, _⟩ := held id rfl
      exact changes_move distinct blocks direction
    | remove id =>
      obtain ⟨before, block, after, blocks, rfl, first⟩ := held id rfl
      rw [edit, remove_split blocks first (apart_of_split distinct blocks).2, blocks]
      exact ⟨_, .remove⟩
    | duplicate id =>
      obtain ⟨before, block, after, blocks, rfl, first⟩ := held id rfl
      have free : (g.drawFresh d.ids).1 ∉ (before ++ block :: after).map Block.instanceId := by
        rw [← blocks]
        exact fresh
      rw [edit, duplicate_split blocks first, blocks]
      exact ⟨_, .duplicate assigned free⟩
    | withSettings settings => exact ⟨_, .withSettings settings⟩
    | repairIds =>
      rw [edit, identified.repairIds]
      exact ⟨_, .repairIds⟩

theorem settings_edit (d : Document) (g : IdGenerator) (e : Edit) :
    (d.edit g e).1.settings = e.settings?.getD d.settings := by
  cases e with
  | insert | withSettings | repairIds | remove => rfl
  | insertBlock block =>
    change (d.insertBlock block).settings = d.settings
    unfold Document.insertBlock
    split <;> rfl
  | update id block =>
    change (d.update id block).settings = d.settings
    unfold Document.update
    split <;> rfl
  | move id direction =>
    change (d.move id direction).settings = d.settings
    unfold Document.move
    split <;> rfl
  | duplicate id =>
    change (d.duplicate id g).1.settings = d.settings
    unfold Document.duplicate
    split <;> rfl

/--
An edit of an identified document does what it names and nothing else. It appends one block, replaces
its target in place, exchanges it with its one neighbour, takes it out, puts a copy under a fresh id
after it, or leaves the blocks alone, as it does when its target is missing. All other blocks stay as
they are and in the same order, so lookups of their ids give the same, and the settings change only
where new ones are given.
-/
theorem edit_changes_only_named (identified : d.Identified) (g : IdGenerator) (e : Edit) :
    ∃ named, Changes e named d.blocks (d.edit g e).1.blocks ∧
      (d.edit g e).1.blocks.filter (·.instanceId ∉ named) =
        d.blocks.filter (·.instanceId ∉ named) ∧
      (∀ id ∉ named, (d.edit g e).1.get? id = d.get? id) ∧
      (d.edit g e).1.settings = e.settings?.getD d.settings ∧
      ∀ id, e.target? = some id → id ∉ d.ids → d.edit g e = (d, g) := by
  obtain ⟨named, changes⟩ := changes_edit identified g e
  refine ⟨named, changes, changes.others, fun id other => ?_, d.settings_edit g e,
    fun id target missing => edit_of_missing target missing g⟩
  rw [get?, find?_eq_find?_filter other, changes.others, ← find?_eq_find?_filter other]
  rfl

theorem second_moves_up :
    twoTexts.Identified ∧
      ∃ named, Changes (.move ⟨"b"⟩ .up) named twoTexts.blocks (twoTexts.move ⟨"b"⟩ .up).blocks ∧
        (twoTexts.move ⟨"b"⟩ .up).ids = [⟨"b"⟩, ⟨"a-1"⟩] ∧
        (∀ id ∉ named, (twoTexts.move ⟨"b"⟩ .up).get? id = twoTexts.get? id) := by
  have identified : twoTexts.Identified := ⟨by decide, by decide⟩
  obtain ⟨named, changes, _, kept, _⟩ :=
    edit_changes_only_named identified (.ofSeed "a") (.move ⟨"b"⟩ .up)
  exact ⟨identified, named, changes, by decide, kept⟩

end PageBuilder.Document
