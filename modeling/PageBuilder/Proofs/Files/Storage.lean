import PageBuilder.Files.Storage
import PageBuilder.Proofs.Files.Places

set_option autoImplicit false

namespace PageBuilder

namespace FileTree

variable {tree after : FileTree}

theorem isFolder_iff {place : Place} : tree.isFolder place ↔ place = [] ∨
    (∃ folder ∈ tree.folders, place <+: folder) ∨
      ∃ file ∈ tree.places, place <+: file ∧ place ≠ file := by
  simp [isFolder, or_assoc]

theorem isFolder_of_above {above place : Place} (inside : above <+: place)
    (folder : tree.isFolder place) : tree.isFolder above := by
  rw [isFolder_iff] at folder ⊢
  rcases folder with rfl | ⟨made, mem, below⟩ | ⟨file, mem, below, strict⟩
  · exact .inl (List.prefix_nil.1 inside)
  · exact .inr (.inl ⟨made, mem, inside.trans below⟩)
  · refine .inr (.inr ⟨file, mem, inside.trans below, ?_⟩)
    rintro rfl
    exact strict (below.eq_of_length (Nat.le_antisymm below.length_le inside.length_le))

theorem follow_mono (kept : ∀ place, tree.isFolder place → after.isFolder place)
    {segments : List String} {start place : Place}
    (found : tree.follow start segments = some place) :
    after.follow start segments = some place := by
  induction segments generalizing start with
  | nil => exact found
  | cons segment rest ih =>
    rw [follow_cons] at found ⊢
    split at found
    · next folder =>
      rw [if_pos (kept start folder)]
      exact ih found
    · cases found

theorem place?_mono (kept : ∀ place, tree.isFolder place → after.isFolder place) {p : Path}
    {place : Place} (found : tree.place? p = some place) : after.place? p = some place := by
  unfold place? at found ⊢
  split at found
  · cases found
  · next given =>
    rw [if_neg given]
    exact follow_mono kept found

/-- The last segment of a path leads on from a folder. -/
theorem follow_concat {segments : List String} {last : String} {start place : Place}
    (found : tree.follow start (segments ++ [last]) = some place) :
    ∃ folder, tree.follow start segments = some folder ∧ tree.isFolder folder ∧
      place = Path.descend folder last := by
  induction segments generalizing start with
  | nil =>
    rw [List.nil_append, follow_cons] at found
    split at found
    · next folder => exact ⟨start, rfl, folder, (Option.some.inj found).symm⟩
    · cases found
  | cons segment rest ih =>
    rw [List.cons_append, follow_cons] at found
    split at found
    · next folder =>
      obtain ⟨last, reached, rest⟩ := ih found
      exact ⟨last, by rw [follow_cons, if_pos folder, reached], rest⟩
    · cases found

theorem makeFoldersFrom_of_follow {segments : List String} {start folder : Place}
    (found : tree.follow start segments = some folder) (isFolder : tree.isFolder folder) :
    tree.isFolder start ∧ tree.makeFoldersFrom start segments = (tree, true) := by
  induction segments generalizing start with
  | nil =>
    obtain rfl := Option.some.inj found
    exact ⟨isFolder, rfl⟩
  | cons segment rest ih =>
    rw [follow_cons] at found
    split at found
    · next here =>
      obtain ⟨next, made⟩ := ih found
      refine ⟨here, ?_⟩
      rw [Path.descend] at next made
      rw [makeFoldersFrom]
      cases component : Path.component? segment with
      | none =>
        rw [component] at made
        exact made
      | some part =>
        rw [component] at next made
        cases part with
        | name name =>
          dsimp only at next ⊢
          rw [if_pos next]
          exact made
        | root | here | up => exact made
    · cases found

/-- A text stands at the file that a path leads to. -/
def Stores (tree : FileTree) (p : Path) (text : String) : Prop :=
  ∃ place, tree.place? p = some place ∧ tree.isFolder place = false ∧ place ∉ tree.binaries ∧
    tree.text? place = some text

theorem Stores.find? {p : Path} {text : String} (stored : tree.Stores p text) :
    tree.find? p = some (.file text) := by
  obtain ⟨place, found, _, _, held⟩ := stored
  rw [FileTree.find?, found, Option.bind_some, at?, held]

theorem write_eq_some {p : Path} {text : String} : tree.write p text = some after ↔
    ∃ place, tree.place? p = some place ∧ tree.isFolder place = false ∧
      after = { tree with
        files := put place text tree.files, binaries := tree.binaries.filter (· ≠ place) } := by
  have opened : tree.write p text = (tree.place? p).bind fun place =>
      if tree.isFolder place then none
      else some { tree with
        files := put place text tree.files, binaries := tree.binaries.filter (· ≠ place) } := rfl
  rw [opened, Option.bind_eq_some_iff]
  refine exists_congr fun place => and_congr_right fun _ => ?_
  cases tree.isFolder place <;> simp [eq_comm]

theorem mem_map_put {q : Place} (place : Place) (text : String) (files : List (Place × String)) :
    q ∈ (put place text files).map Prod.fst ↔ q = place ∨ q ∈ files.map Prod.fst := by
  induction files with
  | nil => simp [put]
  | cons first rest ih =>
    obtain ⟨other, old⟩ := first
    rw [put]
    split
    · next same =>
      subst same
      simp
    · rw [List.map_cons, List.mem_cons, ih, List.map_cons, List.mem_cons, or_left_comm]

theorem mem_places_of_write {p : Path} {text : String} (written : tree.write p text = some after)
    (q : Place) : q ∈ after.places ↔ q = p.place ∨ q ∈ tree.places := by
  obtain ⟨place, found, _, rfl⟩ := write_eq_some.1 written
  rw [← place_of_place? found]
  by_cases same : q = place <;> simp [places, mem_map_put, same]

theorem mem_files_of_text? {place : Place} {text : String} (held : tree.text? place = some text) :
    place ∈ tree.files.map Prod.fst := by
  obtain ⟨before, rest, files, _⟩ := List.lookup_eq_some_iff.1 held
  rw [files, List.map_append]
  exact List.mem_append_right _ List.mem_cons_self

theorem put_of_lookup {place : Place} {text : String} {files : List (Place × String)}
    (held : files.lookup place = some text) : put place text files = files := by
  induction files with
  | nil => cases held
  | cons first rest ih =>
    obtain ⟨other, old⟩ := first
    rw [lookup_cons_eq_if] at held
    rw [put]
    split at held
    · next same =>
      rw [if_pos same.symm, same, Option.some.inj held]
    · next different =>
      rw [if_neg (Ne.symm different), ih held]

/-- Where a path leads to, if that is no folder, everything above it is one. -/
theorem isFolder_above {p : Path} {target place : Place} (found : tree.place? p = some target)
    (file : tree.isFolder target = false) (above : place <+: target) (strict : place ≠ target) :
    tree.isFolder place := by
  unfold place? at found
  split at found
  · cases found
  · rcases List.eq_nil_or_concat p.segments with none | ⟨segments, last, path⟩
    · rw [none] at found
      obtain rfl := Option.some.inj found
      exact absurd (List.prefix_nil.1 above) strict
    · rw [path, List.concat_eq_append] at found
      obtain ⟨folder, _, isFolder, rfl⟩ := follow_concat found
      unfold Path.descend at file above strict
      split at file
      · next same =>
        rw [same] at above strict
        exact isFolder_of_above ((List.prefix_concat_iff.1 above).resolve_left strict) isFolder
      · rw [isFolder_of_above (List.dropLast_prefix folder) isFolder] at file
        cases file
      · rw [isFolder] at file
        cases file

/-- A written file makes no folder, since its path leads through folders. -/
theorem isFolder_of_write {p : Path} {text : String} (written : tree.write p text = some after)
    (place : Place) : after.isFolder place = tree.isFolder place := by
  have places := mem_places_of_write written
  obtain ⟨target, found, file, rfl⟩ := write_eq_some.1 written
  rw [Bool.eq_iff_iff]
  constructor
  · intro folder
    rw [isFolder_iff] at folder
    rcases folder with top | made | ⟨file, mem, below, strict⟩
    · exact isFolder_iff.2 (.inl top)
    · exact isFolder_iff.2 (.inr (.inl made))
    · rcases (places file).1 mem with rfl | old
      · rw [← place_of_place? found] at below strict
        exact isFolder_above found ‹_› below strict
      · exact isFolder_iff.2 (.inr (.inr ⟨file, old, below, strict⟩))
  · intro folder
    rw [isFolder_iff] at folder ⊢
    rcases folder with top | made | ⟨file, mem, below⟩
    · exact .inl top
    · exact .inr (.inl made)
    · exact .inr (.inr ⟨file, (places file).2 (.inr mem), below⟩)

theorem stores_of_write {p : Path} {text : String} (written : tree.write p text = some after) :
    after.Stores p text := by
  have folders := isFolder_of_write written
  have held := text?_of_write written p.place
  obtain ⟨place, found, file, rfl⟩ := write_eq_some.1 written
  rw [if_pos rfl, ← place_of_place? found] at held
  refine ⟨place, place?_mono (fun q folder => ?_) found, ?_, ?_, held⟩
  · rw [folders]
    exact folder
  · rw [folders]
    exact file
  · simp

theorem stores_of_save {p : Path} {text : String} (saved : tree.save p text = some after) :
    after.Stores p text := by
  unfold save at saved
  dsimp only at saved
  split at saved
  · exact stores_of_write saved
  · cases saved

theorem Stores.save_eq_write {p : Path} {old : String} (stored : tree.Stores p old)
    (text : String) : tree.save p text = tree.write p text := by
  obtain ⟨place, found, file, _⟩ := stored
  have ready : tree.makeFoldersFrom [] p.segments.dropLast = (tree, true) := by
    unfold place? at found
    split at found
    · cases found
    · rcases List.eq_nil_or_concat p.segments with none | ⟨segments, last, path⟩
      · rw [none]
        rfl
      · rw [path, List.concat_eq_append] at found ⊢
        obtain ⟨folder, reached, isFolder, _⟩ := follow_concat found
        rw [List.dropLast_concat]
        exact (makeFoldersFrom_of_follow reached isFolder).2
  rw [save, ready]
  rfl

theorem Stores.exists_write {p : Path} {old : String} (stored : tree.Stores p old)
    (text : String) : ∃ after, tree.write p text = some after := by
  obtain ⟨place, found, file, _⟩ := stored
  exact ⟨_, write_eq_some.2 ⟨place, found, file, rfl⟩⟩

theorem Stores.save_same {p : Path} {text : String} (stored : tree.Stores p text) :
    tree.save p text = some tree := by
  rw [stored.save_eq_write text]
  obtain ⟨place, found, file, textual, held⟩ := stored
  have kept : tree.binaries.filter (· ≠ place) = tree.binaries :=
    List.filter_eq_self.2 fun other mem => decide_eq_true fun same => textual (same ▸ mem)
  exact write_eq_some.2 ⟨place, found, file, by rw [put_of_lookup held, kept]⟩

/-- No file is a folder as well, or holds a text and none. -/
structure Proper (tree : FileTree) : Prop where
  folders : ∀ place ∈ tree.places, tree.isFolder place = false
  binaries : ∀ place ∈ tree.binaries, tree.text? place = none

instance (tree : FileTree) : Decidable tree.Proper :=
  decidable_of_iff ((∀ place ∈ tree.places, tree.isFolder place = false) ∧
    ∀ place ∈ tree.binaries, tree.text? place = none)
    ⟨fun ⟨folders, binaries⟩ => ⟨folders, binaries⟩,
      fun proper => ⟨proper.folders, proper.binaries⟩⟩

theorem Proper.stores (proper : tree.Proper) {p : Path} {text : String}
    (held : tree.find? p = some (.file text)) : tree.Stores p text := by
  obtain ⟨place, found, entry⟩ := Option.bind_eq_some_iff.1 held
  unfold at? at entry
  split at entry
  · next stored =>
    cases entry
    have textual : place ∉ tree.binaries := fun binary => by
      rw [proper.binaries place binary] at stored
      cases stored
    have mem := List.mem_append_left tree.binaries (mem_files_of_text? stored)
    exact ⟨place, found, proper.folders place mem, textual, stored⟩
  · split at entry
    · cases entry
    · split at entry <;> cases entry

theorem Proper.write (proper : tree.Proper) {p : Path} {text : String}
    (written : tree.write p text = some after) : after.Proper := by
  have places := mem_places_of_write written
  have folders := isFolder_of_write written
  have texts := text?_of_write written
  obtain ⟨place, found, file, rfl⟩ := write_eq_some.1 written
  constructor
  · intro q mem
    rw [folders]
    rcases (places q).1 mem with rfl | old
    · rw [← place_of_place? found, file]
    · exact proper.folders q old
  · intro q mem
    obtain ⟨old, other⟩ := List.mem_filter.1 mem
    rw [texts, if_neg (place_of_place? found ▸ of_decide_eq_true other), proper.binaries q old]

/-- A path leads to a folder of a proper tree exactly if no file stands there. -/
theorem Proper.isFolderAt (proper : tree.Proper) (p : Path) :
    tree.isFolderAt p = (tree.place? p).any tree.isFolder := by
  unfold FileTree.isFolderAt find?
  cases found : tree.place? p with
  | none => rfl
  | some place =>
    rw [Option.bind_some, Option.any_some]
    have separate : tree.isFolder place → place ∉ tree.places := fun folder mem => by
      rw [proper.folders place mem] at folder
      cases folder
    rw [at?]
    cases folder : tree.isFolder place with
    | false =>
      split
      · rfl
      · split <;> rfl
    | true =>
      have apart := separate folder
      split
      · next held => exact absurd (List.mem_append_left _ (mem_files_of_text? held)) apart
      · rw [if_neg fun mem => apart (List.mem_append_right _ mem), if_pos rfl]
        rfl

theorem place?_congr (same : ∀ place, after.isFolder place = tree.isFolder place) (p : Path) :
    after.place? p = tree.place? p := by
  refine Option.ext fun place => ⟨place?_mono fun q folder => ?_, place?_mono fun q folder => ?_⟩
  · exact (same q).symm.trans folder
  · exact (same q).trans folder

theorem Stores.of_same {p q : Path} {text : String} (stored : tree.Stores p text)
    (same : tree.place? p = tree.place? q) : tree.Stores q text := by
  obtain ⟨place, found, rest⟩ := stored
  exact ⟨place, same.symm.trans found, rest⟩

theorem Stores.of_write {p q : Path} {text new : String} (stored : tree.Stores p text)
    (written : tree.write q new = some after) (apart : tree.place? q ≠ tree.place? p) :
    after.Stores p text := by
  obtain ⟨place, found, file, textual, held⟩ := stored
  have folders := isFolder_of_write written
  have texts := text?_of_write written place
  obtain ⟨target, reached, _, rfl⟩ := write_eq_some.1 written
  have other : place ≠ q.place := by
    rw [← place_of_place? reached]
    rintro rfl
    exact apart (reached.trans found.symm)
  rw [if_neg other, held] at texts
  exact ⟨place, (place?_congr folders p).trans found, (folders place).trans file,
    fun mem => textual (List.mem_filter.1 mem).1, texts⟩

end FileTree

namespace Project

variable {tree : FileTree} {p : Path} {project : Project} {text : String}

theorem load_eq_ok : load tree p = .ok project ↔
    ∃ text, tree.find? p = some (.file text) ∧ ofText text = .ok project := by
  unfold load
  cases held : tree.find? p with
  | none => simp
  | some entry => cases entry <;> simp

theorem load_of_stores (stored : tree.Stores p text) (read : ofText text = .ok project) :
    load tree p = .ok project :=
  load_eq_ok.2 ⟨text, stored.find?, read⟩

end Project
end PageBuilder
