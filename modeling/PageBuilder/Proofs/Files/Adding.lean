import PageBuilder.Command.Add
import PageBuilder.Proofs.Editing.Reopening
import PageBuilder.Proofs.Editing.Selection

set_option autoImplicit false

namespace PageBuilder

/-- The blocks are those before, repaired, and then templates of the kinds. -/
structure Project.Extended (before : Project) (kinds : List BlockKind) (after : Project) :
    Prop where
  preferences : after.preferences = before.preferences
  settings : after.document.settings = before.document.settings
  identified : after.document.Identified
  blocks : ∃ repaired added, after.document.blocks = repaired ++ added ∧
    Document.Repaired before.document.blocks repaired ∧
    List.Forall₂ (fun kind b => b = kind.template.withInstanceId b.instanceId) kinds added

theorem Project.Extended.trans {p q r : Project} {kinds others : List BlockKind}
    (first : p.Extended kinds q) (second : q.Extended others r) :
    p.Extended (kinds ++ others) r where
  preferences := second.preferences.trans first.preferences
  settings := second.settings.trans first.settings
  identified := second.identified
  blocks := by
    obtain ⟨repaired, added, before, same, templates⟩ := first.blocks
    obtain ⟨kept, later, after, again, more⟩ := second.blocks
    have unchanged : kept = q.document.blocks :=
      again.eq (fun b mem => first.identified.assigned _ (List.mem_map_of_mem mem))
        first.identified.distinct
    refine ⟨repaired, added ++ later, ?_, same, List.rel_append templates more⟩
    rw [after, unchanged, before, List.append_assoc]

/-- A project after additions; without any it is as it was. -/
def Project.Grown (before : Project) : List BlockKind → Project → Prop
  | [], after => after = before
  | kind :: kinds, after => before.Extended (kind :: kinds) after

theorem Project.Grown.trans {p q r : Project} {kinds others : List BlockKind}
    (first : p.Grown kinds q) (second : q.Grown others r) : p.Grown (kinds ++ others) r := by
  cases kinds with
  | nil =>
    obtain rfl : q = p := first
    exact second
  | cons kind kinds =>
    cases others with
    | nil =>
      obtain rfl : r = q := second
      rw [List.append_nil]
      exact first
    | cons other others => exact Extended.trans first second

namespace Session

theorem apply_keeps (s : Session) (m : Mutation) :
    (s.apply m).1.preferences = s.preferences ∧ (s.apply m).1.path = s.path := by
  rw [apply_eq]
  exact ⟨rfl, rfl⟩

theorem project_insert {tree : FileTree} {p : Path} {project : Project}
    (loaded : Project.load tree p = .ok project) (kind : BlockKind) :
    let t := ((ofProject p project).insert kind).1
    t.path = some p ∧ t.project.Decodable ∧ project.Extended [kind] t.project := by
  intro t
  have opened : load tree p = .ok (ofProject p project) := load_eq_ok.2 ⟨_, loaded, rfl⟩
  have decoded : Decoded t :=
    .perform (.load opened) (show Operation.Decodable (.apply (.insertBlock kind)) from trivial)
  obtain ⟨id, _, _, blocks⟩ := (ofProject p project).insert_spec kind
  obtain ⟨preferences, path⟩ := (ofProject p project).apply_keeps (.insertBlock kind)
  have settings := congrArg Document.settings
    ((ofProject p project).document_apply (.insertBlock kind))
  refine ⟨path, decoded.decodable _ t.history.current_mem_snapshots, preferences, settings, ?_, ?_⟩
  · exact decoded.reachable.identified _ t.history.current_mem_snapshots
  · exact ⟨_, _, blocks, project.document.repairIds_repaired _, .cons rfl .nil⟩

end Session

namespace Command

variable {tree after : FileTree}

theorem addBlock_of_error {file : Path} {e : ProjectError}
    (failed : Project.load tree file = .error e) (kind : BlockKind) :
    addBlock kind tree file = .error (.project e) := by
  rw [addBlock, Session.load, failed]
  rfl

/-- A block is added by one write of the project with one template more. -/
theorem addBlock_of_load (proper : tree.Proper) {file : Path} {project : Project}
    (loaded : Project.load tree file = .ok project) (kind : BlockKind) :
    ∃ after id text extended, addBlock kind tree file = .ok (after, id) ∧
      tree.write file text = some after ∧ Project.ofText text = .ok extended ∧
      project.Extended [kind] extended := by
  let s := Session.ofProject file project
  obtain ⟨path, decodable, extended⟩ := Session.project_insert loaded kind
  obtain ⟨id, inserted, _⟩ := s.insert_spec kind
  obtain ⟨old, held, _⟩ := Project.load_eq_ok.1 loaded
  let t := (s.insert kind).1
  have stored := proper.stores held
  obtain ⟨after, written⟩ := stored.exists_write t.project.toText
  have saved : t.save tree = .ok after := by
    rw [Session.save, path]
    simp only [Project.save]
    rw [stored.save_eq_write, written]
  refine ⟨after, id, _, t.project, ?_, written, Project.ofText_toText decodable, extended⟩
  have opened : Session.load tree file = .ok s := Session.load_eq_ok.2 ⟨_, loaded, rfl⟩
  have inserted : s.insert kind = (t, some id) := Prod.ext rfl inserted
  simp only [addBlock, opened, inserted, saved, Except.mapError, bind, Except.bind]
  rfl

structure Addition where
  tag : String
  path : Path
  cwd : Path

namespace Addition

variable {a : Addition}

def file (a : Addition) (tree : FileTree) : Path := projectFile tree (a.cwd.join a.path)

def run (a : Addition) (tree : FileTree) : Report := add a.tag a.path tree a.cwd

/-- The kind that a run adds to the project of a file, if it adds one there. -/
def kindFor (tree : FileTree) (file : Path) (a : Addition) : Option BlockKind :=
  if tree.place? (a.file tree) = tree.place? file then BlockKind.ofTag? a.tag else none

theorem run_of_unknown (unknown : BlockKind.ofTag? a.tag = none) (tree : FileTree) :
    (a.run tree).failure.isSome ∧ (a.run tree).tree = tree := by
  rw [run, add, unknown]
  exact ⟨rfl, rfl⟩

theorem run_of_error {e : ProjectError} (failed : Project.load tree (a.file tree) = .error e) :
    (a.run tree).failure.isSome ∧ (a.run tree).tree = tree := by
  cases known : BlockKind.ofTag? a.tag with
  | none => exact run_of_unknown known tree
  | some kind =>
    have stopped := addBlock_of_error failed kind
    rw [file] at stopped
    simp only [run, add, known, stopped]
    exact ⟨rfl, rfl⟩

theorem run_of_load (proper : tree.Proper) {kind : BlockKind} {project : Project}
    (known : BlockKind.ofTag? a.tag = some kind)
    (loaded : Project.load tree (a.file tree) = .ok project) :
    (a.run tree).failure = none ∧ ∃ text extended,
      tree.write (a.file tree) text = some (a.run tree).tree ∧
      Project.ofText text = .ok extended ∧ project.Extended [kind] extended := by
  obtain ⟨after, id, text, extended, done, written, rest⟩ := addBlock_of_load proper loaded kind
  rw [file] at done
  have added : (a.run tree).failure = none ∧ (a.run tree).tree = after := by
    simp only [run, add, known, done]
    exact ⟨trivial, trivial⟩
  exact ⟨added.1, text, extended, added.2 ▸ written, rest⟩

theorem run_cases (proper : tree.Proper) (a : Addition) : (a.run tree).tree = tree ∨
    ∃ text, tree.write (a.file tree) text = some (a.run tree).tree := by
  cases known : BlockKind.ofTag? a.tag with
  | none => exact .inl (run_of_unknown known tree).2
  | some kind =>
    cases loaded : Project.load tree (a.file tree) with
    | error e => exact .inl (run_of_error loaded).2
    | ok project =>
      obtain ⟨_, text, _, written, _⟩ := run_of_load proper known loaded
      exact .inr ⟨text, written⟩

/-- What a run leaves as it is: the folders, so where the paths lead. -/
structure Settled (tree after : FileTree) : Prop where
  proper : after.Proper
  folders : ∀ place, after.isFolder place = tree.isFolder place

theorem run_settled (proper : tree.Proper) (a : Addition) : Settled tree (a.run tree).tree := by
  rcases run_cases proper a with same | ⟨text, written⟩
  · rw [same]
    exact ⟨proper, fun _ => rfl⟩
  · exact ⟨proper.write written, FileTree.isFolder_of_write written⟩

theorem Settled.kindFor (settled : Settled tree after) (proper : tree.Proper) (file : Path) :
    kindFor after file = kindFor tree file := by
  funext a
  have places := FileTree.place?_congr settled.folders
  have sameFile : a.file after = a.file tree := by
    have folders : after.isFolder = tree.isFolder := funext settled.folders
    unfold Addition.file projectFile
    rw [settled.proper.isFolderAt, proper.isFolderAt, places, folders]
  unfold Addition.kindFor
  rw [sameFile, places, places]

theorem load_run (proper : tree.Proper) {file : Path} {project : Project}
    (loaded : Project.load tree file = .ok project) (a : Addition) :
    ∃ after, Project.load (a.run tree).tree file = .ok after ∧
      project.Grown (a.kindFor tree file).toList after := by
  obtain ⟨old, held, read⟩ := Project.load_eq_ok.1 loaded
  have stored := proper.stores held
  unfold kindFor
  split
  · next same =>
    cases known : BlockKind.ofTag? a.tag with
    | none =>
      rw [(run_of_unknown known tree).2]
      exact ⟨project, loaded, rfl⟩
    | some kind =>
      have here := Project.load_of_stores (stored.of_same same.symm) read
      obtain ⟨_, text, extended, written, reads, grown⟩ := run_of_load proper known here
      have places := FileTree.place?_congr (FileTree.isFolder_of_write written)
      have holds := (FileTree.stores_of_write written).of_same
        ((places _).trans (same.trans (places file).symm))
      exact ⟨extended, Project.load_of_stores holds reads, grown⟩
  · next apart =>
    refine ⟨project, ?_, rfl⟩
    rcases run_cases proper a with same | ⟨text, written⟩
    · rw [same]
      exact loaded
    · exact Project.load_of_stores (stored.of_write written apart) read

end Addition

def addAll (tree : FileTree) (additions : List Addition) : FileTree :=
  additions.foldl (fun tree a => (a.run tree).tree) tree

theorem addAll_proper (additions : List Addition) (proper : tree.Proper) :
    (addAll tree additions).Proper := by
  induction additions generalizing tree with
  | nil => exact proper
  | cons a additions ih => exact ih (Addition.run_settled proper a).proper

theorem load_addAll (additions : List Addition) (proper : tree.Proper) {file : Path}
    {project : Project} (loaded : Project.load tree file = .ok project) :
    ∃ after, Project.load (addAll tree additions) file = .ok after ∧
      project.Grown (additions.filterMap (Addition.kindFor tree file)) after := by
  induction additions generalizing tree project with
  | nil => exact ⟨project, loaded, rfl⟩
  | cons a additions ih =>
    have settled := Addition.run_settled proper a
    obtain ⟨next, stored, first⟩ := Addition.load_run proper loaded a
    obtain ⟨after, reached, others⟩ := ih settled.proper stored
    rw [settled.kindFor proper] at others
    refine ⟨after, reached, ?_⟩
    have kinds : (a :: additions).filterMap (Addition.kindFor tree file) =
        (a.kindFor tree file).toList ++ additions.filterMap (Addition.kindFor tree file) := by
      rw [List.filterMap_cons]
      cases a.kindFor tree file <;> rfl
    rw [kinds]
    exact first.trans others

/--
Adding a block is all or nothing. It fails and leaves the files alone, if the kind is unknown or
there is no project to load. Else it writes the project of its file, with the blocks repaired and
one template of the kind behind them, and no other file. After any additions to any files the
project of a file has gained one template for each that was meant for it.
-/
theorem add_all_or_nothing (proper : tree.Proper) (a : Addition) :
    (BlockKind.ofTag? a.tag = none ∨ (∃ e, Project.load tree (a.file tree) = .error e) →
      (a.run tree).failure.isSome ∧ (a.run tree).tree = tree) ∧
    (∀ kind project, BlockKind.ofTag? a.tag = some kind →
      Project.load tree (a.file tree) = .ok project →
        (a.run tree).failure = none ∧
        (∃ extended, Project.load (a.run tree).tree (a.file tree) = .ok extended ∧
          project.Extended [kind] extended) ∧
        (∀ place, place ≠ (a.file tree).place → (a.run tree).tree.text? place = tree.text? place) ∧
        ∀ place, (a.run tree).tree.isFolder place = tree.isFolder place) ∧
    ∀ additions, (addAll tree additions).Proper ∧
      ∀ file project, Project.load tree file = .ok project →
        ∃ after, Project.load (addAll tree additions) file = .ok after ∧
          project.Grown (additions.filterMap (Addition.kindFor tree file)) after := by
  refine ⟨?_, ?_, fun additions => ⟨addAll_proper additions proper, ?_⟩⟩
  · rintro (unknown | ⟨e, failed⟩)
    · exact Addition.run_of_unknown unknown tree
    · exact Addition.run_of_error failed
  · intro kind project known loaded
    obtain ⟨done, text, extended, written, read, grown⟩ :=
      Addition.run_of_load proper known loaded
    have stored := Project.load_of_stores (FileTree.stores_of_write written) read
    refine ⟨done, ⟨extended, stored, grown⟩, fun place other => ?_,
      FileTree.isFolder_of_write written⟩
    rw [FileTree.text?_of_write written, if_neg other]
  · exact fun file project loaded => load_addAll additions proper loaded

def sitePage : FileTree where
  files := [(["site", "page.json"], Session.repeatedIds.toText)]

def pageFile : Path := ⟨"site/page.json"⟩

def siteAdditions : List Addition :=
  [⟨"hero", ⟨"site"⟩, ⟨"."⟩⟩, ⟨"carousel", pageFile, ⟨"."⟩⟩, ⟨"faq", ⟨"about.json"⟩, ⟨"site"⟩⟩,
    ⟨"faq", ⟨"../site/page.json"⟩, ⟨"site"⟩⟩]

theorem add_to_sitePage :
    sitePage.Proper ∧ (siteAdditions[1].run sitePage).tree = sitePage ∧
      (siteAdditions[2].run sitePage).tree = sitePage ∧
      (siteAdditions[3].run sitePage).failure = none ∧
      ∃ after, Project.load (addAll sitePage siteAdditions) pageFile = .ok after ∧
        Session.repeatedIds.Extended [.hero, .faq] after := by
  have proper : sitePage.Proper := by decide +kernel
  have decodable : Session.repeatedIds.Decodable := by
    simp only [Project.Decodable, Document.Decodable, Session.repeatedIds, List.forall_mem_cons]
    exact ⟨trivial, trivial, trivial, fun _ none => nomatch none⟩
  have loaded : ∀ p : Path, sitePage.place? p = some ["site", "page.json"] →
      Project.load sitePage p = .ok Session.repeatedIds := fun p found =>
    Project.load_of_stores ⟨_, found, by decide +kernel, List.not_mem_nil, rfl⟩
      (Project.ofText_toText decodable)
  have missing : Project.load sitePage (siteAdditions[2].file sitePage) =
      .error (.notFound (siteAdditions[2].file sitePage)) := by
    have nothing : sitePage.find? (siteAdditions[2].file sitePage) = none := by decide +kernel
    rw [Project.load, nothing]
  obtain ⟨after, stored, grown⟩ := ((add_all_or_nothing proper siteAdditions[0]).2.2
    siteAdditions).2 pageFile _ (loaded _ (by decide +kernel))
  have kinds : siteAdditions.filterMap (Addition.kindFor sitePage pageFile) = [.hero, .faq] := by
    decide +kernel
  rw [kinds] at grown
  exact ⟨proper, ((add_all_or_nothing proper _).1 (.inl (by decide))).2,
    ((add_all_or_nothing proper _).1 (.inr ⟨_, missing⟩)).2,
    ((add_all_or_nothing proper _).2.1 .faq _ rfl (loaded _ (by decide +kernel))).1,
    after, stored, grown⟩

end Command
end PageBuilder
