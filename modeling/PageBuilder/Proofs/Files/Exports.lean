import PageBuilder.Command.Export
import PageBuilder.Proofs.Files.Places
import PageBuilder.Proofs.Saving.Projects

set_option autoImplicit false

namespace PageBuilder

def Target.fileName (dialect : Dialect) : Target → String
  | .html => "index.html"
  | .react => dialect.fileName

theorem Target.isName_fileName (dialect : Dialect) (target : Target) :
    Path.IsName (target.fileName dialect) := by
  cases target <;> cases dialect <;> decide

theorem Target.fileName_injective (dialect : Dialect) :
    Function.Injective (Target.fileName dialect) := by
  intro target other
  cases target <;> cases other <;> cases dialect <;> decide

namespace Command

open PageBuilder.Path (IsName descend)

theorem fileName_artifactOf (dialect : Dialect) (document : Document) (target : Target) :
    (artifactOf dialect document target).fileName = target.fileName dialect := by
  cases target <;> rfl

theorem stem?_append (stem : String) : stem? (stem ++ ".page.json") = some stem := by
  have suffix : projectSuffix.isSuffixOf (stem ++ ".page.json").toList := by
    rw [List.isSuffixOf_iff_suffix, String.toList_append]
    exact List.suffix_append _ _
  have before : (stem ++ ".page.json").toList.take
      ((stem ++ ".page.json").toList.length - projectSuffix.length) = stem.toList := by
    rw [String.toList_append, List.length_append]
    exact List.take_left' (Nat.add_sub_cancel _ _).symm
  rw [stem?, if_pos suffix, before, String.ofList_toList]

theorem eq_append_of_stem? {name stem : String} (found : stem? name = some stem) :
    name = stem ++ ".page.json" := by
  unfold stem? at found
  dsimp only at found
  split at found
  · next ends =>
    obtain ⟨before, whole⟩ := List.isSuffixOf_iff_suffix.1 ends
    have kept : name.toList.take (name.toList.length - projectSuffix.length) = before := by
      rw [← whole, List.length_append, Nat.add_sub_cancel, List.take_left]
    rw [kept] at found
    obtain rfl := Option.some.inj found
    apply String.toList_inj.1
    rw [String.toList_append, String.toList_ofList, ← whole]
    rfl
  · cases found

theorem isProjectName_iff {name : String} :
    isProjectName name ↔ name = "page.json" ∨ ∃ stem, stem? name = some stem := by
  rw [isProjectName, Bool.or_eq_true, decide_eq_true_iff, Option.isSome_iff_exists]
  rfl

/-- The place of a project file, whose stem, if it has one, can name a folder. -/
structure IsProject (place : Place) : Prop where
  names : ∀ name ∈ place, IsName name
  suffix : place.getLast?.any isProjectName
  stem : ∀ stem ∈ place.getLast?.bind stem?, IsName stem

instance (place : Place) : Decidable (IsProject place) :=
  decidable_of_iff ((∀ name ∈ place, IsName name) ∧ place.getLast?.any isProjectName ∧
      ∀ stem ∈ place.getLast?.bind stem?, IsName stem)
    ⟨fun ⟨names, suffix, stem⟩ => ⟨names, suffix, stem⟩, fun p => ⟨p.names, p.suffix, p.stem⟩⟩

/-- The folder of a project below the output folder. -/
def ownFolder (place : Place) : Place := place.dropLast ++ (place.getLast?.bind stem?).toList

/-- The stem of one project names the folder of the other. -/
def NamesFolderOf (p q : Place) : Prop :=
  ∃ folder stem, p = folder ++ [stem ++ ".page.json"] ∧ q = folder ++ [stem, "page.json"]

def Rivals (p q : Place) : Prop := NamesFolderOf p q ∨ NamesFolderOf q p

theorem ownFolder_fileName (folder : Place) : ownFolder (folder ++ ["page.json"]) = folder := by
  rw [ownFolder, List.getLast?_concat, List.dropLast_concat]
  exact List.append_nil folder

theorem ownFolder_stem (folder : Place) (stem : String) :
    ownFolder (folder ++ [stem ++ ".page.json"]) = folder ++ [stem] := by
  rw [ownFolder, List.getLast?_concat, List.dropLast_concat, Option.bind_some, stem?_append]
  rfl

theorem outputFolder_fileName (out : Path) (folder : Place) :
    outputFolder out (folder ++ ["page.json"]) = out.join (.ofNames folder) := by
  rw [outputFolder, List.getLast?_concat, List.dropLast_concat]
  rfl

/-- From the folder of the file, the stem leads to the one that it names; an empty stem and a dot
lead nowhere else, and two dots to the folder above. -/
theorem place_outputFolder_stem (out : Path) (folder : Place) {stem : String}
    (slashless : '/' ∉ stem.toList) :
    (outputFolder out (folder ++ [stem ++ ".page.json"])).place =
      descend (outputFolder out (folder ++ ["page.json"])).place stem := by
  rw [outputFolder_fileName, ← Path.place_join_segment slashless, outputFolder,
    List.getLast?_concat, List.dropLast_concat]
  dsimp only
  rw [stem?_append]

namespace IsProject

variable {p q : Place}

theorem eq_or (project : IsProject p) :
    (∃ folder, p = folder ++ ["page.json"]) ∨
      ∃ folder stem, p = folder ++ [stem ++ ".page.json"] := by
  obtain ⟨name, last, named⟩ := (Option.any_eq_true _ _).1 project.suffix
  obtain ⟨folder, rfl⟩ := List.getLast?_eq_some_iff.1 last
  rcases isProjectName_iff.1 named with rfl | ⟨stem, found⟩
  · exact .inl ⟨folder, rfl⟩
  · exact .inr ⟨folder, stem, by rw [eq_append_of_stem? found]⟩

theorem ownFolder_eq_iff (first : IsProject p) (second : IsProject q) (different : p ≠ q) :
    ownFolder p = ownFolder q ↔ Rivals p q := by
  constructor
  · intro same
    -- Two files of one kind in one folder are the same; a stem can name the folder of another.
    rcases first.eq_or with ⟨folder, rfl⟩ | ⟨folder, stem, rfl⟩ <;>
      rcases second.eq_or with ⟨other, rfl⟩ | ⟨other, mark, rfl⟩ <;>
      simp only [ownFolder_fileName, ownFolder_stem] at same
    · exact absurd (by rw [same]) different
    · subst same
      exact .inr ⟨other, mark, rfl, List.append_assoc _ _ _⟩
    · subst same
      exact .inl ⟨folder, stem, rfl, List.append_assoc _ _ _⟩
    · obtain ⟨rfl, stems⟩ := List.append_inj' same rfl
      cases stems
      exact absurd rfl different
  · have shared : ∀ folder stem, ownFolder (folder ++ [stem ++ ".page.json"]) =
        ownFolder (folder ++ [stem, "page.json"]) := fun folder stem => by
      rw [ownFolder_stem, List.append_cons folder stem ["page.json"], ownFolder_fileName]
    rintro (⟨folder, stem, rfl, rfl⟩ | ⟨folder, stem, rfl, rfl⟩)
    · exact shared folder stem
    · exact (shared folder stem).symm

theorem place_outputFolder (project : IsProject p) (out : Path) :
    (outputFolder out p).place = out.place ++ ownFolder p := by
  have below : ∀ folder name, p = folder ++ [name] → (out.join (.ofNames folder)).place =
      out.place ++ folder := fun folder name whole =>
    Path.place_join_names (fun part h => project.names part (whole ▸ List.mem_append_left _ h)) out
  rcases project.eq_or with ⟨folder, rfl⟩ | ⟨folder, stem, rfl⟩
  · rw [outputFolder_fileName, below folder _ rfl, ownFolder_fileName]
  · have named : IsName stem := project.stem stem (by
      rw [List.getLast?_concat, Option.bind_some, stem?_append]
      rfl)
    rw [place_outputFolder_stem out folder named.1, Path.descend_name named,
      outputFolder_fileName, below folder _ rfl, ownFolder_stem, List.append_assoc]

end IsProject

section WriteAll

variable {folder : Path} {tree after : FileTree} {files : List Path}

theorem text?_of_writeAll_of_ne {artifacts : List Artifact}
    (named : ∀ a ∈ artifacts, IsName a.fileName) {place : Place}
    (apart : ∀ a ∈ artifacts, place ≠ folder.place ++ [a.fileName]) (tree : FileTree) :
    (writeAll folder artifacts tree).1.text? place = tree.text? place := by
  induction artifacts generalizing tree with
  | nil => rfl
  | cons a rest ih =>
    unfold writeAll
    dsimp only
    split
    · rfl
    · next first one =>
      have kept := ih (fun b h => named b (List.mem_cons_of_mem _ h))
        (fun b h => apart b (List.mem_cons_of_mem _ h)) first
      rw [FileTree.text?_of_write one, Path.place_join_name (named a List.mem_cons_self),
        if_neg (apart a List.mem_cons_self)] at kept
      exact kept

theorem writeAll_cons {a : Artifact} {rest : List Artifact}
    (written : writeAll folder (a :: rest) tree = (after, some files)) :
    ∃ first names, tree.write (folder.join ⟨a.fileName⟩) a.contents = some first ∧
      writeAll folder rest first = (after, some names) := by
  unfold writeAll at written
  dsimp only at written
  split at written
  · cases written
  · next first one =>
    obtain ⟨left, told⟩ := Prod.ext_iff.1 written
    obtain ⟨names, more, _⟩ := Option.map_eq_some_iff.1 told
    exact ⟨first, names, one, Prod.ext left more⟩

theorem text?_of_writeAll {artifacts : List Artifact}
    (named : ∀ a ∈ artifacts, IsName a.fileName)
    (distinct : ∀ a ∈ artifacts, ∀ b ∈ artifacts, a.fileName = b.fileName → a = b)
    (written : writeAll folder artifacts tree = (after, some files)) {a : Artifact}
    (mem : a ∈ artifacts) : after.text? (folder.place ++ [a.fileName]) = some a.contents := by
  induction artifacts generalizing tree files with
  | nil => cases mem
  | cons b rest ih =>
    obtain ⟨first, names, one, more⟩ := writeAll_cons written
    have namedRest : ∀ c ∈ rest, IsName c.fileName := fun c h => named c (List.mem_cons_of_mem _ h)
    have distinctRest : ∀ c ∈ rest, ∀ d ∈ rest, c.fileName = d.fileName → c = d :=
      fun c hc d hd => distinct c (List.mem_cons_of_mem _ hc) d (List.mem_cons_of_mem _ hd)
    -- What is written again later has the same text then.
    by_cases later : a ∈ rest
    · exact ih namedRest distinctRest more later
    · obtain rfl := (List.mem_cons.1 mem).resolve_right later
      have apart : ∀ c ∈ rest, folder.place ++ [a.fileName] ≠ folder.place ++ [c.fileName] := by
        intro c hc same
        have names := List.singleton_inj.1 (List.append_cancel_left same)
        exact later (distinct a mem c (List.mem_cons_of_mem _ hc) names ▸ hc)
      have kept := text?_of_writeAll_of_ne namedRest apart first
      rw [more, FileTree.text?_of_write one, Path.place_join_name (named a mem), if_pos rfl] at kept
      exact kept

end WriteAll

namespace ExportPlan

variable {plan : ExportPlan}

def home (plan : ExportPlan) (place : Place) : Place := (outputFolder plan.out place).place

def outputs (plan : ExportPlan) (place : Place) : List Place :=
  plan.targets.map fun target => plan.home place ++ [target.fileName plan.dialect]

theorem outputs_disjoint {p q : Place} (apart : plan.home p ≠ plan.home q) :
    ∀ place ∈ plan.outputs p, place ∉ plan.outputs q := by
  intro place first second
  obtain ⟨target, _, rfl⟩ := List.mem_map.1 first
  obtain ⟨other, _, same⟩ := List.mem_map.1 second
  exact apart (List.append_inj' same rfl).1.symm

theorem home_eq_iff {p q : Place} (first : IsProject p) (second : IsProject q)
    (different : p ≠ q) : plan.home p = plan.home q ↔ Rivals p q := by
  rw [home, home, first.place_outputFolder, second.place_outputFolder, List.append_cancel_left_eq,
    first.ownFolder_eq_iff second different]

section ExportOne

variable {tree after : FileTree} {place : Place} {messages : List Message}

/-- An export of one project that succeeds has loaded it, and unless it prints, has written its
artifacts into its folder. -/
theorem exportOne_eq_ok (done : plan.exportOne tree place = (after, .ok messages)) :
    ∃ project, Project.load tree (projectPath plan.root place) = .ok project ∧
      if plan.print then after = tree
      else ∃ made files,
        writeAll (outputFolder plan.out place)
          (plan.targets.map (artifactOf plan.dialect project.document)) made =
            (after, some files) := by
  unfold exportOne at done
  cases loaded : Project.load tree (projectPath plan.root place) with
  | error e =>
    rw [loaded] at done
    cases done
  | ok project =>
    refine ⟨project, rfl, ?_⟩
    rw [loaded] at done
    dsimp only at done
    split at done
    · next print =>
      rw [if_pos print]
      cases done
      rfl
    · next print =>
      rw [if_neg print]
      split at done
      · cases done
      · next made _ =>
        split at done
        · cases done
        · next written =>
          cases done
          exact ⟨made, _, written⟩

theorem named_artifacts (document : Document) :
    ∀ a ∈ plan.targets.map (artifactOf plan.dialect document), IsName a.fileName := by
  intro a mem
  obtain ⟨target, _, rfl⟩ := List.mem_map.1 mem
  rw [fileName_artifactOf]
  exact target.isName_fileName plan.dialect

theorem distinct_artifacts (document : Document) :
    ∀ a ∈ plan.targets.map (artifactOf plan.dialect document),
      ∀ b ∈ plan.targets.map (artifactOf plan.dialect document),
        a.fileName = b.fileName → a = b := by
  intro a first b second same
  obtain ⟨target, _, rfl⟩ := List.mem_map.1 first
  obtain ⟨other, _, rfl⟩ := List.mem_map.1 second
  rw [fileName_artifactOf, fileName_artifactOf] at same
  rw [Target.fileName_injective plan.dialect same]

/-- Even if it fails, an export changes no text outside of the files of its project. -/
theorem text?_of_exportOne_of_not_mem {other : Place} (apart : other ∉ plan.outputs place)
    (tree : FileTree) : (plan.exportOne tree place).1.text? other = tree.text? other := by
  unfold exportOne
  cases Project.load tree (projectPath plan.root place) with
  | error e => rfl
  | ok project =>
    have elsewhere : ∀ a ∈ plan.targets.map (artifactOf plan.dialect project.document),
        other ≠ plan.home place ++ [a.fileName] := by
      rintro a mem rfl
      obtain ⟨target, exported, rfl⟩ := List.mem_map.1 mem
      rw [fileName_artifactOf] at apart
      exact apart (List.mem_map_of_mem exported)
    have folders := tree.text?_of_makeFoldersFrom (outputFolder plan.out place).segments [] other
    dsimp only
    split
    · rfl
    · split
      · next stopped => rwa [stopped] at folders
      · next made ready =>
        have kept := text?_of_writeAll_of_ne (named_artifacts _) elsewhere made
        rw [ready] at folders
        split
        · next failed =>
          rw [failed] at kept
          exact kept.trans folders
        · next written =>
          rw [written] at kept
          exact kept.trans folders

theorem text?_of_exportOne (writes : plan.print = false)
    (done : plan.exportOne tree place = (after, .ok messages)) :
    ∃ project, Project.load tree (projectPath plan.root place) = .ok project ∧
      ∀ target ∈ plan.targets,
        after.text? (plan.home place ++ [target.fileName plan.dialect]) =
          some (artifactOf plan.dialect project.document target).contents := by
  obtain ⟨project, loaded, effect⟩ := exportOne_eq_ok done
  rw [if_neg (Bool.eq_false_iff.1 writes)] at effect
  obtain ⟨made, files, written⟩ := effect
  refine ⟨project, loaded, fun target exported => ?_⟩
  rw [← fileName_artifactOf plan.dialect project.document]
  exact text?_of_writeAll (named_artifacts _) (distinct_artifacts _) written
    (List.mem_map_of_mem exported)

end ExportOne

theorem tree_step (t : Tally) (place : Place) :
    (plan.step t place).tree = (plan.exportOne t.tree place).1 := by
  rw [step]
  split <;> next done => rw [done]

theorem text?_run {places : List Place} {other : Place}
    (apart : ∀ place ∈ places, other ∉ plan.outputs place) (t : Tally) :
    (places.foldl plan.step t).tree.text? other = t.tree.text? other := by
  induction places generalizing t with
  | nil => rfl
  | cons place places ih =>
    rw [List.foldl_cons, ih fun q h => apart q (List.mem_cons_of_mem _ h), tree_step,
      text?_of_exportOne_of_not_mem (apart place List.mem_cons_self)]

/-- Rivals are exported to the same files, and all other projects have none in common. What a
project is exported to then stands until the end of a run in which no rival comes after it. -/
theorem exports_apart_unless_rivals (writes : plan.print = false) {p : Place} {others : List Place}
    (project : IsProject p) (projects : ∀ q ∈ others, IsProject q ∧ p ≠ q) :
    (∀ q ∈ others, (Rivals p q → plan.outputs p = plan.outputs q) ∧
        (¬ Rivals p q → ∀ place ∈ plan.outputs p, place ∉ plan.outputs q)) ∧
      ∀ (t : Tally) (tree : FileTree) (messages : List Message),
        plan.exportOne t.tree p = (tree, .ok messages) → (∀ q ∈ others, ¬ Rivals p q) →
          ∃ project, Project.load t.tree (projectPath plan.root p) = .ok project ∧
            ∀ target ∈ plan.targets,
              ((p :: others).foldl plan.step t).tree.text?
                  (plan.home p ++ [target.fileName plan.dialect]) =
                some (artifactOf plan.dialect project.document target).contents := by
  have homes : ∀ q ∈ others, plan.home p = plan.home q ↔ Rivals p q := fun q h =>
    home_eq_iff project (projects q h).1 (projects q h).2
  have disjoint : ∀ q ∈ others, ¬ Rivals p q → ∀ place ∈ plan.outputs p, place ∉ plan.outputs q :=
    fun q h strangers => outputs_disjoint (mt (homes q h).1 strangers)
  refine ⟨fun q h => ⟨fun rivals => ?_, disjoint q h⟩, fun t tree messages done strangers => ?_⟩
  · rw [outputs, outputs, (homes q h).2 rivals]
  · obtain ⟨loaded, found, held⟩ := text?_of_exportOne writes done
    refine ⟨loaded, found, fun target exported => ?_⟩
    rw [List.foldl_cons, text?_run, tree_step, done]
    · exact held target exported
    · exact fun q h => disjoint q h (strangers q h) _ (List.mem_map_of_mem exported)

def titled (title : String) : Project := { document := { settings := { title } } }

theorem load_titled {tree : FileTree} {path : Path} {title : String}
    (found : tree.find? path = some (.file (titled title).toText)) :
    Project.load tree path = .ok (titled title) := by
  rw [Project.load, found]
  exact Project.ofText_toText fun _ none => nomatch none

def onePage : ExportPlan where
  root := ⟨"."⟩
  out := ⟨"dist"⟩
  targets := [.html]
  dialect := .typed
  print := false

def namesakes : FileTree where
  files := [(["a", "page.json"], (titled "Folder").toText),
    (["a.page.json"], (titled "Stem").toText)]

def namesakesWith (project : Project) : FileTree where
  files := namesakes.files ++
    [(["dist", "a", "index.html"], (Artifact.html project.document).contents)]
  folders := [["dist", "a"], ["dist"]]

theorem exports_apart_of_strangers :
    (IsProject ["a.page.json"] ∧ IsProject ["page.json"] ∧ IsProject ["b", "a.page.json"]) ∧
      (∃ after messages, onePage.exportOne namesakes ["a.page.json"] = (after, .ok messages)) ∧
      ¬ Rivals ["a.page.json"] ["page.json"] ∧ ¬ Rivals ["a.page.json"] ["b", "a.page.json"] ∧
      ([["a.page.json"], ["page.json"], ["b", "a.page.json"]].foldl onePage.step
        { tree := namesakes }).tree.text? ["dist", "a", "index.html"] =
          some (Artifact.html (titled "Stem").document).contents := by
  have projects : ∀ q ∈ [["page.json"], ["b", "a.page.json"]],
    IsProject q ∧ ["a.page.json"] ≠ q := by decide
  have project : IsProject ["a.page.json"] := by decide
  have apart : ∀ q ∈ [["page.json"], ["b", "a.page.json"]],
    ownFolder ["a.page.json"] ≠ ownFolder q := by decide
  have strangers : ∀ q ∈ [["page.json"], ["b", "a.page.json"]], ¬ Rivals ["a.page.json"] q :=
    fun q h => mt (project.ownFolder_eq_iff (projects q h).1 (projects q h).2).2 (apart q h)
  have loads : Project.load namesakes (projectPath onePage.root ["a.page.json"]) =
      .ok (titled "Stem") := load_titled rfl
  obtain ⟨after, messages, done⟩ : ∃ after messages,
      onePage.exportOne namesakes ["a.page.json"] = (after, .ok messages) := by
    rw [exportOne, loads]
    exact ⟨_, _, rfl⟩
  obtain ⟨loaded, same, held⟩ := (exports_apart_unless_rivals rfl project projects).2
    { tree := namesakes } after messages done strangers
  cases loads.symm.trans same
  exact ⟨⟨project, (projects _ (by decide)).1, (projects _ (by decide)).1⟩,
    ⟨after, messages, done⟩, strangers _ (by decide), strangers _ (by decide),
    held .html (by decide)⟩

/-- Each of the namesakes is reported with a page of its own, and the page of the second has taken
the place of the first. -/
theorem namesakes_overwritten :
    IsProject ["a", "page.json"] ∧ IsProject ["a.page.json"] ∧
      onePage.outputs ["a", "page.json"] = [["dist", "a", "index.html"]] ∧
      onePage.outputs ["a.page.json"] = [["dist", "a", "index.html"]] ∧
      onePage.exportOne namesakes ["a", "page.json"] = (namesakesWith (titled "Folder"),
        .ok [⟨.output, "  ✓ a/page.json → dist/a/index.html"⟩]) ∧
      onePage.exportOne (namesakesWith (titled "Folder")) ["a.page.json"] =
        (namesakesWith (titled "Stem"),
          .ok [⟨.output, "  ✓ a.page.json → dist/a/index.html"⟩]) := by
  refine ⟨by decide, by decide, by decide, by decide, ?_, ?_⟩
  · rw [exportOne, load_titled rfl]
    rfl
  · rw [exportOne, load_titled rfl]
    rfl

end ExportPlan
end Command
end PageBuilder
