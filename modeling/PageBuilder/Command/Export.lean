import PageBuilder.Artifact
import PageBuilder.Command.Report
import PageBuilder.Config
import PageBuilder.Files.Storage

set_option autoImplicit false

namespace PageBuilder

structure ExportOptions where
  path : Path := ⟨"."⟩
  /-- Targets in place of those of the configuration. -/
  target : Option String := none
  outDir : Option String := none
  print : Bool := false
  untyped : Bool := false

namespace Command

def projectSuffix : List Char := ".page.json".toList

def stem? (name : String) : Option String :=
  let chars := name.toList
  if projectSuffix.isSuffixOf chars then
    some (String.ofList (chars.take (chars.length - projectSuffix.length)))
  else none

def isProjectName (name : String) : Bool := name = Project.fileName.text || (stem? name).isSome

/-- Whether a walk from a root to a place below it stays out of the output folder. -/
def avoids (out root : Path) (place : Place) : Bool :=
  (List.range (place.length + 1)).all fun n =>
    (if n = 0 then root else root.join (.ofNames (place.take n))).components ≠ out.components

/-- Places in the order of their names, a folder before what it holds. -/
def comesBefore : Place → Place → Bool
  | [], _ => true
  | _ :: _, [] => false
  | a :: as, b :: bs => if a = b then comesBefore as bs else a < b

/-- The project files to export, by their places below the root; the root itself if it is a file. -/
def projectPlaces (tree : FileTree) (root out : Path) : List Place :=
  match tree.find? root, tree.place? root with
  | some .folder, some top =>
    ((tree.below top).filter fun place =>
      (place.getLast?.any isProjectName) && avoids out root place).mergeSort comesBefore
  | _, _ => [[]]

def projectPath (root : Path) (place : Place) : Path :=
  if place.isEmpty then root else root.join (.ofNames place)

/-- The output folder of a project: its folder below the root, and its stem if it has one. -/
def outputFolder (out : Path) (place : Place) : Path :=
  match place.getLast? with
  | none => out
  | some name =>
    let folder := out.join (.ofNames place.dropLast)
    match stem? name with
    | some stem => folder.join ⟨stem⟩
    | none => folder

def artifactOf (dialect : Dialect) (document : Document) : Target → Artifact
  | .html => .html document
  | .react => .component dialect document

/-- Writes artifacts into a folder that is there, up to one that fails; tells their paths if none
does. -/
def writeAll (folder : Path) : List Artifact → FileTree → FileTree × Option (List Path)
  | [], tree => (tree, some [])
  | a :: rest, tree =>
    let file := folder.join ⟨a.fileName⟩
    match tree.write file a.contents with
    | none => (tree, none)
    | some tree =>
      let (tree, files) := writeAll folder rest tree
      (tree, files.map (file :: ·))

structure ExportPlan where
  root : Path
  out : Path
  targets : List Target
  dialect : Dialect
  print : Bool

namespace ExportPlan

/-- Printed artifacts have the output to themselves. -/
def progress (plan : ExportPlan) (lines : List String) : List Message :=
  lines.map (⟨if plan.print then .errors else .output, ·⟩)

def doneLine (place : Place) (target : String) : String :=
  "  ✓ " ++ (Path.ofNames place).text ++ " → " ++ target

/-- Whatever an export has made and written stays when it fails. -/
def exportOne (plan : ExportPlan) (tree : FileTree) (place : Place) :
    FileTree × Except CommandError (List Message) :=
  match Project.load tree (projectPath plan.root place) with
  | .error e => (tree, .error (.project e))
  | .ok project =>
    let artifacts := plan.targets.map (artifactOf plan.dialect project.document)
    if plan.print then
      (tree, .ok (printed (artifacts.map Artifact.contents) ++
        plan.progress [doneLine place "stdout"]))
    else
      let folder := outputFolder plan.out place
      match tree.makeFoldersFrom [] folder.segments with
      | (tree, false) => (tree, .error .inaccessible)
      | (tree, true) =>
        match writeAll folder artifacts tree with
        | (tree, none) => (tree, .error .inaccessible)
        | (tree, some files) =>
          (tree, .ok (plan.progress (files.map fun file => doneLine place file.text)))

/-- How far an export is: the tree, the messages, and the counts of projects and of errors. -/
structure Tally where
  tree : FileTree
  messages : List Message := []
  exported : Nat := 0
  errors : Nat := 0

def step (plan : ExportPlan) (t : Tally) (place : Place) : Tally :=
  match plan.exportOne t.tree place with
  | (tree, .ok messages) =>
    { t with tree, messages := t.messages ++ messages, exported := t.exported + 1 }
  | (tree, .error e) =>
    { t with
      tree
      messages := t.messages ++
        [⟨.errors, "  ✗ " ++ (Path.ofNames place).text ++ " - " ++ e.message⟩]
      errors := t.errors + 1 }

def summary (t : Tally) : String :=
  if t.errors = 0 then "✅ Exported " ++ natText t.exported ++ " projects successfully"
  else "⚠️ Exported " ++ natText t.exported ++ " projects, " ++ natText t.errors ++ " errors"

def run (plan : ExportPlan) (tree : FileTree) : Report :=
  let begun := plan.progress ["🔨 Exporting pages..."]
  match projectPlaces tree plan.root plan.out with
  | [] => { tree, messages := begun ++ plan.progress ["⚠️  No project files found"] }
  | places =>
    let t := places.foldl plan.step { tree }
    { tree := t.tree, messages := begun ++ t.messages ++ plan.progress ["", summary t] }

end ExportPlan

/-- The plan of an export; a missing root is the last fault to be found. -/
def plan (options : ExportOptions) (tree : FileTree) (cwd : Path) :
    Except CommandError ExportPlan := do
  if Config.isUnreadable tree cwd then throw .inaccessible
  let config ← (Config.load tree cwd).mapError .undecodable
  let targets ← match options.target with
    | none => pure config.targets
    | some option =>
      match Target.ofOption? option with
      | some targets => pure targets
      | none => throw (.unknownTarget option)
  let root := cwd.join options.path
  if (tree.find? root).isNone then throw (.missingPath root)
  return {
    root
    out := match options.outDir with
      | some folder => cwd.join ⟨folder⟩
      | none => config.outFolder cwd
    targets
    dialect := if config.typescript && !options.untyped then .typed else .untyped
    print := options.print }

def exportPages (options : ExportOptions) (tree : FileTree) (cwd : Path) : Report :=
  match plan options tree cwd with
  | .error e => .failed tree e
  | .ok plan => plan.run tree

end Command
end PageBuilder
