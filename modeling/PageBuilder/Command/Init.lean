import PageBuilder.Command.Report
import PageBuilder.Config
import PageBuilder.Files.Storage

set_option autoImplicit false

namespace PageBuilder.Command

def createdLine (file : Path) : String := "  ✓ Created " ++ file.text

def nextSteps : List String :=
  ["", "✅ Project initialized!", "", "Next steps:", "  1. Run: pagecraft add pricing",
    "  2. Run: pagecraft export", "  3. Check output in dist/"]

def writeConfig (tree : FileTree) (folder : Path) : Option (FileTree × Bool) :=
  let file := folder.join Config.fileName
  if (tree.find? file).isSome then some (tree, false)
  else (tree.write file (Config.toText {})).map (·, true)

def init (path : Path) (force : Bool) (tree : FileTree) (cwd : Path) : Report :=
  let folder := cwd.join path
  let file := folder.join Project.fileName
  if (tree.find? file).isSome && !force then
    { tree, messages := printed ["⚠️ page.json already exists", "Use --force to overwrite"] }
  else
    let begun := ["📝 Initializing Pagecraft project..."]
    match (Project.starter (.ofKey file.text)).1.save tree file with
    | .error e => { tree, messages := printed begun, failure := some (.project e) }
    | .ok tree =>
      let begun := begun ++ [createdLine Project.fileName]
      match writeConfig tree folder with
      | none => { tree, messages := printed begun, failure := some .inaccessible }
      | some (tree, created) =>
        let begun := if created then begun ++ [createdLine Config.fileName] else begun
        { tree, messages := printed (begun ++ nextSteps) }

end PageBuilder.Command
