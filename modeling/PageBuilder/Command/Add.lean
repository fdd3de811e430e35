import PageBuilder.Command.Report
import PageBuilder.Files.Storage

set_option autoImplicit false

namespace PageBuilder.Command

def projectFile (tree : FileTree) (path : Path) : Path :=
  if tree.isFolderAt path then path.join Project.fileName else path

/-- Fails with the tree as it was. -/
def addBlock (kind : BlockKind) (tree : FileTree) (file : Path) :
    Except CommandError (FileTree × InstanceId) := do
  let session ← (Session.load tree file).mapError .project
  match session.insert kind with
  | (_, none) => throw (.notInserted kind)
  | (session, some id) =>
    let tree ← (session.save tree).mapError .project
    return (tree, id)

def add (tag : String) (path : Path) (tree : FileTree) (cwd : Path) : Report :=
  match BlockKind.ofTag? tag with
  | none => .failed tree (.unknownKind tag)
  | some kind =>
    let file := projectFile tree (cwd.join path)
    match addBlock kind tree file with
    | .error e => .failed tree e
    | .ok (tree, id) =>
      { tree, messages := printed
          ["  ✓ Added " ++ tag ++ " block " ++ id.text ++ " to " ++ file.text] }

end PageBuilder.Command
