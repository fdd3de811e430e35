import PageBuilder.Command.Invocation

set_option autoImplicit false

namespace PageBuilder

def usage : String :=
  "usage: pagecraft init [PATH] [--force] | add KIND [PATH] | blocks |\n" ++
    "  export [PATH] [--target TARGET] [--out-dir DIR] [--stdout] [--javascript]"

def namesOf (path : String) : Place := (Path.segments ⟨path⟩).filter (!·.isEmpty)

partial def loadEntry (tree : FileTree) (place : Place) (entry : IO.FS.DirEntry) : IO FileTree := do
  if ← entry.path.isDir then
    let mut tree := { tree with folders := place :: tree.folders }
    for child in ← entry.path.readDir do
      if (← child.path.isDir) || child.fileName.endsWith ".json" then
        tree ← loadEntry tree (place ++ [child.fileName]) child
    return tree
  else
    match String.fromUTF8? (← IO.FS.readBinFile entry.path) with
    | some text => return { tree with files := FileTree.put place text tree.files }
    | none => return { tree with binaries := place :: tree.binaries }

def loadPath (tree : FileTree) (entry : IO.FS.DirEntry) : IO FileTree := do
  if ← entry.path.pathExists then
    loadEntry tree (namesOf (← IO.FS.realPath entry.path).toString) entry
  else return tree

def storeChanges (before after : FileTree) : IO Unit := do
  for place in after.folders do
    unless before.isFolder place do
      IO.FS.createDirAll ("/" ++ (Path.ofNames place).text)
  for (place, text) in after.files do
    unless before.text? place = some text do
      IO.FS.createDirAll ("/" ++ (Path.ofNames place.dropLast).text)
      IO.FS.writeFile ("/" ++ (Path.ofNames place).text) text

end PageBuilder

open PageBuilder

def main (args : List String) : IO UInt32 := do
  match Invocation.ofArguments args with
  | none =>
    IO.eprintln usage
    return 2
  | some invocation =>
    let cwd ← IO.currentDir
    let tree ← loadPath {} ⟨cwd, Config.fileName.text⟩
    let tree ← loadPath tree ⟨cwd, "."⟩
    let tree ← loadPath tree ⟨cwd, invocation.path.text⟩
    let report := invocation.run tree ⟨cwd.toString⟩
    storeChanges tree report.tree
    IO.print (report.textOn .output)
    IO.eprint (report.textOn .errors)
    match report.failure with
    | none => return 0
    | some e =>
      IO.eprintln ("\nError: " ++ e.message ++ "\n")
      return 1
