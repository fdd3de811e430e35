import PageBuilder.Files.Tree
import PageBuilder.Session

set_option autoImplicit false

namespace PageBuilder

namespace Project

def fileName : Path := ⟨"page.json"⟩

def load (tree : FileTree) (p : Path) : Except ProjectError Project :=
  match tree.find? p with
  | none => .error (.notFound p)
  | some .folder | some .binary => .error .inaccessible
  | some (.file text) => ofText text

def save (project : Project) (tree : FileTree) (p : Path) : Except ProjectError FileTree :=
  match tree.save p project.toText with
  | some tree => .ok tree
  | none => .error .inaccessible

end Project

namespace Session

def load (tree : FileTree) (p : Path) : Except ProjectError Session :=
  (Project.load tree p).map (ofProject p)

def save (s : Session) (tree : FileTree) : Except ProjectError FileTree :=
  match s.path with
  | none => .error .notFileBacked
  | some p => s.project.save tree p

def saveAs (s : Session) (tree : FileTree) (p : Path) : Except ProjectError (Session × FileTree) :=
  (s.project.save tree p).map ({ s with path := some p }, ·)

end Session
end PageBuilder
