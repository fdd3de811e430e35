import PageBuilder.Command.Add
import PageBuilder.Command.Blocks
import PageBuilder.Command.Export
import PageBuilder.Command.Init

set_option autoImplicit false

namespace PageBuilder

inductive Invocation where
  | init (path : Path) (force : Bool)
  | add (kind : String) (path : Path)
  | blocks
  | exportPages (options : ExportOptions)

namespace Invocation

def here : Path := ⟨"."⟩

def path : Invocation → Path
  | .init path _ | .add _ path => path
  | .blocks => here
  | .exportPages options => options.path

def readInit (path : Option Path) (force : Bool) : List String → Option Invocation
  | [] => some (.init (path.getD here) force)
  | "-f" :: rest | "--force" :: rest => readInit path true rest
  | arg :: rest => if path.isNone then readInit (some ⟨arg⟩) force rest else none

def readExport (path : Option Path) (options : ExportOptions) : List String → Option Invocation
  | [] => some (.exportPages { options with path := path.getD here })
  | "-t" :: target :: rest | "--target" :: target :: rest =>
    readExport path { options with target := some target } rest
  | "-o" :: folder :: rest | "--out-dir" :: folder :: rest =>
    readExport path { options with outDir := some folder } rest
  | "--stdout" :: rest => readExport path { options with print := true } rest
  | "--javascript" :: rest => readExport path { options with untyped := true } rest
  | arg :: rest => if path.isNone then readExport (some ⟨arg⟩) options rest else none

def ofArguments : List String → Option Invocation
  | "init" :: rest => readInit none false rest
  | ["add", kind] => some (.add kind here)
  | ["add", kind, path] => some (.add kind ⟨path⟩)
  | ["blocks"] => some .blocks
  | "export" :: rest => readExport none {} rest
  | _ => none

def run (invocation : Invocation) (tree : FileTree) (cwd : Path) : Report :=
  match invocation with
  | .init path force => Command.init path force tree cwd
  | .add kind path => Command.add kind path tree cwd
  | .blocks => Command.blocks tree
  | .exportPages options => Command.exportPages options tree cwd

end Invocation
end PageBuilder
