import PageBuilder.Catalog
import PageBuilder.Command.Report

set_option autoImplicit false

namespace PageBuilder.Command

def padded (width : Nat) (s : String) : String :=
  s ++ String.ofList (List.replicate (width - s.length) ' ')

def blockLine (kind : BlockKind) : String := "  " ++ padded 12 kind.tag ++ " " ++ kind.label

def blocks (tree : FileTree) : Report :=
  { tree, messages := printed ("Available blocks:" :: BlockKind.all.map blockLine) }

end PageBuilder.Command
