import PageBuilder.Block
import PageBuilder.Project
import PageBuilder.Files.Tree

set_option autoImplicit false

namespace PageBuilder

inductive CommandError where
  | undecodable (error : Json.DecodeError)
  | project (error : ProjectError)
  | unknownKind (tag : String)
  | unknownTarget (option : String)
  | notInserted (kind : BlockKind)
  | missingPath (path : Path)
  | inaccessible

namespace CommandError

def message : CommandError → String
  | .undecodable e => e.message
  | .project e => e.message
  | .unknownKind tag => "Unknown block kind: " ++ tag
  | .unknownTarget option => "Unknown target: " ++ option ++ " (expected html, react or all)"
  | .notInserted kind => "Could not insert " ++ kind.tag ++ " block"
  | .missingPath path => "Path does not exist: " ++ path.text
  | .inaccessible => "IO error"

end CommandError

inductive Channel where
  | output
  | errors
deriving DecidableEq

structure Message where
  channel : Channel
  line : String
deriving DecidableEq

structure Report where
  tree : FileTree
  messages : List Message := []
  failure : Option CommandError := none

namespace Report

def failed (tree : FileTree) (error : CommandError) : Report := { tree, failure := some error }

def textOn (report : Report) (channel : Channel) : String :=
  String.join ((report.messages.filter (·.channel = channel)).map (·.line ++ "\n"))

end Report

def printed (lines : List String) : List Message := lines.map (⟨.output, ·⟩)

end PageBuilder
