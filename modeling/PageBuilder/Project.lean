import PageBuilder.Document
import PageBuilder.Files.Path

set_option autoImplicit false

namespace PageBuilder

open Json (Decoded Source Codec DecodeError)

structure Project where
  document : Document := {}
  preferences : Preferences := {}
deriving DecidableEq

inductive ProjectError where
  | undecodable (error : DecodeError)
  | notFileBacked
  | notFound (path : Path)
  | inaccessible

namespace ProjectError

def message : ProjectError → String
  | .undecodable e => "Invalid project JSON: " ++ e.message
  | .notFileBacked => "Session is not file-backed"
  | .notFound path => "Project file not found: " ++ path.text
  | .inaccessible => "IO error"

end ProjectError

namespace Project

def record : Json.Record Project where
  name := "Project"
  blank := {}
  fields := [
    .of "document" Project.document fun v x => { x with document := v },
    .of "preferences" Project.preferences fun v x => { x with preferences := v }]

instance : Codec Project := record.codec

def starter (g : IdGenerator) : Project × IdGenerator :=
  let (d, _, g) := Document.insert {} .navigation g
  let (d, _, g) := d.insert .hero g
  ({ document := d }, g)

def toText (p : Project) : String := (Codec.encode p).pretty

def ofText (text : String) : Except ProjectError Project :=
  (Json.decodeText text).mapError .undecodable

def generatorFor (key : String) (p : Project) : IdGenerator :=
  (IdGenerator.ofKey key).resume p.document.ids

end Project
end PageBuilder
