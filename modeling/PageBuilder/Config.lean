import PageBuilder.Files.Tree
import PageBuilder.Json.Codec

set_option autoImplicit false

namespace PageBuilder

open Json (Codec Source Decoded)

inductive Target where
  | html
  | react
deriving DecidableEq

namespace Target

def all : List Target := [.html, .react]

def name : Target → String
  | .html => "html"
  | .react => "react"

def ofOption? (option : String) : Option (List Target) :=
  if option = "all" then some all else (all.find? (·.name = option)).map ([·])

instance : Codec Target where
  encode target := .string target.name
  decode := Source.variant fun name content =>
    match all.find? (·.name = name) with
    | none => throw (.unknownVariant name (all.map Target.name))
    | some target => do
      Source.noContent content
      return target

end Target

structure Config where
  outDir : String := "dist"
  targets : List Target := Target.all
  typescript : Bool := true
deriving DecidableEq

namespace Config

def record : Json.Record Config where
  name := "Config"
  blank := {}
  fields := [
    .of "outDir" Config.outDir fun v x => { x with outDir := v },
    .of "targets" Config.targets fun v x => { x with targets := v },
    .of "typescript" Config.typescript fun v x => { x with typescript := v }]

instance : Codec Config := record.codec

def fileName : Path := ⟨"pagecraft.config.json"⟩

def toText (c : Config) : String := (Codec.encode c).pretty

def isUnreadable (tree : FileTree) (folder : Path) : Bool :=
  match tree.find? (folder.join fileName) with
  | some .folder | some .binary => true
  | _ => false

/-- The configuration of a folder; without a file it is the default one. -/
def load (tree : FileTree) (folder : Path) : Decoded Config :=
  match tree.find? (folder.join fileName) with
  | some (.file text) => Json.decodeText text
  | _ => .ok {}

def outFolder (c : Config) (folder : Path) : Path := folder.join ⟨c.outDir⟩

end Config
end PageBuilder
