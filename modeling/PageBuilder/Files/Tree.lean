import PageBuilder.Files.Path

set_option autoImplicit false

namespace PageBuilder

abbrev Place := List String

inductive Entry where
  | file (text : String)
  /-- A file that holds no text. -/
  | binary
  | folder
deriving DecidableEq

structure FileTree where
  files : List (Place × String) := []
  binaries : List Place := []
  /-- The folders that were made; those above a file need not be among them. -/
  folders : List Place := []
deriving DecidableEq

namespace FileTree

def places (tree : FileTree) : List Place := tree.files.map Prod.fst ++ tree.binaries

def isFolder (tree : FileTree) (place : Place) : Bool :=
  place.isEmpty || tree.folders.any (place.isPrefixOf ·) ||
    tree.places.any fun file => place.isPrefixOf file && place ≠ file

def text? (tree : FileTree) (place : Place) : Option String := tree.files.lookup place

/-- Follows segments from a place, each from a folder; the last may lead to nothing. -/
def follow (tree : FileTree) : Place → List String → Option Place
  | place, [] => some place
  | place, segment :: rest =>
    if tree.isFolder place then
      match Path.component? segment with
      | some (.name name) => tree.follow (place ++ [name]) rest
      | some .up => tree.follow place.dropLast rest
      | _ => tree.follow place rest
    else none

/-- The place that a path leads to; an empty path leads nowhere. -/
def place? (tree : FileTree) (p : Path) : Option Place :=
  if p.text.isEmpty then none else tree.follow [] p.segments

def at? (tree : FileTree) (place : Place) : Option Entry :=
  match tree.text? place with
  | some text => some (.file text)
  | none =>
    if place ∈ tree.binaries then some .binary
    else if tree.isFolder place then some .folder
    else none

def find? (tree : FileTree) (p : Path) : Option Entry := (tree.place? p).bind tree.at?

def isFolderAt (tree : FileTree) (p : Path) : Bool := tree.find? p = some .folder

/-- Makes the missing folders along segments from a place, up to a file that is in the way; tells
whether there is none. -/
def makeFoldersFrom (tree : FileTree) : Place → List String → FileTree × Bool
  | _, [] => (tree, true)
  | place, segment :: rest =>
    match Path.component? segment with
    | some (.name name) =>
      let next := place ++ [name]
      if tree.isFolder next then tree.makeFoldersFrom next rest
      else if (tree.at? next).isSome then (tree, false)
      else makeFoldersFrom { tree with folders := next :: tree.folders } next rest
    | some .up => tree.makeFoldersFrom place.dropLast rest
    | _ => tree.makeFoldersFrom place rest

def makeFolders (tree : FileTree) (p : Path) : Option FileTree :=
  let (tree, made) := tree.makeFoldersFrom [] p.segments
  if made then some tree else none

def put (place : Place) (text : String) : List (Place × String) → List (Place × String)
  | [] => [(place, text)]
  | (other, old) :: rest =>
    if other = place then (place, text) :: rest else (other, old) :: put place text rest

def write (tree : FileTree) (p : Path) (text : String) : Option FileTree := do
  let place ← tree.place? p
  if tree.isFolder place then none
  else
    some { tree with
      files := put place text tree.files
      binaries := tree.binaries.filter (· ≠ place) }

def save (tree : FileTree) (p : Path) (text : String) : Option FileTree :=
  let (tree, made) := tree.makeFoldersFrom [] p.segments.dropLast
  if made then tree.write p text else none

/-- The files below a place, by their places seen from there. -/
def below (tree : FileTree) (place : Place) : List Place :=
  tree.places.filterMap fun file => (place.isPrefixOf? file).filter fun rest => !rest.isEmpty

end FileTree
end PageBuilder
