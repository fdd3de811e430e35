set_option autoImplicit false

namespace PageBuilder

structure Path where
  text : String
deriving DecidableEq

namespace Path

/-- What stands between the slashes. -/
def segments (p : Path) : List String := (p.text.toList.splitOnP (· = '/')).map String.ofList

def ofNames (names : List String) : Path := ⟨"/".intercalate names⟩

def isAbsolute (p : Path) : Bool := p.text.toList.head? = some '/'

/-- A path seen from another; an absolute path stands by itself, and an empty one adds a slash. -/
def join (p q : Path) : Path :=
  if q.isAbsolute || p.text.isEmpty || p.text.toList.getLast? = some '/' then
    ⟨if q.isAbsolute then q.text else p.text ++ q.text⟩
  else ⟨p.text ++ "/" ++ q.text⟩

inductive Component where
  | root
  | here
  | up
  | name (text : String)
deriving DecidableEq

def component? (segment : String) : Option Component :=
  if segment = "" || segment = "." then none
  else if segment = ".." then some .up
  else some (.name segment)

/-- A dot counts only at the start, and repeated or trailing slashes do not count. -/
def components (p : Path) : List Component :=
  let start : List Component :=
    if p.isAbsolute then [.root] else if p.segments.head? = some "." then [.here] else []
  start ++ p.segments.filterMap component?

end Path
end PageBuilder
