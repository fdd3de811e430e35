import PageBuilder.History
import PageBuilder.Mutation
import PageBuilder.Project

set_option autoImplicit false

namespace PageBuilder

structure Session where
  history : History Document
  ids : IdGenerator
  preferences : Preferences
  selected : Option InstanceId := none
  path : Option Path := none

namespace Session

/-- Starts over a project; ids that are unassigned or repeated are replaced first. -/
def start (project : Project) (g : IdGenerator) : Session :=
  let (document, ids) := project.document.repairIds (g.resume project.document.ids)
  { history := .new document, ids, preferences := project.preferences }

def inMemory : Session := start {} (.ofKey "memory://session")

/-- A session over the project of a file; the path is the session key. -/
def ofProject (path : Path) (project : Project) : Session :=
  { start project (project.generatorFor path.text) with path := some path }

def document (s : Session) : Document := s.history.current

def project (s : Session) : Project := ⟨s.document, s.preferences⟩

/-- The selection after a mutation: an inserted block, or none if its block was removed. -/
def selectionAfter (s : Session) (m : Mutation) : Option InstanceId → Option InstanceId
  | some inserted => some inserted
  | none =>
    match m with
    | .removeBlock id => if s.selected = some id then none else s.selected
    | _ => s.selected

def apply (s : Session) (m : Mutation) : Session × Bool :=
  let outcome := m.apply s.document s.ids
  let s' := { s with ids := outcome.ids, selected := s.selectionAfter m outcome.inserted }
  match s.history.commit? outcome.document with
  | some history => ({ s' with history }, true)
  | none => (s', false)

def insert (s : Session) (kind : BlockKind) : Session × Option InstanceId :=
  let (s, _) := s.apply (.insertBlock kind)
  (s, s.selected)

def selectedBlock (s : Session) : Option Block := s.selected.bind s.document.get?

def dropStaleSelection (s : Session) : Session :=
  if s.selectedBlock.isNone then { s with selected := none } else s

/-- Moves through the history if it can, and drops a stale selection either way. -/
def travel (s : Session) (history : Option (History Document)) : Session × Bool :=
  ({ s with history := history.getD s.history }.dropStaleSelection, history.isSome)

def undo (s : Session) : Session × Bool := s.travel s.history.undo?

def redo (s : Session) : Session × Bool := s.travel s.history.redo?

/-- Selects a block; an id without a block clears the selection. -/
def select (s : Session) (id : Option InstanceId) : Session :=
  { s with selected := id.filter fun id => (s.document.get? id).isSome }

end Session
end PageBuilder
