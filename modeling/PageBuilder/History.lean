set_option autoImplicit false

namespace PageBuilder

structure History (α : Type) where
  /-- Earlier values, the latest first. -/
  past : List α := []
  current : α
  /-- Undone values, the next to redo first. -/
  future : List α := []
  /-- The most steps that a commit leaves to undo; zero stands for no bound. -/
  limit : Nat := 0
deriving DecidableEq

namespace History

variable {α : Type}

def bounded (limit : Nat) (initial : α) : History α := { current := initial, limit }

def new (initial : α) : History α := bounded 0 initial

def trim (limit : Nat) (past : List α) : List α := if limit = 0 then past else past.take limit

/-- Makes a value the current one; an equal value is not recorded. -/
def commit? [DecidableEq α] (h : History α) (x : α) : Option (History α) :=
  if x = h.current then none
  else some { h with past := trim h.limit (h.current :: h.past), current := x, future := [] }

def undo? (h : History α) : Option (History α) :=
  match h.past with
  | [] => none
  | x :: past => some { h with past, current := x, future := h.current :: h.future }

def redo? (h : History α) : Option (History α) :=
  match h.future with
  | [] => none
  | x :: future => some { h with past := h.current :: h.past, current := x, future }

def clear (h : History α) : History α := { h with past := [], future := [] }

def reset (h : History α) (x : α) : History α := { h with past := [], current := x, future := [] }

def canUndo (h : History α) : Bool := !h.past.isEmpty

def canRedo (h : History α) : Bool := !h.future.isEmpty

end History
end PageBuilder
