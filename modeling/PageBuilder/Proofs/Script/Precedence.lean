import PageBuilder.Proofs.Script.Lexemes

set_option autoImplicit false

/-!
# Operator trees of a script

The tree that an expression of the language is read as, with the precedence of all its operators but
division and power, assignments, and those that are words. Whatever uses one of these, or a call, an
index or a template, is refused.
-/

namespace PageBuilder.Script

inductive Term where
  | string (text : String)
  | number (value : Nat)
  | variable (name : String)
  | member (owner : Term) (name : String)
  | unary (symbol : String) (operand : Term)
  | binary (symbol : String) (left right : Term)
  | conditional (condition yes no : Term)
deriving DecidableEq

namespace Term

/-- The operators that stand before their operand. -/
def signs : List String := ["-", "+", "!", "~"]

/-- The operators between two operands, the loosest first; those of one level group to the left. -/
def levels : List (List String) :=
  [["||"], ["&&"], ["|"], ["^"], ["&"], ["===", "!==", "==", "!="], ["<", ">", "<=", ">="],
    ["<<", ">>", ">>>"], ["+", "-"], ["*", "%"]]

/-- The mark that a text begins with, if it is one of these. -/
def next? (symbols : List String) : List Lexeme → Option (String × List Lexeme)
  | .mark symbol :: rest => if symbol ∈ symbols then some (symbol, rest) else none
  | _ => none

def members (owner : Term) : List Lexeme → Term × List Lexeme
  | .mark "." :: .name name :: rest => members (.member owner name) rest
  | rest => (owner, rest)

mutual

def atom? (text : List Lexeme) : Option (Term × List Lexeme) :=
  letI conditional? : List Lexeme → Option (Term × List Lexeme) := by apply conditional?
  match text with
  | .string s :: rest => some (.string s, rest)
  | .number n :: rest => some (.number n, rest)
  | .name name :: rest =>
    if reservedWords.contains name then none else some (.variable name, rest)
  | _ => do
    let (_, rest) ← next? ["("] text
    let (t, rest) ← conditional? rest
    let (_, rest) ← next? [")"] rest
    return (t, rest)
partial_fixpoint

def operand? (text : List Lexeme) : Option (Term × List Lexeme) :=
  letI atom? : List Lexeme → Option (Term × List Lexeme) := by apply atom?
  letI operand? : List Lexeme → Option (Term × List Lexeme) := by apply operand?
  match next? signs text with
  | some (symbol, rest) => do
    let (t, rest) ← operand? rest
    return (.unary symbol t, rest)
  | none => do
    let (t, rest) ← atom? text
    return members t rest
partial_fixpoint

def level? (among : List (List String)) (text : List Lexeme) : Option (Term × List Lexeme) :=
  letI operand? : List Lexeme → Option (Term × List Lexeme) := by apply operand?
  letI level? : List (List String) → List Lexeme → Option (Term × List Lexeme) := by apply level?
  letI further? : List String → List (List String) → Term → List Lexeme →
    Option (Term × List Lexeme) := by apply further?
  match among with
  | [] => operand? text
  | symbols :: tighter => do
    let (t, rest) ← level? tighter text
    further? symbols tighter t rest
partial_fixpoint

/-- The operands that go on after a first one, from left to right. -/
def further? (symbols : List String) (tighter : List (List String)) (t : Term)
    (text : List Lexeme) : Option (Term × List Lexeme) :=
  letI level? : List (List String) → List Lexeme → Option (Term × List Lexeme) := by apply level?
  letI further? : List String → List (List String) → Term → List Lexeme →
    Option (Term × List Lexeme) := by apply further?
  match next? symbols text with
  | none => some (t, text)
  | some (symbol, rest) => do
    let (u, rest) ← level? tighter rest
    further? symbols tighter (.binary symbol t u) rest
partial_fixpoint

def conditional? (text : List Lexeme) : Option (Term × List Lexeme) :=
  letI level? : List (List String) → List Lexeme → Option (Term × List Lexeme) := by apply level?
  letI conditional? : List Lexeme → Option (Term × List Lexeme) := by apply conditional?
  do
  let (c, rest) ← level? levels text
  match next? ["?"] rest with
  | none => return (c, rest)
  | some (_, rest) => do
    let (t, rest) ← conditional? rest
    let (_, rest) ← next? [":"] rest
    let (u, rest) ← conditional? rest
    return (.conditional c t u, rest)
partial_fixpoint

end

end Term

def Alphabet.term? (a : Alphabet) (text : String) : Option Term := do
  let (t, rest) ← Term.conditional? (← a.lexemes? text.toList)
  guard rest.isEmpty
  return t

namespace Term

/-- None of these marks goes on. -/
def Quiet (symbols : List String) (rest : List Lexeme) : Prop :=
  ∀ symbol ∈ symbols, rest.head? ≠ some (.mark symbol)

theorem next?_mark {symbols : List String} {symbol : String} (mem : symbol ∈ symbols)
    (rest : List Lexeme) : next? symbols (.mark symbol :: rest) = some (symbol, rest) := if_pos mem

theorem Quiet.next?_eq_none {symbols : List String} {rest : List Lexeme}
    (quiet : Quiet symbols rest) : next? symbols rest = none := by
  unfold next?
  split
  · rename_i symbol rest
    exact if_neg fun mem => quiet symbol mem rfl
  · rfl

theorem quiet_mark {symbols : List String} {symbol : String} (other : symbol ∉ symbols)
    (rest : List Lexeme) : Quiet symbols (.mark symbol :: rest) := by
  rintro s mem first
  cases first
  exact other mem

theorem quiet_append {symbols others : List String} {rest : List Lexeme} :
    Quiet (symbols ++ others) rest ↔ Quiet symbols rest ∧ Quiet others rest :=
  List.forall_mem_append

theorem members_of_quiet {rest : List Lexeme} (quiet : Quiet ["."] rest) (owner : Term) :
    members owner rest = (owner, rest) := by
  unfold members
  split
  · exact absurd rfl (quiet "." List.mem_cons_self)
  · rfl

/-- A text is read as an operand, whatever follows it that is no member. -/
def Reads (text : List Lexeme) (t : Term) : Prop :=
  ∀ rest, Quiet ["."] rest → operand? (text ++ rest) = some (t, rest)

theorem operand?_of_atom? {text rest : List Lexeme} {t : Term} (unsigned : Quiet signs text)
    (read : atom? text = some (t, rest)) :
    operand? text = some (members t rest) := by
  rw [operand?, unsigned.next?_eq_none]
  simp only [read, Option.bind_eq_bind, Option.bind_some]
  rfl

theorem reads_atom {word : Lexeme} {t : Term} (other : ∀ symbol, word ≠ .mark symbol)
    (read : ∀ rest, atom? (word :: rest) = some (t, rest)) : Reads [word] t := by
  intro rest quiet
  have unsigned : Quiet signs (word :: rest) :=
    fun symbol _ first => other symbol (Option.some.inj first)
  rw [List.singleton_append, operand?_of_atom? unsigned (read rest), members_of_quiet quiet]

theorem reads_string (s : String) : Reads [.string s] (.string s) :=
  reads_atom nofun fun rest => by rw [atom?]

theorem reads_number (n : Nat) : Reads [.number n] (.number n) :=
  reads_atom nofun fun rest => by rw [atom?]

theorem reads_unary {symbol : String} (mem : symbol ∈ signs) {text : List Lexeme} {t : Term}
    (reads : Reads text t) : Reads (.mark symbol :: text) (.unary symbol t) := by
  intro rest quiet
  rw [List.cons_append, operand?, next?_mark mem]
  simp only [reads rest quiet, Option.bind_eq_bind, Option.bind_some]
  rfl

theorem members_path (owner : Term) (path : List String) {rest : List Lexeme}
    (quiet : Quiet ["."] rest) :
    members owner ((path.flatMap fun name => [.mark ".", .name name]) ++ rest) =
      (path.foldl .member owner, rest) := by
  induction path generalizing owner with
  | nil => exact members_of_quiet quiet owner
  | cons name path ih => exact ih (.member owner name)

theorem reads_field {binding : String} (free : reservedWords.contains binding = false)
    (path : List String) :
    Reads (.name binding :: path.flatMap fun name => [.mark ".", .name name])
      (path.foldl .member (.variable binding)) := by
  intro rest quiet
  rw [List.cons_append]
  generalize spelled : (path.flatMap fun name => [Lexeme.mark ".", .name name]) ++ rest = tail
  have unsigned : Quiet signs (.name binding :: tail) := fun _ _ first => by cases first
  have read : atom? (.name binding :: tail) = some (.variable binding, tail) := by
    rw [atom?, if_neg (ne_true_of_eq_false free)]
  rw [operand?_of_atom? unsigned read, ← spelled, members_path _ path quiet]

theorem level?_looser {among : List (List String)} {text rest : List Lexeme} {t : Term}
    (read : level? among text = some (t, rest)) {looser : List (List String)}
    (quiet : Quiet looser.flatten rest) : level? (looser ++ among) text = some (t, rest) := by
  induction looser with
  | nil => exact read
  | cons symbols looser ih =>
    obtain ⟨own, others⟩ := quiet_append.1 quiet
    rw [List.cons_append, level?, ih others]
    simp only [Option.bind_eq_bind, Option.bind_some]
    rw [further?, own.next?_eq_none]

theorem Reads.level? {text : List Lexeme} {t : Term} (reads : Reads text t)
    {among : List (List String)} {rest : List Lexeme} (member : Quiet ["."] rest)
    (quiet : Quiet among.flatten rest) : level? among (text ++ rest) = some (t, rest) := by
  have read : Term.level? [] (text ++ rest) = some (t, rest) := by
    rw [Term.level?, reads rest member]
  rw [← List.append_nil among]
  exact level?_looser read quiet

/-- Nothing goes on that an expression could be a part of. -/
def Closes (rest : List Lexeme) : Prop := Quiet ("." :: "?" :: levels.flatten) rest

theorem closes_parenthesis (rest : List Lexeme) : Closes (.mark ")" :: rest) :=
  quiet_mark (by decide) rest

theorem closes_colon (rest : List Lexeme) : Closes (.mark ":" :: rest) :=
  quiet_mark (by decide) rest

theorem Closes.parts {rest : List Lexeme} (closes : Closes rest) :
    Quiet ["."] rest ∧ Quiet ["?"] rest ∧ Quiet levels.flatten rest := by
  simpa [Closes, Quiet] using closes

theorem conditional?_of_level? {text rest : List Lexeme} {t : Term}
    (read : level? levels text = some (t, rest)) (question : Quiet ["?"] rest) :
    conditional? text = some (t, rest) := by
  rw [conditional?, read]
  simp only [Option.bind_eq_bind, Option.bind_some]
  rw [question.next?_eq_none]
  rfl

theorem Reads.conditional? {text : List Lexeme} {t : Term} (reads : Reads text t)
    {rest : List Lexeme} (closes : Closes rest) : conditional? (text ++ rest) = some (t, rest) := by
  obtain ⟨member, question, none⟩ := closes.parts
  exact conditional?_of_level? (reads.level? member none) question

theorem reads_parenthesis {inner : List Lexeme} {t : Term}
    (read : ∀ rest, conditional? (inner ++ .mark ")" :: rest) = some (t, .mark ")" :: rest)) :
    Reads (.mark "(" :: (inner ++ [.mark ")"])) t := by
  intro rest quiet
  have spelled : .mark "(" :: (inner ++ [.mark ")"]) ++ rest =
      .mark "(" :: (inner ++ .mark ")" :: rest) := by simp
  have unsigned : Quiet signs (.mark "(" :: (inner ++ .mark ")" :: rest)) :=
    quiet_mark (by decide) _
  have opened : next? ["("] (.mark "(" :: (inner ++ .mark ")" :: rest)) =
      some ("(", inner ++ .mark ")" :: rest) := next?_mark List.mem_cons_self _
  have closed : next? [")"] (.mark ")" :: rest) = some (")", rest) :=
    next?_mark List.mem_cons_self rest
  have atom : atom? (.mark "(" :: (inner ++ .mark ")" :: rest)) = some (t, rest) := by
    rw [atom?] <;> simp [opened, closed, read]
  rw [spelled, operand?_of_atom? unsigned atom, members_of_quiet quiet]

theorem level?_binary {symbol : String} {looser tighter : List (List String)}
    {symbols : List String} (split : levels = looser ++ symbols :: tighter)
    (mem : symbol ∈ symbols) {left right : List Lexeme} {t u : Term} (readsLeft : Reads left t)
    (readsRight : Reads right u) (rest : List Lexeme) :
    level? levels (left ++ .mark symbol :: (right ++ .mark ")" :: rest)) =
      some (.binary symbol t u, .mark ")" :: rest) := by
  have once : (looser.flatten ++ (symbols ++ tighter.flatten)).Nodup := by
    rw [← List.flatten_cons, ← List.flatten_append, ← split]
    decide
  have dot : symbol ≠ "." := by
    rintro rfl
    have own : "." ∈ levels.flatten := by
      rw [split, List.flatten_append, List.flatten_cons]
      exact List.mem_append_right _ (List.mem_append_left _ mem)
    exact absurd own (by decide)
  have apart : symbol ∉ tighter.flatten :=
    List.disjoint_of_nodup_append (List.nodup_append.1 once).2.1 mem
  obtain ⟨member, _, closed⟩ := (closes_parenthesis rest).parts
  rw [split, List.flatten_append, List.flatten_cons, quiet_append, quiet_append] at closed
  obtain ⟨closedLooser, closedOwn, closedTighter⟩ := closed
  have first := readsLeft.level? (quiet_mark (mt List.mem_singleton.1 dot) _)
    (quiet_mark apart (right ++ .mark ")" :: rest))
  have second := readsRight.level? member closedTighter
  rw [split]
  refine level?_looser ?_ closedLooser
  rw [level?, first]
  simp only [Option.bind_eq_bind, Option.bind_some]
  rw [further?, next?_mark mem]
  simp only [second, Option.bind_eq_bind, Option.bind_some]
  rw [further?, closedOwn.next?_eq_none]

theorem reads_binary {symbol : String} (mem : symbol ∈ levels.flatten)
    {left right : List Lexeme} {t u : Term} (readsLeft : Reads left t) (readsRight : Reads right u) :
    Reads (.mark "(" :: (left ++ .mark symbol :: right ++ [.mark ")"])) (.binary symbol t u) := by
  refine reads_parenthesis fun rest => ?_
  obtain ⟨symbols, level, own⟩ := List.mem_flatten.1 mem
  obtain ⟨looser, tighter, split⟩ := List.append_of_mem level
  have spelled : left ++ .mark symbol :: right ++ .mark ")" :: rest =
      left ++ .mark symbol :: (right ++ .mark ")" :: rest) := by simp
  obtain ⟨_, question, _⟩ := (closes_parenthesis rest).parts
  rw [spelled]
  exact conditional?_of_level? (level?_binary split own readsLeft readsRight rest) question

theorem reads_conditional {condition yes no : List Lexeme} {s t u : Term}
    (readsCondition : Reads condition s) (readsYes : Reads yes t) (readsNo : Reads no u) :
    Reads (.mark "(" ::
      (condition ++ .mark "?" :: (yes ++ .mark ":" :: no) ++ [.mark ")"])) (.conditional s t u) := by
  refine reads_parenthesis fun rest => ?_
  have spelled : condition ++ .mark "?" :: (yes ++ .mark ":" :: no) ++ .mark ")" :: rest =
      condition ++ .mark "?" :: (yes ++ .mark ":" :: (no ++ .mark ")" :: rest)) := by simp
  have question : ∀ text, Quiet ["."] (.mark "?" :: text) ∧
      Quiet levels.flatten (.mark "?" :: text) :=
    fun text => ⟨quiet_mark (by decide) text, quiet_mark (by decide) text⟩
  have first := readsCondition.level? (question (yes ++ .mark ":" :: (no ++ .mark ")" :: rest))).1
    (question _).2
  have second := readsYes.conditional? (closes_colon (no ++ .mark ")" :: rest))
  have third := readsNo.conditional? (closes_parenthesis rest)
  rw [spelled, conditional?, first]
  simp only [Option.bind_eq_bind, Option.bind_some]
  rw [next?_mark List.mem_cons_self]
  simp only [second, Option.bind_some]
  rw [next?_mark List.mem_cons_self]
  simp only [third, Option.bind_some]
  rfl

end Term
end PageBuilder.Script
