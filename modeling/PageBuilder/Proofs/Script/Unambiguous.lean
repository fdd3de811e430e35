import PageBuilder.Proofs.Number.Binary64
import PageBuilder.Proofs.Script.Precedence

set_option autoImplicit false

namespace PageBuilder

open Script (Alphabet Lexeme Term reservedWords)

namespace Script

def Term.expr? : Term → Option Expr
  | .string s => some (.literal s)
  | .number n => some (.number (.ofNat n))
  | .variable name => some (.field name [])
  | .member owner name =>
    match owner.expr? with
    | some (.field binding path) => some (.field binding (path ++ [name]))
    | _ => none
  | .unary "-" (.number n) => some (.number (Binary64.ofNat n).neg)
  | .unary _ _ => none
  | .binary symbol t u => do
    let op ← operators.find? (·.symbol = symbol)
    return op.make (← t.expr?) (← u.expr?)
  | .conditional s t u => do return .ternary (← s.expr?) (← t.expr?) (← u.expr?)

theorem expr?_path (path : List String) {owner : Term} {binding : String} {before : List String}
    (spelled : owner.expr? = some (.field binding before)) :
    (path.foldl Term.member owner).expr? = some (.field binding (before ++ path)) := by
  induction path generalizing owner before with
  | nil => rw [List.append_nil, List.foldl_nil, spelled]
  | cons name path ih =>
    have member : (owner.member name).expr? = some (.field binding (before ++ [name])) := by
      rw [Term.expr?, spelled]
    rw [List.foldl_cons, ih member, List.append_assoc, List.singleton_append]

theorem expr?_binary {op : Operator} (mem : op ∈ operators) {t u : Term} {e f : Expr}
    (left : t.expr? = some e) (right : u.expr? = some f) :
    (Term.binary op.symbol t u).expr? = some (op.make e f) := by
  have found : operators.find? (·.symbol = op.symbol) = some op := by
    simp only [operators, List.mem_cons, List.not_mem_nil, or_false] at mem
    rcases mem with rfl | rfl | rfl <;> rfl
  simp [Term.expr?, found, left, right]

variable {a : Alphabet}

/-- A text is read as an operand, wherever no name and no number goes on. -/
def Spells (a : Alphabet) (text : String) (t : Term) : Prop :=
  ∃ lexemes, (∀ rest, a.Ends rest →
    a.lexemes? (text.toList ++ rest) = (a.lexemes? rest).map (lexemes ++ ·)) ∧ Term.Reads lexemes t

theorem Spells.term? {text : String} {t : Term} (spells : Spells a text t) :
    a.term? text = some t := by
  obtain ⟨lexemes, cut, reads⟩ := spells
  have whole : a.lexemes? text.toList = some lexemes := by
    simpa using cut [] (stops_nil _)
  have read : Term.conditional? lexemes = some (t, []) := by
    have closes : Term.Closes [] := fun _ _ first => by cases first
    simpa using reads.conditional? closes
  simp [Alphabet.term?, whole, read]

theorem spells_quote (s : String) : Spells a (Json.quote s) (.string s) :=
  ⟨[.string s], fun rest _ => a.lexemes?_quote s rest, Term.reads_string s⟩

theorem spells_natural (n : Nat) : Spells a (natText n) (.number n) :=
  ⟨[.number n], fun _ ends => Alphabet.lexemes?_digits n ends, Term.reads_number n⟩

theorem spells_whole (n : Int) :
    Spells a (intText n) (if n < 0 then .unary "-" (.number n.natAbs) else .number n.natAbs) := by
  unfold intText
  split
  · refine ⟨[.mark "-", .number n.natAbs], fun rest ends => ?_,
      Term.reads_unary (by decide) (Term.reads_number n.natAbs)⟩
    have spelled : ("-" ++ natText n.natAbs).toList ++ rest =
        '-' :: ((natText n.natAbs).toList ++ rest) := by simp
    rw [spelled, Alphabet.lexemes?_minus, Alphabet.lexemes?_digits n.natAbs ends, Option.map_map]
    rfl
  · exact spells_natural n.natAbs

theorem stops_path (path : List String) {rest : List Char} (ends : a.Ends rest) :
    Stops a.isPart ((path.flatMap fun name => '.' :: name.toList) ++ rest) := by
  cases path with
  | nil => exact ends.stops_part
  | cons name path => exact (stops_cons _ _ _).2 (a.part_latin '.' (by decide))

theorem lexemes?_path {path : List String} (names : ∀ name ∈ path, a.isName name)
    {rest : List Char} (ends : a.Ends rest) :
    a.lexemes? ((path.flatMap fun name => '.' :: name.toList) ++ rest) =
      (a.lexemes? rest).map ((path.flatMap fun name => [.mark ".", .name name]) ++ ·) := by
  induction path with
  | nil => simp
  | cons name path ih =>
    obtain ⟨valid, others⟩ := List.forall_mem_cons.1 names
    rw [List.flatMap_cons, List.append_assoc, List.cons_append, Alphabet.lexemes?_dot valid,
      Alphabet.lexemes?_name valid (stops_path path ends), ih others, Option.map_map,
      Option.map_map]
    rfl

theorem spells_field {binding : String} {path : List String} (valid : a.isName binding)
    (free : reservedWords.contains binding = false) (names : ∀ name ∈ path, a.isName name) :
    Spells a (".".intercalate (binding :: path)) (path.foldl .member (.variable binding)) := by
  refine ⟨_, fun rest ends => ?_, Term.reads_field free path⟩
  rw [fieldText, List.append_assoc, Alphabet.lexemes?_name valid (stops_path path ends),
    lexemes?_path names ends, Option.map_map]
  rfl

theorem lexemes?_opened (rest : List Char) :
    a.lexemes? ('(' :: rest) = (a.lexemes? rest).map (.mark "(" :: ·) :=
  Alphabet.lexemes?_mark (by decide) (by decide) rfl

theorem lexemes?_closed (rest : List Char) :
    a.lexemes? (')' :: rest) = (a.lexemes? rest).map (.mark ")" :: ·) :=
  Alphabet.lexemes?_mark (by decide) (by decide) rfl

theorem lexemes?_between {symbol : String} (mem : symbol ∈ ["||", "===", "<", "?", ":"])
    (rest : List Char) :
    a.lexemes? (symbol.toList ++ ' ' :: rest) = (a.lexemes? rest).map (.mark symbol :: ·) := by
  rw [← Alphabet.lexemes?_space rest]
  simp only [List.mem_cons, List.not_mem_nil, or_false] at mem
  rcases mem with rfl | rfl | rfl | rfl | rfl <;>
    exact Alphabet.lexemes?_mark (by decide) (by decide) rfl

theorem spells_operation {op : Operator} (mem : op ∈ operators) {left right : String} {t u : Term}
    (spellsLeft : Spells a left t) (spellsRight : Spells a right u) :
    Spells a (operation left op.symbol right) (.binary op.symbol t u) := by
  obtain ⟨lexemesLeft, cutLeft, readsLeft⟩ := spellsLeft
  obtain ⟨lexemesRight, cutRight, readsRight⟩ := spellsRight
  have symbol : op.symbol ∈ ["||", "===", "<"] := List.mem_map_of_mem mem
  have binary : op.symbol ∈ Term.levels.flatten :=
    (show ["||", "===", "<"] ⊆ Term.levels.flatten by decide) symbol
  have between : op.symbol ∈ ["||", "===", "<", "?", ":"] :=
    List.mem_append_left ["?", ":"] symbol
  refine ⟨_, fun rest ends => ?_, Term.reads_binary binary readsLeft readsRight⟩
  rw [operation_text, lexemes?_opened, cutLeft _ (Alphabet.ends_cons (by decide) (by decide) _),
    Alphabet.lexemes?_space, lexemes?_between between,
    cutRight _ (Alphabet.ends_cons (by decide) (by decide) _), lexemes?_closed]
  simp [Function.comp_def]

theorem spells_conditional {c yes no : String} {s t u : Term} (spellsCondition : Spells a c s)
    (spellsYes : Spells a yes t) (spellsNo : Spells a no u) :
    Spells a ("(" ++ c ++ " ? " ++ yes ++ " : " ++ no ++ ")") (.conditional s t u) := by
  obtain ⟨lexemesC, cutC, readsC⟩ := spellsCondition
  obtain ⟨lexemesYes, cutYes, readsYes⟩ := spellsYes
  obtain ⟨lexemesNo, cutNo, readsNo⟩ := spellsNo
  have question : ∀ rest, a.lexemes? ('?' :: ' ' :: rest) =
      (a.lexemes? rest).map (.mark "?" :: ·) := lexemes?_between (show "?" ∈ _ by decide)
  have colon : ∀ rest, a.lexemes? (':' :: ' ' :: rest) =
      (a.lexemes? rest).map (.mark ":" :: ·) := lexemes?_between (show ":" ∈ _ by decide)
  refine ⟨_, fun rest ends => ?_, Term.reads_conditional readsC readsYes readsNo⟩
  have text : ("(" ++ c ++ " ? " ++ yes ++ " : " ++ no ++ ")").toList ++ rest =
      '(' :: (c.toList ++ ' ' :: '?' :: ' ' ::
        (yes.toList ++ ' ' :: ':' :: ' ' :: (no.toList ++ ')' :: rest))) := by simp
  rw [text, lexemes?_opened, cutC _ (Alphabet.ends_cons (by decide) (by decide) _),
    Alphabet.lexemes?_space, question, cutYes _ (Alphabet.ends_cons (by decide) (by decide) _),
    Alphabet.lexemes?_space, colon, cutNo _ (Alphabet.ends_cons (by decide) (by decide) _),
    lexemes?_closed]
  simp [Function.comp_def]

/-- A text is read as the tree of an expression. -/
def Denotes (a : Alphabet) (text : String) (e : Expr) : Prop :=
  ∃ t, Spells a text t ∧ t.expr? = some e

theorem denotes_operation {op : Operator} (mem : op ∈ operators) {left right : String} {e f : Expr} :
    Denotes a left e → Denotes a right f → Denotes a (operation left op.symbol right) (op.make e f)
  | ⟨t, spellsLeft, treeLeft⟩, ⟨u, spellsRight, treeRight⟩ =>
    ⟨.binary op.symbol t u, spells_operation mem spellsLeft spellsRight,
      expr?_binary mem treeLeft treeRight⟩

end Script

namespace Expr

variable {a : Alphabet}

/-- Without templates, with whole numbers within a signed 64-bit word and with fields whose names
are names of variables and members. -/
def isPlain (a : Alphabet) : Expr → Bool
  | .literal _ => true
  | .number x =>
    x.isWhole && -9223372036854775808 ≤ x.truncate && x.truncate ≤ 9223372036854775807
  | .field binding path =>
    a.isName binding && !reservedWords.contains binding && path.all a.isName
  | .template _ => false
  | .or e f | .equals e f | .lessThan e f => e.isPlain a && f.isPlain a
  | .ternary c e f => c.isPlain a && e.isPlain a && f.isPlain a

/-- The two zeros are equal numbers; here they are one. -/
def dropZeroSigns : Expr → Expr
  | .number x => .number x.dropZeroSign
  | .or e f => .or e.dropZeroSigns f.dropZeroSigns
  | .equals e f => .equals e.dropZeroSigns f.dropZeroSigns
  | .lessThan e f => .lessThan e.dropZeroSigns f.dropZeroSigns
  | .ternary c e f => .ternary c.dropZeroSigns e.dropZeroSigns f.dropZeroSigns
  | e => e

open Script (Denotes denotes_operation)

theorem denotes_number {x : Binary64} (plain : (number x).isPlain a) :
    Denotes a (number x).script (number x.dropZeroSign) := by
  simp only [isPlain, Bool.and_eq_true, decide_eq_true_eq] at plain
  obtain ⟨⟨whole, low⟩, high⟩ := plain
  have within : clampToWord x.truncate = x.truncate := by
    unfold clampToWord
    omega
  have spells : Script.Spells a (intText x.truncate) _ := Script.spells_whole x.truncate
  rw [script, numberLiteral, if_pos whole, within]
  refine ⟨_, spells, ?_⟩
  rw [← Binary64.signed_ofNat_whole whole]
  split <;> rfl

theorem denotes_field {binding : String} {path : List String}
    (plain : (field binding path).isPlain a) :
    Denotes a (field binding path).script (field binding path) := by
  simp only [isPlain, Bool.and_eq_true, Bool.not_eq_true', List.all_eq_true] at plain
  obtain ⟨⟨valid, free⟩, names⟩ := plain
  have tree := Script.expr?_path path (show (Term.variable binding).expr? = some _ from rfl)
  rw [List.nil_append] at tree
  rw [script]
  exact ⟨_, Script.spells_field valid free names, tree⟩

theorem denotes_script : ∀ e : Expr, e.isPlain a → Denotes a e.script e.dropZeroSigns
  | .literal s, _ => ⟨.string s, Script.spells_quote s, rfl⟩
  | .number _, plain => denotes_number plain
  | .field _ _, plain => denotes_field plain
  | .or e f, plain => by
    rw [isPlain, Bool.and_eq_true] at plain
    have mem : ⟨"||", .or⟩ ∈ Script.operators := .head _
    exact denotes_operation mem (denotes_script e plain.1) (denotes_script f plain.2)
  | .equals e f, plain => by
    rw [isPlain, Bool.and_eq_true] at plain
    have mem : ⟨"===", .equals⟩ ∈ Script.operators := .tail _ (.head _)
    exact denotes_operation mem (denotes_script e plain.1) (denotes_script f plain.2)
  | .lessThan e f, plain => by
    rw [isPlain, Bool.and_eq_true] at plain
    have mem : ⟨"<", .lessThan⟩ ∈ Script.operators := .tail _ (.tail _ (.head _))
    exact denotes_operation mem (denotes_script e plain.1) (denotes_script f plain.2)
  | .ternary c e f, plain => by
    rw [isPlain, Bool.and_eq_true, Bool.and_eq_true] at plain
    obtain ⟨⟨plainC, plainE⟩, plainF⟩ := plain
    obtain ⟨s, spellsC, treeC⟩ := denotes_script c plainC
    obtain ⟨t, spellsE, treeE⟩ := denotes_script e plainE
    obtain ⟨u, spellsF, treeF⟩ := denotes_script f plainF
    have tree : (Term.conditional s t u).expr? = some (ternary c e f).dropZeroSigns := by
      simp [Term.expr?, treeC, treeE, treeF, dropZeroSigns]
    rw [script]
    exact ⟨_, Script.spells_conditional spellsC spellsE spellsF, tree⟩

theorem numberLiteral_of_isZero {x : Binary64} (zero : x.isZero) : numberLiteral x = "0" := by
  rw [Binary64.isZero, Bool.and_eq_true, beq_iff_eq] at zero
  obtain ⟨none, finite⟩ := zero
  have whole : x.isWhole := by
    rw [Binary64.isWhole, finite, none, Nat.zero_mod, beq_self_eq_true, Bool.and_true]
  have truncate : x.truncate = 0 := by simp [Binary64.truncate, none]
  rw [numberLiteral, if_pos whole, truncate]
  rfl

theorem numberLiteral_dropZeroSign (x : Binary64) :
    numberLiteral x.dropZeroSign = numberLiteral x := by
  unfold Binary64.dropZeroSign
  split
  · rename_i zero
    have unsigned : Binary64.isZero { x with negative := false } := zero
    rw [numberLiteral_of_isZero zero, numberLiteral_of_isZero unsigned]
  · rfl

theorem script_dropZeroSigns (e : Expr) : e.dropZeroSigns.script = e.script := by
  cases e with
  | number x => exact numberLiteral_dropZeroSign x
  | or e f => rw [dropZeroSigns, script, script, script_dropZeroSigns e, script_dropZeroSigns f]
  | equals e f => rw [dropZeroSigns, script, script, script_dropZeroSigns e, script_dropZeroSigns f]
  | lessThan e f =>
    rw [dropZeroSigns, script, script, script_dropZeroSigns e, script_dropZeroSigns f]
  | ternary c e f =>
    rw [dropZeroSigns, script, script, script_dropZeroSigns c, script_dropZeroSigns e,
      script_dropZeroSigns f]
  | _ => rfl

/-- The text of an expression is read as its tree, so two different expressions have two texts. -/
theorem scripts_are_unambiguous {a : Alphabet} {e : Expr} (plain : e.isPlain a) :
    (∃ t, a.term? e.script = some t ∧ t.expr? = some e.dropZeroSigns) ∧
      ∀ f : Expr, f.isPlain a → (f.script = e.script ↔ f.dropZeroSigns = e.dropZeroSigns) := by
  obtain ⟨t, spells, tree⟩ := denotes_script e plain
  have read := spells.term?
  refine ⟨⟨t, read, tree⟩, fun f plainF => ⟨fun same => ?_, fun same => ?_⟩⟩
  · obtain ⟨u, spellsF, treeF⟩ := denotes_script f plainF
    have readF := spellsF.term?
    rw [same, read] at readF
    cases readF
    exact Option.some.inj (treeF.symm.trans tree)
  · rw [← script_dropZeroSigns f, same, script_dropZeroSigns]

def nested : Expr :=
  .or (.ternary (.lessThan (.number (.ofInt (-9223372036854775808))) (.field "né" ["if", "à_2"]))
      (.literal "\") || (\"<\\ ? né : -0")
      (.equals (.number (Binary64.ofInt 0).neg) (.number (.ofInt 9223372036854774784))))
    (.or (.field "$" []) (.field "$" ["$"]))

theorem nested_is_unambiguous : nested.isPlain .western ∧
    (∃ t, Alphabet.western.term? nested.script = some t ∧ t.expr? = some nested.dropZeroSigns) ∧
      ∀ f : Expr, f.isPlain .western →
        (f.script = nested.script ↔ f.dropZeroSigns = nested.dropZeroSigns) := by
  have plain : nested.isPlain .western := by decide +kernel
  exact ⟨plain, scripts_are_unambiguous plain⟩

end Expr
end PageBuilder
