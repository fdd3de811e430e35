import Mathlib
import PageBuilder.Proofs.Script.Literals
import PageBuilder.Proofs.Script.TemplateText

set_option autoImplicit false

namespace PageBuilder.Script

open Json (quote quoteChars)

def reservedWords : List String :=
  ["await", "break", "case", "catch", "class", "const", "continue", "debugger", "default",
    "delete", "do", "else", "enum", "export", "extends", "false", "finally", "for", "function",
    "if", "import", "in", "instanceof", "let", "new", "null", "return", "static", "super",
    "switch", "this", "throw", "true", "try", "typeof", "var", "void", "while", "with", "yield"]

variable (abc : Alphabet)

def Alphabet.isVariable (name : String) : Bool := abc.isName name && !reservedWords.contains name

variable {abc} in
theorem isVariable_of_latin {name : String} (free : Alphabet.latin.isVariable name) :
    abc.isVariable name := by
  rw [Alphabet.isVariable, Bool.and_eq_true] at free ⊢
  exact ⟨Alphabet.isName_of_latin free.1, free.2⟩

def path? (text : List Char) : Option (List String × List Char) :=
  letI path? : Reader (List String) := by apply path?
  match text with
  | '.' :: rest => do
    let (name, rest) ← name? abc rest
    let (names, rest) ← path? rest
    return (name :: names, rest)
  | _ => some ([], text)
partial_fixpoint

structure Operator where
  symbol : String
  make : Expr → Expr → Expr

/-- The operators, the loosest first. -/
def operators : List Operator := [⟨"||", .or⟩, ⟨"===", .equals⟩, ⟨"<", .lessThan⟩]

/-- What follows the mark of a condition; a mark with a dot is another word. -/
def question? (text : List Char) : Option (List Char) :=
  match skipGap text with
  | '?' :: rest => if rest.head? = some '.' then none else some rest
  | _ => none

mutual

def primary? (text : List Char) : Option (Expr × List Char) :=
  letI parts? : Reader (List Expr) := by apply parts?
  letI conditional? : Reader Expr := by apply conditional?
  match text with
  | [] => none
  | c :: rest =>
    if c = '"' then (stringBody? rest).map fun read => (.literal (.ofList read.1), read.2)
    else if c = '\x60' then do
      let (parts, rest) ← parts? rest
      return (.template parts, rest)
    else if c = '(' then do
      let (e, rest) ← conditional? (skipGap rest)
      return (e, ← token? ")" rest)
    else if c = '-' || c.isDigit then
      (whole? abc (c :: rest)).map fun read => (.number (.ofInt read.1), read.2)
    else do
      let (binding, rest) ← name? abc (c :: rest)
      guard (abc.isVariable binding)
      let (path, rest) ← path? abc rest
      return (.field binding path, rest)
partial_fixpoint

def parts? (text : List Char) : Option (List Expr × List Char) :=
  letI substitutions? : Reader (List Expr) := by apply substitutions?
  do
  let (letters, rest) ← templateText? text
  let (parts, rest) ← substitutions? rest
  return (textParts letters ++ parts, rest)
partial_fixpoint

def substitutions? (text : List Char) : Option (List Expr × List Char) :=
  letI conditional? : Reader Expr := by apply conditional?
  letI parts? : Reader (List Expr) := by apply parts?
  match text with
  | '\x60' :: rest => some ([], rest)
  | '$' :: '\x7b' :: rest => do
    let (e, rest) ← conditional? (skipGap rest)
    let (parts, rest) ← parts? (← token? "\x7d" rest)
    return (e :: parts, rest)
  | _ => none
partial_fixpoint

def level? (among : List Operator) (text : List Char) : Option (Expr × List Char) :=
  letI primary? : Reader Expr := by apply primary?
  letI level? : List Operator → Reader Expr := by apply level?
  letI operands? : Operator → List Operator → Expr → Reader Expr := by apply operands?
  match among with
  | [] => primary? text
  | op :: tighter => do
    let (a, rest) ← level? tighter text
    operands? op tighter a rest
partial_fixpoint

/-- The operands that go on after a first one, from left to right. -/
def operands? (op : Operator) (tighter : List Operator) (a : Expr) (text : List Char) :
    Option (Expr × List Char) :=
  letI level? : List Operator → Reader Expr := by apply level?
  letI operands? : Operator → List Operator → Expr → Reader Expr := by apply operands?
  match token? op.symbol text with
  | none => some (a, text)
  | some rest => do
    let (b, rest) ← level? tighter (skipGap rest)
    operands? op tighter (op.make a b) rest
partial_fixpoint

def conditional? (text : List Char) : Option (Expr × List Char) :=
  letI level? : List Operator → Reader Expr := by apply level?
  letI conditional? : Reader Expr := by apply conditional?
  do
  let (c, rest) ← level? operators text
  match question? rest with
  | none => return (c, rest)
  | some rest => do
    let (a, rest) ← conditional? (skipGap rest)
    let (b, rest) ← conditional? (skipGap (← token? ":" rest))
    return (.ternary c a b, rest)
partial_fixpoint

end

end PageBuilder.Script

namespace PageBuilder.Expr

open Script (Alphabet)

def isLiteral : Expr → Bool
  | .literal _ => true
  | _ => false

variable (abc : Alphabet)

mutual

/-- The names of an expression are names, its numbers are whole and within a word, and the texts of
its templates stand apart and are on one line. -/
def isReadable : Expr → Bool
  | .literal _ => true
  | .number x => x.isWhole && x == .ofInt (clampToWord x.truncate)
  | .field binding path => abc.isVariable binding && path.all abc.isName
  | .template parts => areReadable parts
  | .or a b | .equals a b | .lessThan a b => a.isReadable && b.isReadable
  | .ternary c a b => c.isReadable && a.isReadable && b.isReadable

def areReadable : List Expr → Bool
  | [] => true
  | .literal s :: rest =>
    !s.isEmpty && !s.toList.contains '\r' && !rest.head?.any isLiteral && areReadable rest
  | e :: rest => e.isReadable && areReadable rest

end

variable {abc}

theorem areReadable_cons {e : Expr} (notText : e.isLiteral = false) (parts : List Expr) :
    areReadable abc (e :: parts) = (e.isReadable abc && areReadable abc parts) := by
  cases e with
  | literal s => cases notText
  | _ => rfl

mutual

/-- What is readable with the letters that all alphabets have is readable in each of them. -/
theorem isReadable_of_latin : ∀ e : Expr, e.isReadable .latin → e.isReadable abc
  | .literal _, _ => rfl
  | .number _, readable => readable
  | .field binding path, readable => by
    rw [isReadable, Bool.and_eq_true, List.all_eq_true] at readable ⊢
    exact ⟨Script.isVariable_of_latin readable.1,
      fun name mem => Alphabet.isName_of_latin (readable.2 name mem)⟩
  | .template parts, readable => areReadable_of_latin parts readable
  | .or a b, readable | .equals a b, readable | .lessThan a b, readable => by
    simp only [isReadable, Bool.and_eq_true] at readable ⊢
    exact ⟨isReadable_of_latin a readable.1, isReadable_of_latin b readable.2⟩
  | .ternary c a b, readable => by
    simp only [isReadable, Bool.and_eq_true] at readable ⊢
    exact ⟨⟨isReadable_of_latin c readable.1.1, isReadable_of_latin a readable.1.2⟩,
      isReadable_of_latin b readable.2⟩

theorem areReadable_of_latin : ∀ parts : List Expr, areReadable .latin parts → areReadable abc parts
  | [], _ => rfl
  | e :: rest, readable => by
    cases text : e.isLiteral with
    | true =>
      obtain ⟨s, rfl⟩ : ∃ s, e = .literal s := by
        cases e with
        | literal s => exact ⟨s, rfl⟩
        | _ => cases text
      simp only [areReadable, Bool.and_eq_true] at readable ⊢
      exact ⟨readable.1, areReadable_of_latin rest readable.2⟩
    | false =>
      rw [areReadable_cons text, Bool.and_eq_true] at readable ⊢
      exact ⟨isReadable_of_latin e readable.1, areReadable_of_latin rest readable.2⟩

end

end PageBuilder.Expr

namespace PageBuilder.Script

open Json (quote quoteChars)

variable {abc : Alphabet}

theorem question?_eq_none {text : List Char} (other : (skipGap text).head? ≠ some '?') :
    question? text = none := by
  unfold question?
  split
  · rename_i rest spelled
    rw [spelled] at other
    exact absurd rfl other
  · rfl

/-- None of the operators goes on. -/
def Quiet (rest : List Char) : Prop := ∀ c ∈ ['|', '=', '<'], (skipGap rest).head? ≠ some c

theorem Quiet.token?_eq_none {rest : List Char} (quiet : Quiet rest) {op : Operator}
    (mem : op ∈ operators) : token? op.symbol rest = none := by
  simp only [operators, List.mem_cons, List.not_mem_nil, or_false] at mem
  rcases mem with rfl | rfl | rfl
  · exact after?_eq_none (show "||".toList = ['|', '|'] from rfl) (quiet '|' (by decide))
  · exact after?_eq_none (show "===".toList = ['=', '=', '='] from rfl) (quiet '=' (by decide))
  · exact after?_eq_none (show "<".toList = ['<'] from rfl) (quiet '<' (by decide))

/-- What is read with tight operators is read with looser ones too, if none of these goes on. -/
theorem level?_append {looser tighter : List Operator} {text rest : List Char} {e : Expr}
    (read : level? abc tighter text = some (e, rest))
    (none : ∀ op ∈ looser, token? op.symbol rest = none) :
    level? abc (looser ++ tighter) text = some (e, rest) := by
  induction looser with
  | nil => exact read
  | cons op looser ih =>
    rw [List.cons_append, level?, ih fun o h => none o (List.mem_cons_of_mem _ h)]
    simp only [Option.bind_eq_bind, Option.bind_some]
    rw [operands?, none op List.mem_cons_self]

theorem level?_of_primary? {text rest : List Char} {e : Expr}
    (read : primary? abc text = some (e, rest)) {among : List Operator}
    (none : ∀ op ∈ among, token? op.symbol rest = none) : level? abc among text = some (e, rest) := by
  have tightest : level? abc [] text = some (e, rest) := by rw [level?, read]
  rw [← List.append_nil among]
  exact level?_append tightest none

variable (abc) in
/-- An expression ends here. -/
structure Closes (rest : List Char) : Prop where
  word : abc.Ends rest
  quiet : Quiet rest
  unmarked : (skipGap rest).head? ≠ some '?'

theorem closes_cons {c : Char} (closing : c ∈ [')', '\x7d', ',', ':']) (rest : List Char) :
    Closes abc (c :: rest) := by
  simp only [List.mem_cons, List.not_mem_nil, or_false] at closing
  rcases closing with rfl | rfl | rfl | rfl <;>
    exact ⟨Alphabet.ends_cons (by decide) (by decide) rest, fun d mem first => by
      cases Option.some.inj first
      revert mem
      decide, fun first => absurd (Option.some.inj first) (by decide)⟩

theorem closes_space {c : Char} (closing : c ∈ [')', '\x7d', ',', ':']) (rest : List Char) :
    Closes abc (' ' :: c :: rest) :=
  have here : Closes abc (c :: rest) := closes_cons closing rest
  ⟨Alphabet.ends_space _, here.quiet, here.unmarked⟩

theorem quiet_mark (rest : List Char) : Quiet (' ' :: '?' :: rest) := by
  intro c mem first
  cases Option.some.inj first
  revert mem
  decide

theorem conditional?_of_primary? {text rest : List Char} {e : Expr}
    (read : primary? abc text = some (e, rest)) (closes : Closes abc rest) :
    conditional? abc text = some (e, rest) := by
  rw [conditional?, level?_of_primary? read fun op mem => closes.quiet.token?_eq_none mem]
  simp only [Option.bind_eq_bind, Option.bind_some]
  rw [question?_eq_none closes.unmarked]
  rfl

theorem token?_own {op : Operator} (mem : op ∈ operators) (rest : List Char) :
    token? op.symbol (' ' :: (op.symbol.toList ++ rest)) = some rest := by
  have gap : skipGap (' ' :: (op.symbol.toList ++ rest)) = op.symbol.toList ++ rest := by
    simp only [operators, List.mem_cons, List.not_mem_nil, or_false] at mem
    rcases mem with rfl | rfl | rfl <;> rfl
  rw [token?, gap, after?_append]

theorem token?_other {op other : Operator} (mem : op ∈ operators) (memOther : other ∈ operators)
    (apart : other.symbol ≠ op.symbol) (rest : List Char) :
    token? other.symbol (' ' :: (op.symbol.toList ++ rest)) = none := by
  simp only [operators, List.mem_cons, List.not_mem_nil, or_false] at mem memOther
  rcases memOther with rfl | rfl | rfl
  · refine after?_eq_none (show "||".toList = ['|', '|'] from rfl) fun first => ?_
    rcases mem with rfl | rfl | rfl
    · exact apart rfl
    · exact absurd (Option.some.inj first) (by decide)
    · exact absurd (Option.some.inj first) (by decide)
  · refine after?_eq_none (show "===".toList = ['=', '=', '='] from rfl) fun first => ?_
    rcases mem with rfl | rfl | rfl
    · exact absurd (Option.some.inj first) (by decide)
    · exact apart rfl
    · exact absurd (Option.some.inj first) (by decide)
  · refine after?_eq_none (show "<".toList = ['<'] from rfl) fun first => ?_
    rcases mem with rfl | rfl | rfl
    · exact absurd (Option.some.inj first) (by decide)
    · exact absurd (Option.some.inj first) (by decide)
    · exact apart rfl

/-- The operands of an operator are read with it, and its operation is read as a whole. -/
theorem level?_operation {op : Operator} {looser tighter : List Operator}
    (split : operators = looser ++ op :: tighter) (apart : ∀ o ∈ tighter, o.symbol ≠ op.symbol)
    {left right rest : List Char} {a b : Expr}
    (readA : ∀ rest, abc.Ends rest → primary? abc (left ++ rest) = some (a, rest))
    (readB : ∀ rest, abc.Ends rest → primary? abc (right ++ rest) = some (b, rest))
    (solid : skipGap (right ++ ')' :: rest) = right ++ ')' :: rest) :
    level? abc operators (left ++ ' ' :: (op.symbol.toList ++ ' ' :: (right ++ ')' :: rest))) =
      some (op.make a b, ')' :: rest) := by
  have mem : ∀ o ∈ looser ++ op :: tighter, o ∈ operators := fun o h => split ▸ h
  have memOp : op ∈ operators := mem op (List.mem_append_right _ List.mem_cons_self)
  have memTighter : ∀ o ∈ tighter, o ∈ operators := fun o h =>
    mem o (List.mem_append_right _ (List.mem_cons_of_mem _ h))
  have closes : Closes abc (')' :: rest) := closes_cons (by decide) rest
  have first := level?_of_primary?
    (readA (' ' :: (op.symbol.toList ++ ' ' :: (right ++ ')' :: rest)))
      (Alphabet.ends_space _)) fun o h => token?_other memOp (memTighter o h) (apart o h) _
  have second := level?_of_primary? (readB (')' :: rest) closes.word)
    fun o h => closes.quiet.token?_eq_none (memTighter o h)
  rw [split]
  refine level?_append ?_ fun o h => closes.quiet.token?_eq_none (mem o (List.mem_append_left _ h))
  rw [level?, first]
  simp only [Option.bind_eq_bind, Option.bind_some]
  rw [operands?, token?_own memOp]
  simp only [skipGap_space, solid, second, Option.bind_eq_bind, Option.bind_some]
  rw [operands?, closes.quiet.token?_eq_none memOp]

theorem isName_of_isVariable {name : String} (free : abc.isVariable name) : abc.isName name :=
  (Bool.and_eq_true _ _ ▸ free).1

theorem toList_intercalate_cons (separator first : String) (others : List String) :
    (separator.intercalate (first :: others)).toList =
      first.toList ++ others.flatMap fun text => separator.toList ++ text.toList := by
  induction others generalizing first with
  | nil => simp
  | cons text others ih =>
    rw [String.intercalate_cons_cons, String.toList_append, String.toList_append, ih]
    simp

theorem fieldText (binding : String) (path : List String) :
    (".".intercalate (binding :: path)).toList =
      binding.toList ++ path.flatMap fun name => '.' :: name.toList :=
  toList_intercalate_cons "." binding path

theorem stops_flatMap (path : List String) {rest : List Char} (ends : abc.Ends rest) :
    Stops abc.isPart ((path.flatMap fun name => '.' :: name.toList) ++ rest) := by
  cases path with
  | nil => exact ends.stops_part
  | cons name path => exact Alphabet.stops_part (by decide) (by decide) _

theorem path?_append {path : List String} (names : ∀ name ∈ path, abc.isName name) {rest : List Char}
    (ends : abc.Ends rest) :
    path? abc ((path.flatMap fun name => '.' :: name.toList) ++ rest) = some (path, rest) := by
  induction path with
  | nil =>
    rw [List.flatMap_nil, List.nil_append, path?]
    rintro letters rfl
    have dot := (stops_cons _ _ _).1 ends
    simp at dot
  | cons name path ih =>
    have read := name?_append (names name List.mem_cons_self) (stops_flatMap path ends)
    rw [List.flatMap_cons, List.cons_append, List.cons_append, List.append_assoc, path?, read]
    simp [ih fun other h => names other (List.mem_cons_of_mem _ h)]

theorem operation_text (left operator right : String) (rest : List Char) :
    (operation left operator right).toList ++ rest =
      '(' :: (left.toList ++ ' ' :: (operator.toList ++ ' ' :: (right.toList ++ ')' :: rest))) := by
  simp [operation]

theorem ternary_text (c a b : Expr) (rest : List Char) :
    (Expr.ternary c a b).script.toList ++ rest = '(' :: (c.script.toList ++ ' ' :: '?' :: ' ' ::
      (a.script.toList ++ ' ' :: ':' :: ' ' :: (b.script.toList ++ ')' :: rest))) := by
  simp [Expr.script]

theorem quote_text (s : String) (rest : List Char) :
    (quote s).toList ++ rest = '"' :: (s.toList.flatMap Json.escapeChar ++ '"' :: rest) := by
  simp [quote, quoteChars]

theorem skipGap_script {e : Expr} (readable : e.isReadable abc) (rest : List Char) :
    skipGap (e.script.toList ++ rest) = e.script.toList ++ rest := by
  refine skipGap_of_stops ?_
  cases e with
  | literal s =>
    rw [Expr.script, quote_text]
    exact (stops_cons _ _ _).2 rfl
  | number x =>
    rw [Expr.isReadable, Bool.and_eq_true] at readable
    obtain ⟨c, letters, spelled, number⟩ := intText_first (clampToWord x.truncate)
    rw [Expr.script, numberLiteral, if_pos readable.1, spelled]
    have first := isGap_eq_false (p := fun c => c = '-' || c.isDigit) number (by decide) (by decide)
    exact (stops_cons _ _ _).2 first
  | field binding path =>
    rw [Expr.isReadable, Bool.and_eq_true] at readable
    rw [Expr.script, fieldText, List.append_assoc]
    exact stops_name (isName_of_isVariable readable.1) _
  | template parts =>
    rw [Expr.script]
    simp [isGap]
  | or a b | equals a b | lessThan a b =>
    rw [Expr.script, operation_text]
    exact (stops_cons _ _ _).2 rfl
  | ternary c a b =>
    rw [ternary_text]
    exact (stops_cons _ _ _).2 rfl

theorem primary?_parenthesis {text rest : List Char} {e : Expr}
    (read : conditional? abc (skipGap text) = some (e, ')' :: rest)) :
    primary? abc ('(' :: text) = some (e, rest) := by
  have close : token? ")" (')' :: rest) = some rest := after?_append ")" rest
  rw [primary?, if_neg (by decide), if_neg (by decide), if_pos rfl, read]
  simp [close]

theorem primary?_operation {op : Operator} {looser tighter : List Operator}
    (split : operators = looser ++ op :: tighter) (apart : ∀ o ∈ tighter, o.symbol ≠ op.symbol)
    {a b : Expr} (readableA : a.isReadable abc) (readableB : b.isReadable abc)
    (readA : ∀ rest, abc.Ends rest → primary? abc (a.script.toList ++ rest) = some (a, rest))
    (readB : ∀ rest, abc.Ends rest → primary? abc (b.script.toList ++ rest) = some (b, rest))
    (rest : List Char) :
    primary? abc ((operation a.script op.symbol b.script).toList ++ rest) =
      some (op.make a b, rest) := by
  rw [operation_text]
  refine primary?_parenthesis ?_
  rw [skipGap_script readableA, conditional?,
    level?_operation split apart readA readB (skipGap_script readableB _)]
  have closes : Closes abc (')' :: rest) := closes_cons (by decide) rest
  simp only [Option.bind_eq_bind, Option.bind_some, question?_eq_none closes.unmarked]
  rfl

theorem templateScript_cons {e : Expr} (notText : e.isLiteral = false) (parts : List Expr)
    (rest : List Char) : (Expr.templateScript (e :: parts)).toList ++ rest =
      '$' :: '\x7b' ::
        (e.script.toList ++ '\x7d' :: ((Expr.templateScript parts).toList ++ rest)) := by
  cases e with
  | literal s => cases notText
  | _ => simp [Expr.templateScript]

theorem interrupts_templateScript {parts : List Expr}
    (apart : parts.head?.any Expr.isLiteral = false) (rest : List Char) :
    Interrupts ((Expr.templateScript parts).toList ++ '\x60' :: rest) := by
  cases parts with
  | nil => exact ⟨rest, .inl (by simp [Expr.templateScript])⟩
  | cons e parts => exact ⟨_, .inr (templateScript_cons apart parts _)⟩

theorem primary?_whole {x : Binary64} (whole : x.isWhole)
    (within : x = .ofInt (clampToWord x.truncate)) {rest : List Char} (ends : abc.Ends rest) :
    primary? abc ((numberLiteral x).toList ++ rest) = some (.number x, rest) := by
  have read := whole?_append (clampToWord x.truncate) ends
  obtain ⟨c, letters, spelled, number⟩ := intText_first (clampToWord x.truncate)
  have other : ∀ d : Char, d ≠ '-' → d.isDigit = false → c ≠ d := by
    rintro d minus digit rfl
    simp [minus, digit] at number
  rw [numberLiteral, if_pos whole]
  rw [spelled, List.cons_append] at read ⊢
  rw [primary?, if_neg (other '"' (by decide) (by decide)),
    if_neg (other '\x60' (by decide) (by decide)), if_neg (other '(' (by decide) (by decide)),
    if_pos number, read, Option.map_some, ← within]

theorem primary?_field {binding : String} (free : abc.isVariable binding) {path : List String}
    (names : ∀ name ∈ path, abc.isName name) {rest : List Char} (ends : abc.Ends rest) :
    primary? abc ((".".intercalate (binding :: path)).toList ++ rest) =
      some (.field binding path, rest) := by
  have valid := isName_of_isVariable free
  have read := name?_append valid (stops_flatMap path ends)
  obtain ⟨c, letters, spelled, start, _⟩ := Alphabet.isName_letters valid
  have other : ∀ d : Char, d.toNat < 128 → isNameChar d = false → c ≠ d := fun _ =>
    Alphabet.ne_of_part (abc.part_of_start c start)
  have digit : ¬(c = '-' || c.isDigit) := by
    rw [Alphabet.isDigit_of_start start, Bool.or_false, decide_eq_true_eq]
    exact other '-' (by decide) (by decide)
  rw [fieldText, List.append_assoc]
  rw [spelled, List.cons_append] at read ⊢
  rw [primary?, if_neg (other '"' (by decide) (by decide)),
    if_neg (other '\x60' (by decide) (by decide)), if_neg (other '(' (by decide) (by decide)),
    if_neg digit, read]
  simp [free, path?_append names ends]

theorem textParts_toList {s : String} (filled : s.isEmpty = false) :
    textParts s.toList = [.literal s] := by
  have letters : s.toList ≠ [] := by
    rwa [Ne, String.toList_eq_nil_iff, ← String.isEmpty_iff, Bool.not_eq_true]
  rw [textParts, if_neg letters, String.ofList_toList]

theorem parts?_cooked (text : List Char) {rest after : List Char} (interrupts : Interrupts rest)
    {parts : List Expr} (read : substitutions? abc rest = some (parts, after)) :
    parts? abc (escapeTemplate text ++ rest) = some (textParts (cooked text) ++ parts, after) := by
  rw [parts?, templateText?_cooked text interrupts]
  simp [read]

theorem parts?_of_substitutions? {text : List Char} (oneLine : '\r' ∉ text) {rest after : List Char}
    (interrupts : Interrupts rest) {parts : List Expr}
    (read : substitutions? abc rest = some (parts, after)) :
    parts? abc (escapeTemplate text ++ rest) = some (textParts text ++ parts, after) := by
  rw [parts?_cooked text interrupts read, cooked_eq_self oneLine]

theorem substitutions?_substitution {e : Expr} (readable : e.isReadable abc)
    (read : ∀ rest, abc.Ends rest → primary? abc (e.script.toList ++ rest) = some (e, rest))
    {rest after : List Char} {parts : List Expr} (others : parts? abc rest = some (parts, after)) :
    substitutions? abc ('$' :: '\x7b' :: (e.script.toList ++ '\x7d' :: rest)) =
      some (e :: parts, after) := by
  have closes : Closes abc ('\x7d' :: rest) := closes_cons (by decide) rest
  have inner := conditional?_of_primary? (read ('\x7d' :: rest) closes.word) closes
  have close : token? "\x7d" ('\x7d' :: rest) = some rest := after?_append "\x7d" rest
  rw [substitutions?, skipGap_script readable, inner]
  simp [close, others]

theorem primary?_ternary {c a b : Expr} (readableC : c.isReadable abc) (readableA : a.isReadable abc)
    (readableB : b.isReadable abc)
    (readC : ∀ rest, abc.Ends rest → primary? abc (c.script.toList ++ rest) = some (c, rest))
    (readA : ∀ rest, abc.Ends rest → primary? abc (a.script.toList ++ rest) = some (a, rest))
    (readB : ∀ rest, abc.Ends rest → primary? abc (b.script.toList ++ rest) = some (b, rest))
    (rest : List Char) :
    primary? abc ((Expr.ternary c a b).script.toList ++ rest) = some (.ternary c a b, rest) := by
  rw [ternary_text]
  refine primary?_parenthesis ?_
  have colon : ∀ text, token? ":" (' ' :: ':' :: text) = some text := fun text =>
    after?_append ":" text
  have mark : ∀ text, question? (' ' :: '?' :: ' ' :: text) = some (' ' :: text) := fun _ => rfl
  have second : conditional? abc (b.script.toList ++ ')' :: rest) = some (b, ')' :: rest) := by
    have closes : Closes abc (')' :: rest) := closes_cons (by decide) rest
    exact conditional?_of_primary? (readB _ closes.word) closes
  have first : conditional? abc (a.script.toList ++ ' ' :: ':' :: ' ' ::
      (b.script.toList ++ ')' :: rest)) =
        some (a, ' ' :: ':' :: ' ' :: (b.script.toList ++ ')' :: rest)) := by
    have closes : ∀ text, Closes abc (' ' :: ':' :: text) := closes_space (by decide)
    exact conditional?_of_primary? (readA _ (closes _).word) (closes _)
  have condition : level? abc operators (c.script.toList ++ ' ' :: '?' :: ' ' ::
      (a.script.toList ++ ' ' :: ':' :: ' ' :: (b.script.toList ++ ')' :: rest))) =
        some (c, ' ' :: '?' :: ' ' ::
          (a.script.toList ++ ' ' :: ':' :: ' ' :: (b.script.toList ++ ')' :: rest))) :=
    level?_of_primary? (readC _ (Alphabet.ends_space _))
      fun op mem => (quiet_mark _).token?_eq_none mem
  rw [skipGap_script readableC, conditional?, condition]
  simp [mark, colon, skipGap_script readableA, skipGap_script readableB, first, second]

mutual

theorem primary?_script : ∀ e : Expr, e.isReadable abc → ∀ rest, abc.Ends rest →
    primary? abc (e.script.toList ++ rest) = some (e, rest)
  | .literal s, _, rest, _ => by
    rw [Expr.script, quote_text, primary?, if_pos rfl, stringBody?_escaped]
    simp
  | .number x, readable, rest, ends => by
    rw [Expr.isReadable, Bool.and_eq_true, beq_iff_eq] at readable
    rw [Expr.script]
    exact primary?_whole readable.1 readable.2 ends
  | .field binding path, readable, rest, ends => by
    rw [Expr.isReadable, Bool.and_eq_true, List.all_eq_true] at readable
    rw [Expr.script]
    exact primary?_field readable.1 readable.2 ends
  | .template parts, readable, rest, _ => by
    have spelled : (Expr.template parts).script.toList ++ rest =
        '\x60' :: ((Expr.templateScript parts).toList ++ '\x60' :: rest) := by
      simp [Expr.script]
    rw [spelled, primary?, if_neg (by decide), if_pos rfl, parts?_templateScript parts readable]
    rfl
  | .or a b, readable, rest, _ => by
    have split : operators = [] ++ ⟨"||", .or⟩ :: [⟨"===", .equals⟩, ⟨"<", .lessThan⟩] := rfl
    rw [Expr.isReadable, Bool.and_eq_true] at readable
    exact primary?_operation split (by decide) readable.1 readable.2
      (primary?_script a readable.1) (primary?_script b readable.2) rest
  | .equals a b, readable, rest, _ => by
    have split : operators = [⟨"||", .or⟩] ++ ⟨"===", .equals⟩ :: [⟨"<", .lessThan⟩] := rfl
    rw [Expr.isReadable, Bool.and_eq_true] at readable
    exact primary?_operation split (by decide) readable.1 readable.2
      (primary?_script a readable.1) (primary?_script b readable.2) rest
  | .lessThan a b, readable, rest, _ => by
    have split : operators = [⟨"||", .or⟩, ⟨"===", .equals⟩] ++ ⟨"<", .lessThan⟩ :: [] := rfl
    rw [Expr.isReadable, Bool.and_eq_true] at readable
    exact primary?_operation split (by decide) readable.1 readable.2
      (primary?_script a readable.1) (primary?_script b readable.2) rest
  | .ternary c a b, readable, rest, _ => by
    rw [Expr.isReadable, Bool.and_eq_true, Bool.and_eq_true] at readable
    obtain ⟨⟨readableC, readableA⟩, readableB⟩ := readable
    exact primary?_ternary readableC readableA readableB (primary?_script c readableC)
      (primary?_script a readableA) (primary?_script b readableB) rest

theorem parts?_templateScript : ∀ parts : List Expr, Expr.areReadable abc parts → ∀ rest,
    parts? abc ((Expr.templateScript parts).toList ++ '\x60' :: rest) = some (parts, rest)
  | [], _, rest => by
    have read := parts?_of_substitutions? (List.not_mem_nil) ⟨rest, .inl rfl⟩
      (substitutions?_templateScript [] rfl rfl rest)
    rw [Expr.templateScript]
    exact read
  | e :: tail, readable, rest => by
    cases text : e.isLiteral with
    | true =>
      obtain ⟨s, rfl⟩ : ∃ s, e = .literal s := by
        cases e with
        | literal s => exact ⟨s, rfl⟩
        | _ => cases text
      simp only [Expr.areReadable, Bool.and_eq_true, Bool.not_eq_true', List.contains_eq_mem,
        decide_eq_false_iff_not] at readable
      obtain ⟨⟨⟨some, oneLine⟩, apart⟩, others⟩ := readable
      have read := parts?_of_substitutions? oneLine (interrupts_templateScript apart rest)
        (substitutions?_templateScript tail others apart rest)
      have spelled : (Expr.templateScript (.literal s :: tail)).toList ++ '\x60' :: rest =
          escapeTemplate s.toList ++ ((Expr.templateScript tail).toList ++ '\x60' :: rest) := by
        simp [Expr.templateScript]
      rw [spelled, read, textParts_toList some]
      rfl
    | false =>
      rw [Expr.areReadable_cons text, Bool.and_eq_true] at readable
      have read := parts?_of_substitutions? (List.not_mem_nil) ⟨_, .inr rfl⟩
        (substitutions?_substitution readable.1 (primary?_script e readable.1)
          (parts?_templateScript tail readable.2 rest))
      rw [templateScript_cons text]
      exact read

theorem substitutions?_templateScript : ∀ parts : List Expr, Expr.areReadable abc parts →
    parts.head?.any Expr.isLiteral = false → ∀ rest,
    substitutions? abc ((Expr.templateScript parts).toList ++ '\x60' :: rest) = some (parts, rest)
  | [], _, _, rest => by
    have spelled : (Expr.templateScript []).toList ++ '\x60' :: rest = '\x60' :: rest := by
      simp [Expr.templateScript]
    rw [spelled, substitutions?]
  | e :: tail, readable, apart, rest => by
    rw [Expr.areReadable_cons apart, Bool.and_eq_true] at readable
    rw [templateScript_cons apart]
    exact substitutions?_substitution readable.1 (primary?_script e readable.1)
      (parts?_templateScript tail readable.2 rest)

end

theorem conditional?_script {e : Expr} (readable : e.isReadable abc) {rest : List Char}
    (closes : Closes abc rest) : conditional? abc (e.script.toList ++ rest) = some (e, rest) :=
  conditional?_of_primary? (primary?_script e readable rest closes.word) closes

end PageBuilder.Script
