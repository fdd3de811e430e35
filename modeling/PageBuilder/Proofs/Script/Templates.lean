import PageBuilder.Proofs.Component.Values
import PageBuilder.Proofs.Script.Expressions

set_option autoImplicit false

namespace PageBuilder.Script

def substitutions (parts : List Expr) : List Expr := parts.filter fun e => !e.isLiteral

def textOf : Expr → List Char
  | .literal s => s.toList
  | _ => []

def texts (parts : List Expr) : List Char := parts.flatMap textOf

/-- Whether a text ends in a dollar sign where the next text begins with a brace. The text is the
one since the last substitution. -/
def splitsOpening (text : List Char) : List Expr → Bool
  | [] => false
  | .literal s :: rest =>
    text.getLast? = some '$' && s.toList.head? = some '\x7b' ||
      splitsOpening (text ++ s.toList) rest
  | _ :: rest => splitsOpening [] rest

/-- The parts as they are read after a text since the last substitution. -/
def readParts (text : List Char) : List Expr → List Expr
  | [] => textParts (cooked text)
  | .literal s :: rest => readParts (text ++ s.toList) rest
  | e :: rest => textParts (cooked text) ++ e :: readParts [] rest

variable {abc : Alphabet} {parts : List Expr}

section

variable {e : Expr} (other : ∀ s, e = .literal s → False)
include other

theorem isLiteral_eq_false : e.isLiteral = false := by
  cases e with
  | literal s => exact (other s rfl).elim
  | _ => rfl

theorem substitutions_cons (parts : List Expr) :
    substitutions (e :: parts) = e :: substitutions parts := by
  rw [substitutions, List.filter_cons, isLiteral_eq_false other]
  rfl

theorem texts_cons (parts : List Expr) : texts (e :: parts) = texts parts := by
  cases e with
  | literal s => exact (other s rfl).elim
  | _ => rfl

theorem splitsOpening_cons (text : List Char) (parts : List Expr) :
    splitsOpening text (e :: parts) = splitsOpening [] parts := by
  cases e with
  | literal s => exact (other s rfl).elim
  | _ => rfl

end

theorem substitutions_append (parts more : List Expr) :
    substitutions (parts ++ more) = substitutions parts ++ substitutions more :=
  List.filter_append _ _

theorem texts_append (parts more : List Expr) : texts (parts ++ more) = texts parts ++ texts more :=
  List.flatMap_append

theorem substitutions_textParts (letters : List Char) : substitutions (textParts letters) = [] := by
  unfold textParts
  split <;> rfl

theorem texts_textParts (letters : List Char) : texts (textParts letters) = letters := by
  unfold textParts
  split
  · rename_i none
    rw [none]
    rfl
  · simp [texts, textOf]

theorem substitutions_readParts (text : List Char) (parts : List Expr) :
    substitutions (readParts text parts) = substitutions parts := by
  fun_induction readParts text parts with
  | case1 => rw [substitutions_textParts]; rfl
  | case2 text s parts ih => exact ih
  | case3 text e parts other ih =>
    rw [substitutions_append, substitutions_textParts, substitutions_cons other,
      substitutions_cons other, ih, List.nil_append]

theorem not_mem_readParts (text : List Char) (parts : List Expr) :
    '\r' ∉ texts (readParts text parts) := by
  fun_induction readParts text parts with
  | case1 text => rw [texts_textParts]; exact not_mem_cooked text
  | case2 text s parts ih => exact ih
  | case3 text e parts other ih =>
    rw [texts_append, texts_textParts, texts_cons other, List.mem_append]
    exact not_or.2 ⟨not_mem_cooked text, ih⟩

theorem parts?_readParts (text : List Char) (readable : ∀ e ∈ parts, e.isReadable abc)
    (whole : splitsOpening text parts = false) (rest : List Char) :
    parts? abc (escapeTemplate text ++ ((Expr.templateScript parts).toList ++ '\x60' :: rest)) =
      some (readParts text parts, rest) := by
  fun_induction readParts text parts with
  | case1 text =>
    have stop : substitutions? abc ('\x60' :: rest) = some ([], rest) := by rw [substitutions?]
    have read := parts?_cooked text ⟨rest, .inl rfl⟩ stop
    rw [List.append_nil] at read
    exact read
  | case2 text s parts ih =>
    rw [splitsOpening, Bool.or_eq_false_iff] at whole
    have apart : ¬(text.getLast? = some '$' ∧ s.toList.head? = some '\x7b') := by
      simpa using whole.1
    have script : (Expr.templateScript (.literal s :: parts)).toList =
        escapeTemplate s.toList ++ (Expr.templateScript parts).toList := by
      simp [Expr.templateScript]
    rw [script, List.append_assoc, ← List.append_assoc, ← escapeTemplate_append apart]
    exact ih (List.forall_mem_cons.1 readable).2 whole.2
  | case3 text e parts other ih =>
    obtain ⟨first, others⟩ := List.forall_mem_cons.1 readable
    rw [splitsOpening_cons other] at whole
    have inner := ih others whole
    rw [escapeTemplate, List.nil_append] at inner
    rw [templateScript_cons (isLiteral_eq_false other)]
    exact parts?_cooked text ⟨_, .inr rfl⟩
      (substitutions?_substitution first (primary?_script e first) inner)

theorem primary?_template (readable : ∀ e ∈ parts, e.isReadable abc)
    (whole : splitsOpening [] parts = false) (rest : List Char) :
    primary? abc ((Expr.template parts).script.toList ++ rest) =
      some (.template (readParts [] parts), rest) := by
  have spelled : (Expr.template parts).script.toList ++ rest =
      '\x60' :: ((Expr.templateScript parts).toList ++ '\x60' :: rest) := by
    simp [Expr.script]
  have read := parts?_readParts [] readable whole rest
  rw [escapeTemplate, List.nil_append] at read
  rw [spelled, primary?, if_neg (by decide), if_pos rfl, read]
  rfl

variable {scope : Scope} {env : Environment}

/-- Has the same text for its value in the markup and in the component. -/
def IsBoundToText (scope : Scope) (env : Environment) (e : Expr) : Prop :=
  ∃ s, e.eval scope = .string s ∧ e.run? env = some (.string s)

theorem runAll?_eq_displayAll (bound : ∀ e ∈ substitutions parts, IsBoundToText scope env e) :
    Expr.runAll? env parts = some (Expr.displayAll scope parts) := by
  induction parts with
  | nil => rfl
  | cons e parts ih =>
    have both : IsBoundToText scope env e ∧
        ∀ e ∈ substitutions parts, IsBoundToText scope env e := by
      cases e with
      | literal s => exact ⟨⟨s, rfl, rfl⟩, bound⟩
      | _ => exact List.forall_mem_cons.1 bound
    obtain ⟨⟨s, eval, run⟩, others⟩ := both
    rw [Expr.runAll?, Expr.displayAll, run, eval, ih others]
    rfl

/-- Every character of the value comes from a substitution or from a text. -/
theorem count_displayAll (c : Char) (parts : List Expr) :
    (Expr.displayAll scope parts).toList.count c =
      (Expr.displayAll scope (substitutions parts)).toList.count c + (texts parts).count c := by
  induction parts with
  | nil => rfl
  | cons e parts ih =>
    rw [Expr.displayAll, String.toList_append, List.count_append, ih]
    by_cases text : ∃ s, e = .literal s
    · obtain ⟨s, rfl⟩ := text
      have here : texts (.literal s :: parts) = s.toList ++ texts parts := rfl
      have passed : substitutions (.literal s :: parts) = substitutions parts := rfl
      have value : ((Expr.literal s).eval scope).display = s := rfl
      rw [here, passed, value, List.count_append]
      omega
    · have other := fun s same => text ⟨s, same⟩
      rw [substitutions_cons other, Expr.displayAll, String.toList_append, List.count_append,
        texts_cons other]
      omega

theorem displayAll_append (parts more : List Expr) : Expr.displayAll scope (parts ++ more) =
    Expr.displayAll scope parts ++ Expr.displayAll scope more := by
  induction parts with
  | nil => simp [Expr.displayAll]
  | cons e parts ih =>
    rw [List.cons_append, Expr.displayAll, Expr.displayAll, ih, String.append_assoc]

theorem displayAll_textParts (letters : List Char) :
    Expr.displayAll scope (textParts letters) = String.ofList letters := by
  unfold textParts
  split
  · rename_i none
    rw [none]
    rfl
  · simp [Expr.displayAll, Expr.eval, Json.display]

theorem displayAll_readParts (text : List Char) {parts : List Expr}
    (oneLine : '\r' ∉ text ++ texts parts) :
    Expr.displayAll scope (readParts text parts) =
      String.ofList text ++ Expr.displayAll scope parts := by
  fun_induction readParts text parts with
  | case1 text =>
    rw [displayAll_textParts, cooked_eq_self fun mem => oneLine (List.mem_append_left _ mem)]
    exact (String.append_empty).symm
  | case2 text s parts ih =>
    have here : texts (.literal s :: parts) = s.toList ++ texts parts := rfl
    rw [here, ← List.append_assoc] at oneLine
    rw [ih oneLine, Expr.displayAll, String.ofList_append, String.ofList_toList,
      String.append_assoc]
    rfl
  | case3 text e parts other ih =>
    rw [texts_cons other, List.mem_append, not_or] at oneLine
    rw [displayAll_append, displayAll_textParts, cooked_eq_self oneLine.1, Expr.displayAll,
      ih oneLine.2, Expr.displayAll]
    simp

/-- The value is read as it is exactly if no text has a carriage return. -/
theorem displayAll_readParts_iff (parts : List Expr) :
    Expr.displayAll scope (readParts [] parts) = Expr.displayAll scope parts ↔
      '\r' ∉ texts parts := by
  constructor
  · intro same
    have counts := congrArg (fun s => s.toList.count '\r') same
    rw [count_displayAll '\r' (readParts [] parts), count_displayAll '\r' parts,
      substitutions_readParts, List.count_eq_zero.2 (not_mem_readParts [] parts)] at counts
    exact List.count_eq_zero.1 (by omega)
  · intro oneLine
    rw [displayAll_readParts [] oneLine]
    simp

/--
A template is read as what it stands for, wherever its source stands, unless a text that ends in a
dollar sign and one that begins with a brace stand side by side. The same expressions are
substituted, in the same order; and where these are bound to texts, the value is the concatenation
of the parts exactly if no text among them has a carriage return.
-/
theorem template_denotes_concatenation {abc : Alphabet} {parts : List Expr}
    (readable : ∀ e ∈ parts, e.isReadable abc) (whole : splitsOpening [] parts = false)
    (rest : List Char) :
    ∃ read, primary? abc ((Expr.template parts).script.toList ++ rest) = some (.template read, rest) ∧
      substitutions read = substitutions parts ∧
      ∀ scope env, (∀ e ∈ substitutions parts, IsBoundToText scope env e) →
        ∃ value, (Expr.template read).run? env = some (.string value) ∧
          (value = (Expr.template parts).display scope ↔ '\r' ∉ texts parts) := by
  have same := substitutions_readParts [] parts
  refine ⟨readParts [] parts, primary?_template readable whole rest, same,
    fun scope env bound => ⟨Expr.displayAll scope (readParts [] parts), ?_, ?_⟩⟩
  · rw [← same] at bound
    rw [Expr.run?, runAll?_eq_displayAll bound]
    rfl
  · exact displayAll_readParts_iff parts

/-- A quotation with the characters that are escaped, around a field with an accent in its name. -/
theorem template_denotes_quotation :
    let parts := [.literal "\\\x60$", .literal "\x60", .field "item" ["cité"], .literal "$\x7b"]
    let item : Json := .object [("cité", .string "a\rb")]
    ∃ read, primary? .western (Expr.template parts).script.toList = some (.template read, []) ∧
      substitutions read = [.field "item" ["cité"]] ∧
      ∃ value, (Expr.template read).run? [("item", .ofJson item)] = some (.string value) ∧
        value = (Expr.template parts).display [("item", item)] := by
  intro parts item
  obtain ⟨read, source, same, values⟩ :=
    template_denotes_concatenation (show ∀ e ∈ parts, e.isReadable .western by decide) (by decide) []
  obtain ⟨value, run, equal⟩ := values [("item", item)] [("item", .ofJson item)] (by
    intro e mem
    cases List.mem_singleton.1 mem
    exact ⟨"a\rb", rfl, rfl⟩)
  rw [List.append_nil] at source
  exact ⟨read, source, same, value, run, equal.2 (by decide)⟩

/-- A dollar sign and a text in braces are read as a substitution. -/
theorem split_opening_substitutes :
    let parts := [.literal "$", .literal "\x7ba\x7d"]
    ¬ ∃ read, primary? .western (Expr.template parts).script.toList = some (.template read, []) ∧
      substitutions read = substitutions parts := by
  rintro parts ⟨read, source, same⟩
  have script : (Expr.template parts).script = (Expr.template [.field "a" []]).script := by decide
  rw [script, ← List.append_nil (String.toList _),
    primary?_script (.template [.field "a" []]) (by decide) [] (stops_nil _)] at source
  cases source
  cases same

end PageBuilder.Script
