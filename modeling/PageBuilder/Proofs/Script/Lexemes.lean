import PageBuilder.Proofs.Script.Expressions

set_option autoImplicit false

namespace PageBuilder.Script

inductive Lexeme where
  | name (text : String)
  | number (value : Nat)
  | string (text : String)
  | mark (symbol : String)
deriving DecidableEq

/-- The marks of the language, longer ones first. Those that begin with a slash or a closing brace
depend on what stands before them and are left out. -/
def marks : List String :=
  [">>>=", "...", "===", "!==", "**=", "<<=", ">>=", ">>>", "&&=", "||=", "??=", "=>", "==", "!=",
    "<=", ">=", "&&", "||", "??", "?.", "++", "--", "+=", "-=", "*=", "%=", "&=", "|=", "^=", "<<",
    ">>", "**", "\x7b", "(", ")", "[", "]", ".", ";", ",", "<", ">", "+", "-", "*", "%", "&", "|",
    "^", "!", "~", "?", ":", "="]

/-- Whether a text begins with a mark; a dot before a digit belongs to a number. -/
def fits (text : List Char) (symbol : String) : Bool :=
  symbol.toList.isPrefixOf text &&
    !(["?.", "."].contains symbol && (text.drop symbol.toList.length).head?.any Char.isDigit)

def mark? (text : List Char) : Option (Lexeme × List Char) :=
  (marks.find? (fits text)).map fun symbol => (.mark symbol, text.drop symbol.toList.length)

/-- Only the marks that begin with the same character fit. -/
theorem find?_fits (c : Char) (text : List Char) : marks.find? (fits (c :: text)) =
    (marks.filter (·.toList.head? = some c)).find? (fits (c :: text)) := by
  have begins : ∀ symbol ∈ marks, fits (c :: text) symbol → symbol.toList.head? = some c := by
    intro symbol mem fit
    rw [fits, Bool.and_eq_true, List.isPrefixOf_iff_prefix] at fit
    obtain ⟨⟨rest, spelled⟩, _⟩ := fit
    have filled : symbol.toList ≠ [] :=
      (show ∀ symbol ∈ marks, symbol.toList ≠ [] by decide) symbol mem
    rw [← List.head?_append_of_ne_nil _ filled, spelled]
    rfl
  rw [List.find?_filter]
  refine List.find?_congr fun symbol mem => Bool.eq_iff_iff.2 ⟨fun fit => ?_, fun both => ?_⟩
  · exact decide_eq_true ⟨decide_eq_true (begins symbol mem fit), fit⟩
  · exact (of_decide_eq_true both).2

namespace Alphabet

variable (a : Alphabet)

/-- The lexeme that a text begins with. A name does not follow a number without a gap. -/
def lexeme? (text : List Char) : Option (Lexeme × List Char) :=
  match text with
  | [] => none
  | c :: rest =>
    if c = '"' then (stringBody? rest).map fun read => (.string (.ofList read.1), read.2)
    else if c.isDigit then (digits? a text).map fun read => (.number read.1, read.2)
    else if a.isStart c then
      some (.name (.ofList (text.takeWhile a.isPart)), text.dropWhile a.isPart)
    else mark? text

/-- The lexemes of a text that has no others. -/
def lexemes? (text : List Char) : Option (List Lexeme) :=
  letI lexemes? : List Char → Option (List Lexeme) := by apply lexemes?
  match text.dropWhile isSpace with
  | [] => some []
  | c :: rest => do
    let (first, rest) ← a.lexeme? (c :: rest)
    return first :: (← lexemes? rest)
partial_fixpoint

variable {a}

@[simp]
theorem lexemes?_nil : a.lexemes? [] = some [] := by
  rw [lexemes?]
  rfl

@[simp]
theorem lexemes?_space (rest : List Char) : a.lexemes? (' ' :: rest) = a.lexemes? rest := by
  have gap : (' ' :: rest).dropWhile isSpace = rest.dropWhile isSpace := rfl
  rw [lexemes?, gap, ← lexemes?]

theorem lexemes?_cons {c : Char} {text rest : List Char} {first : Lexeme}
    (solid : isSpace c = false) (read : a.lexeme? (c :: text) = some (first, rest)) :
    a.lexemes? (c :: text) = (a.lexemes? rest).map (first :: ·) := by
  have gap : (c :: text).dropWhile isSpace = c :: text :=
    List.dropWhile_cons_of_neg (ne_true_of_eq_false solid)
  rw [lexemes?, gap]
  simp only [read, Option.bind_eq_bind, Option.bind_some]
  cases a.lexemes? rest <;> rfl

theorem lexemes?_mark {c : Char} {text rest : List Char} {symbol : String}
    (latin : c.toNat < 128)
    (other : (c = '"' || c.isDigit || isNameStart c || isSpace c) = false)
    (read : mark? (c :: text) = some (.mark symbol, rest)) :
    a.lexemes? (c :: text) = (a.lexemes? rest).map (.mark symbol :: ·) := by
  simp only [Bool.or_eq_false_iff, decide_eq_false_iff_not] at other
  obtain ⟨⟨⟨quote, digit⟩, start⟩, solid⟩ := other
  refine lexemes?_cons solid ?_
  rw [lexeme?, if_neg quote, if_neg (ne_true_of_eq_false digit), a.start_latin c latin,
    if_neg (ne_true_of_eq_false start), read]

theorem lexemes?_quote (s : String) (rest : List Char) :
    a.lexemes? ((Json.quote s).toList ++ rest) = (a.lexemes? rest).map (.string s :: ·) := by
  rw [quote_text]
  refine lexemes?_cons (by decide) ?_
  rw [lexeme?, if_pos rfl, stringBody?_escaped, Option.map_some, String.ofList_toList]

theorem lexemes?_digits (n : Nat) {rest : List Char} (ends : a.Ends rest) :
    a.lexemes? ((natText n).toList ++ rest) = (a.lexemes? rest).map (.number n :: ·) := by
  have read : digits? a ((natText n).toList ++ rest) = some (n, rest) := by
    rw [natText, String.toList_ofList]
    exact digits?_append n ends
  obtain ⟨c, digits, spelled, digit⟩ := natText_first n
  have quote : c ≠ '"' := by
    rintro rfl
    cases digit
  have solid : isSpace c = false :=
    a.space_of_part c (part_of_isNameChar (isNameChar_of_isDigit digit))
  rw [spelled, List.cons_append] at read ⊢
  refine lexemes?_cons solid ?_
  rw [lexeme?, if_neg quote, if_pos digit, read]
  rfl

theorem lexemes?_name {name : String} (valid : a.isName name) {rest : List Char}
    (stops : Stops a.isPart rest) :
    a.lexemes? (name.toList ++ rest) = (a.lexemes? rest).map (.name name :: ·) := by
  obtain ⟨c, letters, spelled, start, all⟩ := isName_letters valid
  have quote : c ≠ '"' := by
    rintro rfl
    rw [a.start_latin '"' (by decide)] at start
    cases start
  have read : a.lexeme? (name.toList ++ rest) = some (.name name, rest) := by
    rw [← spelled] at all
    rw [spelled, List.cons_append, lexeme?, if_neg quote,
      if_neg (ne_true_of_eq_false (isDigit_of_start start)), if_pos start, ← List.cons_append,
      ← spelled, takeWhile_append all stops, dropWhile_append all stops, String.ofList_toList]
  rw [spelled, List.cons_append] at read ⊢
  exact lexemes?_cons (a.space_of_part c (a.part_of_start c start)) read

theorem lexemes?_dot {name : String} (valid : a.isName name) (rest : List Char) :
    a.lexemes? ('.' :: (name.toList ++ rest)) =
      (a.lexemes? (name.toList ++ rest)).map (.mark "." :: ·) := by
  obtain ⟨c, letters, spelled, start, _⟩ := isName_letters valid
  have dot : '.' ≠ c := by
    rintro rfl
    rw [a.start_latin '.' (by decide)] at start
    cases start
  have digit := isDigit_of_start start
  have among : marks.filter (·.toList.head? = some '.') = ["...", "."] := rfl
  refine lexemes?_mark (by decide) (by decide) ?_
  rw [spelled, List.cons_append, mark?, find?_fits, among]
  simp [fits, List.isPrefixOf, dot, digit]

theorem lexemes?_minus (n : Nat) (rest : List Char) :
    a.lexemes? ('-' :: ((natText n).toList ++ rest)) =
      (a.lexemes? ((natText n).toList ++ rest)).map (.mark "-" :: ·) := by
  obtain ⟨c, digits, spelled, digit⟩ := natText_first n
  have other : '-' ≠ c ∧ '=' ≠ c := by
    constructor <;> rintro rfl <;> cases digit
  have among : marks.filter (·.toList.head? = some '-') = ["--", "-=", "-"] := rfl
  refine lexemes?_mark (by decide) (by decide) ?_
  rw [spelled, List.cons_append, mark?, find?_fits, among]
  simp [fits, List.isPrefixOf, other]

end Alphabet
end PageBuilder.Script
