import PageBuilder.Component.Script
import PageBuilder.Json.Token
import PageBuilder.Proofs.Json.Spelling
import PageBuilder.Proofs.Script.Alphabet

set_option autoImplicit false

namespace PageBuilder.Script

open Json (escapeChar quoteChars)
open Json.Reading (hexValue? shortEscape?)

/-- Reads something off the front of a text, and tells what is left. -/
abbrev Reader (α : Type) : Type := List Char → Option (α × List Char)

/-- The first character is none of a kind. -/
def Stops (p : Char → Bool) (rest : List Char) : Prop := ∀ c ∈ rest.head?, p c = false

@[simp]
theorem stops_nil (p : Char → Bool) : Stops p [] := fun _ h => by cases h

@[simp]
theorem stops_cons (p : Char → Bool) (c : Char) (rest : List Char) :
    Stops p (c :: rest) ↔ p c = false := by
  simp [Stops]

section

variable {p : Char → Bool} {word rest : List Char}

theorem takeWhile_append (all : ∀ c ∈ word, p c) (stops : Stops p rest) :
    (word ++ rest).takeWhile p = word := by
  rw [List.takeWhile_append_of_pos all]
  cases rest with
  | nil => exact List.append_nil word
  | cons c rest =>
    have other : ¬p c := ne_true_of_eq_false ((stops_cons p c rest).1 stops)
    rw [List.takeWhile_cons_of_neg other, List.append_nil]

theorem dropWhile_append (all : ∀ c ∈ word, p c) (stops : Stops p rest) :
    (word ++ rest).dropWhile p = rest := by
  rw [List.dropWhile_append_of_pos all]
  cases rest with
  | nil => rfl
  | cons c rest =>
    exact List.dropWhile_cons_of_neg (ne_true_of_eq_false ((stops_cons p c rest).1 stops))

end

def isGap (c : Char) : Bool := c = ' ' || c = '\n'

def skipGap (text : List Char) : List Char := text.dropWhile isGap

def after? (word : String) (text : List Char) : Option (List Char) :=
  if word.toList.isPrefixOf text then some (text.drop word.toList.length) else none

def token? (word : String) (text : List Char) : Option (List Char) := after? word (skipGap text)

@[simp]
theorem skipGap_space (text : List Char) : skipGap (' ' :: text) = skipGap text := rfl

@[simp]
theorem skipGap_line (text : List Char) : skipGap ('\n' :: text) = skipGap text := rfl

theorem skipGap_of_stops {text : List Char} (stops : Stops isGap text) : skipGap text = text :=
  dropWhile_append (List.forall_mem_nil _) stops

@[simp]
theorem after?_append (word : String) (rest : List Char) :
    after? word (word.toList ++ rest) = some rest := by
  have starts : word.toList.isPrefixOf (word.toList ++ rest) :=
    List.isPrefixOf_iff_prefix.2 (List.prefix_append _ _)
  rw [after?, if_pos starts, List.drop_left]

theorem eq_append_of_after? {word : String} {text rest : List Char}
    (read : after? word text = some rest) : text = word.toList ++ rest := by
  unfold after? at read
  split at read
  · rename_i starts
    obtain ⟨others, rfl⟩ := List.isPrefixOf_iff_prefix.1 starts
    rw [List.drop_left] at read
    rw [Option.some.inj read]
  · cases read

theorem after?_eq_none {word : String} {c : Char} {letters : List Char}
    (spelled : word.toList = c :: letters) {text : List Char} (other : text.head? ≠ some c) :
    after? word text = none := by
  have fails : ¬word.toList.isPrefixOf text := by
    rw [List.isPrefixOf_iff_prefix, spelled]
    rintro ⟨rest, rfl⟩
    exact other rfl
  rw [after?, if_neg fails]

variable (abc : Alphabet)

def name? (text : List Char) : Option (String × List Char) :=
  match text with
  | [] => none
  | c :: _ =>
    if abc.isStart c then
      some (String.ofList (text.takeWhile abc.isPart), text.dropWhile abc.isPart)
    else none

variable {abc}

theorem name?_eq_none {c : Char} (latin : c.toNat < 128) (other : isNameStart c = false)
    (text : List Char) : name? abc (c :: text) = none := by
  refine if_neg ?_
  rw [abc.start_latin c latin, other]
  exact Bool.false_ne_true

theorem name?_append {name : String} (valid : abc.isName name) {rest : List Char}
    (stops : Stops abc.isPart rest) : name? abc (name.toList ++ rest) = some (name, rest) := by
  obtain ⟨c, letters, spelled, start, all⟩ := Alphabet.isName_letters valid
  rw [← spelled] at all
  have read : name? abc (name.toList ++ rest) =
      some (String.ofList ((name.toList ++ rest).takeWhile abc.isPart),
        (name.toList ++ rest).dropWhile abc.isPart) := by
    rw [spelled, List.cons_append]
    exact if_pos start
  rw [read, takeWhile_append all stops, dropWhile_append all stops, String.ofList_toList]

theorem isGap_eq_false {p : Char → Bool} {c : Char} (kind : p c) (space : p ' ' = false)
    (line : p '\n' = false) : isGap c = false := by
  have other : c ≠ ' ' ∧ c ≠ '\n' := by
    constructor <;> rintro rfl
    · rw [space] at kind
      cases kind
    · rw [line] at kind
      cases kind
  simp [isGap, other]

theorem stops_name {name : String} (valid : abc.isName name) (rest : List Char) :
    Stops isGap (name.toList ++ rest) := by
  obtain ⟨c, letters, spelled, start, _⟩ := Alphabet.isName_letters valid
  have part := abc.part_of_start c start
  have other : c ≠ ' ' ∧ c ≠ '\n' :=
    ⟨Alphabet.ne_of_part part (by decide) (by decide),
      Alphabet.ne_of_part part (by decide) (by decide)⟩
  rw [spelled]
  exact (stops_cons _ _ _).2 (by simp [isGap, other])

theorem skipGap_name {name : String} (valid : abc.isName name) (rest : List Char) :
    skipGap (name.toList ++ rest) = name.toList ++ rest := skipGap_of_stops (stops_name valid rest)

variable (abc) in
/-- The digits of a whole number, without leading zeros, and nothing that would go on with it. -/
def digits? (text : List Char) : Option (Nat × List Char) :=
  let digits := text.takeWhile Char.isDigit
  let rest := text.dropWhile Char.isDigit
  if digits = [] ∨ digits ≠ ['0'] ∧ digits.head? = some '0' ∨
      rest.head?.any fun c => abc.isPart c || c = '.' then none
  else some (Nat.ofDigitChars 10 digits 0, rest)

variable (abc) in
def whole? (text : List Char) : Option (Int × List Char) :=
  match text with
  | '-' :: rest => (digits? abc rest).map fun read => (-(read.1 : Int), read.2)
  | text => (digits? abc text).map fun read => ((read.1 : Int), read.2)

namespace Alphabet

variable (abc) in
def Ends (rest : List Char) : Prop := Stops (fun c => abc.isPart c || c = '.') rest

theorem stops_part {c : Char} (latin : c.toNat < 128) (other : isNameChar c = false)
    (rest : List Char) : Stops abc.isPart (c :: rest) :=
  (stops_cons _ _ _).2 ((abc.part_latin c latin).trans other)

theorem part_space : abc.isPart ' ' = false := abc.part_latin ' ' (by decide)

theorem ends_cons {c : Char} (latin : c.toNat < 128) (other : (isNameChar c || c = '.') = false)
    (rest : List Char) : abc.Ends (c :: rest) := by
  refine (stops_cons _ _ _).2 ?_
  rwa [abc.part_latin c latin]

theorem ends_space (rest : List Char) : abc.Ends (' ' :: rest) :=
  ends_cons (by decide) (by decide) rest

theorem Ends.stops_part {rest : List Char} (ends : abc.Ends rest) : Stops abc.isPart rest :=
  fun c h => (Bool.or_eq_false_iff.1 (ends c h)).1

theorem Ends.stops_digit {rest : List Char} (ends : abc.Ends rest) : Stops Char.isDigit rest := by
  intro c h
  have other := ends.stops_part c h
  by_contra digit
  rw [part_of_isNameChar (isNameChar_of_isDigit (Bool.not_eq_false _ ▸ digit))] at other
  cases other

end Alphabet

theorem digits?_append (n : Nat) {rest : List Char} (ends : abc.Ends rest) :
    digits? abc (Nat.toDigits 10 n ++ rest) = some (n, rest) := by
  have all : ∀ c ∈ Nat.toDigits 10 n, c.isDigit := fun c h => Json.isDigit_of_mem_digits h
  have none : rest.head?.any (fun c => abc.isPart c || c = '.') = false := by
    cases rest with
    | nil => rfl
    | cons c rest => exact (stops_cons _ c rest).1 ends
  have leading : ¬(Nat.toDigits 10 n = [] ∨
      Nat.toDigits 10 n ≠ ['0'] ∧ (Nat.toDigits 10 n).head? = some '0' ∨
        rest.head?.any (fun c => abc.isPart c || c = '.') = true) := by
    rcases Nat.eq_zero_or_pos n with rfl | positive
    · rw [Nat.toDigits_zero]
      simp [none]
    · obtain ⟨c, letters, spelled, nonzero⟩ := Json.toDigits_leading positive
      simp [spelled, nonzero, none]
  unfold digits?
  rw [takeWhile_append all ends.stops_digit, dropWhile_append all ends.stops_digit]
  exact (if_neg leading).trans (congrArg (fun n => some (n, rest)) Nat.ofDigitChars_ten_toDigits)

theorem natText_first (n : Nat) : ∃ c digits, (natText n).toList = c :: digits ∧ c.isDigit := by
  obtain ⟨c, digits, spelled⟩ : ∃ c digits, Nat.toDigits 10 n = c :: digits :=
    List.exists_cons_of_ne_nil Nat.toDigits_ne_nil
  exact ⟨c, digits, String.toList_ofList.trans spelled,
    Json.isDigit_of_mem_digits (spelled ▸ List.mem_cons_self)⟩

theorem whole?_append (n : Int) {rest : List Char} (ends : abc.Ends rest) :
    whole? abc ((intText n).toList ++ rest) = some (n, rest) := by
  have read : digits? abc ((natText n.natAbs).toList ++ rest) = some (n.natAbs, rest) := by
    rw [natText, String.toList_ofList]
    exact digits?_append n.natAbs ends
  unfold intText
  split
  · rename_i negative
    have value : -(n.natAbs : Int) = n := by omega
    have spelled : ("-" ++ natText n.natAbs).toList ++ rest =
        '-' :: ((natText n.natAbs).toList ++ rest) := by
      simp
    rw [spelled, whole?, read]
    exact congrArg (fun n => some (n, rest)) value
  · rename_i natural
    have value : (n.natAbs : Int) = n := by omega
    obtain ⟨c, digits, spelled, digit⟩ := natText_first n.natAbs
    have unsigned : c ≠ '-' := by
      rintro rfl
      cases digit
    rw [whole?]
    · rw [read]
      exact congrArg (fun n => some (n, rest)) value
    · intro letters signed
      rw [spelled] at signed
      exact unsigned (List.cons.inj signed).1

/-- A character of a string that is not its end; lines do not break inside of strings. -/
def letter? (c : Char) (rest : List Char) : Option (Char × List Char) :=
  if c = '\n' ∨ c = '\r' then none
  else if c ≠ '\\' then some (c, rest)
  else match rest with
    | 'u' :: i :: j :: k :: l :: rest => do
      let code := 4096 * (← hexValue? i) + 256 * (← hexValue? j) + 16 * (← hexValue? k) +
        (← hexValue? l)
      if code < 55296 ∨ 57343 < code then return (.ofNat code, rest) else none
    | d :: rest => do return (← shortEscape? d, rest)
    | [] => none

def stringBody? (text : List Char) : Option (List Char × List Char) :=
  -- Readers that call themselves name the calls first: a call that is written as a term would keep
  -- its position in the file.
  letI stringBody? : Reader (List Char) := by apply stringBody?
  match text with
  | [] => none
  | c :: rest =>
    if c = '"' then some ([], rest)
    else do
      let (d, rest) ← letter? c rest
      let (letters, rest) ← stringBody? rest
      return (d :: letters, rest)
partial_fixpoint

def string? (text : List Char) : Option (String × List Char) :=
  match text with
  | '"' :: rest => (stringBody? rest).map fun read => (String.ofList read.1, read.2)
  | _ => none

theorem stringBody?_letter {c d : Char} {text rest : List Char} (other : c ≠ '"')
    (read : letter? c text = some (d, rest)) :
    stringBody? (c :: text) = (stringBody? rest).map fun read => (d :: read.1, read.2) := by
  rw [stringBody?]
  simp only [other, if_false, read, Option.bind_eq_bind, Option.bind_some]
  cases stringBody? rest <;> rfl

theorem stringBody?_escapeChar (c : Char) (rest : List Char) :
    stringBody? (escapeChar c ++ rest) =
      (stringBody? rest).map fun read => (c :: read.1, read.2) := by
  by_cases short : c ∈ Json.shortEscaped
  · obtain ⟨d, escaped, notCode, read, _⟩ := Json.escapeChar_short short
    rw [escaped]
    refine stringBody?_letter (by decide) ?_
    simp [letter?, notCode, read]
  · rw [Json.escapeChar_other short]
    simp only [Json.shortEscaped, List.mem_cons, not_or] at short
    split
    · rename_i control
      refine stringBody?_letter (by decide) ?_
      have high : c.toNat / 16 < 16 := by omega
      have low : c.toNat % 16 < 16 := Nat.mod_lt _ (by decide)
      have zero : hexValue? '0' = some 0 := by decide
      have value : 16 * (c.toNat / 16) + c.toNat % 16 = c.toNat := Nat.div_add_mod _ 16
      have small : c.toNat < 55296 := by omega
      simp [letter?, zero, Json.hexValue?_digitChar, high, low, value, small]
    · refine stringBody?_letter short.1 ?_
      simp [letter?, short]

theorem stringBody?_escaped (text rest : List Char) :
    stringBody? (text.flatMap escapeChar ++ '"' :: rest) = some (text, rest) := by
  induction text with
  | nil => rw [List.flatMap_nil, List.nil_append, stringBody?, if_pos rfl]
  | cons c text ih =>
    rw [List.flatMap_cons, List.append_assoc, stringBody?_escapeChar, ih]
    rfl

theorem string?_quoteChars (s : String) (rest : List Char) :
    string? (quoteChars s ++ rest) = some (s, rest) := by
  have read := stringBody?_escaped s.toList rest
  have spelled : quoteChars s ++ rest = '"' :: (s.toList.flatMap escapeChar ++ '"' :: rest) := by
    simp [quoteChars]
  rw [spelled, string?, read, Option.map_some, String.ofList_toList]

end PageBuilder.Script
