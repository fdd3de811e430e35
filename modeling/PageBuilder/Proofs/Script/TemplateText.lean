import PageBuilder.Component.Script
import PageBuilder.Page.Expr

set_option autoImplicit false

namespace PageBuilder.Script

/-- A character of a template that is not its end; all line breaks count as one character. -/
def templateLetter? (c : Char) (rest : List Char) : Option (Char × List Char) :=
  if c = '\\' then
    match rest with
    | d :: rest => if d ∈ ['\\', '\x60', '$'] then some (d, rest) else none
    | [] => none
  else if c = '\r' then some ('\n', if rest.head? = some '\n' then rest.tail else rest)
  else some (c, rest)

/-- The characters up to the end of a template or to a substitution, and all from there on. -/
def templateText? (text : List Char) : Option (List Char × List Char) :=
  letI templateText? : List Char → Option (List Char × List Char) := by apply templateText?
  match text with
  | [] => none
  | c :: rest =>
    if c = '\x60' ∨ c = '$' ∧ rest.head? = some '\x7b' then some ([], c :: rest)
    else do
      let (d, rest) ← templateLetter? c rest
      let (letters, rest) ← templateText? rest
      return (d :: letters, rest)
partial_fixpoint

def textParts (letters : List Char) : List Expr :=
  if letters = [] then [] else [.literal (String.ofList letters)]

theorem templateText?_letter {c d : Char} {text rest : List Char}
    (inside : ¬(c = '\x60' ∨ c = '$' ∧ text.head? = some '\x7b'))
    (read : templateLetter? c text = some (d, rest)) :
    templateText? (c :: text) =
      (templateText? rest).map fun read => (d :: read.1, read.2) := by
  rw [templateText?]
  simp only [inside, if_false, read, Option.bind_eq_bind, Option.bind_some]
  cases templateText? rest <;> rfl

theorem templateText?_escape {d : Char} (known : d ∈ ['\\', '\x60', '$']) (text : List Char) :
    templateText? ('\\' :: d :: text) =
      (templateText? text).map fun read => (d :: read.1, read.2) :=
  templateText?_letter (by simp) (by rw [templateLetter?, if_pos rfl]; exact if_pos known)

/-- Where a template ends or a substitution begins. -/
def Interrupts (rest : List Char) : Prop :=
  ∃ letters, rest = '\x60' :: letters ∨ rest = '$' :: '\x7b' :: letters

theorem templateText?_interrupts {rest : List Char} (interrupts : Interrupts rest) :
    templateText? rest = some ([], rest) := by
  obtain ⟨letters, rfl | rfl⟩ := interrupts
  · rw [templateText?, if_pos (.inl rfl)]
  · rw [templateText?, if_pos (.inr ⟨rfl, rfl⟩)]

theorem escapeTemplate_first (c : Char) (text : List Char) :
    (escapeTemplate (c :: text)).head? = some '\\' ∨
      (escapeTemplate (c :: text)).head? = some c := by
  unfold escapeTemplate
  split
  · contradiction
  · exact .inl rfl
  · exact .inl rfl
  · exact .inl rfl
  · rename_i spelled
    cases spelled
    exact .inr rfl

def IsEscaped (c : Char) (text : List Char) : Prop :=
  c = '\\' ∨ c = '\x60' ∨ c = '$' ∧ text.head? = some '\x7b'

theorem IsEscaped.mem {c : Char} {text : List Char} (escaped : IsEscaped c text) :
    c ∈ ['\\', '\x60', '$'] := by
  rcases escaped with rfl | rfl | ⟨rfl, _⟩ <;> decide

theorem escapeTemplate_plain {c : Char} {text : List Char} (plain : ¬ IsEscaped c text) :
    escapeTemplate (c :: text) = c :: escapeTemplate text := by
  obtain ⟨notBackslash, notQuote, notOpening⟩ : c ≠ '\\' ∧ c ≠ '\x60' ∧ ¬ _ := by
    simpa only [IsEscaped, not_or] using plain
  rw [escapeTemplate]
  · exact notBackslash
  · exact notQuote
  · rintro rest rfl rfl
    exact notOpening ⟨rfl, rfl⟩

theorem escapeTemplate_escaped {c : Char} {text : List Char} (escaped : IsEscaped c text) :
    escapeTemplate (c :: text) = '\\' :: c :: escapeTemplate text := by
  rcases escaped with rfl | rfl | ⟨rfl, opening⟩
  · rw [escapeTemplate]
  · rw [escapeTemplate]
  · cases text with
    | nil => cases opening
    | cons d text =>
      cases opening
      rw [escapeTemplate, escapeTemplate_plain (by simp [IsEscaped])]

/-- A text as a template shows it: all line breaks are the same character. -/
def cooked : List Char → List Char
  | [] => []
  | '\r' :: '\n' :: rest => '\n' :: cooked rest
  | '\r' :: rest => '\n' :: cooked rest
  | c :: rest => c :: cooked rest

theorem cooked_eq_self {text : List Char} (oneLine : '\r' ∉ text) : cooked text = text := by
  fun_induction cooked text with
  | case1 => rfl
  | case2 | case3 => exact absurd List.mem_cons_self oneLine
  | case4 c text _ _ ih => rw [ih fun h => oneLine (List.mem_cons_of_mem _ h)]

theorem not_mem_cooked (text : List Char) : '\r' ∉ cooked text := by
  fun_induction cooked text with
  | case1 => exact List.not_mem_nil
  | case2 text ih | case3 text _ ih => simpa using ih
  | case4 c text _ notReturn ih => simpa [ih] using fun same => notReturn same.symm

/-- An escaped text goes on with no new character that is not escaped itself. -/
theorem head?_escapeTemplate {text rest : List Char} (interrupts : Interrupts rest) {c : Char}
    (plain : c ∉ ['\\', '\x60', '$']) (first : (escapeTemplate text ++ rest).head? = some c) :
    text.head? = some c := by
  cases text with
  | nil =>
    obtain ⟨letters, rfl | rfl⟩ := interrupts <;> cases first <;> exact absurd (by decide) plain
  | cons d text =>
    rcases escapeTemplate_first d text with escaped | same
    · rw [List.head?_append, escaped] at first
      cases first
      exact absurd (by decide) plain
    · rw [List.head?_append, same] at first
      exact first

theorem templateText?_return (rest : List Char) :
    templateText? ('\r' :: rest) =
      (templateText? (if rest.head? = some '\n' then rest.tail else rest)).map
        fun read => ('\n' :: read.1, read.2) := by
  refine templateText?_letter (by simp) ?_
  unfold templateLetter?
  rw [if_neg (by decide), if_pos rfl]

theorem templateText?_plain {c : Char} {text rest : List Char} (interrupts : Interrupts rest)
    (plain : ¬IsEscaped c text) (notReturn : c ≠ '\r') :
    templateText? (c :: (escapeTemplate text ++ rest)) =
      (templateText? (escapeTemplate text ++ rest)).map fun read => (c :: read.1, read.2) := by
  have inside : ¬(c = '\x60' ∨ c = '$' ∧
      (escapeTemplate text ++ rest).head? = some '\x7b') := by
    rintro (rfl | ⟨rfl, first⟩)
    · exact plain (.inr (.inl rfl))
    · exact plain (.inr (.inr ⟨rfl, head?_escapeTemplate interrupts (by decide) first⟩))
  refine templateText?_letter inside ?_
  unfold templateLetter?
  rw [if_neg fun same => plain (.inl same), if_neg notReturn]

theorem templateText?_cooked (text : List Char) {rest : List Char}
    (interrupts : Interrupts rest) :
    templateText? (escapeTemplate text ++ rest) = some (cooked text, rest) := by
  fun_induction cooked text with
  | case1 => exact templateText?_interrupts interrupts
  | case2 text ih =>
    rw [escapeTemplate_plain (by simp [IsEscaped]), escapeTemplate_plain (by simp [IsEscaped]),
      List.cons_append, List.cons_append, templateText?_return, List.head?_cons, if_pos rfl,
      List.tail_cons, ih]
    rfl
  | case3 text notNewline ih =>
    have notNext : (escapeTemplate text ++ rest).head? ≠ some '\n' := fun first => by
      obtain ⟨more, rfl⟩ := List.head?_eq_some_iff.1
        (head?_escapeTemplate interrupts (by decide) first)
      exact notNewline more rfl
    rw [escapeTemplate_plain (by simp [IsEscaped]), List.cons_append, templateText?_return,
      if_neg notNext, ih]
    rfl
  | case4 c text notBreak notReturn ih =>
    by_cases escaped : IsEscaped c text
    · rw [escapeTemplate_escaped escaped, List.cons_append, List.cons_append,
        templateText?_escape escaped.mem, ih]
      rfl
    · rw [escapeTemplate_plain escaped, List.cons_append,
        templateText?_plain interrupts escaped notReturn, ih]
      rfl

/-- Texts are escaped one by one, unless an opening of a substitution begins in one of them and ends
in the next. -/
theorem escapeTemplate_append {text more : List Char}
    (apart : ¬(text.getLast? = some '$' ∧ more.head? = some '\x7b')) :
    escapeTemplate (text ++ more) = escapeTemplate text ++ escapeTemplate more := by
  induction text with
  | nil => rfl
  | cons c text ih =>
    have apartRest : ¬(text.getLast? = some '$' ∧ more.head? = some '\x7b') := fun ⟨last, first⟩ =>
      apart ⟨by rw [List.getLast?_cons, last]; rfl, first⟩
    have same : IsEscaped c (text ++ more) ↔ IsEscaped c text := by
      cases text with
      | nil =>
        refine or_congr_right (or_congr_right (and_congr_right ?_))
        rintro rfl
        exact ⟨fun first => absurd ⟨rfl, first⟩ apart, nofun⟩
      | cons d text => rfl
    by_cases escaped : IsEscaped c text
    · rw [List.cons_append, escapeTemplate_escaped (same.2 escaped), escapeTemplate_escaped escaped,
        ih apartRest]
      rfl
    · rw [List.cons_append, escapeTemplate_plain (mt same.1 escaped), escapeTemplate_plain escaped,
        ih apartRest]
      rfl

end PageBuilder.Script
