import PageBuilder.Json.Printer
import PageBuilder.Json.Token
import PageBuilder.Proofs.Json.Order

set_option autoImplicit false

namespace PageBuilder

/-- The numeral that a whole number is written as. -/
def Number.numeral : Number → Json.Numeral
  | .whole n => ⟨n < 0, Nat.toDigits 10 n.natAbs, [], none⟩
  | .real x => .empty x.negative

namespace Json

def letterOf (c : Char) : Letter :=
  if c.toNat < 32 ∧ c ∉ ['\n', '\r', '\t', '\x08', '\x0c'] then .unit c.toNat else .char c

def lettersOf (s : String) : List Letter := s.toList.map letterOf

mutual

def spelling : Json → List Token
  | .null => [.null]
  | .bool b => [.bool b]
  | .number n => [.number n.numeral]
  | .string s => [.string (lettersOf s)]
  | .array [] => [.openList, .closeList]
  | .array (v :: rest) => .openList :: v.spelling ++ itemsSpelling rest
  | .object [] => [.openObject, .closeObject]
  | .object ((k, v) :: rest) =>
    .openObject :: .string (lettersOf k) :: .colon :: v.spelling ++ membersSpelling rest

def itemsSpelling : List Json → List Token
  | [] => [.closeList]
  | v :: rest => .comma :: v.spelling ++ itemsSpelling rest

def membersSpelling : List (String × Json) → List Token
  | [] => [.closeObject]
  | (k, v) :: rest =>
    .comma :: .string (lettersOf k) :: .colon :: v.spelling ++ membersSpelling rest

end

mutual

def Whole : Json → Prop
  | .number (.whole n) => -pow2 63 ≤ n ∧ n < pow2 64
  | .number (.real _) => False
  | .array items => ItemsWhole items
  | .object members => MembersWhole members
  | _ => True

def ItemsWhole : List Json → Prop
  | [] => True
  | v :: rest => v.Whole ∧ ItemsWhole rest

def MembersWhole : List (String × Json) → Prop
  | [] => True
  | (_, v) :: rest => v.Whole ∧ MembersWhole rest

end

def Ends : List Char → Prop
  | [] => True
  | c :: _ => c.isDigit = false ∧ c ≠ '.' ∧ c ≠ 'e' ∧ c ≠ 'E'

open Reading (next start isSpace shortEscape? hexValue? numeralNext)

theorem tokens_cons (r : Reading) (c : Char) (rest : List Char) :
    r.tokens (c :: rest) = (r.next c).1 ++ (r.next c).2.tokens rest := rfl

theorem tokens_plain_char {c : Char} (quote : c ≠ '"') (backslash : c ≠ '\\')
    (printable : ¬ c.toNat < 32) (letters : List Letter) (rest : List Char) :
    (Reading.string letters).tokens (c :: rest) =
      (Reading.string (.char c :: letters)).tokens rest := by
  simp [tokens_cons, next, quote, backslash, printable]

theorem tokens_short_escape {c d : Char} (notCode : c ≠ 'u') (short : shortEscape? c = some d)
    (letters : List Letter) (rest : List Char) :
    (Reading.string letters).tokens ('\\' :: c :: rest) =
      (Reading.string (.char d :: letters)).tokens rest := by
  simp [tokens_cons, next, notCode, short]

theorem hexValue?_digitChar {n : Nat} (h : n < 16) : hexValue? (Nat.digitChar n) = some n := by
  have all : ∀ n : Fin 16, hexValue? (Nat.digitChar n) = some n.val := by decide
  exact all ⟨n, h⟩

theorem utf8Size_digitChar {n : Nat} (h : n < 16) : (Nat.digitChar n).utf8Size = 1 := by
  have all : ∀ n : Fin 16, (Nat.digitChar n.val).utf8Size = 1 := by decide
  exact all ⟨n, h⟩

theorem tokens_code_escape {n : Nat} (h : n < 256) (letters : List Letter) (rest : List Char) :
    (Reading.string letters).tokens
        ('\\' :: 'u' :: '0' :: '0' :: Nat.digitChar (n / 16) :: Nat.digitChar (n % 16) :: rest) =
      (Reading.string (.unit n :: letters)).tokens rest := by
  have high : n / 16 < 16 := by omega
  have low : n % 16 < 16 := Nat.mod_lt _ (by decide)
  have value : 16 * (n / 16) + n % 16 = n := Nat.div_add_mod n 16
  have zero : hexValue? '0' = some 0 := by decide
  simp [tokens_cons, next, zero, hexValue?_digitChar, utf8Size_digitChar, high, low, value,
    show ('0' : Char).utf8Size = 1 from rfl]

def shortEscaped : List Char := ['"', '\\', '\n', '\r', '\t', '\x08', '\x0c']

theorem escapeChar_short {c : Char} (h : c ∈ shortEscaped) :
    ∃ d, escapeChar c = ['\\', d] ∧ d ≠ 'u' ∧ shortEscape? d = some c ∧ letterOf c = .char c := by
  simp only [shortEscaped, List.mem_cons, List.not_mem_nil, or_false] at h
  rcases h with rfl | rfl | rfl | rfl | rfl | rfl | rfl <;>
    exact ⟨_, rfl, by decide, rfl, by decide⟩

theorem escapeChar_other {c : Char} (h : c ∉ shortEscaped) :
    escapeChar c = if c.toNat < 32 then
      ['\\', 'u', '0', '0', Nat.digitChar (c.toNat / 16), Nat.digitChar (c.toNat % 16)]
      else [c] := by
  simp only [shortEscaped, List.mem_cons, List.not_mem_nil, or_false, not_or] at h
  obtain ⟨quote, backslash, newline, carriage, tab, backspace, feed⟩ := h
  simp only [escapeChar, quote, backslash, newline, carriage, tab, backspace, feed, if_false]

theorem tokens_escapeChar (c : Char) (letters : List Letter) (rest : List Char) :
    (Reading.string letters).tokens (escapeChar c ++ rest) =
      (Reading.string (letterOf c :: letters)).tokens rest := by
  by_cases short : c ∈ shortEscaped
  · obtain ⟨d, escaped, notCode, read, letter⟩ := escapeChar_short short
    rw [escaped, letter]
    exact tokens_short_escape notCode read letters rest
  · rw [escapeChar_other short]
    simp only [shortEscaped, List.mem_cons, not_or] at short
    obtain ⟨quote, backslash, layout⟩ := short
    split
    · rename_i control
      have spelled : letterOf c = .unit c.toNat := if_pos ⟨control, by simp [layout]⟩
      rw [spelled]
      exact tokens_code_escape (by omega) letters rest
    · rename_i printable
      have spelled : letterOf c = .char c := if_neg fun h => printable h.1
      rw [spelled]
      exact tokens_plain_char quote backslash printable letters rest

theorem tokens_escaped (text : List Char) (letters : List Letter) (rest : List Char) :
    (Reading.string letters).tokens (text.flatMap escapeChar ++ rest) =
      (Reading.string ((text.map letterOf).reverse ++ letters)).tokens rest := by
  induction text generalizing letters with
  | nil => rfl
  | cons c text ih =>
    rw [List.flatMap_cons, List.append_assoc, tokens_escapeChar, ih]
    simp

theorem tokens_quoteChars (s : String) (rest : List Char) :
    Reading.nothing.tokens (quoteChars s ++ rest) =
      .string (lettersOf s) :: Reading.nothing.tokens rest := by
  have body := tokens_escaped s.toList [] ('"' :: rest)
  have close : (Reading.string ((s.toList.map letterOf).reverse ++ [])).tokens ('"' :: rest) =
      .string (lettersOf s) :: Reading.nothing.tokens rest := by
    simp [tokens_cons, next, lettersOf]
  rw [close] at body
  simpa [quoteChars, tokens_cons, next, start, isSpace] using body

theorem tokens_digit {c : Char} (digit : c.isDigit) (n : Numeral) (rest : List Char) :
    (Reading.numeral .whole n).tokens (c :: rest) =
      (Reading.numeral .whole (n.pushWhole c)).tokens rest := by
  simp [tokens_cons, next, numeralNext, digit]

theorem tokens_digits {digits : List Char} (all : ∀ c ∈ digits, c.isDigit) (n : Numeral)
    (rest : List Char) :
    (Reading.numeral .whole n).tokens (digits ++ rest) =
      (Reading.numeral .whole { n with whole := digits.reverse ++ n.whole }).tokens rest := by
  induction digits generalizing n with
  | nil => rfl
  | cons c digits ih =>
    rw [List.cons_append, tokens_digit (all c List.mem_cons_self),
      ih fun d h => all d (List.mem_cons_of_mem _ h)]
    simp [Numeral.pushWhole]

theorem tokens_whole_end {rest : List Char} (ends : Ends rest) (n : Numeral) :
    (Reading.numeral .whole n).tokens rest = .number n.finish :: Reading.nothing.tokens rest := by
  cases rest with
  | nil => rfl
  | cons c rest =>
    obtain ⟨digit, point, small, large⟩ := ends
    simp [tokens_cons, next, numeralNext, digit, point, small, large]

theorem tokens_zero_end {rest : List Char} (ends : Ends rest) (n : Numeral) :
    (Reading.numeral .zero n).tokens rest = .number n.finish :: Reading.nothing.tokens rest := by
  cases rest with
  | nil => rfl
  | cons c rest =>
    obtain ⟨digit, point, small, large⟩ := ends
    simp [tokens_cons, next, numeralNext, digit, point, small, large]

theorem toDigits_leading {n : Nat} (positive : 0 < n) :
    ∃ c digits, Nat.toDigits 10 n = c :: digits ∧ c ≠ '0' := by
  induction n using Nat.strongRecOn with
  | ind n ih =>
    rcases Nat.lt_or_ge n 10 with small | large
    · have nonzero : ∀ d : Fin 10, 0 < d.val → Nat.digitChar d.val ≠ '0' := by decide
      exact ⟨_, [], Nat.toDigits_of_lt_base small, nonzero ⟨n, small⟩ positive⟩
    · obtain ⟨c, digits, same, other⟩ := ih (n / 10) (by omega) (by omega)
      refine ⟨c, digits ++ [Nat.digitChar (n % 10)], ?_, other⟩
      rw [Nat.toDigits_of_base_le (by decide) large, same, List.cons_append]

theorem isDigit_of_mem_digits {n : Nat} {c : Char} (h : c ∈ Nat.toDigits 10 n) : c.isDigit :=
  Nat.isDigit_of_mem_toDigits (by decide) (by decide) h

theorem start_digit {c : Char} (digit : c.isDigit) (nonzero : c ≠ '0') :
    start c = ([], .numeral .whole ((Numeral.empty false).pushWhole c)) := by
  have other : ∀ d : Char, d.isDigit = false → c ≠ d := by
    rintro d h rfl
    rw [digit] at h
    cases h
  have first : isSpace c = false := by
    simp [isSpace, other ' ' (by decide), other '\n' (by decide), other '\t' (by decide),
      other '\r' (by decide)]
  simp [start, first, digit, nonzero, other '[' (by decide), other ']' (by decide),
    other '\x7b' (by decide), other '\x7d' (by decide), other ':' (by decide),
    other ',' (by decide), other '"' (by decide), other 'n' (by decide), other 't' (by decide),
    other 'f' (by decide), other '-' (by decide)]

theorem tokens_natural (n : Nat) {rest : List Char} (ends : Ends rest) :
    Reading.nothing.tokens (Nat.toDigits 10 n ++ rest) =
      .number ⟨false, Nat.toDigits 10 n, [], none⟩ :: Reading.nothing.tokens rest := by
  rcases Nat.eq_zero_or_pos n with rfl | positive
  · rw [Nat.toDigits_zero, List.singleton_append, tokens_cons]
    exact tokens_zero_end ends _
  · obtain ⟨c, digits, same, nonzero⟩ := toDigits_leading positive
    have all : ∀ d ∈ c :: digits, d.isDigit := fun d h => isDigit_of_mem_digits (same ▸ h)
    rw [same, List.cons_append, tokens_cons, next,
      start_digit (all c List.mem_cons_self) nonzero, List.nil_append,
      tokens_digits fun d h => all d (List.mem_cons_of_mem _ h), tokens_whole_end ends]
    simp [Numeral.finish, Numeral.pushWhole, Numeral.empty]

theorem tokens_negative {n : Nat} (positive : 0 < n) {rest : List Char} (ends : Ends rest) :
    Reading.nothing.tokens ('-' :: Nat.toDigits 10 n ++ rest) =
      .number ⟨true, Nat.toDigits 10 n, [], none⟩ :: Reading.nothing.tokens rest := by
  obtain ⟨c, digits, same, nonzero⟩ := toDigits_leading positive
  have all : ∀ d ∈ c :: digits, d.isDigit := fun d h => isDigit_of_mem_digits (same ▸ h)
  have sign : Reading.nothing.tokens ('-' :: c :: (digits ++ rest)) =
      (Reading.numeral .whole ((Numeral.empty true).pushWhole c)).tokens (digits ++ rest) := by
    simp [tokens_cons, next, start, isSpace, numeralNext, nonzero, all c List.mem_cons_self]
  rw [same, List.cons_append, List.cons_append, sign,
    tokens_digits fun d h => all d (List.mem_cons_of_mem _ h), tokens_whole_end ends]
  simp [Numeral.finish, Numeral.pushWhole, Numeral.empty]

theorem tokens_intText (n : Int) {rest : List Char} (ends : Ends rest) :
    Reading.nothing.tokens ((intText n).toList ++ rest) =
      .number (Number.whole n).numeral :: Reading.nothing.tokens rest := by
  unfold intText natText
  split
  · rename_i negative
    have spelled := tokens_negative (Int.natAbs_pos.2 (Int.ne_of_lt negative)) ends
    simpa [Number.numeral, negative] using spelled
  · rename_i natural
    have spelled := tokens_natural n.natAbs ends
    simpa [Number.numeral, natural] using spelled

theorem tokens_mark {c : Char} {t : Token} (mark : start c = ([t], .nothing)) (rest : List Char) :
    Reading.nothing.tokens (c :: rest) = t :: Reading.nothing.tokens rest := by
  rw [tokens_cons, next, mark]
  rfl

theorem tokens_space {c : Char} (space : isSpace c) (rest : List Char) :
    Reading.nothing.tokens (c :: rest) = Reading.nothing.tokens rest := by
  rw [tokens_cons, next, start, if_pos space]
  rfl

theorem tokens_lineBreak (depth : Nat) (rest : List Char) :
    Reading.nothing.tokens (lineBreak depth ++ rest) = Reading.nothing.tokens rest := by
  have blanks : ∀ n, Reading.nothing.tokens (List.replicate n ' ' ++ rest) =
      Reading.nothing.tokens rest := by
    intro n
    induction n with
    | zero => rfl
    | succ n ih => rw [List.replicate_succ, List.cons_append, tokens_space (by decide), ih]
  rw [lineBreak, List.cons_append, tokens_space (by decide), blanks]

theorem ends_of_separator {c : Char} (h : c ∈ [',', ']', '\x7d', '\n']) (rest : List Char) :
    Ends (c :: rest) := by
  simp only [List.mem_cons, List.not_mem_nil, or_false] at h
  rcases h with rfl | rfl | rfl | rfl <;> exact ⟨rfl, by decide, by decide, by decide⟩

theorem tokens_atom {v : Json} (whole : v.Whole) {rest : List Char} (ends : Ends rest)
    (atom : match v with
      | .array _ | .object _ => False
      | _ => True) :
    Reading.nothing.tokens (v.compactChars ++ rest) =
      v.spelling ++ Reading.nothing.tokens rest := by
  cases v with
  | null => rfl
  | bool b => cases b <;> rfl
  | number n =>
    cases n with
    | whole n => exact tokens_intText n ends
    | real x => exact whole.elim
  | string s => exact tokens_quoteChars s rest
  | array items => exact atom.elim
  | object members => exact atom.elim

theorem compactItems_cons (v : Json) (rest : List Json) :
    compactItems (v :: rest) = v.compactChars ++ rest.flatMap fun v => ',' :: v.compactChars := by
  induction rest generalizing v with
  | nil => rw [compactItems, List.flatMap_nil, List.append_nil]
  | cons w rest ih => simp [compactItems, ih w]

theorem compactMembers_cons (m : String × Json) (rest : Members) :
    compactMembers (m :: rest) = quoteChars m.1 ++ ':' :: (m.2.compactChars ++
      rest.flatMap fun m => ',' :: (quoteChars m.1 ++ ':' :: m.2.compactChars)) := by
  induction rest generalizing m with
  | nil => rw [compactMembers, List.flatMap_nil, List.append_nil]
  | cons next rest ih => simp [compactMembers, ih next]

def itemsTail (items : List Json) (rest : List Char) : List Char :=
  (items.flatMap fun v => ',' :: v.compactChars) ++ ']' :: rest

def membersTail (members : Members) (rest : List Char) : List Char :=
  (members.flatMap fun m => ',' :: (quoteChars m.1 ++ ':' :: m.2.compactChars)) ++ '\x7d' :: rest

theorem compactChars_array (v : Json) (items : List Json) (rest : List Char) :
    (array (v :: items)).compactChars ++ rest =
      '[' :: (v.compactChars ++ itemsTail items rest) := by
  simp [compactChars, compactItems_cons, itemsTail]

theorem compactChars_object (m : String × Json) (members : Members) (rest : List Char) :
    (object (m :: members)).compactChars ++ rest = '\x7b' ::
      (quoteChars m.1 ++ ':' :: (m.2.compactChars ++ membersTail members rest)) := by
  simp [compactChars, compactMembers_cons, membersTail]

theorem ends_itemsTail (items : List Json) (rest : List Char) : Ends (itemsTail items rest) := by
  cases items with
  | nil => exact ends_of_separator (by decide) rest
  | cons v items => exact ends_of_separator (by decide) _

theorem ends_membersTail (members : Members) (rest : List Char) :
    Ends (membersTail members rest) := by
  cases members with
  | nil => exact ends_of_separator (by decide) rest
  | cons m members => exact ends_of_separator (by decide) _

theorem itemsTail_cons (v : Json) (items : List Json) (rest : List Char) :
    itemsTail (v :: items) rest = ',' :: (v.compactChars ++ itemsTail items rest) := by
  simp [itemsTail]

theorem membersTail_cons (m : String × Json) (members : Members) (rest : List Char) :
    membersTail (m :: members) rest =
      ',' :: (quoteChars m.1 ++ ':' :: (m.2.compactChars ++ membersTail members rest)) := by
  simp [membersTail]

mutual

theorem tokens_compactChars : ∀ v : Json, v.Whole → ∀ rest, Ends rest →
    Reading.nothing.tokens (v.compactChars ++ rest) = v.spelling ++ Reading.nothing.tokens rest
  | .array [], _, _, _ => rfl
  | .array (v :: items), ⟨whole, itemsWhole⟩, rest, _ => by
    rw [compactChars_array, tokens_mark (t := .openList) rfl,
      tokens_compactChars v whole _ (ends_itemsTail items rest), tokens_itemsTail items itemsWhole]
    simp [spelling]
  | .object [], _, _, _ => rfl
  | .object ((k, v) :: members), ⟨whole, membersWhole⟩, rest, _ => by
    rw [compactChars_object, tokens_mark (t := .openObject) rfl, tokens_quoteChars,
      tokens_mark (t := .colon) rfl, tokens_compactChars v whole _ (ends_membersTail members rest),
      tokens_membersTail members membersWhole]
    simp [spelling]
  | .null, whole, _, ends | .bool _, whole, _, ends | .number _, whole, _, ends
  | .string _, whole, _, ends => tokens_atom whole ends trivial

theorem tokens_itemsTail : ∀ items : List Json, ItemsWhole items → ∀ rest,
    Reading.nothing.tokens (itemsTail items rest) =
      itemsSpelling items ++ Reading.nothing.tokens rest
  | [], _, rest => tokens_mark rfl rest
  | v :: items, ⟨whole, itemsWhole⟩, rest => by
    rw [itemsTail_cons, tokens_mark (t := .comma) rfl,
      tokens_compactChars v whole _ (ends_itemsTail items rest), tokens_itemsTail items itemsWhole]
    simp [itemsSpelling]

theorem tokens_membersTail : ∀ members : Members, MembersWhole members → ∀ rest,
    Reading.nothing.tokens (membersTail members rest) =
      membersSpelling members ++ Reading.nothing.tokens rest
  | [], _, rest => tokens_mark rfl rest
  | (k, v) :: members, ⟨whole, membersWhole⟩, rest => by
    rw [membersTail_cons, tokens_mark (t := .comma) rfl, tokens_quoteChars,
      tokens_mark (t := .colon) rfl, tokens_compactChars v whole _ (ends_membersTail members rest),
      tokens_membersTail members membersWhole]
    simp [membersSpelling]

end

theorem ends_prettyItems (depth : Nat) (items : List Json) (rest : List Char) :
    Ends (prettyItems depth items ++ rest) := by
  cases items with
  | nil => exact ends_of_separator (by decide) _
  | cons v items => exact ends_of_separator (by decide) _

theorem ends_prettyMembers (depth : Nat) (members : Members) (rest : List Char) :
    Ends (prettyMembers depth members ++ rest) := by
  cases members with
  | nil => exact ends_of_separator (by decide) _
  | cons m members => exact ends_of_separator (by decide) _

mutual

theorem tokens_prettyChars : ∀ v : Json, v.Whole → ∀ (depth : Nat) (rest : List Char), Ends rest →
    Reading.nothing.tokens (v.prettyChars depth ++ rest) = v.spelling ++ Reading.nothing.tokens rest
  | .array [], _, _, _, _ => rfl
  | .array (v :: items), ⟨whole, itemsWhole⟩, depth, rest, _ => by
    simp only [prettyChars, List.cons_append, List.append_assoc]
    rw [tokens_mark (t := .openList) rfl, tokens_lineBreak,
      tokens_prettyChars v whole _ _ (ends_prettyItems depth items rest),
      tokens_prettyItems items itemsWhole]
    simp [spelling]
  | .object [], _, _, _, _ => rfl
  | .object ((k, v) :: members), ⟨whole, membersWhole⟩, depth, rest, _ => by
    simp only [prettyChars, List.cons_append, List.append_assoc]
    rw [tokens_mark (t := .openObject) rfl, tokens_lineBreak, tokens_quoteChars,
      tokens_mark (t := .colon) rfl, tokens_space (by decide),
      tokens_prettyChars v whole _ _ (ends_prettyMembers depth members rest),
      tokens_prettyMembers members membersWhole]
    simp [spelling]
  | .null, whole, _, _, ends | .bool _, whole, _, _, ends | .number _, whole, _, _, ends
  | .string _, whole, _, _, ends => tokens_atom whole ends trivial

theorem tokens_prettyItems : ∀ items : List Json, ItemsWhole items →
    ∀ (depth : Nat) (rest : List Char),
    Reading.nothing.tokens (prettyItems depth items ++ rest) =
      itemsSpelling items ++ Reading.nothing.tokens rest
  | [], _, depth, rest => by
    rw [prettyItems, List.append_assoc, tokens_lineBreak]
    exact tokens_mark rfl rest
  | v :: items, ⟨whole, itemsWhole⟩, depth, rest => by
    simp only [prettyItems, List.cons_append, List.append_assoc]
    rw [tokens_mark (t := .comma) rfl, tokens_lineBreak,
      tokens_prettyChars v whole _ _ (ends_prettyItems depth items rest),
      tokens_prettyItems items itemsWhole]
    simp [itemsSpelling]

theorem tokens_prettyMembers : ∀ members : Members, MembersWhole members →
    ∀ (depth : Nat) (rest : List Char),
    Reading.nothing.tokens (prettyMembers depth members ++ rest) =
      membersSpelling members ++ Reading.nothing.tokens rest
  | [], _, depth, rest => by
    rw [prettyMembers, List.append_assoc, tokens_lineBreak]
    exact tokens_mark rfl rest
  | (k, v) :: members, ⟨whole, membersWhole⟩, depth, rest => by
    simp only [prettyMembers, List.cons_append, List.append_assoc]
    rw [tokens_mark (t := .comma) rfl, tokens_lineBreak, tokens_quoteChars,
      tokens_mark (t := .colon) rfl, tokens_space (by decide),
      tokens_prettyChars v whole _ _ (ends_prettyMembers depth members rest),
      tokens_prettyMembers members membersWhole]
    simp [membersSpelling]

end

end Json
end PageBuilder
