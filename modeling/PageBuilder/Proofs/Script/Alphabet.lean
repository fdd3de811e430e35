import Mathlib.Data.List.Basic

set_option autoImplicit false

/-!
# Alphabets

The characters that the names of a script are spelled with. All alphabets agree on the first 128
characters, so a name that needs no others is a name in each of them.
-/

namespace PageBuilder.Script

def isSpace (c : Char) : Bool :=
  ['\t', '\n', '\x0b', '\x0c', '\r', ' ', '\u00a0', '\u1680', '\u2028', '\u2029', '\u202f',
    '\u205f', '\u3000', '\ufeff'].contains c || '\u2000' ≤ c && c ≤ '\u200a'

def isNameStart (c : Char) : Bool := c.isAlpha || c = '_' || c = '$'

def isNameChar (c : Char) : Bool := c.isAlphanum || c = '_' || c = '$'

/-- The Latin letters, capital and small. -/
theorem isAlpha_iff (c : Char) :
    c.isAlpha ↔ (65 ≤ c.toNat ∧ c.toNat ≤ 90) ∨ (97 ≤ c.toNat ∧ c.toNat ≤ 122) := by
  change (decide (65 ≤ c.toNat ∧ c.toNat ≤ 90) ||
    decide (97 ≤ c.toNat) && decide (c.toNat ≤ 122)) = true ↔ _
  simp only [Bool.or_eq_true, Bool.and_eq_true, decide_eq_true_eq]

theorem isDigit_iff (c : Char) : c.isDigit ↔ 48 ≤ c.toNat ∧ c.toNat ≤ 57 := by
  change (decide (48 ≤ c.toNat) && decide (c.toNat ≤ 57)) = true ↔ _
  simp only [Bool.and_eq_true, decide_eq_true_eq]

theorem isNameChar_of_isNameStart {c : Char} (start : isNameStart c) : isNameChar c := by
  simp only [isNameStart, isNameChar, Bool.or_eq_true, Char.isAlphanum] at start ⊢
  rcases start with (letter | low) | dollar
  · exact .inl (.inl (.inl letter))
  · exact .inl (.inr low)
  · exact .inr dollar

theorem toNat_of_isNameChar {c : Char} (letter : isNameChar c) : c.toNat < 128 := by
  simp only [isNameChar, Char.isAlphanum, Bool.or_eq_true, decide_eq_true_eq, isAlpha_iff,
    isDigit_iff] at letter
  rcases letter with (letter | rfl) | rfl
  · omega
  · decide
  · decide

theorem isNameChar_of_isDigit {c : Char} (digit : c.isDigit) : isNameChar c := by
  simp [isNameChar, Char.isAlphanum, digit]

theorem isDigit_of_isNameStart {c : Char} (start : isNameStart c) : c.isDigit = false := by
  by_contra digit
  simp only [isNameStart, Bool.not_eq_false, Bool.or_eq_true, decide_eq_true_eq, isAlpha_iff,
    isDigit_iff] at start digit
  rcases start with (letter | rfl) | rfl
  · omega
  · exact absurd digit (by decide)
  · exact absurd digit (by decide)

/-- Among the first 128 characters these are the Latin letters, the digits, `_` and `$`; which others
there are depends on the version of the character set. -/
structure Alphabet where
  isStart : Char → Bool
  isPart : Char → Bool
  part_of_start : ∀ c, isStart c → isPart c
  start_latin : ∀ c, c.toNat < 128 → isStart c = isNameStart c
  part_latin : ∀ c, c.toNat < 128 → isPart c = isNameChar c
  space_of_part : ∀ c, isPart c → isSpace c = false

/-- The letters beyond the first 128 characters and before the first 256. -/
def isAccented (c : Char) : Bool :=
  ['\u00aa', '\u00b5', '\u00ba'].contains c ||
    '\u00c0' ≤ c && c ≤ '\u00ff' && c != '\u00d7' && c != '\u00f7'

theorem toNat_of_isAccented {c : Char} (accented : isAccented c) :
    128 ≤ c.toNat ∧ c.toNat < 256 := by
  simp only [isAccented, Bool.or_eq_true, Bool.and_eq_true, decide_eq_true_eq,
    List.contains_eq_mem, List.mem_cons, List.not_mem_nil, or_false] at accented
  rcases accented with (rfl | rfl | rfl) | ⟨⟨⟨low, high⟩, _⟩, _⟩
  · decide
  · decide
  · decide
  · change 192 ≤ c.toNat at low
    change c.toNat ≤ 255 at high
    omega

theorem isAccented_of_latin {c : Char} (latin : c.toNat < 128) : isAccented c = false := by
  by_contra accented
  exact Nat.not_lt.2 (toNat_of_isAccented (Bool.not_eq_false _ ▸ accented)).1 latin

theorem isSpace_of_western {c : Char}
    (part : isNameChar c || isAccented c || c = '\u00b7') : isSpace c = false := by
  have all : ∀ n < 256, (isNameChar (Char.ofNat n) || isAccented (Char.ofNat n) ||
      Char.ofNat n = '\u00b7') = true → isSpace (Char.ofNat n) = false := by decide +kernel
  have low : c.toNat < 256 := by
    simp only [Bool.or_eq_true, decide_eq_true_eq] at part
    rcases part with (latin | accented) | rfl
    · exact Nat.lt_trans (toNat_of_isNameChar latin) (by decide)
    · exact (toNat_of_isAccented accented).2
    · decide
  rw [← Char.ofNat_toNat c] at part ⊢
  exact all c.toNat low part

namespace Alphabet

/-- The names that are spelled with the first 128 characters. -/
def latin : Alphabet where
  isStart := isNameStart
  isPart := isNameChar
  part_of_start _ := isNameChar_of_isNameStart
  start_latin _ _ := rfl
  part_latin _ _ := rfl
  space_of_part c part := isSpace_of_western (by rw [part, Bool.true_or, Bool.true_or])

/-- The names that are spelled with the first 256 characters. -/
def western : Alphabet where
  isStart c := isNameStart c || isAccented c
  isPart c := isNameChar c || isAccented c || c = '\u00b7'
  part_of_start c start := by
    rw [Bool.or_eq_true] at start
    rcases start with latin | accented
    · rw [isNameChar_of_isNameStart latin, Bool.true_or, Bool.true_or]
    · rw [accented, Bool.or_true, Bool.true_or]
  start_latin c latin := by rw [isAccented_of_latin latin, Bool.or_false]
  part_latin c latin := by
    have dot : c ≠ '\u00b7' := by
      rintro rfl
      exact absurd latin (by decide)
    simp [isAccented_of_latin latin, dot]
  space_of_part _ := isSpace_of_western

variable (a : Alphabet)

def isName (name : String) : Bool :=
  match name.toList with
  | [] => false
  | c :: letters => a.isStart c && letters.all a.isPart

variable {a}

theorem part_of_isNameChar {c : Char} (letter : isNameChar c) : a.isPart c := by
  rw [a.part_latin c (toNat_of_isNameChar letter), letter]

theorem start_of_isNameStart {c : Char} (start : isNameStart c) : a.isStart c := by
  rw [a.start_latin c (toNat_of_isNameChar (isNameChar_of_isNameStart start)), start]

theorem isDigit_of_start {c : Char} (start : a.isStart c) : c.isDigit = false := by
  by_contra digit
  rw [Bool.not_eq_false] at digit
  have latin := toNat_of_isNameChar (isNameChar_of_isDigit digit)
  rw [a.start_latin c latin] at start
  rw [isDigit_of_isNameStart start] at digit
  cases digit

theorem ne_of_part {c d : Char} (part : a.isPart c) (latin : d.toNat < 128)
    (other : isNameChar d = false) : c ≠ d := by
  rintro rfl
  rw [a.part_latin c latin, other] at part
  cases part

theorem isName_letters {name : String} (valid : a.isName name) :
    ∃ c letters, name.toList = c :: letters ∧ a.isStart c ∧ ∀ d ∈ c :: letters, a.isPart d := by
  unfold isName at valid
  split at valid
  · cases valid
  · rename_i c letters spelled
    rw [Bool.and_eq_true, List.all_eq_true] at valid
    exact ⟨c, letters, spelled, valid.1,
      List.forall_mem_cons.2 ⟨a.part_of_start c valid.1, valid.2⟩⟩

/-- A name that the first 128 characters spell is a name in every alphabet. -/
theorem isName_of_latin {name : String} (valid : latin.isName name) : a.isName name := by
  obtain ⟨c, letters, spelled, start, parts⟩ := isName_letters valid
  rw [isName, spelled, Bool.and_eq_true, List.all_eq_true]
  exact ⟨start_of_isNameStart start,
    fun d mem => part_of_isNameChar (parts d (List.mem_cons_of_mem _ mem))⟩

end Alphabet
end PageBuilder.Script
