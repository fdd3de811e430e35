import Mathlib.Data.List.Infix
import PageBuilder.Component.Source

set_option autoImplicit false

/-!
# Comments

One pass takes the ends of comments out of the text of a comment. Where the text holds one end
inside another, the outer one closes up when the inner one is gone, and the comment ends there; in
every other case it is read to the end that stands after the text.
-/

namespace PageBuilder

def HoldsCommentEnd (text : List Char) : Prop := ['*', '/'] <:+: text

instance : DecidablePred HoldsCommentEnd := fun text => inferInstanceAs (Decidable (_ <:+: text))

def commentEnds : Nat → List Char
  | 0 => []
  | n + 1 => '*' :: '/' :: commentEnds n

/-- Somewhere in a text the two characters of an end stand around one or more whole ends. -/
def NestsCommentEnd (text : List Char) : Prop :=
  ∃ n, '*' :: commentEnds (n + 1) ++ ['/'] <:+: text

theorem holdsCommentEnd_cons {c : Char} {text : List Char} :
    HoldsCommentEnd (c :: text) ↔ '*' = c ∧ ['/'] <+: text ∨ HoldsCommentEnd text := by
  unfold HoldsCommentEnd
  rw [List.infix_cons_iff, List.cons_prefix_cons]

theorem nestsCommentEnd_cons {c : Char} {text : List Char} :
    NestsCommentEnd (c :: text) ↔
      '*' = c ∧ (∃ n, commentEnds (n + 1) ++ ['/'] <+: text) ∨ NestsCommentEnd text := by
  unfold NestsCommentEnd
  simp only [List.cons_append, List.infix_cons_iff, List.cons_prefix_cons, exists_or,
    exists_and_left]

theorem slash_prefix_withoutCommentEnds (text : List Char) :
    ['/'] <+: withoutCommentEnds text ↔ ∃ n, commentEnds n ++ ['/'] <+: text := by
  -- The first slash that is left has only whole ends before it.
  fun_induction withoutCommentEnds text with
  | case1 => simp
  | case2 rest ih =>
    rw [ih]
    constructor
    · rintro ⟨n, ends⟩
      exact ⟨n + 1, by simpa [commentEnds] using ends⟩
    · rintro ⟨n, ends⟩
      cases n with
      | zero => simp [commentEnds] at ends
      | succ n => exact ⟨n, by simpa [commentEnds] using ends⟩
  | case3 c rest other ih =>
    constructor
    · intro slash
      exact ⟨0, by simpa [commentEnds] using slash⟩
    · rintro ⟨n, ends⟩
      cases n with
      | zero => simpa [commentEnds] using ends
      | succ n =>
        simp only [commentEnds, List.cons_append, List.cons_prefix_cons] at ends
        obtain ⟨rfl, tail, rfl⟩ := ends
        exact absurd rfl (other _ rfl)

/-- One pass leaves an end exactly where it takes whole ends out of the middle of another. -/
theorem holdsCommentEnd_withoutCommentEnds (text : List Char) :
    HoldsCommentEnd (withoutCommentEnds text) ↔ NestsCommentEnd text := by
  fun_induction withoutCommentEnds text with
  | case1 => simp [HoldsCommentEnd, NestsCommentEnd]
  | case2 rest ih =>
    rw [ih, nestsCommentEnd_cons, nestsCommentEnd_cons]
    simp [commentEnds]
  | case3 c rest other ih =>
    rw [holdsCommentEnd_cons, nestsCommentEnd_cons, ih, slash_prefix_withoutCommentEnds]
    refine or_congr_left (and_congr_right ?_)
    rintro rfl
    constructor
    · rintro ⟨n, ends⟩
      cases n with
      | zero =>
        -- A slash directly after the star would have gone with it.
        obtain ⟨tail, rfl⟩ := ends
        exact absurd rfl (other tail rfl)
      | succ n => exact ⟨n, ends⟩
    · rintro ⟨n, ends⟩
      exact ⟨n + 1, ends⟩

instance : DecidablePred NestsCommentEnd := fun text =>
  decidable_of_iff _ (holdsCommentEnd_withoutCommentEnds text)

namespace Script

def afterComment? : List Char → Option (List Char)
  | [] => none
  | '*' :: '/' :: rest => some rest
  | _ :: rest => afterComment? rest

/-- Reads a comment in braces off the front of a text, but for the closing brace. -/
def comment? : List Char → Option (List Char)
  | '\x7b' :: '/' :: '*' :: rest => afterComment? rest
  | _ => none

/-- A character before a text that ends in a star begins an end only with a slash after it. -/
theorem holdsCommentEnd_cons_star {c : Char} {inside rest : List Char}
    (other : ∀ after, c = '*' → inside ++ '*' :: rest = '/' :: after → False) :
    HoldsCommentEnd (c :: inside ++ ['*']) ↔ HoldsCommentEnd (inside ++ ['*']) := by
  rw [List.cons_append, holdsCommentEnd_cons, or_iff_right]
  rintro ⟨rfl, slash⟩
  cases inside with
  | nil => simp at slash
  | cons b inside =>
    obtain ⟨rfl, _⟩ := List.cons_prefix_cons.1 slash
    exact other _ rfl rfl

/-- What is found is what stands after the first end, which no other overlaps. -/
theorem afterComment?_eq_some {text rest : List Char} :
    afterComment? text = some rest ↔
      ∃ inside, text = inside ++ '*' :: '/' :: rest ∧ ¬HoldsCommentEnd (inside ++ ['*']) := by
  fun_induction afterComment? text with
  | case1 => simp
  | case2 after =>
    constructor
    · intro same
      cases same
      exact ⟨[], rfl, by decide⟩
    · rintro ⟨inside, split, first⟩
      rcases inside with _ | ⟨a, _ | ⟨b, inside⟩⟩
      · simpa using split
      · simp at split
      · obtain ⟨rfl, rfl, rfl⟩ : '*' = a ∧ '/' = b ∧ after = inside ++ '*' :: '/' :: rest := by
          simpa using split
        exact absurd (List.prefix_append ['*', '/'] _).isInfix first
  | case3 c text other ih =>
    rw [ih]
    constructor
    · rintro ⟨inside, rfl, first⟩
      exact ⟨c :: inside, rfl, mt (holdsCommentEnd_cons_star other).1 first⟩
    · rintro ⟨inside, split, first⟩
      cases inside with
      | nil =>
        obtain ⟨rfl, rfl⟩ := List.cons.inj split
        exact absurd rfl (other rest rfl)
      | cons a inside =>
        obtain ⟨rfl, rfl⟩ := List.cons.inj split
        exact ⟨inside, rfl, mt (holdsCommentEnd_cons_star other).2 first⟩

theorem holdsCommentEnd_append_star (text : List Char) :
    HoldsCommentEnd (text ++ [' ', '*']) ↔ HoldsCommentEnd text := by
  induction text with
  | nil => decide
  | cons c text ih =>
    rw [List.cons_append, holdsCommentEnd_cons, holdsCommentEnd_cons, ih]
    cases text <;> simp [List.cons_prefix_cons]

/-- The end after a text is the first one, unless the text holds one. -/
theorem afterComment?_iff (text rest : List Char) :
    afterComment? (text ++ ' ' :: '*' :: '/' :: rest) = some rest ↔ ¬HoldsCommentEnd text := by
  rw [afterComment?_eq_some, ← holdsCommentEnd_append_star text]
  constructor
  · rintro ⟨inside, split, first⟩
    have same : inside = text ++ [' '] := by
      have aligned : inside ++ '*' :: '/' :: rest = (text ++ [' ']) ++ '*' :: '/' :: rest := by
        rw [← split, List.append_assoc]
        rfl
      exact List.append_cancel_right aligned
    simpa [same] using first
  · intro first
    exact ⟨text ++ [' '], by simp, by simpa using first⟩

end Script

theorem comment?_braced (t : String) :
    Script.comment? ("\x7b/* " ++ t ++ " */\x7d").toList = some ['\x7d'] ↔
      ¬HoldsCommentEnd t.toList := by
  have spelled : ("\x7b/* " ++ t ++ " */\x7d").toList =
      '\x7b' :: '/' :: '*' :: (' ' :: t.toList ++ ' ' :: '*' :: '/' :: ['\x7d']) := by
    simp
  have spaced : HoldsCommentEnd (' ' :: t.toList) ↔ HoldsCommentEnd t.toList := by
    simp [holdsCommentEnd_cons]
  rw [spelled, Script.comment?, Script.afterComment?_iff, spaced]

end PageBuilder
