import PageBuilder.Proofs.Script.Unambiguous

set_option autoImplicit false

namespace PageBuilder

namespace Script

def Term.number? : Term → Option Binary64
  | .number n => some (.ofNat n)
  | .unary "-" (.number n) => some (Binary64.ofNat n).neg
  | _ => none

/-- The number that a text stands for, if it is a number literal as a whole. -/
def Alphabet.number? (a : Alphabet) (text : String) : Option Binary64 :=
  (a.term? text).bind Term.number?

theorem Alphabet.number?_intText (a : Alphabet) (n : Int) : a.number? (intText n) =
    some (if n < 0 then (Binary64.ofNat n.natAbs).neg else Binary64.ofNat n.natAbs) := by
  have spells : Spells a (intText n) _ := spells_whole n
  rw [Alphabet.number?, spells.term?, Option.bind_some]
  split <;> rfl

end Script

namespace Binary64

def wordEnd : Binary64 := ⟨false, ⟨1086, by decide⟩, ⟨0, by decide⟩⟩

/-- The nearest number from `-2 ^ 63` to `2 ^ 63`. -/
def clamped (x : Binary64) : Binary64 :=
  if x.truncate.natAbs ≤ pow2 63 then x.dropZeroSign
  else if x.negative then wordEnd.neg else wordEnd

theorem ofNat_wordEnd : ofNat (pow2 63) = wordEnd := by decide +kernel

theorem ofNat_wordEnd_pred : ofNat (pow2 63 - 1) = wordEnd := by decide +kernel

theorem steps_wordEnd : wordEnd.steps = (pow2 63 : Int) * (pow2 1074 : Int) := by decide +kernel

theorem steps_neg (x : Binary64) : x.neg.steps = -x.steps := by
  obtain ⟨negative, exponent, fraction⟩ := x
  cases negative with
  | false => rfl
  | true => exact (Int.neg_neg _).symm

theorem same_clamped_iff {x : Binary64} (whole : x.isWhole) :
    x.clamped.same x ↔ x.truncate.natAbs ≤ pow2 63 := by
  have steps := steps_of_whole whole
  have unit : (pow2 1074 : Int) ≠ 0 := by exact_mod_cast Nat.ne_of_gt (pow2_pos 1074)
  have bound : (pow2 63 : Int) = 9223372036854775808 := rfl
  have small : pow2 63 = 9223372036854775808 := rfl
  rw [same, beq_iff_eq, clamped]
  by_cases within : x.truncate.natAbs ≤ pow2 63
  · rw [if_pos within, steps_dropZeroSign]
    exact iff_of_true rfl within
  · rw [if_neg within]
    refine iff_of_false (fun equal => within ?_) within
    rw [steps] at equal
    split at equal
    · rw [steps_neg, steps_wordEnd, ← Int.neg_mul] at equal
      have ends := Int.eq_of_mul_eq_mul_right unit equal
      omega
    · rw [steps_wordEnd] at equal
      have ends := Int.eq_of_mul_eq_mul_right unit equal
      omega

theorem clamped_of_below {x : Binary64} (below : x.truncate < -9223372036854775808) :
    x.clamped = wordEnd.neg := by
  have small : pow2 63 = 9223372036854775808 := rfl
  have negative := ((truncate_neg_iff x).1 (by omega)).1
  rw [clamped, if_neg (by omega), if_pos negative]

theorem negative_of_truncate_pos {x : Binary64} (positive : 0 < x.truncate) :
    x.negative = false := by
  by_contra negative
  rw [Bool.not_eq_false] at negative
  have atMost : x.truncate ≤ 0 := by
    rw [truncate, if_pos negative]
    exact Int.neg_nonpos_of_nonneg (Int.natCast_nonneg _)
  omega

theorem clamped_of_above {x : Binary64} (whole : x.isWhole)
    (above : 9223372036854775807 < x.truncate) : x.clamped = wordEnd := by
  have small : pow2 63 = 9223372036854775808 := rfl
  have exact := signed_ofNat_whole whole
  rw [clamped]
  split
  · have last : x.truncate = 9223372036854775808 := by omega
    rw [last, if_neg (by decide)] at exact
    rw [← exact]
    exact ofNat_wordEnd
  · rw [negative_of_truncate_pos (by omega)]
    rfl

theorem clamped_of_within {x : Binary64} (low : -9223372036854775808 ≤ x.truncate)
    (high : x.truncate ≤ 9223372036854775807) : x.clamped = x.dropZeroSign := by
  have small : pow2 63 = 9223372036854775808 := rfl
  rw [clamped, if_pos (by omega)]

end Binary64

theorem number?_numberLiteral (a : Script.Alphabet) {x : Binary64} (whole : x.isWhole) :
    a.number? (numberLiteral x) = some x.clamped := by
  rw [numberLiteral, if_pos whole, Script.Alphabet.number?_intText]
  refine congrArg some ?_
  by_cases below : x.truncate < -9223372036854775808
  · have clamp : clampToWord x.truncate = -9223372036854775808 := by
      unfold clampToWord
      omega
    rw [clamp, Binary64.clamped_of_below below, if_pos (by decide)]
    exact congrArg Binary64.neg Binary64.ofNat_wordEnd
  · by_cases above : 9223372036854775807 < x.truncate
    · have clamp : clampToWord x.truncate = 9223372036854775807 := by
        unfold clampToWord
        omega
      rw [clamp, Binary64.clamped_of_above whole above, if_neg (by decide)]
      exact Binary64.ofNat_wordEnd_pred
    · have clamp : clampToWord x.truncate = x.truncate := by
        unfold clampToWord
        omega
      rw [clamp, Binary64.clamped_of_within (by omega) (by omega)]
      exact Binary64.signed_ofNat_whole whole

/--
A number literal denotes its number up to the ends of a word. Evaluation keeps every whole number as
it is. Its literal is read as the nearest number from `-2 ^ 63` to `2 ^ 63`, so as the same number
exactly if it is not beyond these ends.
-/
theorem number_literal_denotes_iff (a : Script.Alphabet) {x : Binary64} (whole : x.isWhole) :
    (∀ scope, (Expr.number x).eval scope = .number (.real x)) ∧
      a.number? (Expr.number x).script = some x.clamped ∧
      (x.clamped.same x ↔ x.truncate.natAbs ≤ pow2 63) := by
  have finite : x.isFinite := (Bool.and_eq_true _ _ ▸ whole).1
  refine ⟨fun scope => ?_, ?_, Binary64.same_clamped_iff whole⟩
  · rw [Expr.eval, if_pos finite]
  · rw [Expr.script]
    exact number?_numberLiteral a whole

/-- The end of a word is just too large for a word, but its literal denotes it. -/
theorem number_literal_denotes_wordEnd :
    let x : Binary64 := Binary64.wordEnd
    x.isWhole ∧ (Expr.number x).eval [] = .number (.real x) ∧
      Script.Alphabet.western.number? (Expr.number x).script = some x.clamped ∧
      x.clamped.same x := by
  intro x
  have whole : x.isWhole := by decide +kernel
  obtain ⟨eval, read, exact⟩ := number_literal_denotes_iff .western whole
  exact ⟨whole, eval [], read, exact.2 (by decide +kernel)⟩

/-- The literal of `10 ^ 19` denotes another number. -/
theorem large_literal_denotes_other :
    let x : Binary64 := .ofNat (pow10 19)
    x.isWhole ∧ (Expr.number x).eval [] = .number (.real x) ∧
      ¬ ∃ y, Script.Alphabet.western.number? (Expr.number x).script = some y ∧ y.same x := by
  intro x
  have whole : x.isWhole := by decide +kernel
  have finite : x.isFinite := by decide +kernel
  refine ⟨whole, by rw [Expr.eval, if_pos finite], ?_⟩
  rintro ⟨y, read, same⟩
  rw [Expr.script, number?_numberLiteral .western whole] at read
  have value := Option.some.inj read
  rw [← value] at same
  exact absurd ((Binary64.same_clamped_iff whole).1 same) (by decide +kernel)

end PageBuilder
