import PageBuilder.Number.Binary64

set_option autoImplicit false

namespace PageBuilder

theorem pow2_add (m n : Nat) : pow2 (m + n) = pow2 m * pow2 n := Nat.pow_add 2 m n

theorem pow2_pos (n : Nat) : 0 < pow2 n := Nat.pow_pos Nat.two_pos

theorem pow2_le {m n : Nat} (le : m ≤ n) : pow2 m ≤ pow2 n := Nat.pow_le_pow_right Nat.two_pos le

theorem log2_lt_of_lt_pow2 {n k : Nat} (nonzero : n ≠ 0) (lt : n < pow2 k) : n.log2 < k :=
  (Nat.log2_lt nonzero).2 lt

namespace Binary64

theorem isNaN_of_isFinite {x : Binary64} (finite : x.isFinite) : x.isNaN = false := by
  rw [isFinite, bne_iff_ne] at finite
  rw [isNaN, beq_false_of_ne finite, Bool.false_and]

theorem isFinite_pack (negative : Bool) (significand : Nat) {scale : Nat} (small : scale < 2045) :
    (pack negative significand scale).isFinite := by
  have finite : ∀ p < 2046, ∀ fraction, isFinite ⟨negative, Fin.ofNat 2048 (p + 1), fraction⟩ := by
    intro p below fraction
    have exponent : (Fin.ofNat 2048 (p + 1)).val = p + 1 := Nat.mod_eq_of_lt (by omega)
    rw [isFinite, bne_iff_ne, exponent]
    omega
  unfold pack
  split
  · rfl
  · by_cases narrow : significand < pow2 53
    · simp only [narrow, if_true]
      rw [if_pos (by omega)]
      exact finite scale (by omega) _
    · simp only [narrow, if_false]
      rw [if_pos (by omega)]
      exact finite (scale + 1) (by omega) _

theorem isFinite_ofInt {n : Int} {k : Nat} (lt : n.natAbs < pow2 k) (small : k < 1024) :
    (ofInt n).isFinite := by
  have scaled : n.natAbs * pow2 1074 < pow2 (k + 1074) := by
    rw [pow2_add]
    exact Nat.mul_lt_mul_of_pos_right lt (pow2_pos 1074)
  have bits : (n.natAbs * pow2 1074).log2 < k + 1074 := by
    by_cases zero : n.natAbs * pow2 1074 = 0
    · rw [zero, Nat.log2_zero]
      omega
    · exact log2_lt_of_lt_pow2 zero scaled
  simp only [ofInt, ofRatio, Nat.div_one]
  exact isFinite_pack _ _ (by omega)

theorem divEven_mul (n : Nat) {den : Nat} (positive : 0 < den) : divEven (n * den) den = n := by
  unfold divEven
  rw [Nat.mul_div_cancel n positive, Nat.mul_mod_left]
  exact if_pos (by omega)

theorem log2_mul_pow2 {n bits : Nat} (low : pow2 bits ≤ n) (high : n < pow2 (bits + 1)) (k : Nat) :
    (n * pow2 k).log2 = bits + k := by
  have positive : 0 < n := Nat.lt_of_lt_of_le (pow2_pos bits) low
  have nonzero : n * pow2 k ≠ 0 := Nat.ne_of_gt (Nat.mul_pos positive (pow2_pos k))
  refine (Nat.log2_eq_iff nonzero).2 ⟨?_, ?_⟩
  · change pow2 (bits + k) ≤ n * pow2 k
    rw [pow2_add]
    exact Nat.mul_le_mul_right _ low
  · change n * pow2 k < pow2 (bits + k + 1)
    rw [Nat.add_right_comm, pow2_add]
    exact Nat.mul_lt_mul_of_pos_right high (pow2_pos k)

theorem significand_bounds {x : Binary64} (normal : x.exponent.val ≠ 0) :
    pow2 52 ≤ x.significand ∧ x.significand < pow2 53 := by
  have fraction : x.fraction.val < pow2 52 := x.fraction.isLt
  have double : pow2 53 = pow2 52 + pow2 52 := rfl
  rw [significand, if_neg normal]
  omega

theorem pack_significand {x : Binary64} (finite : x.isFinite) (normal : x.exponent.val ≠ 0) :
    pack false x.significand x.scale = { x with negative := false } := by
  obtain ⟨low, high⟩ := significand_bounds normal
  rw [isFinite, bne_iff_ne] at finite
  have exponent := x.exponent.isLt
  have scale : x.scale + 1 = x.exponent.val := Nat.sub_add_cancel (Nat.pos_of_ne_zero normal)
  have fraction : x.significand - pow2 52 = x.fraction.val := by
    rw [significand, if_neg normal, Nat.add_sub_cancel_left]
  unfold pack
  rw [if_neg (Nat.not_lt.2 low), if_pos high]
  simp only [fraction, scale]
  rw [if_pos (by omega)]
  simp

theorem magnitude_of_subnormal {x : Binary64} (subnormal : x.exponent.val = 0) :
    x.magnitude = x.fraction.val := by
  rw [magnitude, significand, scale, subnormal, if_pos rfl]
  exact Nat.mul_one _

theorem ofNat_whole {x : Binary64} (whole : x.isWhole) :
    ofNat (x.magnitude / pow2 1074) = { x with negative := false } := by
  rw [isWhole, Bool.and_eq_true, beq_iff_eq] at whole
  obtain ⟨finite, divisible⟩ := whole
  have steps : x.magnitude / pow2 1074 * pow2 1074 = x.magnitude :=
    Nat.div_mul_cancel (Nat.dvd_of_mod_eq_zero divisible)
  rw [ofNat, ofRatio, steps, Nat.div_one, Nat.one_mul]
  by_cases subnormal : x.exponent.val = 0
  · have narrow : pow2 52 ≤ pow2 1074 := pow2_le (by decide)
    have zero : x.fraction.val = 0 := by
      rw [magnitude_of_subnormal subnormal,
        Nat.mod_eq_of_lt (Nat.lt_of_lt_of_le x.fraction.isLt narrow)] at divisible
      exact divisible
    have same : (⟨false, 0, 0⟩ : Binary64) = { x with negative := false } := by
      rw [Binary64.mk.injEq]
      exact ⟨rfl, Fin.ext subnormal.symm, Fin.ext zero.symm⟩
    rw [magnitude_of_subnormal subnormal, zero, Nat.log2_zero, ← same]
    rfl
  · obtain ⟨low, high⟩ := significand_bounds subnormal
    have bits : x.magnitude.log2 - 52 = x.scale := by
      rw [magnitude, log2_mul_pow2 low high, Nat.add_sub_cancel_left]
    rw [bits, magnitude, divEven_mul x.significand (pow2_pos x.scale),
      pack_significand finite subnormal]

/-- A number with its sign, but zero without one. -/
def dropZeroSign (x : Binary64) : Binary64 := if x.isZero then { x with negative := false } else x

theorem natAbs_truncate (x : Binary64) : x.truncate.natAbs = x.magnitude / pow2 1074 := by
  unfold truncate
  split
  · rw [Int.natAbs_neg, Int.natAbs_natCast]
  · exact Int.natAbs_natCast _

theorem truncate_neg_iff (x : Binary64) :
    x.truncate < 0 ↔ x.negative ∧ x.magnitude / pow2 1074 ≠ 0 := by
  unfold truncate
  generalize x.magnitude / pow2 1074 = n
  cases x.negative with
  | false => simp
  | true =>
    have below : -(n : Int) < 0 ↔ n ≠ 0 := by omega
    simpa using below

theorem isZero_iff_of_whole {x : Binary64} (whole : x.isWhole) :
    x.isZero ↔ x.magnitude / pow2 1074 = 0 := by
  rw [isWhole, Bool.and_eq_true, beq_iff_eq] at whole
  have steps : x.magnitude / pow2 1074 * pow2 1074 = x.magnitude :=
    Nat.div_mul_cancel (Nat.dvd_of_mod_eq_zero whole.2)
  rw [isZero, whole.1, Bool.and_true, beq_iff_eq]
  refine ⟨fun none => by rw [none, Nat.zero_div], fun none => ?_⟩
  rw [← steps, none, Nat.zero_mul]

/-- A whole number is read from its sign and its digits. -/
theorem signed_ofNat_whole {x : Binary64} (whole : x.isWhole) :
    (if x.truncate < 0 then (ofNat x.truncate.natAbs).neg else ofNat x.truncate.natAbs) =
      x.dropZeroSign := by
  have zero := isZero_iff_of_whole whole
  have digits := ofNat_whole whole
  have below := truncate_neg_iff x
  rw [natAbs_truncate, digits, dropZeroSign]
  by_cases none : x.magnitude / pow2 1074 = 0
  · rw [if_neg fun negative => (below.1 negative).2 none, if_pos (zero.2 none)]
  · rw [if_neg fun isZero => none (zero.1 isZero)]
    obtain ⟨sign, exponent, fraction⟩ := x
    cases sign with
    | false => exact if_neg fun negative => Bool.false_ne_true (below.1 negative).1
    | true => exact if_pos (below.2 ⟨rfl, none⟩)

theorem steps_of_whole {x : Binary64} (whole : x.isWhole) :
    x.steps = x.truncate * (pow2 1074 : Int) := by
  rw [isWhole, Bool.and_eq_true, beq_iff_eq] at whole
  have steps : (x.magnitude : Int) = (x.magnitude / pow2 1074 : Nat) * (pow2 1074 : Int) := by
    exact_mod_cast (Nat.div_mul_cancel (Nat.dvd_of_mod_eq_zero whole.2)).symm
  unfold Binary64.steps truncate
  split
  · rw [Int.neg_mul, ← steps]
  · exact steps

theorem steps_dropZeroSign (x : Binary64) : x.dropZeroSign.steps = x.steps := by
  unfold dropZeroSign
  split
  · rename_i zero
    rw [isZero, Bool.and_eq_true, beq_iff_eq] at zero
    have none : Binary64.magnitude { x with negative := false } = 0 := zero.1
    rw [Binary64.steps, Binary64.steps, none, zero.1]
    simp
  · rfl

theorem magnitude_pack {significand scale : Nat} (low : pow2 52 ≤ significand)
    (high : significand < pow2 53) (small : scale < 2046) :
    (pack false significand scale).magnitude = significand * pow2 scale := by
  have double : pow2 53 = pow2 52 + pow2 52 := rfl
  have exponent : (scale + 1) % 2048 = scale + 1 := Nat.mod_eq_of_lt (by omega)
  have fraction : (significand - pow2 52) % 4503599627370496 = significand - pow2 52 :=
    Nat.mod_eq_of_lt (show significand - pow2 52 < pow2 52 by omega)
  unfold pack
  rw [if_neg (Nat.not_lt.2 low), if_pos high]
  simp only [if_pos small, magnitude, Binary64.significand, Binary64.scale, Fin.val_ofNat, exponent,
    fraction]
  rw [if_neg (Nat.succ_ne_zero scale), Nat.add_sub_cancel' low, Nat.add_sub_cancel]

theorem magnitude_ofNat {n : Nat} (small : n < pow2 53) :
    (ofNat n).magnitude = n * pow2 1074 := by
  by_cases zero : n = 0
  · rw [zero]
    decide +kernel
  · have low : pow2 n.log2 ≤ n := Nat.log2_self_le zero
    have high : n < pow2 (n.log2 + 1) := Nat.lt_log2_self
    have bits : n.log2 ≤ 52 := Nat.lt_succ_iff.1 (log2_lt_of_lt_pow2 zero small)
    have shift : pow2 (52 - n.log2) * pow2 (n.log2 + 1022) = pow2 1074 := by
      rw [← pow2_add]
      exact congrArg pow2 (by omega)
    have split : n * pow2 1074 = n * pow2 (52 - n.log2) * pow2 (n.log2 + 1022) := by
      rw [Nat.mul_assoc, shift]
    have above : pow2 52 ≤ n * pow2 (52 - n.log2) := by
      have start : pow2 52 = pow2 n.log2 * pow2 (52 - n.log2) := by
        rw [← pow2_add, Nat.add_sub_cancel' bits]
      rw [start]
      exact Nat.mul_le_mul_right _ low
    have below : n * pow2 (52 - n.log2) < pow2 53 := by
      have stop : pow2 53 = pow2 (n.log2 + 1) * pow2 (52 - n.log2) := by
        rw [← pow2_add]
        exact congrArg pow2 (by omega)
      rw [stop]
      exact Nat.mul_lt_mul_of_pos_right high (pow2_pos _)
    have scale : (n * pow2 1074).log2 - 52 = n.log2 + 1022 := by
      rw [log2_mul_pow2 low high]
      omega
    rw [ofNat, ofRatio, Nat.div_one, scale, Nat.one_mul, split, divEven_mul _ (pow2_pos _),
      magnitude_pack above below (by omega)]

theorem negative_pack (negative : Bool) (significand scale : Nat) :
    (pack negative significand scale).negative = negative := by
  unfold pack
  split
  · rfl
  · dsimp only
    split <;> split <;> rfl

theorem steps_ofNat {n : Nat} (small : n < pow2 53) : (ofNat n).steps = n * (pow2 1074 : Int) := by
  have negative : (ofNat n).negative = false := negative_pack ..
  rw [steps, negative, if_neg Bool.false_ne_true, magnitude_ofNat small, Int.natCast_mul]

theorem less_ofNat {m n : Nat} (smallM : m < pow2 53) (smallN : n < pow2 53) :
    (ofNat m).less (ofNat n) = decide (m < n) := by
  have unit : 0 < (pow2 1074 : Int) := by exact_mod_cast pow2_pos 1074
  have scaled : (m : Int) * (pow2 1074 : Int) < n * (pow2 1074 : Int) ↔ m < n := by
    rw [Int.mul_lt_mul_right unit, Int.ofNat_lt]
  rw [less, steps_ofNat smallM, steps_ofNat smallN, decide_eq_decide.2 scaled]

theorem ofInt_natCast (n : Nat) : ofInt n = ofNat n := by
  rw [ofInt, ofNat, Int.natAbs_natCast, decide_eq_false (by omega)]

theorem isZero_ofNat {n : Nat} (small : n < pow2 53) : (ofNat n).isZero = decide (n = 0) := by
  have finite : (ofNat n).isFinite := by
    rw [← ofInt_natCast]
    exact isFinite_ofInt small (by decide)
  have unit : pow2 1074 ≠ 0 := Nat.ne_of_gt (pow2_pos 1074)
  rw [isZero, finite, Bool.and_true, magnitude_ofNat small]
  exact decide_eq_decide.2 (by rw [Nat.mul_eq_zero, or_iff_left unit])

end Binary64
end PageBuilder
