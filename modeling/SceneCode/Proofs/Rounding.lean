import SceneCode.Number.Rounding
import SceneCode.Proofs.Shortest

/-!
# Numbers read back from their intervals

Every rational in the interval of a number is rounded to this number (`ofQuotient_of_holds`), and so
is every decimal there (`ofDecimal_of_holds`).  The exponent that rounding finds is that of the
number, except just below a power of two: there it is one less, and the mantissa is rounded up to
the power.
-/

set_option autoImplicit false

namespace SceneCode.Number

/-! ## Bits -/

namespace Binary64

theorem assemble_fields (x : Binary64) :
    assemble x.negative x.biasedExponent x.fraction = x := by
  have small := x.bits.toNat_lt
  have whole : (if x.negative then signBit else 0) + x.biasedExponent * leadingBit + x.fraction =
      x.bits.toNat := by
    simp only [negative, biasedExponent, fraction, signBit, leadingBit, decide_eq_true_eq]
    split <;> omega
  unfold assemble
  rw [whole]
  simp

/-- A number that is neither an infinity nor a NaN. -/
def Finite (x : Binary64) : Prop := x.biasedExponent ≠ specialExponent

instance : DecidablePred Finite := fun x =>
  inferInstanceAs (Decidable (x.biasedExponent ≠ specialExponent))

variable {x : Binary64} {mantissa : Nat} {exponent : Int}

theorem Finite.exists_magnitude (finite : x.Finite) :
    ∃ mantissa exponent, x.magnitude = .finite mantissa exponent := by
  unfold magnitude
  rw [if_neg finite]
  split
  · exact ⟨_, _, rfl⟩
  · exact ⟨_, _, rfl⟩

/-- What the mantissa and the exponent of a finite number are, by its fields. -/
theorem fields_of_magnitude (finite : x.magnitude = .finite mantissa exponent) :
    (x.biasedExponent = 0 ∧ mantissa = x.fraction ∧ exponent = -1074) ∨
      (0 < x.biasedExponent ∧ x.biasedExponent < 2047 ∧
        mantissa = leadingBit + x.fraction ∧ exponent = x.biasedExponent - 1075) := by
  unfold magnitude at finite
  have below : x.biasedExponent < 2048 := Nat.mod_lt _ (by decide)
  have top : specialExponent = 2047 := rfl
  split_ifs at finite with special zero least
  · cases finite
    exact .inl ⟨least, rfl, rfl⟩
  · cases finite
    refine .inr ⟨by omega, ?_, rfl, rfl⟩
    omega

theorem canonical_of_magnitude (finite : x.magnitude = .finite mantissa exponent)
    (nonzero : mantissa ≠ 0) : Canonical mantissa exponent := by
  have small : x.fraction < leadingBit := Nat.mod_lt _ (by decide)
  rcases fields_of_magnitude finite with ⟨_, rfl, rfl⟩ | ⟨positive, below, rfl, rfl⟩
  · exact ⟨by omega, by omega, by decide, by decide, .inr rfl⟩
  · exact ⟨by omega, by omega, by omega, by omega, .inl (by omega)⟩

/-- A number is put together again from its mantissa and its exponent. -/
theorem ofMantissa_of_magnitude (finite : x.magnitude = .finite mantissa exponent) :
    ofMantissa x.negative mantissa exponent = x := by
  have small : x.fraction < leadingBit := Nat.mod_lt _ (by decide)
  unfold ofMantissa
  rcases fields_of_magnitude finite with ⟨least, rfl, rfl⟩ | ⟨positive, below, rfl, rfl⟩
  · rw [if_neg (by omega)]
    simp only [small, if_true]
    rw [← least]
    exact x.assemble_fields
  · rw [if_neg (by omega)]
    simp only
    rw [if_neg (by omega), if_neg (by omega), Nat.add_sub_cancel_left,
      show ((x.biasedExponent : Int) - 1075 + 1075).toNat = x.biasedExponent by omega]
    exact x.assemble_fields

end Binary64

/-! ## Rounding quotients -/

/-- The integer that a quotient is rounded to, by its distance in halves of the denominator. -/
theorem Quotient.round_of_bounds {q : Quotient} {n : Nat} (positive : 0 < q.den)
    (low : 2 * (n * q.den) ≤ 2 * q.num + q.den) (high : 2 * q.num ≤ 2 * (n * q.den) + q.den)
    (tie : n % 2 = 0 ∨
      (2 * (n * q.den) < 2 * q.num + q.den ∧ 2 * q.num < 2 * (n * q.den) + q.den)) :
    q.round = n := by
  have split := Nat.div_add_mod q.num q.den
  have rest := Nat.mod_lt q.num positive
  unfold round
  dsimp only
  generalize q.num / q.den = whole at split ⊢
  generalize q.num % q.den = left at split rest ⊢
  -- Only the two integers around the quotient are that near.
  have around : n = whole ∨ n = whole + 1 := by
    have above : whole < n + 1 := by
      by_contra more
      have product := Nat.mul_le_mul_right q.den (not_lt.mp more)
      nlinarith
    have below : n < whole + 2 := by
      by_contra more
      have product := Nat.mul_le_mul_right q.den (not_lt.mp more)
      nlinarith
    omega
  rw [← split, Nat.mul_comm q.den whole] at low high tie
  rcases around with rfl | rfl
  · split_ifs <;> omega
  · rw [Nat.add_mul] at low high tie
    split_ifs <;> omega

/-- A quotient is rounded to a number that is at most a half away, or less than a half if the number
is odd. -/
theorem Quotient.round_eq {q : Quotient} {n : Nat} (positive : 0 < q.den)
    (low : (n : ℚ) - 1 / 2 ≤ q.value) (high : q.value ≤ n + 1 / 2)
    (tie : n % 2 = 0 ∨ ((n : ℚ) - 1 / 2 < q.value ∧ q.value < n + 1 / 2)) : q.round = n := by
  have den : (0 : ℚ) < q.den := by exact_mod_cast positive
  refine round_of_bounds positive ?_ ?_ (tie.imp_right fun ⟨low, high⟩ => ⟨?_, ?_⟩)
  · rw [value, le_div_iff₀ den] at low
    have cast : (2 * (n * q.den) : ℚ) ≤ 2 * q.num + q.den := by linarith
    exact_mod_cast cast
  · rw [value, div_le_iff₀ den] at high
    have cast : (2 * q.num : ℚ) ≤ 2 * (n * q.den) + q.den := by linarith
    exact_mod_cast cast
  · rw [value, lt_div_iff₀ den] at low
    have cast : (2 * (n * q.den) : ℚ) < 2 * q.num + q.den := by linarith
    exact_mod_cast cast
  · rw [value, div_lt_iff₀ den] at high
    have cast : (2 * q.num : ℚ) < 2 * (n * q.den) + q.den := by linarith
    exact_mod_cast cast

/-! ## The exponent -/

/-- The exponent at which a quotient has fifty-three binary digits before the point. -/
def binaryExponent (q : Quotient) : Int :=
  let estimate : Int := q.num.log2 - q.den.log2 - 53
  if q.lt (Quotient.scaled (2 * Binary64.leadingBit) 2 estimate) then estimate else estimate + 1

theorem log2_bounds {number : Nat} (positive : 0 < number) :
    (2 : ℚ) ^ (number.log2 : Int) ≤ number ∧ (number : ℚ) < 2 ^ ((number.log2 : Int) + 1) := by
  have low := Nat.log2_self_le positive.ne'
  have high := Nat.lt_log2_self (n := number)
  constructor
  · rw [zpow_natCast]
    exact_mod_cast low
  · rw [zpow_add₀ two_ne_zero, zpow_natCast, zpow_one, ← pow_succ]
    exact_mod_cast high

theorem leading_eq : ((2 * Binary64.leadingBit : Nat) : ℚ) = 2 ^ (53 : Int) := by
  norm_num [Binary64.leadingBit]

theorem binaryExponent_bounds {q : Quotient} (num : 0 < q.num) (den : 0 < q.den) :
    (2 : ℚ) ^ (binaryExponent q + 52) ≤ q.value ∧ q.value < 2 ^ (binaryExponent q + 53) := by
  have denPositive : (0 : ℚ) < q.den := by exact_mod_cast den
  obtain ⟨numLow, numHigh⟩ := log2_bounds num
  obtain ⟨denLow, denHigh⟩ := log2_bounds den
  have low : (2 : ℚ) ^ ((q.num.log2 : Int) - q.den.log2 - 53 + 52) ≤ q.value := by
    rw [Quotient.value, le_div_iff₀ denPositive]
    calc (2 : ℚ) ^ ((q.num.log2 : Int) - q.den.log2 - 53 + 52) * q.den
        ≤ 2 ^ ((q.num.log2 : Int) - q.den.log2 - 53 + 52) * 2 ^ ((q.den.log2 : Int) + 1) :=
          mul_le_mul_of_nonneg_left denHigh.le (by positivity)
      _ = 2 ^ (q.num.log2 : Int) := by
          rw [← zpow_add₀ two_ne_zero]
          congr 1
          ring
      _ ≤ q.num := numLow
  have high : q.value < 2 ^ ((q.num.log2 : Int) - q.den.log2 - 53 + 1 + 53) := by
    rw [Quotient.value, div_lt_iff₀ denPositive]
    calc (q.num : ℚ) < 2 ^ ((q.num.log2 : Int) + 1) := numHigh
      _ = 2 ^ ((q.num.log2 : Int) - q.den.log2 - 53 + 1 + 53) * 2 ^ (q.den.log2 : Int) := by
          rw [← zpow_add₀ two_ne_zero]
          congr 1
          ring
      _ ≤ 2 ^ ((q.num.log2 : Int) - q.den.log2 - 53 + 1 + 53) * q.den :=
          mul_le_mul_of_nonneg_left denLow (by positivity)
  have decided := Quotient.lt_iff den
    (Quotient.den_scaled_pos (2 * Binary64.leadingBit) (by decide : 0 < 2)
      ((q.num.log2 : Int) - q.den.log2 - 53))
  rw [Quotient.value_scaled _ (by decide), leading_eq, Nat.cast_ofNat,
    ← zpow_add₀ two_ne_zero, add_comm] at decided
  unfold binaryExponent
  dsimp only
  split
  · rename_i fits
    exact ⟨low, decided.mp fits⟩
  · rename_i exceeds
    refine ⟨?_, high⟩
    have above := not_lt.mp (mt decided.mpr exceeds)
    rwa [show (q.num.log2 : Int) - q.den.log2 - 53 + 1 + 52 =
      (q.num.log2 : Int) - q.den.log2 - 53 + 53 by ring]

variable {mantissa : Nat} {exponent : Int}

theorem lt_of_two_zpow_lt {low high : Int} (less : (2 : ℚ) ^ low < 2 ^ high) : low < high :=
  (zpow_lt_zpow_iff_right₀ (by norm_num)).mp less

theorem leadingBit_eq : (Binary64.leadingBit : ℚ) = 2 ^ (52 : Int) := by
  norm_num [Binary64.leadingBit]

section Exponent

variable {q : Quotient} (canonical : Canonical mantissa exponent) (num : 0 < q.num)
  (den : 0 < q.den) (holds : (Interval.ofBinary mantissa exponent).Holds q.value)

include canonical num den holds

/-- The quotient is below the next power of two, so its exponent is not larger. -/
theorem Canonical.binaryExponent_le : binaryExponent q ≤ exponent := by
  have high := holds.bounds.2
  rw [Interval.high_ofBinary] at high
  have least := (binaryExponent_bounds num den).1
  have power : (0 : ℚ) < 2 ^ exponent := by positivity
  have small : mantissa + 1 ≤ 2 * Binary64.leadingBit := canonical.small
  have cast : (mantissa : ℚ) + 1 ≤ 2 ^ (53 : Int) := by
    rw [← leading_eq]
    exact_mod_cast small
  have less : (2 : ℚ) ^ (binaryExponent q + 52) < 2 ^ (53 + exponent) := by
    rw [zpow_add₀ two_ne_zero 53]
    nlinarith
  have compared := lt_of_two_zpow_lt less
  omega

/-- Above a power of two the quotient is not below it either. -/
theorem Canonical.le_binaryExponent (above : Binary64.leadingBit + 1 ≤ mantissa) :
    exponent ≤ binaryExponent q := by
  have low := holds.bounds.1
  rw [Interval.low_ofBinary canonical.positive] at low
  have greatest := (binaryExponent_bounds num den).2
  have power : (0 : ℚ) < 2 ^ exponent := by positivity
  have small := gap_le_two mantissa exponent
  have cast : (Binary64.leadingBit : ℚ) + 1 ≤ mantissa := by exact_mod_cast above
  have less : (2 : ℚ) ^ (52 + exponent) < 2 ^ (binaryExponent q + 53) := by
    rw [zpow_add₀ two_ne_zero 52, ← leadingBit_eq]
    nlinarith
  have compared := lt_of_two_zpow_lt less
  omega

/-- At a power of two the quotient is at least half of it. -/
theorem Canonical.pred_le_binaryExponent (power52 : mantissa = Binary64.leadingBit) :
    exponent - 1 ≤ binaryExponent q := by
  have low := holds.bounds.1
  rw [Interval.low_ofBinary canonical.positive, power52, leadingBit_eq] at low
  have greatest := (binaryExponent_bounds num den).2
  have power : (0 : ℚ) < 2 ^ exponent := by positivity
  have small := gap_le_two Binary64.leadingBit exponent
  have less : (2 : ℚ) ^ (51 + exponent) < 2 ^ (binaryExponent q + 53) := by
    rw [zpow_add₀ two_ne_zero 51]
    norm_num at low ⊢
    nlinarith
  have compared := lt_of_two_zpow_lt less
  omega

/-- In the interval of a number the exponent is that of the number, or one less just below a power
of two. -/
theorem Canonical.exponent_cases :
    max (-1074) (binaryExponent q) = exponent ∨
      (max (-1074) (binaryExponent q) = exponent - 1 ∧ mantissa = Binary64.leadingBit ∧
        ((Binary64.leadingBit : ℚ) - 1 / 4) * 2 ^ exponent ≤ q.value ∧
        q.value < Binary64.leadingBit * 2 ^ exponent) := by
  have least := canonical.least
  have notAbove := canonical.binaryExponent_le num den holds
  rcases gap_cases mantissa exponent with ⟨same, power52, above⟩ | ⟨_, notPower⟩
  · have notFar := canonical.pred_le_binaryExponent num den holds power52
    rcases eq_or_lt_of_le notAbove with equal | smaller
    · exact .inl (by omega)
    · refine .inr ⟨by omega, power52, ?_, ?_⟩
      · have low := holds.bounds.1
        rw [Interval.low_ofBinary canonical.positive, same, power52, Nat.cast_one] at low
        exact low
      · calc q.value < 2 ^ (binaryExponent q + 53) := (binaryExponent_bounds num den).2
          _ = 2 ^ ((52 : Int) + exponent) := by
              congr 1
              omega
          _ = Binary64.leadingBit * 2 ^ exponent := by rw [zpow_add₀ two_ne_zero, leadingBit_eq]
  · refine .inl ?_
    rcases canonical.normal with normal | subnormal
    · by_cases power52 : mantissa = Binary64.leadingBit
      · have smallest := notPower power52
        omega
      · have notBelow := canonical.le_binaryExponent num den holds (by omega)
        omega
    · omega

end Exponent

/-- What is in the interval of a number is at most half a unit away from it, and less than that if
the mantissa is odd. -/
theorem Canonical.half_bounds (canonical : Canonical mantissa exponent) {r : ℚ}
    (holds : (Interval.ofBinary mantissa exponent).Holds r) :
    ((mantissa : ℚ) - 1 / 2) * 2 ^ exponent ≤ r ∧ r ≤ (mantissa + 1 / 2) * 2 ^ exponent ∧
      (mantissa % 2 = 0 ∨
        ((mantissa : ℚ) - 1 / 2) * 2 ^ exponent < r ∧ r < (mantissa + 1 / 2) * 2 ^ exponent) := by
  have power : (0 : ℚ) < 2 ^ exponent := by positivity
  have small := gap_le_two mantissa exponent
  have lower : ((mantissa : ℚ) - 1 / 2) * 2 ^ exponent ≤
      (Interval.ofBinary mantissa exponent).low.value := by
    rw [Interval.low_ofBinary canonical.positive]
    exact mul_le_mul_of_nonneg_right (by linarith) power.le
  have upper := Interval.high_ofBinary mantissa exponent
  obtain ⟨low, high⟩ := holds.bounds
  refine ⟨lower.trans low, high.trans_eq upper, ?_⟩
  by_cases even : mantissa % 2 = 0
  · exact .inl even
  · have isOpen : (Interval.ofBinary mantissa exponent).closed = false := decide_eq_false even
    rw [Interval.Holds, isOpen, if_neg Bool.false_ne_true] at holds
    exact .inr ⟨lower.trans_lt holds.1, holds.2.trans_eq upper⟩

/-! ## Numbers from quotients and decimals -/

theorem two_zpow_le_ten_zpow {binary decimal : Nat} (less : binary ≤ 3 * decimal) :
    (2 : ℚ) ^ (binary : Int) ≤ 10 ^ (decimal : Int) := by
  rw [zpow_natCast, zpow_natCast]
  exact_mod_cast two_pow_le_ten_pow less

theorem ten_zpow_neg_le_two_zpow {binary decimal : Nat} (less : binary ≤ 3 * decimal) :
    (10 : ℚ) ^ (-(decimal : Int)) ≤ 2 ^ (-(binary : Int)) := by
  rw [zpow_neg, zpow_neg]
  exact inv_anti₀ (by positivity) (two_zpow_le_ten_zpow less)

/-- The size of a decimal, by the number of its digits. -/
theorem Decimal.value_bounds (d : Decimal) (positive : 0 < d.digits) :
    (10 : ℚ) ^ (((Nat.toDigits 10 d.digits).length : Int) + d.scale - 1) ≤ d.value ∧
      d.value < 10 ^ (((Nat.toDigits 10 d.digits).length : Int) + d.scale) := by
  obtain ⟨low, high⟩ := length_toDigits_bounds positive
  have nonempty : 0 < (Nat.toDigits 10 d.digits).length := Nat.length_toDigits_pos
  have unit : (0 : ℚ) < 10 ^ d.scale := by positivity
  generalize (Nat.toDigits 10 d.digits).length = length at *
  have lower : (10 : ℚ) ^ (length - 1) ≤ d.digits := by exact_mod_cast low
  have upper : (d.digits : ℚ) < 10 ^ length := by exact_mod_cast high
  constructor
  · calc (10 : ℚ) ^ ((length : Int) + d.scale - 1) = 10 ^ (length - 1) * 10 ^ d.scale := by
          rw [← zpow_natCast, ← zpow_add₀ (by norm_num)]
          congr 1
          omega
      _ ≤ d.digits * 10 ^ d.scale := mul_le_mul_of_nonneg_right lower unit.le
  · calc (d.digits : ℚ) * 10 ^ d.scale < 10 ^ length * 10 ^ d.scale :=
          mul_lt_mul_of_pos_right upper unit
      _ = 10 ^ ((length : Int) + d.scale) := by
          rw [zpow_add₀ (by norm_num), zpow_natCast]

theorem Quotient.value_div (a b : Quotient) :
    (Quotient.mk (a.num * b.den) (a.den * b.num)).value = a.value / b.value := by
  simp only [value, Nat.cast_mul, div_div_div_eq]

theorem Canonical.digits_pos (canonical : Canonical mantissa exponent) {d : Decimal}
    (holds : (Interval.ofBinary mantissa exponent).Holds d.value) : 0 < d.digits := by
  by_contra zero
  have bound := (canonical.bounds_of_holds holds).1
  rw [Decimal.value, Nat.eq_zero_of_not_pos zero, Nat.cast_zero, zero_mul] at bound
  exact absurd bound (not_lt.mpr (by positivity))

namespace Binary64

variable {x : Binary64}

theorem ofQuotient_eq (negative : Bool) {q : Quotient} (num : q.num ≠ 0) :
    ofQuotient negative q =
      let unit := Quotient.scaled 1 2 (max (-1074) (binaryExponent q))
      ofMantissa negative (Quotient.round ⟨q.num * unit.den, q.den * unit.num⟩)
        (max (-1074) (binaryExponent q)) := by
  unfold ofQuotient
  rw [if_neg num]
  rfl

/-- A mantissa that is rounded up to the next power of two is carried into the exponent. -/
theorem ofMantissa_carry (negative : Bool) (exponent : Int) :
    ofMantissa negative (2 * leadingBit) (exponent - 1) =
      ofMantissa negative leadingBit exponent := by
  simp [ofMantissa]

/-- A quotient in the interval of a number is rounded to this number. -/
theorem ofQuotient_of_holds (finite : x.magnitude = .finite mantissa exponent)
    (nonzero : mantissa ≠ 0) {q : Quotient} (den : 0 < q.den)
    (holds : (Interval.ofBinary mantissa exponent).Holds q.value) :
    ofQuotient x.negative q = x := by
  have canonical := canonical_of_magnitude finite nonzero
  have num : 0 < q.num := by
    by_contra zero
    have bound := (canonical.bounds_of_holds holds).1
    rw [Quotient.value, Nat.eq_zero_of_not_pos zero, Nat.cast_zero, zero_div] at bound
    exact absurd bound (not_lt.mpr (by positivity))
  have value : ∀ power : Int,
      (Quotient.mk (q.num * (Quotient.scaled 1 2 power).den)
        (q.den * (Quotient.scaled 1 2 power).num)).value = q.value / 2 ^ power := by
    intro power
    rw [Quotient.value_div, Quotient.value_scaled _ (by decide)]
    simp
  have divisor : ∀ power : Int, 0 < q.den * (Quotient.scaled 1 2 power).num := fun power =>
    Nat.mul_pos den (Nat.mul_pos Nat.one_pos (Nat.pow_pos (by decide)))
  have unit : (0 : ℚ) < 2 ^ exponent := by positivity
  rw [ofQuotient_eq _ num.ne']
  dsimp only
  rcases canonical.exponent_cases num den holds with same | ⟨below, rfl, low, high⟩
  · obtain ⟨low, high, tie⟩ := canonical.half_bounds holds
    rw [same, Quotient.round_eq (n := mantissa) (divisor exponent)]
    · exact ofMantissa_of_magnitude finite
    all_goals rw [value]
    · exact (le_div_iff₀ unit).mpr low
    · exact (div_le_iff₀ unit).mpr high
    · exact tie.imp_right fun inside =>
        ⟨(lt_div_iff₀ unit).mpr inside.1, (div_lt_iff₀ unit).mpr inside.2⟩
  · have halved : (2 : ℚ) ^ (exponent - 1) = 2 ^ exponent / 2 := zpow_sub_one₀ two_ne_zero exponent
    rw [below, Quotient.round_eq (n := 2 * leadingBit) (divisor (exponent - 1)),
      ofMantissa_carry]
    · exact ofMantissa_of_magnitude finite
    all_goals rw [value, halved]
    · rw [le_div_iff₀ (by positivity), Nat.cast_mul, Nat.cast_ofNat]
      linarith
    · rw [div_le_iff₀ (by positivity), Nat.cast_mul, Nat.cast_ofNat]
      calc q.value ≤ leadingBit * 2 ^ exponent := high.le
        _ ≤ leadingBit * 2 ^ exponent + 2 ^ exponent / 4 := le_add_of_nonneg_right (by positivity)
        _ = (2 * leadingBit + 1 / 2) * (2 ^ exponent / 2) := by ring
    · exact .inl (Nat.mul_mod_right 2 _)

theorem ofDecimal_zero (finite : x.magnitude = .finite 0 exponent) (scale : Int) :
    ofDecimal x.negative 0 scale = x := by
  have whole := ofMantissa_of_magnitude finite
  unfold ofMantissa at whole
  unfold ofDecimal
  rw [if_pos rfl]
  exact whole

/-- A decimal in the interval of a number is read as this number. -/
theorem ofDecimal_of_holds (finite : x.magnitude = .finite mantissa exponent)
    (nonzero : mantissa ≠ 0) {d : Decimal}
    (holds : (Interval.ofBinary mantissa exponent).Holds d.value) :
    ofDecimal x.negative d.digits d.scale = x := by
  have canonical := canonical_of_magnitude finite nonzero
  obtain ⟨low, high⟩ := canonical.bounds_of_holds holds
  have positive := canonical.digits_pos holds
  obtain ⟨least, greatest⟩ := d.value_bounds positive
  have notLarge : ((Nat.toDigits 10 d.digits).length : Int) + d.scale - 1 < 342 := by
    refine (zpow_lt_zpow_iff_right₀ (by norm_num : (1 : ℚ) < 10)).mp ?_
    exact (least.trans_lt high).trans_le (two_zpow_le_ten_zpow (by decide : 1025 ≤ 3 * 342))
  have notSmall : -359 < ((Nat.toDigits 10 d.digits).length : Int) + d.scale := by
    refine (zpow_lt_zpow_iff_right₀ (by norm_num : (1 : ℚ) < 10)).mp ?_
    exact ((ten_zpow_neg_le_two_zpow (by decide : 1076 ≤ 3 * 359)).trans_lt low).trans greatest
  unfold ofDecimal
  rw [if_neg positive.ne']
  dsimp only
  rw [if_neg (by omega), if_neg (by omega)]
  apply ofQuotient_of_holds finite nonzero (Quotient.den_scaled_pos _ (by decide) _)
  rwa [Decimal.value_eq]

end Binary64

end SceneCode.Number
