import Mathlib
import SceneCode.Number.Shortest

/-!
# Shortest decimals lie in the interval of their number

Quotients are compared and divided like the rationals they stand for.  The grid on which a number
has seventeen digits is finer than the gap between the number and the midpoints to its neighbours,
because `2 ^ 53 < 10 ^ 16`.  So one of the two grid points around the number is in its interval, a
decimal is found, and whatever decimal is found is in the interval (`holds_shortest`).
-/

set_option autoImplicit false

namespace SceneCode.Number

/-! ## Quotients as rationals -/

namespace Quotient

/-- The rational that a quotient stands for. -/
def value (q : Quotient) : ℚ := q.num / q.den

theorem den_scaled_pos (n : Nat) {base : Nat} (positive : 0 < base) (power : Int) :
    0 < (scaled n base power).den :=
  Nat.pow_pos positive

theorem value_scaled (n : Nat) {base : Nat} (positive : 0 < base) (power : Int) :
    (scaled n base power).value = n * (base : ℚ) ^ power := by
  have nonzero : (base : ℚ) ≠ 0 := by exact_mod_cast positive.ne'
  have split : power = (power.toNat : Int) - ((-power).toNat : Int) := by omega
  conv_rhs => rw [split, zpow_sub₀ nonzero, zpow_natCast, zpow_natCast]
  simp [value, scaled, mul_div_assoc]

variable {a b : Quotient}

theorem le_iff (aPositive : 0 < a.den) (bPositive : 0 < b.den) :
    a.le b = true ↔ a.value ≤ b.value := by
  have aDen : (0 : ℚ) < a.den := by exact_mod_cast aPositive
  have bDen : (0 : ℚ) < b.den := by exact_mod_cast bPositive
  rw [value, value, div_le_div_iff₀ aDen bDen, le, decide_eq_true_eq]
  exact_mod_cast Iff.rfl

theorem lt_iff (aPositive : 0 < a.den) (bPositive : 0 < b.den) :
    a.lt b = true ↔ a.value < b.value := by
  have aDen : (0 : ℚ) < a.den := by exact_mod_cast aPositive
  have bDen : (0 : ℚ) < b.den := by exact_mod_cast bPositive
  rw [value, value, div_lt_div_iff₀ aDen bDen, lt, decide_eq_true_eq]
  exact_mod_cast Iff.rfl

/-- How often one quotient fits into another one. -/
theorem floorDiv_bounds (aPositive : 0 < a.den) (bPositive : 0 < b.den) (bNonzero : 0 < b.num) :
    (a.floorDiv b : ℚ) * b.value ≤ a.value ∧ a.value < (a.floorDiv b + 1) * b.value := by
  have aDen : (0 : ℚ) < a.den := by exact_mod_cast aPositive
  have bDen : (0 : ℚ) < b.den := by exact_mod_cast bPositive
  have divisor : 0 < a.den * b.num := Nat.mul_pos aPositive bNonzero
  have below : a.floorDiv b * (a.den * b.num) ≤ a.num * b.den := Nat.div_mul_le_self _ _
  have above : a.num * b.den < (a.floorDiv b + 1) * (a.den * b.num) :=
    Nat.lt_mul_of_div_lt (Nat.lt_succ_self _) divisor
  have below' : (a.floorDiv b : ℚ) * (a.den * b.num) ≤ a.num * b.den := by exact_mod_cast below
  have above' : (a.num : ℚ) * b.den < (a.floorDiv b + 1) * (a.den * b.num) := by
    exact_mod_cast above
  constructor
  · rw [value, value, mul_div_assoc', div_le_div_iff₀ bDen aDen]
    linarith
  · rw [value, value, mul_div_assoc', div_lt_div_iff₀ aDen bDen]
    linarith

end Quotient

/-- The rational that a decimal stands for. -/
def Decimal.value (d : Decimal) : ℚ := d.digits * (10 : ℚ) ^ d.scale

theorem Decimal.value_eq (d : Decimal) :
    (Quotient.scaled d.digits 10 d.scale).value = d.value := by
  rw [Quotient.value_scaled _ (by decide)]
  rfl

/-! ## Intervals -/

namespace Interval

/-- The rationals in an interval. -/
def Holds (i : Interval) (r : ℚ) : Prop :=
  if i.closed then i.low.value ≤ r ∧ r ≤ i.high.value else i.low.value < r ∧ r < i.high.value

theorem contains_iff {i : Interval} {q : Quotient} (low : 0 < i.low.den) (high : 0 < i.high.den)
    (positive : 0 < q.den) : i.contains q = true ↔ i.Holds q.value := by
  unfold contains Holds
  split <;>
    simp [Quotient.le_iff, Quotient.lt_iff, low, high, positive]

theorem Holds.of_inside {i : Interval} {r : ℚ} (above : i.low.value < r)
    (below : r < i.high.value) : i.Holds r := by
  unfold Holds
  split
  · exact ⟨above.le, below.le⟩
  · exact ⟨above, below⟩

theorem Holds.bounds {i : Interval} {r : ℚ} (holds : i.Holds r) :
    i.low.value ≤ r ∧ r ≤ i.high.value := by
  unfold Holds at holds
  split at holds
  · exact holds
  · exact ⟨holds.1.le, holds.2.le⟩

end Interval

/-- The mantissa and the exponent of a finite number other than zero. -/
structure Canonical (mantissa : Nat) (exponent : Int) : Prop where
  positive : 0 < mantissa
  small : mantissa < 2 * Binary64.leadingBit
  least : -1074 ≤ exponent
  greatest : exponent ≤ 971
  normal : Binary64.leadingBit ≤ mantissa ∨ exponent = -1074

/-- How far below a number its interval goes, in quarters of the unit in the last place. -/
def gap (mantissa : Nat) (exponent : Int) : Nat :=
  if mantissa = Binary64.leadingBit && decide (-1074 < exponent) then 1 else 2

variable {mantissa : Nat} {exponent : Int}

theorem gap_cases (mantissa : Nat) (exponent : Int) :
    (gap mantissa exponent = 1 ∧ mantissa = Binary64.leadingBit ∧ -1074 < exponent) ∨
      (gap mantissa exponent = 2 ∧ (mantissa = Binary64.leadingBit → exponent ≤ -1074)) := by
  unfold gap
  split
  · rename_i power
    simp only [Bool.and_eq_true, decide_eq_true_eq] at power
    exact .inl ⟨rfl, power⟩
  · rename_i other
    simp only [Bool.and_eq_true, decide_eq_true_eq, not_and, not_lt] at other
    exact .inr ⟨rfl, other⟩

theorem gap_le_two (mantissa : Nat) (exponent : Int) : (gap mantissa exponent : ℚ) ≤ 2 := by
  rcases gap_cases mantissa exponent with ⟨same, _⟩ | ⟨same, _⟩ <;> rw [same] <;> norm_num

namespace Interval

theorem low_ofBinary (positive : 0 < mantissa) :
    (ofBinary mantissa exponent).low.value =
      (mantissa - gap mantissa exponent / 4) * (2 : ℚ) ^ exponent := by
  have enough : gap mantissa exponent ≤ 4 * mantissa := by
    rcases gap_cases mantissa exponent with ⟨same, _⟩ | ⟨same, _⟩ <;> omega
  have quarter : (2 : ℚ) ^ (exponent - 2) = 2 ^ exponent / 4 := by
    rw [zpow_sub₀ two_ne_zero]
    norm_num
  have value := Quotient.value_scaled (4 * mantissa - gap mantissa exponent) (by decide : 0 < 2)
    (exponent - 2)
  rw [Nat.cast_sub enough, Nat.cast_ofNat, quarter] at value
  refine value.trans ?_
  push_cast
  ring

theorem high_ofBinary (mantissa : Nat) (exponent : Int) :
    (ofBinary mantissa exponent).high.value = (mantissa + 1 / 2) * (2 : ℚ) ^ exponent := by
  have quarter : (2 : ℚ) ^ (exponent - 2) = 2 ^ exponent / 4 := by
    rw [zpow_sub₀ two_ne_zero]
    norm_num
  have value := Quotient.value_scaled (4 * mantissa + 2) (by decide : 0 < 2) (exponent - 2)
  rw [Nat.cast_ofNat, quarter] at value
  refine value.trans ?_
  push_cast
  ring

theorem den_ofBinary (mantissa : Nat) (exponent : Int) :
    0 < (ofBinary mantissa exponent).low.den ∧ 0 < (ofBinary mantissa exponent).high.den :=
  ⟨Quotient.den_scaled_pos _ (by decide) _, Quotient.den_scaled_pos _ (by decide) _⟩

end Interval

/-! ## The leading digit -/

/-- The number of digits of a positive number. -/
theorem length_toDigits_bounds {number : Nat} (positive : 0 < number) :
    10 ^ ((Nat.toDigits 10 number).length - 1) ≤ number ∧
      number < 10 ^ (Nat.toDigits 10 number).length := by
  have nonempty : 0 < (Nat.toDigits 10 number).length := Nat.length_toDigits_pos
  refine ⟨?_, (Nat.length_toDigits_le_iff (by decide) nonempty).mp le_rfl⟩
  by_contra less
  rcases Nat.eq_or_lt_of_le nonempty with one | more
  · rw [← one] at less
    exact less positive
  · have shorter := (Nat.length_toDigits_le_iff (by decide) (by omega)).mpr (not_le.mp less)
    omega

/-- The digits of a quotient are counted after it was moved to the left. -/
theorem value_bounds_of_digits {q : Quotient} (positive : 0 < q.den) {width count : Nat}
    (large : 0 < q.num * Nat.pow 10 width / q.den)
    (counted : (Nat.toDigits 10 (q.num * Nat.pow 10 width / q.den)).length = count + 1) :
    (10 : ℚ) ^ ((count : Int) - width) ≤ q.value ∧
      q.value < 10 ^ ((count : Int) + 1 - width) := by
  have den : (0 : ℚ) < q.den := by exact_mod_cast positive
  have shift : (0 : ℚ) < 10 ^ width := by positivity
  obtain ⟨lower, upper⟩ := length_toDigits_bounds large
  rw [counted, Nat.add_sub_cancel] at lower
  rw [counted] at upper
  have below := (Nat.le_div_iff_mul_le positive).mp lower
  have above := Nat.lt_mul_of_div_lt upper positive
  have moved : q.value = (q.num * Nat.pow 10 width : Nat) / q.den / 10 ^ width := by
    rw [Quotient.value, Nat.cast_mul]
    field_simp
    norm_cast
  rw [zpow_sub₀ (by norm_num), zpow_sub₀ (by norm_num), moved, zpow_natCast]
  constructor
  · refine div_le_div_of_nonneg_right ?_ shift.le
    rw [le_div_iff₀ den]
    exact_mod_cast below
  · refine div_lt_div_of_pos_right ?_ shift
    rw [div_lt_iff₀ den]
    exact_mod_cast above

theorem leadingExponent_bounds {q : Quotient} (positive : 0 < q.den)
    (large : ∀ width, 400 ≤ width → 0 < q.num * Nat.pow 10 width / q.den) :
    (10 : ℚ) ^ leadingExponent q ≤ q.value ∧ q.value < 10 ^ (leadingExponent q + 1) := by
  obtain ⟨count, counted⟩ : ∃ count,
      (Nat.toDigits 10 (q.num * Nat.pow 10 400 / q.den)).length = count + 1 :=
    Nat.exists_eq_succ_of_ne_zero Nat.length_toDigits_pos.ne'
  have leading : leadingExponent q = (count : Int) - (400 : Nat) := by
    unfold leadingExponent
    omega
  obtain ⟨lower, upper⟩ := value_bounds_of_digits positive (large 400 le_rfl) counted
  rw [leading, show (count : Int) - (400 : Nat) + 1 = (count : Int) + 1 - (400 : Nat) by ring]
  exact ⟨lower, upper⟩

/-- Powers of ten outgrow powers of eight. -/
theorem two_pow_le_ten_pow {binary decimal : Nat} (less : binary ≤ 3 * decimal) :
    2 ^ binary ≤ 10 ^ decimal :=
  calc 2 ^ binary ≤ 2 ^ (3 * decimal) := Nat.pow_le_pow_right (by decide) less
    _ = 8 ^ decimal := by rw [pow_mul]; rfl
    _ ≤ 10 ^ decimal := Nat.pow_le_pow_left (by decide) decimal

/-- Moved so far to the left, a number has a digit before the point. -/
theorem scaled_large (positive : 0 < mantissa) (width : Nat)
    (enough : (-exponent).toNat ≤ 3 * width) :
    0 < (Quotient.scaled mantissa 2 exponent).num * Nat.pow 10 width /
      (Quotient.scaled mantissa 2 exponent).den := by
  apply Nat.div_pos _ (Quotient.den_scaled_pos _ (by decide) _)
  have num : 1 ≤ mantissa * 2 ^ exponent.toNat :=
    Nat.mul_pos positive (Nat.pow_pos (by decide))
  exact (two_pow_le_ten_pow enough).trans (Nat.le_mul_of_pos_left _ num)

theorem Canonical.leading_bounds (canonical : Canonical mantissa exponent) :
    (10 : ℚ) ^ leadingExponent (Quotient.scaled mantissa 2 exponent) ≤ mantissa * 2 ^ exponent ∧
      (mantissa : ℚ) * 2 ^ exponent <
        10 ^ (leadingExponent (Quotient.scaled mantissa 2 exponent) + 1) := by
  have least := canonical.least
  have den := Quotient.den_scaled_pos mantissa (by decide : 0 < 2) exponent
  have bounds := leadingExponent_bounds den fun width enough =>
    scaled_large canonical.positive width (by omega)
  rwa [Quotient.value_scaled _ (by decide)] at bounds

/-! ## Grid points -/

variable {value : Quotient} {interval : Interval} {scale : Int}

/-- What is found on a grid is in the interval. -/
theorem contains_of_nearestOnGrid {d : Decimal}
    (found : nearestOnGrid value interval scale = some d) :
    interval.contains (Quotient.scaled d.digits 10 d.scale) = true := by
  unfold nearestOnGrid at found
  dsimp only at found
  generalize value.floorDiv (Quotient.scaled 1 10 scale) = below at found
  cases lower : interval.contains (Quotient.scaled below 10 scale) <;>
    cases upper : interval.contains (Quotient.scaled (below + 1) 10 scale) <;>
    simp only [lower, upper] at found
  · cases found
  · cases found
    exact upper
  · cases found
    exact lower
  · -- Between two points that are equally near the even one is taken.
    split_ifs at found
    · cases found
      exact lower
    · cases found
      exact upper
    · cases found
      rcases Nat.mod_two_eq_zero_or_one below with even | odd
      · rw [even]
        exact lower
      · rw [odd]
        exact upper

theorem isSome_nearestOnGrid {point : Nat}
    (around : point = value.floorDiv (Quotient.scaled 1 10 scale) ∨
      point = value.floorDiv (Quotient.scaled 1 10 scale) + 1)
    (inside : interval.contains (Quotient.scaled point 10 scale) = true) :
    (nearestOnGrid value interval scale).isSome = true := by
  unfold nearestOnGrid
  dsimp only
  generalize value.floorDiv (Quotient.scaled 1 10 scale) = below at around
  rcases around with rfl | rfl <;> rw [inside]
  · cases interval.contains (Quotient.scaled (point + 1) 10 scale) <;> simp only
    · rfl
    · split_ifs <;> rfl
  · cases interval.contains (Quotient.scaled below 10 scale) <;> simp only
    · rfl
    · split_ifs <;> rfl

/-- The grid for seventeen digits is so fine that half of its unit is less than the interval of the
number leaves on either side. -/
theorem Canonical.fine (canonical : Canonical mantissa exponent) {unit : ℚ}
    (seventeen : unit * 10 ^ 16 ≤ mantissa * 2 ^ exponent) :
    unit < gap mantissa exponent / 2 * (2 : ℚ) ^ exponent := by
  have power : (0 : ℚ) < 2 ^ exponent := by positivity
  rcases gap_cases mantissa exponent with ⟨same, power52, _⟩ | ⟨same, _⟩
  · have exact : (mantissa : ℚ) = 4503599627370496 := by exact_mod_cast power52
    rw [exact] at seventeen
    rw [same, Nat.cast_one]
    linarith
  · have small : mantissa < 9007199254740992 := canonical.small
    have bound : (mantissa : ℚ) < 9007199254740992 := by exact_mod_cast small
    have product := mul_lt_mul_of_pos_right bound power
    rw [same, Nat.cast_ofNat]
    linarith

theorem Canonical.contains_point (canonical : Canonical mantissa exponent) {point : Nat}
    (low : (mantissa - gap mantissa exponent / 4) * (2 : ℚ) ^ exponent < point * 10 ^ scale)
    (high : point * (10 : ℚ) ^ scale < (mantissa + 1 / 2) * 2 ^ exponent) :
    (Interval.ofBinary mantissa exponent).contains (Quotient.scaled point 10 scale) = true := by
  obtain ⟨lowDen, highDen⟩ := Interval.den_ofBinary mantissa exponent
  rw [Interval.contains_iff lowDen highDen (Quotient.den_scaled_pos _ (by decide) _),
    Quotient.value_scaled _ (by decide)]
  refine .of_inside ?_ ?_
  · rw [Interval.low_ofBinary canonical.positive]
    exact low
  · rw [Interval.high_ofBinary]
    exact high

/-- The unit of the grid on which a number has seventeen digits. -/
theorem Canonical.unit_le (canonical : Canonical mantissa exponent) :
    (10 : ℚ) ^ (leadingExponent (Quotient.scaled mantissa 2 exponent) - 16) * 10 ^ 16 ≤
      mantissa * 2 ^ exponent := by
  rw [← zpow_natCast (10 : ℚ) 16, ← zpow_add₀ (by norm_num), Nat.cast_ofNat, sub_add_cancel]
  exact canonical.leading_bounds.1

/-- One of the two grid points around the number is in its interval. -/
theorem Canonical.exists_point (canonical : Canonical mantissa exponent) :
    let scale := leadingExponent (Quotient.scaled mantissa 2 exponent) - 16
    (nearestOnGrid (Quotient.scaled mantissa 2 exponent) (Interval.ofBinary mantissa exponent)
      scale).isSome = true := by
  intro scale
  set value := Quotient.scaled mantissa 2 exponent
  set unit := (10 : ℚ) ^ scale
  have den : 0 < value.den := Quotient.den_scaled_pos _ (by decide) _
  have unitDen : 0 < (Quotient.scaled 1 10 scale).den := Quotient.den_scaled_pos _ (by decide) _
  have unitNum : 0 < (Quotient.scaled 1 10 scale).num :=
    Nat.mul_pos Nat.one_pos (Nat.pow_pos (by decide))
  have number : value.value = mantissa * 2 ^ exponent := Quotient.value_scaled _ (by decide) _
  have unitValue : (Quotient.scaled 1 10 scale).value = unit := by
    rw [Quotient.value_scaled _ (by decide), Nat.cast_one, one_mul]
    rfl
  obtain ⟨below, above⟩ := Quotient.floorDiv_bounds den unitDen unitNum
  rw [unitValue, number] at below above
  have fine := canonical.fine canonical.unit_le
  have small := gap_le_two mantissa exponent
  have power : (0 : ℚ) < 2 ^ exponent := by positivity
  by_cases near : mantissa * 2 ^ exponent - value.floorDiv (Quotient.scaled 1 10 scale) * unit ≤
      unit / 2
  · refine isSome_nearestOnGrid (.inl rfl) (canonical.contains_point ?_ ?_)
    · linarith
    · linarith
  · refine isSome_nearestOnGrid (.inr rfl) (canonical.contains_point ?_ ?_)
    · push_cast
      nlinarith
    · push_cast
      nlinarith

/-- The shortest decimal of a number is in its interval. -/
theorem Canonical.holds_shortest (canonical : Canonical mantissa exponent) :
    (Interval.ofBinary mantissa exponent).Holds (shortest mantissa exponent).value := by
  obtain ⟨d, found⟩ : ∃ d, (List.range 17).findSome? (fun (n : Nat) =>
      nearestOnGrid (Quotient.scaled mantissa 2 exponent) (Interval.ofBinary mantissa exponent)
        (leadingExponent (Quotient.scaled mantissa 2 exponent) - n)) = some d := by
    rw [← Option.isSome_iff_exists, List.findSome?_isSome_iff]
    exact ⟨16, by simp, canonical.exists_point⟩
  have same : shortest mantissa exponent = d := by
    unfold shortest
    dsimp only
    rw [found, Option.getD_some]
  obtain ⟨n, _, onGrid⟩ := List.exists_of_findSome?_eq_some found
  obtain ⟨lowDen, highDen⟩ := Interval.den_ofBinary mantissa exponent
  rw [same, ← Decimal.value_eq, ← Interval.contains_iff lowDen highDen
    (Quotient.den_scaled_pos _ (by decide) _)]
  exact contains_of_nearestOnGrid onGrid

/-- What is in the interval of a number is neither too small nor too large. -/
theorem Canonical.bounds_of_holds (canonical : Canonical mantissa exponent) {r : ℚ}
    (holds : (Interval.ofBinary mantissa exponent).Holds r) :
    (2 : ℚ) ^ (-1076 : Int) < r ∧ r < 2 ^ (1025 : Int) := by
  obtain ⟨low, high⟩ := holds.bounds
  rw [Interval.low_ofBinary canonical.positive] at low
  rw [Interval.high_ofBinary] at high
  have power : (0 : ℚ) < 2 ^ exponent := by positivity
  have small := gap_le_two mantissa exponent
  have one : (1 : ℚ) ≤ mantissa := by exact_mod_cast canonical.positive
  have many : (mantissa : ℚ) + 1 / 2 < 2 ^ (54 : Int) := by
    have bound : mantissa < 9007199254740992 := canonical.small
    have cast : (mantissa : ℚ) < 9007199254740992 := by exact_mod_cast bound
    norm_num
    linarith
  constructor
  · calc (2 : ℚ) ^ (-1076 : Int) < 2 ^ (-1 : Int) * 2 ^ exponent := by
          rw [← zpow_add₀ two_ne_zero]
          exact zpow_lt_zpow_right₀ (by norm_num) (by have := canonical.least; omega)
      _ ≤ (mantissa - gap mantissa exponent / 4) * 2 ^ exponent := by
          refine mul_le_mul_of_nonneg_right ?_ power.le
          norm_num
          linarith
      _ ≤ r := low
  · calc r ≤ (mantissa + 1 / 2) * 2 ^ exponent := high
      _ < 2 ^ (54 : Int) * 2 ^ exponent := mul_lt_mul_of_pos_right many power
      _ ≤ 2 ^ (1025 : Int) := by
          rw [← zpow_add₀ two_ne_zero]
          exact zpow_le_zpow_right₀ (by norm_num) (by have := canonical.greatest; omega)

end SceneCode.Number
