import Mathlib.Data.List.TakeWhile
import SceneCode.Text.Integer
import SceneCode.Text.Numeral

/-!
# Reading numerals back

The decimal numeral of a number is an integer literal for that number, as long as a literal may
have so many digits.  What can be written can thus be read, and both end at the same power of ten.
-/

set_option autoImplicit false

namespace SceneCode.Text

/-- What a decimal digit is, for the readers of literals. -/
structure Digit (c : Char) : Prop where
  ascii : c.toNat < 128
  notBlank : isAsciiBlank c = false
  notUnderscore : c ≠ '_'
  notMinus : c ≠ '-'
  notPlus : c ≠ '+'
  digitOf : isDigitOf 10 c = true
  value : (asciiDigit? c).getD 0 = c.toNat - '0'.toNat

theorem digit_of_isDigit {c : Char} (isDigit : c.isDigit = true) : Digit c := by
  have bounds : '0'.toNat ≤ c.toNat ∧ c.toNat ≤ '9'.toNat := by
    simpa [Char.isDigit, Char.le_def, UInt32.le_iff_toNat_le] using isDigit
  have zero : '0'.toNat = 48 := rfl
  have nine : '9'.toNat = 57 := rfl
  have found : asciiDigit? c = some (c.toNat - '0'.toNat) := by
    rw [asciiDigit?, if_pos]
    simpa [Char.isDigit, Char.le_def] using isDigit
  refine ⟨by omega, ?_, ?_, ?_, ?_, ?_, by rw [found]; rfl⟩
  · simp [isAsciiBlank]
    omega
  · rintro rfl
    simp at isDigit
  · rintro rfl
    simp at isDigit
  · rintro rfl
    simp at isDigit
  · simp [isDigitOf, found]
    omega

theorem ungroup?_of_digits {cs : List Char} (digits : ∀ c ∈ cs, Digit c) (nonempty : cs ≠ []) :
    ungroup? cs = some cs := by
  induction cs with
  | nil => exact absurd rfl nonempty
  | cons c rest ih =>
      have first := (digits c List.mem_cons_self).notUnderscore
      cases rest with
      | nil => simp [ungroup?, first]
      | cons next rest =>
          have second := (digits next (by simp)).notUnderscore
          have later := ih (fun c member => digits c (List.mem_cons_of_mem _ member)) (by simp)
          simp [ungroup?, first, second, later]

theorem positional_of_digits {cs : List Char} (digits : ∀ c ∈ cs, Digit c) (start : Nat) :
    cs.foldl (fun value c => value * 10 + (asciiDigit? c).getD 0) start =
      Nat.ofDigitChars 10 cs start := by
  induction cs generalizing start with
  | nil => rfl
  | cons c rest ih =>
      have here := (digits c List.mem_cons_self).value
      rw [List.foldl_cons, here, Nat.ofDigitChars_cons, Nat.mul_comm start 10]
      exact ih (fun c member => digits c (List.mem_cons_of_mem _ member)) _

/-- A run of decimal digits is read as its value, unless it has too many digits. -/
theorem readDigits_of_digits {cs : List Char} (digits : ∀ c ∈ cs, Digit c) (nonempty : cs ≠ []) :
    readDigits 10 cs =
      if digitLimit < cs.length then .error (.tooLong cs.length)
      else .ok (Nat.ofDigitChars 10 cs 0) := by
  have all : ∀ c ∈ cs, (isDigitOf 10 c || decide (c = '_')) = true := by
    intro c member
    rw [(digits c member).digitOf]
    rfl
  have taken : cs.takeWhile (fun c => isDigitOf 10 c || decide (c = '_')) = cs :=
    List.takeWhile_eq_self_iff.mpr all
  have dropped : cs.dropWhile (fun c => isDigitOf 10 c || decide (c = '_')) = [] :=
    List.dropWhile_eq_nil_iff.mpr all
  have limited : (!unlimited 10 && decide (digitLimit < cs.length)) =
      decide (digitLimit < cs.length) :=
    Bool.true_and _
  have value : positional 10 cs = Nat.ofDigitChars 10 cs 0 := positional_of_digits digits 0
  rw [readDigits, taken, dropped, ungroup?_of_digits digits nonempty]
  simp only [limited, decide_eq_true_eq, List.all_nil, if_true, value]

theorem readInteger_of_digits {cs : List Char} (digits : ∀ c ∈ cs, Digit c) (nonempty : cs ≠ []) :
    readInteger .decimal (String.ofList cs) =
      if digitLimit < cs.length then .error (.tooLong cs.length)
      else .ok (Nat.ofDigitChars 10 cs 0) := by
  have ascii : asciiText cs = cs := by
    rw [asciiText, if_pos]
    simpa using fun c member => (digits c member).ascii
  have read := readDigits_of_digits digits nonempty
  cases cs with
  | nil => exact absurd rfl nonempty
  | cons c rest =>
      have first := digits c List.mem_cons_self
      have kept : (c :: rest).dropWhile isAsciiBlank = c :: rest := by
        simp [List.dropWhile, first.notBlank]
      rw [readInteger, String.toList_ofList, ascii, kept]
      split
      · rename_i same
        exact absurd (List.cons.inj same).1 first.notMinus
      · rename_i same
        exact absurd (List.cons.inj same).1 first.notPlus
      · rw [readMagnitude, read]
        split <;> rfl

/-- The numeral of a number is read as that number, unless it has too many digits. -/
theorem readInteger_numeral (n : Nat) :
    readInteger .decimal (decimal n) =
      if digitLimit < (Nat.toDigits 10 n).length then .error (.tooLong (Nat.toDigits 10 n).length)
      else .ok n := by
  have digits : ∀ c ∈ Nat.toDigits 10 n, Digit c := fun c member =>
    digit_of_isDigit (Nat.isDigit_of_mem_toDigits (by decide) (by decide) member)
  have written : decimal n = String.ofList (Nat.toDigits 10 n) := by
    simp [decimal, padded]
  rw [written, readInteger_of_digits digits Nat.toDigits_ne_nil, Nat.ofDigitChars_ten_toDigits]

theorem readInteger_decimal {n : Nat} (short : (Nat.toDigits 10 n).length ≤ digitLimit) :
    readInteger .decimal (decimal n) = .ok n := by
  rw [readInteger_numeral, if_neg (Nat.not_lt.mpr short)]

/-! ## How long a numeral is -/

theorem lt_length_toDigits_iff {count : Nat} (positive : 0 < count) (n : Nat) :
    count < (Nat.toDigits 10 n).length ↔ Nat.pow 10 count ≤ n := by
  have short : (Nat.toDigits 10 n).length ≤ count ↔ n < Nat.pow 10 count :=
    Nat.length_toDigits_le_iff (by decide) positive
  rw [← Nat.not_le, short, Nat.not_lt]

theorem length_toDigits_pow {count : Nat} (positive : 0 < count) :
    (Nat.toDigits 10 (Nat.pow 10 count)).length = count + 1 := by
  have less : Nat.pow 10 count < Nat.pow 10 (count + 1) :=
    Nat.pow_lt_pow_right (by decide) (Nat.lt_succ_self count)
  have upper := (lt_length_toDigits_iff (Nat.succ_pos count) _).not.mpr (Nat.not_le.mpr less)
  have lower := (lt_length_toDigits_iff positive _).mpr (Nat.le_refl (Nat.pow 10 count))
  omega

theorem digitLimit_pos : 0 < digitLimit := by decide

theorem length_toDigits_le {n : Nat} (small : n < 10000000000) :
    (Nat.toDigits 10 n).length ≤ digitLimit := by
  have short : (Nat.toDigits 10 n).length ≤ 10 :=
    (Nat.length_toDigits_le_iff (by decide) (by decide)).mpr small
  exact Nat.le_trans short (by decide)

/-- The numbers that can be written are those below a power of ten. -/
theorem isWritable_iff {n : Int} :
    isWritable n = true ↔ n.natAbs < Nat.pow 10 digitLimit := by
  rw [isWritable, decide_eq_true_iff, ← Nat.not_lt, lt_length_toDigits_iff digitLimit_pos,
    Nat.not_le]

theorem isWritable_of_small {n : Int} (small : n.natAbs < 10000000000) : isWritable n = true :=
  decide_eq_true (length_toDigits_le small)

end SceneCode.Text
