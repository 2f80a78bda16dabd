import SceneCode.Json.Parser
import SceneCode.Number.Format
import SceneCode.Proofs.Numeral
import SceneCode.Proofs.Rounding

/-!
# Numbers in a document are read back

A number in a text consists of a whole part, a fraction and a power of ten (`Parts`), and it is read
as the decimal of its parts (`readNumber_text`).  Every notation of a number has such parts, whose
decimal is that of the shortest digits.  So a finite number is read back (`exists_parts_write`).
-/

set_option autoImplicit false

namespace SceneCode.Json

open Number (Binary64 Decimal NumberFormat)

/-! ## The parts of a number -/

/-- A number in a text: digits, digits behind a point and an exponent. -/
structure Parts where
  whole : List Char
  fraction : List Char
  power : Option Int
  wholeDigits : ∀ c ∈ whole, c.isDigit = true
  fractionDigits : ∀ c ∈ fraction, c.isDigit = true
  nonempty : whole ≠ []
  leading : whole.head? = some '0' → whole = ['0']

namespace Parts

def fractionText (fraction : List Char) : List Char :=
  if fraction.isEmpty then [] else '.' :: fraction

def powerText : Option Int → List Char
  | none => []
  | some power =>
    let digits := Nat.toDigits 10 power.natAbs
    'e' :: (if power < 0 then '-' else '+') :: (List.replicate (2 - digits.length) '0' ++ digits)

def text (p : Parts) : List Char := p.whole ++ (fractionText p.fraction ++ powerText p.power)

/-- The decimal that the parts stand for. -/
def decimal (p : Parts) : Decimal :=
  ⟨Nat.ofDigitChars 10 (p.whole ++ p.fraction) 0, p.power.getD 0 - p.fraction.length⟩

end Parts

/-- What stands behind a value in a document: its end, a comma or a new line. -/
inductive Ended : List Char → Prop
  | done : Ended []
  | comma (rest : List Char) : Ended (',' :: rest)
  | line (rest : List Char) : Ended ('\n' :: rest)

/-- No digit is in front. -/
def NoDigit (cs : List Char) : Prop := ∀ c ∈ cs.head?, isAsciiDigit c = false

theorem isAsciiDigit_of_isDigit {c : Char} (digit : c.isDigit = true) : isAsciiDigit c = true := by
  simpa [isAsciiDigit, Char.isDigit, Char.le_def] using digit

section Scan

variable {digits behind rest : List Char}

theorem takeWhile_digits (all : ∀ c ∈ digits, c.isDigit = true) (stop : NoDigit behind) :
    (digits ++ behind).takeWhile isAsciiDigit = digits := by
  rw [List.takeWhile_append_of_pos fun c member => isAsciiDigit_of_isDigit (all c member)]
  cases behind with
  | nil => simp
  | cons c rest => simp [stop c rfl]

theorem dropWhile_digits (all : ∀ c ∈ digits, c.isDigit = true) (stop : NoDigit behind) :
    (digits ++ behind).dropWhile isAsciiDigit = behind := by
  rw [List.dropWhile_append_of_pos fun c member => isAsciiDigit_of_isDigit (all c member)]
  cases behind with
  | nil => rfl
  | cons c rest => simp [stop c rfl]

theorem Ended.noDigit (ended : Ended rest) : NoDigit rest := by
  cases ended <;> simp [NoDigit, isAsciiDigit]

theorem noDigit_powerText (power : Option Int) (ended : Ended rest) :
    NoDigit (Parts.powerText power ++ rest) := by
  cases power with
  | none => exact ended.noDigit
  | some power => simp [NoDigit, Parts.powerText, isAsciiDigit]

theorem readFraction_text (fraction : List Char) (all : ∀ c ∈ fraction, c.isDigit = true)
    (power : Option Int) (ended : Ended rest) :
    readFraction (Parts.fractionText fraction ++ (Parts.powerText power ++ rest)) =
      (fraction, Parts.powerText power ++ rest) := by
  have stop := noDigit_powerText power ended
  cases fraction with
  | nil =>
      cases power with
      | none => cases ended <;> rfl
      | some power => rfl
  | cons c digits =>
      simp only [Parts.fractionText, List.isEmpty_cons, Bool.false_eq_true, if_false,
        List.cons_append, readFraction]
      rw [← List.cons_append, takeWhile_digits all stop, dropWhile_digits all stop]
      rfl

end Scan

theorem positional_eq {digits : List Char} (all : ∀ c ∈ digits, c.isDigit = true) :
    Text.positional 10 digits = Nat.ofDigitChars 10 digits 0 :=
  Text.positional_of_digits (fun c member => Text.digit_of_isDigit (all c member)) 0

theorem isDigit_append {first second : List Char} (left : ∀ c ∈ first, c.isDigit = true)
    (right : ∀ c ∈ second, c.isDigit = true) : ∀ c ∈ first ++ second, c.isDigit = true :=
  fun c member => (List.mem_append.mp member).elim (left c) (right c)

theorem isDigit_zeros (count : Nat) : ∀ c ∈ List.replicate count '0', c.isDigit = true := by
  intro c member
  rw [List.eq_of_mem_replicate member]
  rfl

theorem isDigit_toDigits (n : Nat) : ∀ c ∈ Nat.toDigits 10 n, c.isDigit = true :=
  fun _ member => Nat.isDigit_of_mem_toDigits (by decide) (by decide) member

variable {rest : List Char}

theorem readPower_digits (negative : Bool) (whole : List Char) {digits : List Char}
    (all : ∀ c ∈ digits, c.isDigit = true) (nonempty : digits ≠ []) (ended : Ended rest) :
    readPower negative whole (digits ++ rest) =
      (some (if negative then -(Nat.ofDigitChars 10 digits 0 : Int)
        else (Nat.ofDigitChars 10 digits 0 : Int)), rest) := by
  have isNonempty : digits.isEmpty = false := by simpa using nonempty
  simp only [readPower, takeWhile_digits all ended.noDigit, dropWhile_digits all ended.noDigit,
    isNonempty, Bool.false_eq_true, if_false, positional_eq all]

theorem readExponent_text (power : Option Int) (ended : Ended rest) :
    readExponent (Parts.powerText power ++ rest) = (power, rest) := by
  cases power with
  | none => cases ended <;> rfl
  | some power =>
      have all := isDigit_append (isDigit_zeros (2 - (Nat.toDigits 10 power.natAbs).length))
        (isDigit_toDigits power.natAbs)
      have value : Nat.ofDigitChars 10 (List.replicate
          (2 - (Nat.toDigits 10 power.natAbs).length) '0' ++ Nat.toDigits 10 power.natAbs) 0 =
          power.natAbs := by
        rw [Nat.ofDigitChars_append, Nat.ofDigitChars_replicate_zero, Nat.mul_zero,
          Nat.ofDigitChars_ten_toDigits]
      have read := fun negative whole =>
        readPower_digits negative whole all (by simp [Nat.toDigits_ne_nil]) ended
      rw [value] at read
      by_cases below : power < 0
      · simp only [Parts.powerText, below, if_true, List.cons_append, readExponent, read]
        congr 2
        omega
      · simp only [Parts.powerText, below, if_false, List.cons_append, readExponent, read]
        congr 2
        simp only [Bool.false_eq_true, if_false]
        omega

/-- A number is read as an integer if it has neither a fraction nor an exponent, and otherwise as
the number nearest to its decimal. -/
theorem readNumber_text (negative : Bool) (p : Parts) (ended : Ended rest) :
    readNumber negative (p.text ++ rest) =
      if p.fraction.isEmpty && p.power.isNone then
        if Text.digitLimit < p.whole.length then .error (.longInteger p.whole.length)
        else
          let value : Int := Nat.ofDigitChars 10 p.whole 0
          .ok (.int (if negative then -value else value), rest)
      else .ok (.float (Binary64.ofDecimal negative p.decimal.digits p.decimal.scale), rest) := by
  set behind := Parts.fractionText p.fraction ++ (Parts.powerText p.power ++ rest) with behindSame
  have stop : NoDigit behind := by
    rw [behindSame]
    cases p.fraction with
    | nil => exact noDigit_powerText p.power ended
    | cons c digits => simp [NoDigit, Parts.fractionText, isAsciiDigit]
  have text : p.text ++ rest = p.whole ++ behind := by
    rw [Parts.text, behindSame, List.append_assoc, List.append_assoc]
  have digits : leadingDigits (p.whole ++ behind) = p.whole := by
    unfold leadingDigits
    split
    · rename_i tail zero
      obtain ⟨c, more, whole⟩ := List.exists_cons_of_ne_nil p.nonempty
      refine (p.leading ?_).symm
      rw [whole, List.cons_append, List.cons.injEq] at zero
      rw [whole, List.head?_cons, zero.1]
    · exact takeWhile_digits p.wholeDigits stop
  have isNonempty : p.whole.isEmpty = false := by simpa using p.nonempty
  have all := isDigit_append p.wholeDigits p.fractionDigits
  rw [text]
  unfold readNumber
  dsimp only
  rw [digits, List.drop_left, behindSame, readFraction_text _ p.fractionDigits _ ended]
  dsimp only
  rw [readExponent_text _ ended]
  simp only [isNonempty, Bool.false_eq_true, if_false, positional_eq p.wholeDigits,
    positional_eq all, Parts.decimal]

/-! ## Integers -/

theorem head_toDigits {n : Nat} (positive : 0 < n) : (Nat.toDigits 10 n).head? ≠ some '0' := by
  induction n using Nat.strong_induction_on with
  | _ n ih =>
    rw [Nat.toDigits_eq_if (by decide)]
    split
    · rename_i small
      interval_cases n <;> decide
    · rw [List.head?_append_of_ne_nil _ Nat.toDigits_ne_nil]
      exact ih (n / 10) (by omega) (by omega)

/-- The digits of a natural number. -/
def Parts.ofNat (n : Nat) : Parts where
  whole := Nat.toDigits 10 n
  fraction := []
  power := none
  wholeDigits := isDigit_toDigits n
  fractionDigits := by simp
  nonempty := Nat.toDigits_ne_nil
  leading zero := by
    rcases Nat.eq_zero_or_pos n with rfl | positive
    · rfl
    · exact absurd zero (head_toDigits positive)

/-! ## Notations -/

/-- The digits of a positive number without zeros at either end. -/
structure Significant (digits : List Char) : Prop where
  all : ∀ c ∈ digits, c.isDigit = true
  nonempty : digits ≠ []
  leading : digits.head? ≠ some '0'

theorem exists_zeros (digits : List Char) : ∃ zeros,
    digits = NumberFormat.withoutTrailingZeros digits ++ List.replicate zeros '0' := by
  refine ⟨(digits.reverse.takeWhile (· = '0')).length, ?_⟩
  have zeros : digits.reverse.takeWhile (· = '0') =
      List.replicate (digits.reverse.takeWhile (· = '0')).length '0' := by
    refine List.eq_replicate_of_mem fun c member => ?_
    simpa using List.mem_takeWhile_imp member
  have split := congrArg List.reverse
    (List.takeWhile_append_dropWhile (p := fun c => decide (c = '0')) (l := digits.reverse))
  rw [List.reverse_append, List.reverse_reverse, zeros, List.reverse_replicate] at split
  exact split.symm

theorem significant_withoutTrailingZeros {n : Nat} (positive : 0 < n) :
    Significant (NumberFormat.withoutTrailingZeros (Nat.toDigits 10 n)) := by
  obtain ⟨zeros, split⟩ := exists_zeros (Nat.toDigits 10 n)
  have leading := head_toDigits positive
  have all := isDigit_toDigits n
  generalize NumberFormat.withoutTrailingZeros (Nat.toDigits 10 n) = digits at *
  rw [split] at leading all
  have nonempty : digits ≠ [] := by
    rintro rfl
    cases zeros with
    | zero => exact Nat.toDigits_ne_nil split
    | succ more => exact leading rfl
  refine ⟨fun c member => all c (List.mem_append_left _ member), nonempty, ?_⟩
  rwa [List.head?_append_of_ne_nil _ nonempty] at leading

/-- The value of the digits with the point behind the first digit, times a power of ten. -/
def scientific (digits : List Char) (leading : Int) : ℚ :=
  (Nat.ofDigitChars 10 digits 0 : ℚ) * 10 ^ (leading + 1 - digits.length)

/-- The text is that of parts with this value, and not of an integer. -/
def Denotes (text : String) (value : ℚ) : Prop :=
  ∃ p : Parts, text.toList = p.text ∧ (p.fraction ≠ [] ∨ p.power ≠ none) ∧
    p.decimal.value = value

theorem ofDigitChars_zeros (digits : List Char) (zeros : Nat) :
    Nat.ofDigitChars 10 (digits ++ List.replicate zeros '0') 0 =
      Nat.ofDigitChars 10 digits 0 * 10 ^ zeros := by
  rw [Nat.ofDigitChars_append, Nat.ofDigitChars_replicate_zero, Nat.mul_comm]

/-- Zeros behind the digits do not change the value. -/
theorem scientific_withoutTrailingZeros (d : Decimal) :
    scientific (NumberFormat.withoutTrailingZeros (Nat.toDigits 10 d.digits))
      (d.scale + (Nat.toDigits 10 d.digits).length - 1) = d.value := by
  obtain ⟨zeros, split⟩ := exists_zeros (Nat.toDigits 10 d.digits)
  have value : Nat.ofDigitChars 10 (Nat.toDigits 10 d.digits) 0 = d.digits :=
    Nat.ofDigitChars_ten_toDigits
  generalize NumberFormat.withoutTrailingZeros (Nat.toDigits 10 d.digits) = digits at *
  rw [split, ofDigitChars_zeros] at value
  rw [split, scientific, Decimal.value, ← value, Nat.cast_mul, Nat.cast_pow, Nat.cast_ofNat,
    mul_assoc, ← zpow_natCast, ← zpow_add₀ (by norm_num), List.length_append,
    List.length_replicate]
  congr 2
  push_cast
  ring

variable {digits : List Char}

theorem head_ne_zero_take (significant : Significant digits) {count : Nat} (positive : 0 < count) :
    (digits.take count).head? ≠ some '0' := by
  obtain ⟨c, rest, rfl⟩ := List.exists_cons_of_ne_nil significant.nonempty
  obtain ⟨more, rfl⟩ := Nat.exists_eq_succ_of_ne_zero positive.ne'
  exact significant.leading

/-- A number below one has its digits behind a point and zeros. -/
theorem denotes_small (significant : Significant digits) {leading : Int}
    (below : leading < 0) :
    Denotes (NumberFormat.positionalText digits leading) (scientific digits leading) := by
  have nonempty := significant.nonempty
  refine ⟨{ whole := ['0']
            fraction := List.replicate (-leading - 1).toNat '0' ++ digits
            power := none
            wholeDigits := isDigit_zeros 1
            fractionDigits := isDigit_append (isDigit_zeros _) significant.all
            nonempty := List.cons_ne_nil _ _
            leading := fun _ => rfl }, ?_, .inl (by simp [nonempty]), ?_⟩
  · simp [NumberFormat.positionalText, below, Parts.text, Parts.fractionText, Parts.powerText,
      nonempty]
  · have zeros : ['0'] ++ (List.replicate (-leading - 1).toNat '0' ++ digits) =
        List.replicate ((-leading - 1).toNat + 1) '0' ++ digits := rfl
    simp only [Parts.decimal, Decimal.value, scientific, zeros, Nat.ofDigitChars_append,
      Nat.ofDigitChars_replicate_zero, Nat.mul_zero]
    congr 2
    simp only [Option.getD_none, List.length_append, List.length_replicate]
    omega

/-- The digits go on behind the point. -/
theorem denotes_split (significant : Significant digits) {leading : Int}
    (above : ¬ leading < 0) (more : leading.toNat + 1 < digits.length) :
    Denotes (NumberFormat.positionalText digits leading) (scientific digits leading) := by
  refine ⟨{ whole := digits.take (leading.toNat + 1)
            fraction := digits.drop (leading.toNat + 1)
            power := none
            wholeDigits := fun c member => significant.all c (List.mem_of_mem_take member)
            fractionDigits := fun c member => significant.all c (List.mem_of_mem_drop member)
            nonempty := by simp [significant.nonempty]
            leading := fun zero => absurd zero (head_ne_zero_take significant (by omega)) },
          ?_, .inl (by simpa using more), ?_⟩
  · have filled : leading.toNat + 1 - digits.length = 0 := by omega
    have goesOn : ¬ digits.length ≤ leading.toNat + 1 := by omega
    simp [NumberFormat.positionalText, above, Parts.text, Parts.fractionText, Parts.powerText,
      filled, goesOn]
  · simp only [Parts.decimal, Decimal.value, scientific, List.take_append_drop]
    congr 2
    simp only [Option.getD_none, List.length_drop]
    omega

/-- A whole number is filled up with zeros. -/
theorem denotes_filled (significant : Significant digits) {leading : Int}
    (above : ¬ leading < 0) (all : digits.length ≤ leading.toNat + 1) :
    Denotes (NumberFormat.positionalText digits leading) (scientific digits leading) := by
  have nonempty := significant.nonempty
  refine ⟨{ whole := digits ++ List.replicate (leading.toNat + 1 - digits.length) '0'
            fraction := ['0']
            power := none
            wholeDigits := isDigit_append significant.all (isDigit_zeros _)
            fractionDigits := isDigit_zeros 1
            nonempty := by simp [nonempty]
            leading := fun zero => absurd zero ?_ }, ?_, .inl (List.cons_ne_nil _ _), ?_⟩
  · rw [List.head?_append_of_ne_nil _ nonempty]
    exact significant.leading
  · unfold NumberFormat.positionalText
    rw [if_neg above]
    dsimp only
    rw [List.take_of_length_le all, List.drop_of_length_le all]
    simp [Parts.text, Parts.fractionText, Parts.powerText]
  · have zeros : digits ++ List.replicate (leading.toNat + 1 - digits.length) '0' ++ ['0'] =
        digits ++ List.replicate (leading.toNat + 1 - digits.length + 1) '0' := by
      rw [List.append_assoc, ← List.replicate_succ']
    simp only [Parts.decimal, Decimal.value, scientific, zeros, ofDigitChars_zeros]
    rw [Nat.cast_mul, Nat.cast_pow, Nat.cast_ofNat, mul_assoc, ← zpow_natCast,
      ← zpow_add₀ (by norm_num)]
    congr 2
    simp only [Option.getD_none, List.length_singleton]
    omega

/-- A number without an exponent has its parts around the point. -/
theorem denotes_positional (significant : Significant digits) (leading : Int) :
    Denotes (NumberFormat.positionalText digits leading) (scientific digits leading) := by
  by_cases below : leading < 0
  · exact denotes_small significant below
  · rcases Nat.lt_or_ge (leading.toNat + 1) digits.length with more | all
    · exact denotes_split significant below more
    · exact denotes_filled significant below all

theorem denotes_exponent (significant : Significant digits) (leading : Int) :
    Denotes (Number.jsonFormat.exponentText digits leading) (scientific digits leading) := by
  refine ⟨{ whole := digits.take 1
            fraction := digits.drop 1
            power := some leading
            wholeDigits := fun c member => significant.all c (List.mem_of_mem_take member)
            fractionDigits := fun c member => significant.all c (List.mem_of_mem_drop member)
            nonempty := by simp [significant.nonempty]
            leading := fun zero => absurd zero (head_ne_zero_take significant Nat.one_pos) },
          ?_, .inr (Option.some_ne_none _), ?_⟩
  · unfold NumberFormat.exponentText
    simp only [Parts.text]
    cases digits.drop 1 <;> by_cases below : leading < 0 <;>
      simp [Parts.fractionText, Parts.powerText, Number.jsonFormat,
        Number.listingFormat, below]
  · have positive := List.length_pos_of_ne_nil significant.nonempty
    simp only [Parts.decimal, Decimal.value, scientific, List.take_append_drop]
    congr 2
    simp only [Option.getD_some, List.length_drop]
    omega

/-- The notation of a positive decimal is that of parts with the same value. -/
theorem denotes_decimalText {d : Decimal} (positive : 0 < d.digits) :
    Denotes (Number.jsonFormat.decimalText d) d.value := by
  have significant := significant_withoutTrailingZeros positive
  have value := scientific_withoutTrailingZeros d
  unfold NumberFormat.decimalText
  dsimp only
  rw [← value]
  split
  · exact denotes_positional significant _
  · exact denotes_exponent significant _

/-! ## Numbers -/

def signText (negative : Bool) : List Char := if negative then ['-'] else []

/-- A finite number is written as parts that are rounded to it again. -/
theorem exists_parts_write {x : Binary64} (finite : x.Finite) :
    ∃ p : Parts, (Number.jsonFormat.write x).toList = signText x.negative ++ p.text ∧
      (p.fraction ≠ [] ∨ p.power ≠ none) ∧
      Binary64.ofDecimal x.negative p.decimal.digits p.decimal.scale = x := by
  obtain ⟨mantissa, exponent, magnitude⟩ := finite.exists_magnitude
  have sign : (if x.negative then "-" else "").toList = signText x.negative := by
    unfold signText
    split <;> rfl
  unfold NumberFormat.write
  rw [magnitude]
  rcases Nat.eq_zero_or_pos mantissa with rfl | positive
  · refine ⟨{ whole := ['0']
              fraction := ['0']
              power := none
              wholeDigits := isDigit_zeros 1
              fractionDigits := isDigit_zeros 1
              nonempty := List.cons_ne_nil _ _
              leading := fun _ => rfl }, ?_, .inl (List.cons_ne_nil _ _), ?_⟩
    · show ((if x.negative then "-" else "") ++ "0.0").toList = _
      rw [String.toList_append, sign]
      rfl
    · have digits : Nat.ofDigitChars 10 (['0'] ++ ['0']) 0 = 0 := by decide
      simp only [Parts.decimal, digits]
      exact Binary64.ofDecimal_zero magnitude _
  · have canonical := Binary64.canonical_of_magnitude magnitude positive.ne'
    have holds := canonical.holds_shortest
    obtain ⟨p, text, point, value⟩ := denotes_decimalText (canonical.digits_pos holds)
    rw [← value] at holds
    refine ⟨p, ?_, point, Binary64.ofDecimal_of_holds magnitude positive.ne' holds⟩
    cases mantissa with
    | zero => exact absurd positive (Nat.lt_irrefl 0)
    | succ m =>
        show ((if x.negative then "-" else "") ++ _).toList = _
        rw [String.toList_append, sign, text]

theorem ne_of_isDigit {c letter : Char} (digit : c.isDigit = true)
    (notDigit : letter.isDigit = false) : letter ≠ c := by
  rintro rfl
  rw [digit] at notDigit
  cases notDigit

theorem readName?_of_isDigit {c : Char} (digit : c.isDigit = true) (cs : List Char) :
    readName? (c :: cs) = none := by
  have other := @ne_of_isDigit c
  simp [readName?, other, digit]

theorem readName?_of_minus {c : Char} (digit : c.isDigit = true) (cs : List Char) :
    readName? ('-' :: c :: cs) = none := by
  simp [readName?, ne_of_isDigit digit]

/-- A number with its sign is read by its parts. -/
theorem readValue_number (depth fuel : Nat) (negative : Bool) (p : Parts) (rest : List Char) :
    readValue depth (fuel + 1) (signText negative ++ (p.text ++ rest)) =
      readNumber negative (p.text ++ rest) := by
  obtain ⟨c, more, whole⟩ := List.exists_cons_of_ne_nil p.nonempty
  have digit : c.isDigit = true := p.wholeDigits c (by simp [whole])
  have text : ∃ cs, p.text ++ rest = c :: cs := by simp [Parts.text, whole]
  obtain ⟨cs, text⟩ := text
  rw [text]
  cases negative with
  | false =>
      show readValue depth (fuel + 1) (c :: cs) = _
      rw [readValue, readName?_of_isDigit digit]
      all_goals exact fun rest same => ne_of_isDigit digit rfl (List.cons.inj same).1.symm
  | true =>
      show readValue depth (fuel + 1) ('-' :: c :: cs) = _
      rw [readValue, readName?_of_minus digit]

/-- A finite number is read back from its text. -/
theorem readValue_write (depth fuel : Nat) {x : Binary64} (finite : x.Finite) (ended : Ended rest) :
    readValue depth (fuel + 1) ((Number.jsonFormat.write x).toList ++ rest) =
      .ok (.float x, rest) := by
  obtain ⟨p, text, point, value⟩ := exists_parts_write finite
  have inexact : (p.fraction.isEmpty && p.power.isNone) = false := by
    rcases point with fraction | power
    · simp [fraction]
    · cases same : p.power with
      | none => exact absurd same power
      | some _ => simp
  rw [text, List.append_assoc, readValue_number, readNumber_text _ p ended, inexact,
    if_neg Bool.false_ne_true, value]

/-- An integer with few enough digits is read back from its text. -/
theorem readValue_decimal (depth fuel : Nat) {value : Int}
    (short : (Nat.toDigits 10 value.natAbs).length ≤ Text.digitLimit) (ended : Ended rest) :
    readValue depth (fuel + 1) ((Text.decimal value).toList ++ rest) = .ok (.int value, rest) := by
  have text : (Text.decimal value).toList =
      signText (decide (value < 0)) ++ (Parts.ofNat value.natAbs).text := by
    simp [Text.decimal, Text.padded, signText, Parts.text, Parts.ofNat, Parts.fractionText,
      Parts.powerText]
  have number : Nat.ofDigitChars 10 (Parts.ofNat value.natAbs).whole 0 = value.natAbs :=
    Nat.ofDigitChars_ten_toDigits
  have notLong : ¬ Text.digitLimit < (Parts.ofNat value.natAbs).whole.length :=
    Nat.not_lt.mpr short
  have exact : ((Parts.ofNat value.natAbs).fraction.isEmpty &&
      (Parts.ofNat value.natAbs).power.isNone) = true := rfl
  rw [text, List.append_assoc, readValue_number, readNumber_text _ _ ended, number, exact,
    if_pos rfl, if_neg notLong]
  by_cases below : value < 0
  · simp only [below, decide_true, if_true]
    congr 3
    omega
  · simp only [below, decide_false, Bool.false_eq_true, if_false]
    congr 3
    omega

end SceneCode.Json
