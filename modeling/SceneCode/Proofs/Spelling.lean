import Mathlib
import SceneCode.Text.Integer

/-!
# Spellings of integers

The grammar of the integer literals whose base is chosen by a mark (`Spelled`), and the proof that
the reader of literals follows it: a text is read as a number exactly if it spells that number, with
no more than `digitLimit` digits if they are decimal (`readInteger_eq_ok_iff`).

The grammar is stated for the characters of a text, of whatever script.  The reader works on ASCII
forms; a character and its ASCII form play the same part in the grammar (`Same`).
-/

set_option autoImplicit false

namespace SceneCode.Text

/-! ## Digits and white space of any script -/

/-- White space of any script.  The four separators of information in ASCII are not white space. -/
def isWhite (c : Char) : Bool := isAsciiBlank c || (128 ≤ c.toNat && isBlank c)

/-- The value of a digit: a decimal digit of any script or a Latin letter. -/
def figure? (c : Char) : Option Nat := (digitValue? c).or (asciiDigit? c)

theorem digitValue?_of_ascii {c : Char} (ascii : c.toNat < 128) :
    digitValue? c = if 48 ≤ c.toNat ∧ c.toNat ≤ 57 then some (c.toNat - 48) else none := by
  have foreign : ∀ start ∈ digitZeros.tail, 128 ≤ start := by decide
  have others : (digitZeros.tail.find? fun start => start ≤ c.toNat && c.toNat ≤ start + 9) =
      none := by
    rw [List.find?_eq_none]
    intro start member inside
    have far := foreign start member
    simp only [Bool.and_eq_true, decide_eq_true_eq] at inside
    omega
  have zeros : digitZeros = 48 :: digitZeros.tail := rfl
  rw [digitValue?, zeros, List.find?_cons, others]
  by_cases digit : 48 ≤ c.toNat ∧ c.toNat ≤ 57
  · simp [digit]
  · rw [if_neg digit]
    simp only [Option.map_eq_none_iff]
    split
    · rename_i inside
      simp only [Bool.and_eq_true, decide_eq_true_eq] at inside
      omega
    · rfl

theorem asciiDigit?_eq (c : Char) :
    asciiDigit? c =
      if 48 ≤ c.toNat ∧ c.toNat ≤ 57 then some (c.toNat - 48)
      else if 97 ≤ c.toNat ∧ c.toNat ≤ 122 then some (c.toNat - 97 + 10)
      else if 65 ≤ c.toNat ∧ c.toNat ≤ 90 then some (c.toNat - 65 + 10)
      else none := by
  simp only [asciiDigit?, Char.le_def, UInt32.le_iff_toNat_le]
  rfl

theorem asciiDigit?_of_foreign {c : Char} (foreign : 127 ≤ c.toNat) : asciiDigit? c = none := by
  rw [asciiDigit?_eq, if_neg (by omega), if_neg (by omega), if_neg (by omega)]

theorem figure?_of_ascii {c : Char} (ascii : c.toNat < 128) : figure? c = asciiDigit? c := by
  rw [figure?, digitValue?_of_ascii ascii, asciiDigit?_eq]
  split <;> rfl

theorem isWhite_of_ascii {c : Char} (ascii : c.toNat < 128) : isWhite c = isAsciiBlank c := by
  simp [isWhite, Nat.not_le.mpr ascii]

/-- The characters that have a meaning of their own in a literal. -/
def marks : List Char := ['_', '+', '-', 'x', 'X', 'o', 'O', 'b', 'B']

/-- The two characters play the same part in literals. -/
structure Same (c k : Char) : Prop where
  figure : figure? c = figure? k
  white : isWhite c = isWhite k
  mark : ∀ m ∈ marks, c = m ↔ k = m

theorem Same.refl (c : Char) : Same c c := ⟨rfl, rfl, fun _ _ => Iff.rfl⟩

theorem Same.symm {c k : Char} (same : Same c k) : Same k c :=
  ⟨same.figure.symm, same.white.symm, fun m member => (same.mark m member).symm⟩

theorem same_of_foreign {c k : Char} (foreign : 127 ≤ c.toNat) (figure : figure? c = figure? k)
    (white : isWhite c = isWhite k) (unmarked : k ∉ marks) : Same c k := by
  have ascii : ∀ m ∈ marks, m.toNat < 127 := by simp [marks]
  refine ⟨figure, white, fun m member => iff_of_false ?_ ?_⟩
  · rintro rfl
    exact absurd foreign (Nat.not_le.mpr (ascii c member))
  · rintro rfl
    exact unmarked member

theorem isAsciiBlank_of_foreign {c : Char} (foreign : 127 ≤ c.toNat) : isAsciiBlank c = false := by
  simp [isAsciiBlank]
  omega

theorem exists_range_of_isBlank {c : Char} (foreign : 127 ≤ c.toNat) (blank : isBlank c = true) :
    ∃ r ∈ blankRanges, r.1 ≤ c.toNat ∧ c.toNat ≤ r.2 := by
  rw [isBlank, isAsciiBlank_of_foreign foreign, Bool.false_or, List.any_eq_true] at blank
  simpa using blank

theorem same_blank {c : Char} (foreign : 127 ≤ c.toNat) (blank : isBlank c = true) :
    Same c ' ' := by
  have apart : ∀ r ∈ blankRanges, (r.2 < 127 ∨ 128 ≤ r.1) ∧
      ∀ start ∈ digitZeros, r.2 < start ∨ start + 9 < r.1 := by
    decide
  obtain ⟨r, member, lower, upper⟩ := exists_range_of_isBlank foreign blank
  obtain ⟨beyond, far⟩ := apart r member
  have noDigit : digitValue? c = none := by
    rw [digitValue?, Option.map_eq_none_iff, List.find?_eq_none]
    intro start zero inside
    simp only [Bool.and_eq_true, decide_eq_true_eq] at inside
    have outside := far start zero
    omega
  refine same_of_foreign foreign ?_ ?_ (by simp [marks])
  · rw [figure?, noDigit, asciiDigit?_of_foreign foreign]
    rfl
  · rw [isWhite, isAsciiBlank_of_foreign foreign, blank, decide_eq_true (by omega)]
    rfl

theorem same_digit {c : Char} {d : Nat} (foreign : 127 ≤ c.toNat) (notBlank : isBlank c = false)
    (digit : digitValue? c = some d) : Same c (Nat.digitChar d) := by
  have ascii : ∀ d < 10, figure? (Nat.digitChar d) = some d ∧
      isWhite (Nat.digitChar d) = false ∧ Nat.digitChar d ∉ marks := by
    decide +kernel
  obtain ⟨value, plain, other⟩ := ascii d (digitValue?_lt_ten digit)
  refine same_of_foreign foreign ?_ ?_ other
  · rw [figure?, digit, value]
    rfl
  · rw [isWhite, isAsciiBlank_of_foreign foreign, notBlank, plain, Bool.and_false, Bool.or_false]

/-- A character plays the part of its ASCII form. -/
theorem same_asciiForm (c : Char) : Same c (asciiForm c) := by
  rw [asciiForm]
  split
  · exact Same.refl c
  · rename_i large
    have foreign : 127 ≤ c.toNat := by omega
    split
    · exact same_blank foreign ‹_›
    · rename_i notBlank
      rw [Bool.not_eq_true] at notBlank
      cases digit : digitValue? c with
      | none =>
          refine same_of_foreign foreign ?_ ?_ (by simp [marks])
          · rw [figure?, digit, asciiDigit?_of_foreign foreign]
            rfl
          · rw [isWhite, isAsciiBlank_of_foreign foreign, notBlank, Bool.and_false, Bool.or_false]
            rfl
      | some d => exact same_digit foreign notBlank digit

theorem same_asciiText (cs : List Char) : List.Forall₂ Same cs (asciiText cs) := by
  rw [asciiText]
  split
  · exact List.forall₂_same.mpr fun c _ => Same.refl c
  · exact List.forall₂_map_right_iff.mpr (List.forall₂_same.mpr fun c _ => same_asciiForm c)

theorem ascii_asciiForm (c : Char) : (asciiForm c).toNat < 128 := by
  rw [asciiForm]
  split
  · omega
  · split
    · decide
    · cases digit : digitValue? c with
      | none => decide
      | some d =>
          have ascii : ∀ d < 10, (Nat.digitChar d).toNat < 128 := by decide
          exact ascii d (digitValue?_lt_ten digit)

theorem ascii_asciiText (cs : List Char) : ∀ c ∈ asciiText cs, c.toNat < 128 := by
  rw [asciiText]
  split
  · rename_i all
    simpa using all
  · intro c member
    obtain ⟨form, _, rfl⟩ := List.mem_map.mp member
    exact ascii_asciiForm form

/-! ## The grammar of literals -/

/-- A run of digits of the base, with the values of the digits.  Single underscores may stand
between two digits. -/
inductive Grouped (base : Nat) : List Char → List Nat → Prop where
  | last {c : Char} {d : Nat} (figure : figure? c = some d) (small : d < base) :
      Grouped base [c] [d]
  | next {c : Char} {d : Nat} {cs : List Char} {ds : List Nat} (figure : figure? c = some d)
      (small : d < base) (rest : Grouped base cs ds) : Grouped base (c :: cs) (d :: ds)
  | apart {c : Char} {d : Nat} {cs : List Char} {ds : List Nat} (figure : figure? c = some d)
      (small : d < base) (rest : Grouped base cs ds) : Grouped base (c :: '_' :: cs) (d :: ds)

/-- The base that a mark behind a zero stands for. -/
def markedBase? : Char → Option Nat
  | 'x' | 'X' => some 16
  | 'o' | 'O' => some 8
  | 'b' | 'B' => some 2
  | _ => none

/-- A literal without a sign, its base and the values of its digits.  A decimal literal has no
leading zeros unless all its digits are zero. -/
inductive Unsigned : List Char → Nat → List Nat → Prop where
  | decimal {cs : List Char} {d : Nat} {ds : List Nat} (run : Grouped 10 cs (d :: ds))
      (nonzero : d ≠ 0) : Unsigned cs 10 (d :: ds)
  | zeros {cs : List Char} {ds : List Nat} (run : Grouped 10 cs ds) (all : ∀ d ∈ ds, d = 0) :
      Unsigned cs 10 ds
  | marked {zero mark : Char} {base : Nat} {cs : List Char} {ds : List Nat}
      (first : figure? zero = some 0) (known : markedBase? mark = some base)
      (run : Grouped base cs ds) : Unsigned (zero :: mark :: cs) base ds
  | markedApart {zero mark : Char} {base : Nat} {cs : List Char} {ds : List Nat}
      (first : figure? zero = some 0) (known : markedBase? mark = some base)
      (run : Grouped base cs ds) : Unsigned (zero :: mark :: '_' :: cs) base ds

/-- The number with these digits, the most significant one first. -/
def magnitude (base : Nat) (digits : List Nat) : Nat := Nat.ofDigits base digits.reverse

/-- What a literal with these digits is read as: its value, unless it has too many digits. -/
def verdict {α : Type} (base : Nat) (digits : List Nat) (value : α) : Except LiteralFault α :=
  if !unlimited base && digitLimit < digits.length then .error (.tooLong digits.length)
  else .ok value

inductive Signed : List Char → Nat → List Nat → Int → Prop where
  | plain {cs : List Char} {base : Nat} {ds : List Nat} (number : Unsigned cs base ds) :
      Signed cs base ds (magnitude base ds)
  | plus {cs : List Char} {base : Nat} {ds : List Nat} (number : Unsigned cs base ds) :
      Signed ('+' :: cs) base ds (magnitude base ds)
  | minus {cs : List Char} {base : Nat} {ds : List Nat} (number : Unsigned cs base ds) :
      Signed ('-' :: cs) base ds (-(magnitude base ds : Int))

/-- The characters spell an integer with these digits; white space may surround the literal. -/
def Spelled (cs : List Char) (base : Nat) (digits : List Nat) (n : Int) : Prop :=
  ∃ front body back, cs = front ++ (body ++ back) ∧ (∀ c ∈ front, isWhite c = true) ∧
    (∀ c ∈ back, isWhite c = true) ∧ Signed body base digits n

theorem verdict_eq_ok_iff {α : Type} {base : Nat} {digits : List Nat} {value result : α} :
    verdict base digits value = .ok result ↔
      (unlimited base = false → digits.length ≤ digitLimit) ∧ value = result := by
  unfold verdict
  split
  · rename_i long
    simp only [Bool.and_eq_true, Bool.not_eq_true', decide_eq_true_eq] at long
    refine iff_of_false (fun read => by cases read) ?_
    exact fun short => absurd (short.1 long.1) (Nat.not_le.mpr long.2)
  · rename_i short
    rw [Except.ok.injEq, and_iff_right]
    simpa using short

theorem map_verdict {α β : Type} (base : Nat) (digits : List Nat) (value : α) (change : α → β) :
    (verdict base digits value).map change = verdict base digits (change value) := by
  unfold verdict
  split <;> rfl

theorem Unsigned.limited_iff {cs : List Char} {base : Nat} {ds : List Nat}
    (number : Unsigned cs base ds) : unlimited base = false ↔ base = 10 := by
  have marked : ∀ {mark : Char}, markedBase? mark = some base →
      (unlimited base = false ↔ base = 10) := by
    intro mark known
    unfold markedBase? at known
    split at known <;> cases known <;> decide
  cases number with
  | decimal => exact iff_of_true rfl rfl
  | zeros => exact iff_of_true rfl rfl
  | marked _ known _ => exact marked known
  | markedApart _ known _ => exact marked known

/-- Only decimal literals are limited in length. -/
theorem Spelled.limited_iff {cs : List Char} {base : Nat} {ds : List Nat} {n : Int}
    (spelled : Spelled cs base ds n) : unlimited base = false ↔ base = 10 := by
  obtain ⟨_, _, _, _, _, _, literal⟩ := spelled
  cases literal with
  | plain number => exact number.limited_iff
  | plus number => exact number.limited_iff
  | minus number => exact number.limited_iff

/-! ## Characters that play the same part -/

theorem mem_marks_of_markedBase? {mark : Char} {base : Nat} (known : markedBase? mark = some base) :
    mark ∈ marks := by
  unfold markedBase? at known
  split at known <;> simp [marks] at known ⊢

theorem markedBase?_congr {mark k : Char} {base : Nat} (known : markedBase? mark = some base)
    (same : Same mark k) : markedBase? k = some base := by
  rw [(same.mark mark (mem_marks_of_markedBase? known)).mp rfl]
  exact known

theorem Grouped.congr {base : Nat} {cs : List Char} {ds : List Nat} (run : Grouped base cs ds) :
    ∀ {ks : List Char}, List.Forall₂ Same cs ks → Grouped base ks ds := by
  induction run with
  | last figure small =>
      intro ks same
      obtain ⟨k, rest, here, later, rfl⟩ := List.forall₂_cons_left_iff.mp same
      rw [List.forall₂_nil_left_iff.mp later]
      exact .last (here.figure ▸ figure) small
  | next figure small _ ih =>
      intro ks same
      obtain ⟨k, rest, here, later, rfl⟩ := List.forall₂_cons_left_iff.mp same
      exact .next (here.figure ▸ figure) small (ih later)
  | apart figure small _ ih =>
      intro ks same
      obtain ⟨k, rest, here, others, rfl⟩ := List.forall₂_cons_left_iff.mp same
      obtain ⟨underscore, rest, between, later, rfl⟩ := List.forall₂_cons_left_iff.mp others
      obtain rfl := (between.mark '_' (by simp [marks])).mp rfl
      exact .apart (here.figure ▸ figure) small (ih later)

theorem Unsigned.congr {base : Nat} {cs ks : List Char} {ds : List Nat}
    (number : Unsigned cs base ds) (same : List.Forall₂ Same cs ks) : Unsigned ks base ds := by
  cases number with
  | decimal run nonzero => exact .decimal (run.congr same) nonzero
  | zeros run all => exact .zeros (run.congr same) all
  | marked first known run =>
      obtain ⟨zero, rest, here, others, rfl⟩ := List.forall₂_cons_left_iff.mp same
      obtain ⟨mark, rest, next, later, rfl⟩ := List.forall₂_cons_left_iff.mp others
      exact .marked (here.figure ▸ first) (markedBase?_congr known next) (run.congr later)
  | markedApart first known run =>
      obtain ⟨zero, rest, here, others, rfl⟩ := List.forall₂_cons_left_iff.mp same
      obtain ⟨mark, rest, next, more, rfl⟩ := List.forall₂_cons_left_iff.mp others
      obtain ⟨underscore, rest, between, later, rfl⟩ := List.forall₂_cons_left_iff.mp more
      obtain rfl := (between.mark '_' (by simp [marks])).mp rfl
      exact .markedApart (here.figure ▸ first) (markedBase?_congr known next) (run.congr later)

theorem Signed.congr {base : Nat} {cs ks : List Char} {ds : List Nat} {n : Int}
    (literal : Signed cs base ds n) (same : List.Forall₂ Same cs ks) : Signed ks base ds n := by
  cases literal with
  | plain number => exact .plain (number.congr same)
  | plus number =>
      obtain ⟨sign, rest, here, later, rfl⟩ := List.forall₂_cons_left_iff.mp same
      obtain rfl := (here.mark '+' (by simp [marks])).mp rfl
      exact .plus (number.congr later)
  | minus number =>
      obtain ⟨sign, rest, here, later, rfl⟩ := List.forall₂_cons_left_iff.mp same
      obtain rfl := (here.mark '-' (by simp [marks])).mp rfl
      exact .minus (number.congr later)

theorem exists_append_of_same {front back ks : List Char}
    (same : List.Forall₂ Same (front ++ back) ks) :
    ∃ first second, ks = first ++ second ∧ List.Forall₂ Same front first ∧
      List.Forall₂ Same back second := by
  refine ⟨ks.take front.length, ks.drop front.length, (List.take_append_drop _ _).symm, ?_, ?_⟩
  · simpa using List.forall₂_take front.length same
  · simpa using List.forall₂_drop front.length same

theorem white_congr {cs ks : List Char} (same : List.Forall₂ Same cs ks)
    (white : ∀ c ∈ cs, isWhite c = true) : ∀ k ∈ ks, isWhite k = true := by
  induction same with
  | nil => simp
  | cons here _ ih =>
      rw [List.forall_mem_cons] at white ⊢
      exact ⟨here.white ▸ white.1, ih white.2⟩

theorem Spelled.congr {base : Nat} {cs ks : List Char} {ds : List Nat} {n : Int}
    (spelled : Spelled cs base ds n) (same : List.Forall₂ Same cs ks) : Spelled ks base ds n := by
  obtain ⟨front, body, back, rfl, frontWhite, backWhite, literal⟩ := spelled
  obtain ⟨front', rest, rfl, frontSame, restSame⟩ := exists_append_of_same same
  obtain ⟨body', back', rfl, bodySame, backSame⟩ := exists_append_of_same restSame
  exact ⟨front', body', back', rfl, white_congr frontSame frontWhite,
    white_congr backSame backWhite, literal.congr bodySame⟩

theorem spelled_asciiText_iff {base : Nat} {cs : List Char} {ds : List Nat} {n : Int} :
    Spelled (asciiText cs) base ds n ↔ Spelled cs base ds n := by
  have same := same_asciiText cs
  constructor
  · intro spelled
    exact spelled.congr (same.imp fun _ _ here => here.symm).flip
  · intro spelled
    exact spelled.congr same

/-! ## Runs of digits -/

theorem ne_of_figure {c m : Char} {d : Nat} (figure : figure? c = some d)
    (mark : m ∈ ['_', '+', '-']) : c ≠ m := by
  have none : ∀ m ∈ ['_', '+', '-'], m.toNat < 128 ∧ asciiDigit? m = none := by
    simp [asciiDigit?_eq]
  obtain ⟨ascii, digitless⟩ := none m mark
  intro same
  rw [same, figure?_of_ascii ascii, digitless] at figure
  cases figure

theorem ne_underscore_of_figure {c : Char} {d : Nat} (figure : figure? c = some d) : c ≠ '_' :=
  ne_of_figure figure (by simp)

theorem ungroup?_last {c : Char} (digit : c ≠ '_') : ungroup? [c] = some [c] := by
  rw [ungroup?, if_neg digit]

theorem ungroup?_apart {c : Char} (digit : c ≠ '_') (rest : List Char) :
    ungroup? (c :: '_' :: rest) = (ungroup? rest).map (c :: ·) := by
  rw [ungroup?, if_neg digit]

theorem ungroup?_next {c next : Char} (digit : c ≠ '_') (nextDigit : next ≠ '_')
    (rest : List Char) :
    ungroup? (c :: next :: rest) = (ungroup? (next :: rest)).map (c :: ·) := by
  rw [ungroup?.eq_4 _ _ (by simp) (fun _ same => nextDigit (List.cons.inj same).1), if_neg digit]

theorem Grouped.exists_cons {base : Nat} {cs : List Char} {ds : List Nat}
    (run : Grouped base cs ds) :
    ∃ c rest d others, cs = c :: rest ∧ ds = d :: others ∧ figure? c = some d ∧ d < base := by
  cases run with
  | last figure small => exact ⟨_, _, _, _, rfl, rfl, figure, small⟩
  | next figure small _ => exact ⟨_, _, _, _, rfl, rfl, figure, small⟩
  | apart figure small _ => exact ⟨_, _, _, _, rfl, rfl, figure, small⟩

theorem grouped_replicate {base : Nat} {c : Char} {d : Nat} (figure : figure? c = some d)
    (small : d < base) (count : Nat) :
    Grouped base (List.replicate (count + 1) c) (List.replicate (count + 1) d) := by
  induction count with
  | zero => exact .last figure small
  | succ count ih => exact .next figure small ih

/-- The value of a character that is a digit. -/
def figure (c : Char) : Nat := (figure? c).getD 0

theorem ungroup?_of_grouped {base : Nat} {cs : List Char} {ds : List Nat}
    (run : Grouped base cs ds) : ∃ digits, ungroup? cs = some digits ∧ digits.map figure = ds := by
  induction run with
  | @last c d value small =>
      exact ⟨[c], ungroup?_last (ne_underscore_of_figure value), by simp [figure, value]⟩
  | @next c d cs ds value small rest ih =>
      obtain ⟨digits, ungrouped, values⟩ := ih
      obtain ⟨next, more, _, _, rfl, _, nextValue, _⟩ := rest.exists_cons
      refine ⟨c :: digits, ?_, by simp [figure, value, ← values]⟩
      rw [ungroup?_next (ne_underscore_of_figure value) (ne_underscore_of_figure nextValue),
        ungrouped]
      rfl
  | @apart c d cs ds value small rest ih =>
      obtain ⟨digits, ungrouped, values⟩ := ih
      refine ⟨c :: digits, ?_, by simp [figure, value, ← values]⟩
      rw [ungroup?_apart (ne_underscore_of_figure value), ungrouped]
      rfl

/-- A character of a run of digits. -/
def InRun (base : Nat) (c : Char) : Prop := (∃ d, figure? c = some d ∧ d < base) ∨ c = '_'

theorem Grouped.inRun {base : Nat} {cs : List Char} {ds : List Nat} (run : Grouped base cs ds) :
    ∀ c ∈ cs, InRun base c := by
  induction run with
  | last value small =>
      rw [List.forall_mem_singleton]
      exact .inl ⟨_, value, small⟩
  | next value small _ ih =>
      rw [List.forall_mem_cons]
      exact ⟨.inl ⟨_, value, small⟩, ih⟩
  | apart value small _ ih =>
      rw [List.forall_mem_cons, List.forall_mem_cons]
      exact ⟨.inl ⟨_, value, small⟩, .inr rfl, ih⟩

theorem InRun.figure {base : Nat} {c : Char} (inRun : InRun base c) (digit : c ≠ '_') :
    figure? c = some (figure c) ∧ figure c < base := by
  rcases inRun with ⟨d, value, small⟩ | underscore
  · simp [Text.figure, value, small]
  · exact absurd underscore digit

theorem grouped_of_ungroup? {base : Nat} {cs digits : List Char}
    (ungrouped : ungroup? cs = some digits) (each : ∀ c ∈ cs, InRun base c) :
    Grouped base cs (digits.map figure) ∧ digits ⊆ cs := by
  induction cs using ungroup?.induct generalizing digits with
  | case1 => simp [ungroup?] at ungrouped
  | case2 => simp [ungroup?] at ungrouped
  | case3 c digit =>
      rw [ungroup?_last digit] at ungrouped
      obtain rfl := Option.some.inj ungrouped
      obtain ⟨value, small⟩ := (each c (by simp)).figure digit
      exact ⟨.last value small, List.Subset.refl _⟩
  | case4 rest => simp [ungroup?] at ungrouped
  | case5 c rest digit ih =>
      rw [ungroup?_apart digit] at ungrouped
      obtain ⟨others, found, rfl⟩ := Option.map_eq_some_iff.mp ungrouped
      obtain ⟨value, small⟩ := (each c (by simp)).figure digit
      obtain ⟨run, inside⟩ := ih found fun k member => each k (by simp [member])
      exact ⟨.apart value small run, List.cons_subset_cons c (List.subset_cons_of_subset _ inside)⟩
  | case6 rest nonempty digit => simp [ungroup?.eq_4 _ _ nonempty digit] at ungrouped
  | case7 c rest nonempty nextDigit digit ih =>
      rw [ungroup?.eq_4 _ _ nonempty nextDigit, if_neg digit] at ungrouped
      obtain ⟨others, found, rfl⟩ := Option.map_eq_some_iff.mp ungrouped
      obtain ⟨value, small⟩ := (each c (by simp)).figure digit
      obtain ⟨run, inside⟩ := ih found fun k member => each k (by simp [member])
      exact ⟨.next value small run, List.cons_subset_cons c inside⟩

section

variable {base : Nat}

theorem inRun_iff {c : Char} (ascii : c.toNat < 128) :
    (isDigitOf base c || decide (c = '_')) = true ↔ InRun base c := by
  rw [Bool.or_eq_true, isDigitOf, ← figure?_of_ascii ascii, Option.any_eq_true, InRun]
  simp

theorem not_inRun_of_white {c : Char} (ascii : c.toNat < 128) (white : isWhite c = true) :
    ¬ InRun base c := by
  rw [isWhite_of_ascii ascii] at white
  have number : (9 ≤ c.toNat ∧ c.toNat ≤ 13) ∨ c.toNat = 32 := by
    simpa [isAsciiBlank] using white
  rintro (⟨d, value, _⟩ | rfl)
  · rw [figure?_of_ascii ascii, asciiDigit?_eq, if_neg (by omega), if_neg (by omega),
      if_neg (by omega)] at value
    cases value
  · revert number
    decide

theorem positional_eq_magnitude (digits : List Char) (ascii : ∀ c ∈ digits, c.toNat < 128) :
    positional base digits = magnitude base (digits.map figure) := by
  have step : ∀ start : Nat,
      digits.foldl (fun value c => value * base + (asciiDigit? c).getD 0) start =
        digits.foldl (fun value c => figure c + base * value) start := by
    induction digits with
    | nil => intro start; rfl
    | cons c rest ih =>
        intro start
        obtain ⟨here, later⟩ := List.forall_mem_cons.mp ascii
        rw [List.foldl_cons, List.foldl_cons, ih later, figure, figure?_of_ascii here,
          Nat.add_comm, Nat.mul_comm]
  rw [positional, step, magnitude, Nat.ofDigits_eq_foldr, List.foldr_reverse, List.foldl_map]
  rfl

theorem takeWhile_run {body back : List Char} (ascii : ∀ c ∈ body ++ back, c.toNat < 128)
    (run : ∀ c ∈ body, InRun base c) (white : ∀ c ∈ back, isWhite c = true) :
    (body ++ back).takeWhile (fun c => isDigitOf base c || decide (c = '_')) = body ∧
      (body ++ back).dropWhile (fun c => isDigitOf base c || decide (c = '_')) = back := by
  have inside : ∀ c ∈ body, (isDigitOf base c || decide (c = '_')) = true := fun c member =>
    (inRun_iff (ascii c (List.mem_append_left _ member))).mpr (run c member)
  rw [List.takeWhile_append_of_pos inside, List.dropWhile_append_of_pos inside]
  cases back with
  | nil => simp
  | cons first rest =>
      have here := ascii first (by simp)
      have outside : ¬ (isDigitOf base first || decide (first = '_')) = true := by
        rw [inRun_iff here]
        exact not_inRun_of_white here (white first List.mem_cons_self)
      rw [List.takeWhile_cons, if_neg outside, List.dropWhile_cons, if_neg outside, List.append_nil]
      exact ⟨rfl, rfl⟩

theorem grouped_of_readDigits {cs : List Char} (ascii : ∀ c ∈ cs, c.toNat < 128) {n : Nat}
    (read : readDigits base cs = .ok n) :
    ∃ body back ds, cs = body ++ back ∧ Grouped base body ds ∧
      (∀ c ∈ back, isWhite c = true) ∧ verdict base ds (magnitude base ds) = .ok n := by
  rw [readDigits] at read
  generalize bodyIs : cs.takeWhile (fun c => isDigitOf base c || decide (c = '_')) = body at read
  generalize backIs : cs.dropWhile (fun c => isDigitOf base c || decide (c = '_')) = back at read
  have whole : cs = body ++ back := by
    rw [← bodyIs, ← backIs, List.takeWhile_append_dropWhile]
  rw [whole] at ascii
  cases ungrouped : ungroup? body with
  | none =>
      rw [ungrouped] at read
      cases read
  | some digits =>
      rw [ungrouped] at read
      have each : ∀ c ∈ body, InRun base c := by
        intro c member
        rw [← inRun_iff (ascii c (List.mem_append_left _ member))]
        rw [← bodyIs] at member
        have kept := List.mem_takeWhile_imp member
        exact kept
      obtain ⟨run, inside⟩ := grouped_of_ungroup? ungrouped each
      dsimp only at read
      split at read
      · cases read
      · rename_i short
        split at read
        · rename_i blank
          refine ⟨body, back, digits.map figure, whole, run, ?_, ?_⟩
          · intro c member
            rw [isWhite_of_ascii (ascii c (List.mem_append_right _ member))]
            exact List.all_eq_true.mp blank c member
          · rw [verdict, List.length_map, if_neg short, ← read, positional_eq_magnitude digits
              fun c member => ascii c (List.mem_append_left _ (inside member))]
        · cases read

/-- The reader takes the digits of the base; what is behind them must be white space. -/
theorem readDigits_of_grouped {body back : List Char} {ds : List Nat}
    (ascii : ∀ c ∈ body ++ back, c.toNat < 128) (run : Grouped base body ds)
    (white : ∀ c ∈ back, isWhite c = true) :
    readDigits base (body ++ back) = verdict base ds (magnitude base ds) := by
  obtain ⟨taken, dropped⟩ := takeWhile_run ascii run.inRun white
  obtain ⟨digits, ungrouped, rfl⟩ := ungroup?_of_grouped run
  have inside := (grouped_of_ungroup? ungrouped run.inRun).2
  have blank : back.all isAsciiBlank = true := by
    rw [List.all_eq_true]
    intro c member
    rw [← isWhite_of_ascii (ascii c (List.mem_append_right _ member))]
    exact white c member
  rw [readDigits, taken, dropped, ungrouped, verdict, List.length_map, ← positional_eq_magnitude
    digits fun c member => ascii c (List.mem_append_left _ (inside member))]
  simp only [blank, if_true]

end

/-! ## Magnitudes -/

theorem readMagnitude_marked {mark : Char} {base : Nat} (known : markedBase? mark = some base)
    (rest : List Char) :
    readMagnitude .marked ('0' :: mark :: rest) = readDigits base (dropUnderscore rest) := by
  unfold markedBase? at known
  split at known <;> cases known <;> rfl

theorem readMagnitude_zero {rest : List Char}
    (unmarked : ∀ mark more, rest = mark :: more → markedBase? mark = none) :
    readMagnitude .marked ('0' :: rest) =
      match readDigits 10 ('0' :: rest) with
      | .ok 0 => .ok 0
      | .ok _ => .error .malformed
      | .error fault => .error fault := by
  have other : ∀ {mark : Char}, markedBase? mark ≠ none → ∀ more, rest ≠ mark :: more :=
    fun known more same => known (unmarked _ more same)
  exact readMagnitude.eq_8 _ (other (by decide)) (other (by decide)) (other (by decide))
    (other (by decide)) (other (by decide)) (other (by decide))

theorem readMagnitude_plain {cs : List Char} (nonzero : ∀ rest, cs ≠ '0' :: rest) :
    readMagnitude .marked cs = readDigits 10 cs :=
  readMagnitude.eq_9 cs (fun _ => nonzero _) (fun _ => nonzero _) (fun _ => nonzero _)
    (fun _ => nonzero _) (fun _ => nonzero _) (fun _ => nonzero _) nonzero

theorem eq_zero_of_figure {c : Char} (ascii : c.toNat < 128) (zero : figure? c = some 0) :
    c = '0' := by
  rw [figure?_of_ascii ascii, asciiDigit?_eq] at zero
  have number : c.toNat = 48 := by
    split at zero
    · have := Option.some.inj zero
      omega
    · split at zero
      · have := Option.some.inj zero
        omega
      · split at zero
        · have := Option.some.inj zero
          omega
        · cases zero
  rw [← Char.ofNat_toNat c, number]

/-- A mark is a letter that is no decimal digit. -/
theorem mark_facts {mark : Char} {base : Nat} (known : markedBase? mark = some base) :
    mark.toNat < 128 ∧ isWhite mark = false ∧ ¬ InRun 10 mark := by
  have number : mark.toNat = 120 ∨ mark.toNat = 88 ∨ mark.toNat = 111 ∨ mark.toNat = 79 ∨
      mark.toNat = 98 ∨ mark.toNat = 66 := by
    unfold markedBase? at known
    split at known <;> simp at known ⊢
  have ascii : mark.toNat < 128 := by omega
  refine ⟨ascii, ?_, ?_⟩
  · rw [isWhite_of_ascii ascii]
    simp [isAsciiBlank]
    omega
  · rintro (⟨d, value, small⟩ | rfl)
    · rw [figure?_of_ascii ascii, asciiDigit?_eq, if_neg (by omega)] at value
      split at value
      · have := Option.some.inj value
        omega
      · rw [if_pos (by omega)] at value
        have := Option.some.inj value
        omega
    · simp at number

theorem magnitude_of_zeros {base : Nat} {ds : List Nat} (all : ∀ d ∈ ds, d = 0) :
    magnitude base ds = 0 := by
  rw [List.eq_replicate_of_mem all, magnitude, List.reverse_replicate]
  simp

theorem unsigned_of_readMagnitude {cs : List Char} (ascii : ∀ c ∈ cs, c.toNat < 128) {n : Nat}
    (read : readMagnitude .marked cs = .ok n) :
    ∃ body back base ds, cs = body ++ back ∧ Unsigned body base ds ∧
      (∀ c ∈ back, isWhite c = true) ∧ verdict base ds (magnitude base ds) = .ok n := by
  by_cases zero : ∃ rest, cs = '0' :: rest
  · obtain ⟨rest, rfl⟩ := zero
    obtain ⟨_, asciiRest⟩ := List.forall_mem_cons.mp ascii
    by_cases marked : ∃ mark more base, rest = mark :: more ∧ markedBase? mark = some base
    · obtain ⟨mark, more, base, rfl, known⟩ := marked
      obtain ⟨_, asciiMore⟩ := List.forall_mem_cons.mp asciiRest
      have first : figure? '0' = some 0 := by
        rw [figure?_of_ascii (by decide)]
        rfl
      rw [readMagnitude_marked known] at read
      by_cases underscore : ∃ behind, more = '_' :: behind
      · obtain ⟨behind, rfl⟩ := underscore
        obtain ⟨body, back, ds, rfl, run, white, value⟩ :=
          grouped_of_readDigits (List.forall_mem_cons.mp asciiMore).2 read
        exact ⟨_, back, base, ds, rfl, .markedApart first known run, white, value⟩
      · rw [dropUnderscore.eq_2 more fun behind same => underscore ⟨behind, same⟩] at read
        obtain ⟨body, back, ds, rfl, run, white, value⟩ := grouped_of_readDigits asciiMore read
        exact ⟨_, back, base, ds, rfl, .marked first known run, white, value⟩
    · have unmarked : ∀ mark more, rest = mark :: more → markedBase? mark = none := by
        intro mark more same
        cases known : markedBase? mark with
        | none => rfl
        | some base => exact absurd ⟨mark, more, base, same, known⟩ marked
      obtain ⟨rfl, digits⟩ : n = 0 ∧ readDigits 10 ('0' :: rest) = .ok 0 := by
        rw [readMagnitude_zero unmarked] at read
        split at read
        · exact ⟨(Except.ok.inj read).symm, ‹_›⟩
        · cases read
        · cases read
      obtain ⟨body, back, ds, whole, run, white, value⟩ := grouped_of_readDigits ascii digits
      have all : ∀ d ∈ ds, d = 0 := fun d member =>
        Nat.digits_zero_of_eq_zero (by decide) (verdict_eq_ok_iff.mp value).2 d
          (List.mem_reverse.mpr member)
      exact ⟨body, back, 10, ds, whole, .zeros run all, white, value⟩
  · rw [readMagnitude_plain fun rest same => zero ⟨rest, same⟩] at read
    obtain ⟨body, back, ds, rfl, run, white, value⟩ := grouped_of_readDigits ascii read
    obtain ⟨c, rest, d, others, rfl, rfl, figure, _⟩ := run.exists_cons
    have nonzero : d ≠ 0 := by
      rintro rfl
      exact zero ⟨rest ++ back, by
        rw [eq_zero_of_figure (ascii c (by simp)) figure, List.cons_append]⟩
    exact ⟨_, back, 10, _, rfl, .decimal run nonzero, white, value⟩

theorem readMagnitude_of_unsigned {body back : List Char} {base : Nat} {ds : List Nat}
    (ascii : ∀ c ∈ body ++ back, c.toNat < 128) (number : Unsigned body base ds)
    (white : ∀ c ∈ back, isWhite c = true) :
    readMagnitude .marked (body ++ back) = verdict base ds (magnitude base ds) := by
  cases number with
  | @decimal cs d ds run nonzero =>
      rw [readMagnitude_plain]
      · exact readDigits_of_grouped ascii run white
      · intro rest same
        obtain ⟨c, more, e, others, rfl, first, figure, _⟩ := run.exists_cons
        obtain ⟨rfl, rfl⟩ := List.cons.inj first
        obtain ⟨rfl, _⟩ := List.cons.inj same
        rw [figure?_of_ascii (by decide)] at figure
        exact nonzero (Option.some.inj figure).symm
  | @zeros cs ds run all =>
      obtain ⟨c, more, d, others, rfl, rfl, figure, _⟩ := run.exists_cons
      obtain rfl := all d List.mem_cons_self
      obtain rfl := eq_zero_of_figure (ascii c (by simp)) figure
      have digits := readDigits_of_grouped ascii run white
      have unmarked : ∀ mark behind, more ++ back = mark :: behind → markedBase? mark = none := by
        intro mark behind same
        cases known : markedBase? mark with
        | none => rfl
        | some base =>
            obtain ⟨_, notWhite, notDigit⟩ := mark_facts known
            have member : mark ∈ more ++ back := same ▸ List.mem_cons_self
            rcases List.mem_append.mp member with inside | behind
            · exact absurd (run.inRun mark (List.mem_cons_of_mem _ inside)) notDigit
            · rw [white mark behind] at notWhite
              cases notWhite
      rw [magnitude_of_zeros all] at digits ⊢
      rw [List.cons_append, readMagnitude_zero unmarked, ← List.cons_append, digits, verdict]
      by_cases long : (!unlimited 10 && decide (digitLimit < (0 :: others).length)) = true
      · rw [if_pos long]
      · rw [if_neg long]
        rfl
  | @marked zero mark base cs ds first known run =>
      obtain ⟨c, more, d, others, rfl, rfl, figure, _⟩ := run.exists_cons
      have kept : dropUnderscore (c :: more ++ back) = c :: more ++ back :=
        dropUnderscore.eq_2 _ fun rest same =>
          ne_underscore_of_figure figure (List.cons.inj same).1
      rw [List.cons_append, List.cons_append, eq_zero_of_figure (ascii zero (by simp)) first,
        readMagnitude_marked known, kept]
      exact readDigits_of_grouped (fun k member => ascii k (by simp_all)) run white
  | @markedApart zero mark base cs ds first known run =>
      rw [List.cons_append, List.cons_append, eq_zero_of_figure (ascii zero (by simp)) first,
        readMagnitude_marked known, List.cons_append, dropUnderscore]
      exact readDigits_of_grouped (fun k member => ascii k (by simp_all)) run white

/-! ## Literals -/

theorem Unsigned.exists_cons {cs : List Char} {base : Nat} {ds : List Nat}
    (number : Unsigned cs base ds) : ∃ c rest d, cs = c :: rest ∧ figure? c = some d := by
  cases number with
  | decimal run _ =>
      obtain ⟨c, rest, d, _, rfl, _, figure, _⟩ := run.exists_cons
      exact ⟨c, rest, d, rfl, figure⟩
  | zeros run _ =>
      obtain ⟨c, rest, d, _, rfl, _, figure, _⟩ := run.exists_cons
      exact ⟨c, rest, d, rfl, figure⟩
  | marked first _ _ => exact ⟨_, _, _, rfl, first⟩
  | markedApart first _ _ => exact ⟨_, _, _, rfl, first⟩

/-- A literal begins with a sign or a digit, which is no white space. -/
theorem Signed.exists_cons {cs : List Char} {base : Nat} {ds : List Nat} {n : Int}
    (literal : Signed cs base ds n) (ascii : ∀ c ∈ cs, c.toNat < 128) :
    ∃ c rest, cs = c :: rest ∧ isAsciiBlank c = false := by
  cases literal with
  | plain number =>
      obtain ⟨c, rest, d, rfl, figure⟩ := number.exists_cons
      have here := ascii c List.mem_cons_self
      refine ⟨c, rest, rfl, ?_⟩
      rw [← isWhite_of_ascii here, ← Bool.not_eq_true]
      exact fun white => not_inRun_of_white here white (.inl ⟨d, figure, Nat.lt_succ_self d⟩)
  | plus number => exact ⟨_, _, rfl, by decide⟩
  | minus number => exact ⟨_, _, rfl, by decide⟩

/-- The part of a literal behind the white space in front of it. -/
def readSigned (cs : List Char) : Except LiteralFault Int :=
  match cs with
  | '-' :: rest => (readMagnitude .marked rest).map fun n : Nat => -(n : Int)
  | '+' :: rest => (readMagnitude .marked rest).map Int.ofNat
  | rest => (readMagnitude .marked rest).map Int.ofNat

theorem map_eq_ok_iff {ε α β : Type} {result : Except ε α} {change : α → β} {value : β} :
    result.map change = .ok value ↔ ∃ first, result = .ok first ∧ change first = value := by
  cases result <;> simp [Except.map]

theorem signed_of_readSigned {cs : List Char} (ascii : ∀ c ∈ cs, c.toNat < 128) {n : Int}
    (read : readSigned cs = .ok n) :
    ∃ body back base ds, cs = body ++ back ∧ Signed body base ds n ∧
      (∀ c ∈ back, isWhite c = true) ∧ verdict base ds n = .ok n := by
  unfold readSigned at read
  split at read
  · obtain ⟨m, magnitude, rfl⟩ := map_eq_ok_iff.mp read
    obtain ⟨body, back, base, ds, rfl, number, white, value⟩ :=
      unsigned_of_readMagnitude (List.forall_mem_cons.mp ascii).2 magnitude
    obtain ⟨short, rfl⟩ := verdict_eq_ok_iff.mp value
    exact ⟨_, back, base, ds, rfl, .minus number, white, verdict_eq_ok_iff.mpr ⟨short, rfl⟩⟩
  · obtain ⟨m, magnitude, rfl⟩ := map_eq_ok_iff.mp read
    obtain ⟨body, back, base, ds, rfl, number, white, value⟩ :=
      unsigned_of_readMagnitude (List.forall_mem_cons.mp ascii).2 magnitude
    obtain ⟨short, rfl⟩ := verdict_eq_ok_iff.mp value
    exact ⟨_, back, base, ds, rfl, .plus number, white, verdict_eq_ok_iff.mpr ⟨short, rfl⟩⟩
  · obtain ⟨m, magnitude, rfl⟩ := map_eq_ok_iff.mp read
    obtain ⟨body, back, base, ds, rfl, number, white, value⟩ :=
      unsigned_of_readMagnitude ascii magnitude
    obtain ⟨short, rfl⟩ := verdict_eq_ok_iff.mp value
    exact ⟨body, back, base, ds, rfl, .plain number, white, verdict_eq_ok_iff.mpr ⟨short, rfl⟩⟩

theorem readSigned_of_signed {body back : List Char} {base : Nat} {ds : List Nat} {n : Int}
    (ascii : ∀ c ∈ body ++ back, c.toNat < 128) (literal : Signed body base ds n)
    (white : ∀ c ∈ back, isWhite c = true) : readSigned (body ++ back) = verdict base ds n := by
  cases literal with
  | plain number =>
      obtain ⟨c, rest, d, first, figure⟩ := number.exists_cons
      have unsigned : ∀ {sign : Char}, sign ∈ ['_', '+', '-'] →
          ∀ behind, body ++ back = sign :: behind → False := by
        intro sign mark behind same
        rw [first] at same
        exact ne_of_figure figure mark (List.cons.inj same).1
      rw [readSigned.eq_3 _ (unsigned (by simp)) (unsigned (by simp)),
        readMagnitude_of_unsigned ascii number white, map_verdict]
      rfl
  | plus number =>
      rw [List.cons_append, readSigned,
        readMagnitude_of_unsigned (List.forall_mem_cons.mp ascii).2 number white, map_verdict]
      rfl
  | minus number =>
      rw [List.cons_append, readSigned,
        readMagnitude_of_unsigned (List.forall_mem_cons.mp ascii).2 number white, map_verdict]

theorem readInteger_eq (text : String) :
    readInteger .marked text = readSigned ((asciiText text.toList).dropWhile isAsciiBlank) := by
  unfold readInteger
  generalize (asciiText text.toList).dropWhile isAsciiBlank = cs
  split
  · rw [readSigned]
    cases readMagnitude .marked _ <;> rfl
  · rw [readSigned]
  next notMinus notPlus => rw [readSigned.eq_3 _ notMinus notPlus]

theorem spelled_of_readInteger {text : String} {n : Int}
    (read : readInteger .marked text = .ok n) :
    ∃ base digits, Spelled text.toList base digits n ∧ verdict base digits n = .ok n := by
  have ascii := ascii_asciiText text.toList
  rw [readInteger_eq] at read
  generalize frontIs : (asciiText text.toList).takeWhile isAsciiBlank = front
  generalize restIs : (asciiText text.toList).dropWhile isAsciiBlank = rest at read
  have whole : asciiText text.toList = front ++ rest := by
    rw [← frontIs, ← restIs, List.takeWhile_append_dropWhile]
  rw [whole] at ascii
  obtain ⟨body, back, base, ds, rfl, literal, white, value⟩ :=
    signed_of_readSigned (fun c member => ascii c (List.mem_append_right _ member)) read
  refine ⟨base, ds, spelled_asciiText_iff.mp ⟨front, body, back, whole, ?_, white, literal⟩, value⟩
  intro c member
  rw [isWhite_of_ascii (ascii c (List.mem_append_left _ member))]
  rw [← frontIs] at member
  exact List.mem_takeWhile_imp member

/-- A spelling is read as the integer that it spells, unless it has too many digits. -/
theorem readInteger_of_spelled {text : String} {base : Nat} {digits : List Nat} {n : Int}
    (spelled : Spelled text.toList base digits n) :
    readInteger .marked text = verdict base digits n := by
  have ascii := ascii_asciiText text.toList
  obtain ⟨front, body, back, whole, frontWhite, backWhite, literal⟩ :=
    spelled_asciiText_iff.mpr spelled
  rw [readInteger_eq, whole]
  rw [whole] at ascii
  have asciiRest : ∀ c ∈ body ++ back, c.toNat < 128 := fun c member =>
    ascii c (List.mem_append_right _ member)
  have blank : ∀ c ∈ front, isAsciiBlank c = true := by
    intro c member
    rw [← isWhite_of_ascii (ascii c (List.mem_append_left _ member))]
    exact frontWhite c member
  have read := readSigned_of_signed asciiRest literal backWhite
  obtain ⟨c, rest, rfl, notBlank⟩ :=
    literal.exists_cons fun c member => asciiRest c (List.mem_append_left _ member)
  rw [List.dropWhile_append_of_pos blank, List.cons_append,
    List.dropWhile_cons_of_neg (by simp [notBlank])]
  exact read

/-- What a text denotes: the integer that it spells.  A decimal literal with more than `digitLimit`
digits denotes nothing. -/
def Denotes (text : String) (n : Int) : Prop :=
  ∃ base digits, Spelled text.toList base digits n ∧ (base = 10 → digits.length ≤ digitLimit)

/-- A text is read as an integer exactly if it denotes it. -/
theorem readInteger_eq_ok_iff {text : String} {n : Int} :
    readInteger .marked text = .ok n ↔ Denotes text n := by
  constructor
  · intro read
    obtain ⟨base, digits, spelled, value⟩ := spelled_of_readInteger read
    exact ⟨base, digits, spelled, fun decimal =>
      (verdict_eq_ok_iff.mp value).1 (spelled.limited_iff.mpr decimal)⟩
  · rintro ⟨base, digits, spelled, short⟩
    rw [readInteger_of_spelled spelled]
    exact verdict_eq_ok_iff.mpr ⟨fun limited => short (spelled.limited_iff.mp limited), rfl⟩

/-- A text denotes at most one integer. -/
theorem Denotes.unique {text : String} {n m : Int} (first : Denotes text n)
    (second : Denotes text m) : n = m := by
  rw [← readInteger_eq_ok_iff] at first second
  exact Except.ok.inj (first.symm.trans second)

/-- A decimal spelling with too many digits denotes nothing. -/
theorem not_denotes_of_long {text : String} {digits : List Nat} {n : Int}
    (spelled : Spelled text.toList 10 digits n) (long : digitLimit < digits.length) (m : Int) :
    ¬ Denotes text m := by
  rw [← readInteger_eq_ok_iff, readInteger_of_spelled spelled, verdict_eq_ok_iff]
  exact fun read => absurd (read.1 rfl) (Nat.not_le.mpr long)

instance (text : String) : Decidable (∃ n, Denotes text n) :=
  decidable_of_iff ((readInteger .marked text).toOption.isSome = true) (by
    simp only [← readInteger_eq_ok_iff]
    cases readInteger .marked text <;> simp [Except.toOption])

end SceneCode.Text
