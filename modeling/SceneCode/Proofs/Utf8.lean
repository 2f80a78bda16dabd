import Mathlib
import SceneCode.Charset.Utf8

/-!
# Reading UTF-8

An unfinished character stands for the interval of the numbers that begin with its bits.  An
interval that a lead byte opens holds characters beyond ASCII and nothing else (`Sound`), and every
continuation byte narrows it.  So the decoder reads the encoding of a text as that text, whatever
stands behind it (`decode_encode_append`).  A zero byte ends an unfinished character and is read as
the null character (`decode_append_zero`), and no other byte is (`null_notMem_decode`).
-/

set_option autoImplicit false

namespace SceneCode.Charset

theorem char_ne_null {n : Nat} (valid : n.isValidChar) (nonzero : n ≠ 0) :
    Char.ofNat n ≠ '\x00' := by
  intro same
  have number := congrArg Char.toNat same
  rw [Char.toNat_ofNat, if_pos valid] at number
  exact nonzero number

theorem replacement_ne_null : replacement ≠ '\x00' := by decide

namespace Utf8

/-! ## Intervals of unfinished characters -/

namespace Pending

/-- The least number that an unfinished character can become. -/
def least (p : Pending) : Nat := (p.value * 64 + (p.low - 0x80)) * 64 ^ (p.owed - 1)

/-- The first number behind those that an unfinished character can become. -/
def beyond (p : Pending) : Nat := (p.value * 64 + (p.high - 0x80) + 1) * 64 ^ (p.owed - 1)

/-- The unfinished character after a continuation byte that is not its last one. -/
def narrowed (p : Pending) (b : Nat) : Pending :=
  ⟨p.owed - 1, 0x80, 0xBF, p.value * 64 + (b - 0x80)⟩

/-- An unfinished character that becomes a character beyond ASCII. -/
structure Sound (p : Pending) : Prop where
  owed : 0 < p.owed
  low : 0x80 ≤ p.low
  range : p.low ≤ p.high
  high : p.high ≤ 0xBF
  scalar : ∀ n, p.least ≤ n → n < p.beyond → n.isValidChar ∧ 0x80 ≤ n

variable {p : Pending} {b : Nat}

theorem sound_of_bounds (owed : 0 < p.owed) (low : 0x80 ≤ p.low) (range : p.low ≤ p.high)
    (high : p.high ≤ 0xBF)
    (characters : p.beyond ≤ 0xD800 ∨ 0xE000 ≤ p.least ∧ p.beyond ≤ 0x110000)
    (beyondAscii : 0x80 ≤ p.least) : p.Sound := by
  refine ⟨owed, low, range, high, fun n atLeast before => ⟨?_, beyondAscii.trans atLeast⟩⟩
  rcases characters with early | ⟨late, small⟩
  · exact Or.inl (by omega)
  · exact Or.inr ⟨by omega, by omega⟩

theorem pow_owed (more : 1 < p.owed) : 64 ^ (p.owed - 1) = 64 * 64 ^ (p.owed - 1 - 1) := by
  rw [← Nat.pow_succ']
  congr 1
  omega

theorem least_narrowed (more : 1 < p.owed) :
    (p.narrowed b).least = (p.value * 64 + (b - 0x80)) * 64 ^ (p.owed - 1) := by
  rw [pow_owed more, least, narrowed]
  ring

theorem beyond_narrowed (more : 1 < p.owed) :
    (p.narrowed b).beyond = (p.value * 64 + (b - 0x80) + 1) * 64 ^ (p.owed - 1) := by
  rw [pow_owed more, beyond, narrowed]
  ring

theorem Sound.narrowed (sound : p.Sound) (more : 1 < p.owed) (above : p.low ≤ b)
    (below : b ≤ p.high) : (p.narrowed b).Sound where
  owed := Nat.sub_pos_of_lt more
  low := Nat.le_refl _
  range := (by decide : 0x80 ≤ 0xBF)
  high := Nat.le_refl _
  scalar := by
    intro n atLeast before
    rw [least_narrowed more] at atLeast
    rw [beyond_narrowed more] at before
    have low := sound.low
    refine sound.scalar n (le_trans ?_ atLeast) (lt_of_lt_of_le before ?_)
    · exact Nat.mul_le_mul_right _ (by omega)
    · exact Nat.mul_le_mul_right _ (by omega)

/-- The last continuation byte leaves a character beyond ASCII. -/
theorem Sound.last (sound : p.Sound) (last : p.owed ≤ 1) (above : p.low ≤ b)
    (below : b ≤ p.high) :
    (p.value * 64 + (b - 0x80)).isValidChar ∧ 0x80 ≤ p.value * 64 + (b - 0x80) := by
  have one : p.owed - 1 = 0 := by omega
  have low := sound.low
  refine sound.scalar _ ?_ ?_
  · rw [least, one]
    omega
  · rw [beyond, one]
    omega

end Pending

theorem sound_of_lead? {b : Nat} {p : Pending} (leads : lead? b = some p) : p.Sound := by
  unfold lead? at leads
  repeat' split at leads
  all_goals cases leads
  all_goals
    apply Pending.sound_of_bounds <;> simp only [Pending.least, Pending.beyond] <;> omega

/-! ## Steps of the decoder -/

/-- The state of the decoder: between characters, or inside one that is sound. -/
def Ready : Option Pending → Prop
  | none => True
  | some p => p.Sound

theorem ready_start (b : Nat) : Ready (start b).2 := by
  unfold start
  split
  · trivial
  · split
    · exact sound_of_lead? ‹_›
    · trivial

theorem null_notMem_start {b : Nat} (nonzero : b ≠ 0) : '\x00' ∉ (start b).1 := by
  unfold start
  split
  · rename_i ascii
    have other := char_ne_null (Or.inl (by omega : b < 0xD800)) nonzero
    simpa using Ne.symm other
  · split
    · simp
    · simpa using Ne.symm replacement_ne_null

theorem resume_of_last {p : Pending} {b : Nat} (last : p.owed ≤ 1) (above : p.low ≤ b)
    (below : b ≤ p.high) :
    resume p b = ([Char.ofNat (p.value * 64 + (b - 0x80))], none) := by
  rw [resume, if_pos ⟨above, below⟩, if_pos last]

theorem resume_of_more {p : Pending} {b : Nat} (more : 1 < p.owed) (above : p.low ≤ b)
    (below : b ≤ p.high) : resume p b = ([], some (p.narrowed b)) := by
  rw [resume, if_pos ⟨above, below⟩, if_neg (Nat.not_le.mpr more)]
  rfl

theorem resume_of_outside {p : Pending} {b : Nat} (outside : ¬ (p.low ≤ b ∧ b ≤ p.high)) :
    resume p b = (replacement :: (start b).1, (start b).2) := by
  rw [resume, if_neg outside]

theorem ready_step {state : Option Pending} (ready : Ready state) (b : Nat) :
    Ready (step state b).2 := by
  cases state with
  | none => exact ready_start b
  | some p =>
      rw [step]
      by_cases within : p.low ≤ b ∧ b ≤ p.high
      · rcases Nat.lt_or_ge 1 p.owed with more | last
        · rw [resume_of_more more within.1 within.2]
          exact ready.narrowed more within.1 within.2
        · rw [resume_of_last last within.1 within.2]
          trivial
      · rw [resume_of_outside within]
        exact ready_start b

theorem null_notMem_step {state : Option Pending} (ready : Ready state) {b : Nat}
    (nonzero : b ≠ 0) : '\x00' ∉ (step state b).1 := by
  cases state with
  | none => exact null_notMem_start nonzero
  | some p =>
      rw [step]
      by_cases within : p.low ≤ b ∧ b ≤ p.high
      · rcases Nat.lt_or_ge 1 p.owed with more | last
        · rw [resume_of_more more within.1 within.2]
          exact List.not_mem_nil
        · obtain ⟨valid, beyondAscii⟩ := ready.last last within.1 within.2
          rw [resume_of_last last within.1 within.2, List.mem_singleton]
          exact Ne.symm (char_ne_null valid (by omega))
      · rw [resume_of_outside within, List.mem_cons, not_or]
        exact ⟨Ne.symm replacement_ne_null, null_notMem_start nonzero⟩

/-- A zero byte ends what was begun and stands for itself. -/
theorem step_zero {state : Option Pending} (ready : Ready state) :
    step state 0 = (decodeFrom state [] ++ ['\x00'], none) := by
  cases state with
  | none => rfl
  | some p =>
      have outside : ¬ (p.low ≤ 0 ∧ 0 ≤ p.high) := by
        have low := ready.low
        omega
      rw [step, resume_of_outside outside]
      rfl

theorem decodeFrom_cons (state : Option Pending) (b : UInt8) (rest : List UInt8) :
    decodeFrom state (b :: rest) =
      (step state b.toNat).1 ++ decodeFrom (step state b.toNat).2 rest := by
  cases state <;> rfl

theorem decodeFrom_append_zero (front back : List UInt8) :
    ∀ {state : Option Pending}, Ready state →
      decodeFrom state (front ++ 0 :: back) =
        decodeFrom state front ++ '\x00' :: decodeFrom none back := by
  induction front with
  | nil =>
      intro state ready
      rw [List.nil_append, decodeFrom_cons, UInt8.toNat_zero, step_zero ready]
      simp
  | cons b front ih =>
      intro state ready
      rw [List.cons_append, decodeFrom_cons, decodeFrom_cons, ih (ready_step ready b.toNat),
        List.append_assoc]

theorem null_notMem_decodeFrom {bytes : List UInt8} :
    ∀ {state : Option Pending}, Ready state → 0 ∉ bytes → '\x00' ∉ decodeFrom state bytes := by
  induction bytes with
  | nil =>
      intro state _ _
      cases state with
      | none => simp [decodeFrom]
      | some p => simpa [decodeFrom] using Ne.symm replacement_ne_null
  | cons b rest ih =>
      intro state ready nonzero
      rw [List.mem_cons, not_or] at nonzero
      have here : b.toNat ≠ 0 := fun zero => nonzero.1 (UInt8.toNat_inj.mp zero).symm
      rw [decodeFrom_cons, List.mem_append, not_or]
      exact ⟨null_notMem_step ready here, ih (ready_step ready _) nonzero.2⟩

theorem decode_append_zero (front back : List UInt8) :
    decode (front ++ 0 :: back) = decode front ++ '\x00' :: decode back :=
  @decodeFrom_append_zero front back none trivial

theorem null_notMem_decode {bytes : List UInt8} (nonzero : 0 ∉ bytes) : '\x00' ∉ decode bytes :=
  @null_notMem_decodeFrom bytes none trivial nonzero

/-! ## Encoded texts -/

/-- The last `count` continuation bytes of the character with the number `n`. -/
def continuation : Nat → Nat → List UInt8
  | 0, _ => []
  | count + 1, n => UInt8.ofNat (n / 64 ^ count % 64 + 128) :: continuation count n

/-- Of a number in its interval an unfinished character takes the next six bits. -/
theorem Pending.Sound.next_bits {p : Pending} {count n : Nat} (sound : p.Sound)
    (owed : p.owed = count + 1) (atLeast : p.least ≤ n) (before : n < p.beyond) :
    p.low ≤ n / 64 ^ count % 64 + 128 ∧ n / 64 ^ count % 64 + 128 ≤ p.high ∧
      p.value * 64 + n / 64 ^ count % 64 = n / 64 ^ count := by
  have power : 0 < 64 ^ count := Nat.pow_pos (by decide)
  have owedLess : p.owed - 1 = count := by omega
  obtain ⟨_, low, range, high, _⟩ := sound
  rw [least, owedLess, ← Nat.le_div_iff_mul_le power] at atLeast
  rw [beyond, owedLess, ← Nat.div_lt_iff_lt_mul power] at before
  omega

theorem toNat_continuation (n count : Nat) :
    (UInt8.ofNat (n / 64 ^ count % 64 + 128)).toNat = n / 64 ^ count % 64 + 128 :=
  UInt8.toNat_ofNat_of_lt' (Nat.lt_of_lt_of_le (by omega) (by decide : 192 ≤ UInt8.size))

/-- The bytes of a number in its interval finish an unfinished character as that number. -/
theorem decodeFrom_continuation (n : Nat) (rest : List UInt8) :
    ∀ (count : Nat) {p : Pending}, p.Sound → p.owed = count + 1 → p.least ≤ n → n < p.beyond →
      decodeFrom (some p) (continuation (count + 1) n ++ rest) =
        Char.ofNat n :: decodeFrom none rest := by
  intro count
  induction count with
  | zero =>
      intro p sound owed atLeast before
      obtain ⟨above, below, bits⟩ := sound.next_bits owed atLeast before
      rw [continuation, continuation, List.cons_append, decodeFrom_cons, toNat_continuation, step,
        resume_of_last owed.le above below, Nat.add_sub_cancel, bits]
      simp
  | succ count ih =>
      intro p sound owed atLeast before
      obtain ⟨above, below, bits⟩ := sound.next_bits owed atLeast before
      have more : 1 < p.owed := by omega
      have owedLess : p.owed - 1 = count + 1 := by omega
      have power : 0 < 64 ^ (count + 1) := Nat.pow_pos (by decide)
      rw [continuation, List.cons_append, decodeFrom_cons, toNat_continuation, step,
        resume_of_more more above below, List.nil_append]
      refine ih (sound.narrowed more above below) owedLess ?_ ?_
      · rw [Pending.least_narrowed more, owedLess, Nat.add_sub_cancel, bits]
        exact Nat.div_mul_le_self n _
      · rw [Pending.beyond_narrowed more, owedLess, Nat.add_sub_cancel, bits]
        rw [Nat.mul_comm]
        exact Nat.lt_mul_div_succ n power

/-- The byte leads a character with `count` bytes behind it, which the number can be. -/
def Opens (b count n : Nat) : Prop :=
  ∃ p, lead? b = some p ∧ p.owed = count ∧ p.least ≤ n ∧ n < p.beyond

theorem opens_of {b n : Nat} {p : Pending} (leads : lead? b = some p)
    (atLeast : (p.value * 64 + (p.low - 0x80)) * 64 ^ (p.owed - 1) ≤ n)
    (before : n < (p.value * 64 + (p.high - 0x80) + 1) * 64 ^ (p.owed - 1)) : Opens b p.owed n :=
  ⟨p, leads, rfl, atLeast, before⟩

theorem opens_two {n : Nat} (above : 0x7F < n) (below : n ≤ 0x7FF) :
    Opens (n / 64 % 32 + 192) 1 n := by
  have leads : lead? (n / 64 % 32 + 192) = some ⟨1, 0x80, 0xBF, n / 64 % 32 + 192 - 0xC0⟩ := by
    rw [lead?, if_neg (by omega), if_pos (by omega)]
  exact opens_of leads (by dsimp only; omega) (by dsimp only; omega)

/-- Overlong forms and surrogates are excluded by the ranges behind `0xE0` and `0xED`. -/
theorem opens_three {n : Nat} (valid : n.isValidChar) (above : 0x7FF < n) (below : n ≤ 0xFFFF) :
    Opens (n / 4096 % 16 + 224) 2 n := by
  unfold Nat.isValidChar at valid
  by_cases first : n / 4096 % 16 + 224 = 0xE0
  · have leads : lead? (n / 4096 % 16 + 224) = some ⟨2, 0xA0, 0xBF, 0⟩ := by
      rw [first]
      rfl
    exact opens_of leads (by dsimp only; omega) (by dsimp only; omega)
  · by_cases surrogates : n / 4096 % 16 + 224 = 0xED
    · have leads : lead? (n / 4096 % 16 + 224) = some ⟨2, 0x80, 0x9F, 0xD⟩ := by
        rw [surrogates]
        rfl
      exact opens_of leads (by dsimp only; omega) (by dsimp only; omega)
    · have leads : lead? (n / 4096 % 16 + 224) =
          some ⟨2, 0x80, 0xBF, n / 4096 % 16 + 224 - 0xE0⟩ := by
        rw [lead?, if_neg (by omega), if_neg (by omega), if_neg first, if_neg surrogates,
          if_pos (by omega)]
      exact opens_of leads (by dsimp only; omega) (by dsimp only; omega)

/-- Overlong forms and numbers above U+10FFFF are excluded by the ranges behind `0xF0` and
`0xF4`. -/
theorem opens_four {n : Nat} (valid : n.isValidChar) (above : 0xFFFF < n) :
    Opens (n / 262144 % 8 + 240) 3 n := by
  unfold Nat.isValidChar at valid
  by_cases first : n / 262144 % 8 + 240 = 0xF0
  · have leads : lead? (n / 262144 % 8 + 240) = some ⟨3, 0x90, 0xBF, 0⟩ := by
      rw [first]
      rfl
    exact opens_of leads (by dsimp only; omega) (by dsimp only; omega)
  · by_cases last : n / 262144 % 8 + 240 = 0xF4
    · have leads : lead? (n / 262144 % 8 + 240) = some ⟨3, 0x80, 0x8F, 4⟩ := by
        rw [last]
        rfl
      exact opens_of leads (by dsimp only; omega) (by dsimp only; omega)
    · have leads : lead? (n / 262144 % 8 + 240) =
          some ⟨3, 0x80, 0xBF, n / 262144 % 8 + 240 - 0xF0⟩ := by
        rw [lead?, if_neg (by omega), if_neg (by omega), if_neg (by omega), if_neg (by omega),
          if_neg (by omega), if_neg first, if_pos (by omega)]
      exact opens_of leads (by dsimp only; omega) (by dsimp only; omega)

theorem decode_of_opens {b count n : Nat} (opens : Opens b (count + 1) n) (byte : b < 256)
    (lead : 0x80 ≤ b) (rest : List UInt8) :
    decode (UInt8.ofNat b :: (continuation (count + 1) n ++ rest)) =
      Char.ofNat n :: decode rest := by
  obtain ⟨p, leads, owed, atLeast, before⟩ := opens
  have started : step none b = ([], some p) := by
    rw [step, start, if_neg (by omega), leads]
  rw [decode, decodeFrom_cons, UInt8.toNat_ofNat_of_lt' byte, started, List.nil_append]
  exact decodeFrom_continuation n rest count (sound_of_lead? leads) owed atLeast before

/-- The encoding of a character is read as that character. -/
theorem decode_encodeChar_append (c : Char) (rest : List UInt8) :
    decode (String.utf8EncodeChar c ++ rest) = c :: decode rest := by
  have valid : c.toNat.isValidChar := c.valid
  have number : c.val.toNat = c.toNat := rfl
  have itself := Char.ofNat_toNat c
  rw [String.utf8EncodeChar, number]
  generalize c.toNat = n at valid itself
  subst itself
  split
  · have byte : (UInt8.ofNat n).toNat = n := by
      rw [UInt8.toNat_ofNat']
      omega
    rw [List.singleton_append, decode, decodeFrom_cons, byte, step, start, if_pos (by omega)]
    rfl
  · split
    · have bytes := decode_of_opens (opens_two (n := n) (by omega) (by omega)) (by omega) (by omega)
        rest
      simpa [continuation] using bytes
    · split
      · have bytes := decode_of_opens (opens_three valid (by omega) (by omega)) (by omega)
          (by omega) rest
        simpa [continuation] using bytes
      · have bytes := decode_of_opens (opens_four valid (by omega)) (by omega) (by omega) rest
        simpa [continuation] using bytes

theorem decode_encode_append (cs : List Char) (rest : List UInt8) :
    decode (encode cs ++ rest) = cs ++ decode rest := by
  induction cs with
  | nil => rfl
  | cons c cs ih =>
      rw [encode, List.flatMap_cons, ← encode, List.append_assoc, decode_encodeChar_append, ih,
        List.cons_append]

theorem decode_encode (cs : List Char) : decode (encode cs) = cs := by
  simpa [decode, decodeFrom] using decode_encode_append cs []

/-- What is decoded without faults is what the text is encoded to. -/
theorem decodeStrict?_encode (cs : List Char) : decodeStrict? (encode cs) = some cs := by
  rw [decodeStrict?, decode_encode, if_pos rfl]

end Utf8

end SceneCode.Charset
