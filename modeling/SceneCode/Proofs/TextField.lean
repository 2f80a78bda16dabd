import SceneCode.Proofs.Blob
import SceneCode.Proofs.Utf8

/-!
# Text fields

A text field ends before its first zero byte.  In each of the three encodings a zero byte is read as
the null character, whatever is left unfinished before it, and no other bytes are
(`PartsAtZero`).  So it makes no difference whether the bytes or the text are cut
(`cut_commutes_with_decoding`).

A text without null characters is read back from its UTF-8 encoding, and every text that is read
from bytes is such a text (`utf8_field_read_back`).
-/

set_option autoImplicit false

namespace SceneCode

namespace Charset

/-! ## Decoders and the zero byte -/

/-- A decoder that reads a zero byte, wherever it stands, as the null character, and no other
bytes. -/
structure PartsAtZero (decode : List UInt8 → List Char) : Prop where
  part : ∀ front back, decode (front ++ 0 :: back) = decode front ++ '\x00' :: decode back
  plain : ∀ bytes, 0 ∉ bytes → '\x00' ∉ decode bytes

section

variable {α : Type} [DecidableEq α] {x : α} {front : List α}

theorem all_ne_of_notMem (absent : x ∉ front) : ∀ item ∈ front, decide (item ≠ x) = true := by
  intro item member
  exact decide_eq_true (ne_of_mem_of_not_mem member absent)

theorem takeWhile_ne_of_notMem (absent : x ∉ front) : front.takeWhile (· ≠ x) = front :=
  List.takeWhile_eq_self_iff.mpr (all_ne_of_notMem absent)

theorem takeWhile_ne_of_append (absent : x ∉ front) (back : List α) :
    (front ++ x :: back).takeWhile (· ≠ x) = front := by
  rw [List.takeWhile_append_of_pos (all_ne_of_notMem absent),
    List.takeWhile_cons_of_neg (by simp), List.append_nil]

end

namespace PartsAtZero

variable {decode : List UInt8 → List Char} (parts : PartsAtZero decode)

include parts

theorem takeWhile_decode (raw : List UInt8) :
    decode (raw.takeWhile (· ≠ 0)) = (decode raw).takeWhile (· ≠ '\x00') := by
  by_cases zero : 0 ∈ raw
  · obtain ⟨front, back, rfl, absent⟩ := List.eq_append_cons_of_mem zero
    rw [takeWhile_ne_of_append absent, parts.part, takeWhile_ne_of_append (parts.plain _ absent)]
  · rw [takeWhile_ne_of_notMem zero, takeWhile_ne_of_notMem (parts.plain _ zero)]

theorem null_mem_decode_iff (raw : List UInt8) : '\x00' ∈ decode raw ↔ 0 ∈ raw := by
  constructor
  · intro null
    by_contra absent
    exact parts.plain raw absent null
  · intro zero
    obtain ⟨front, back, rfl, _⟩ := List.eq_append_cons_of_mem zero
    rw [parts.part]
    simp

end PartsAtZero

theorem Utf8.partsAtZero : PartsAtZero Utf8.decode where
  part := decode_append_zero
  plain := fun _ nonzero => null_notMem_decode nonzero

/-! ## Double-byte character sets -/

namespace DoubleByte

/-- Zero is a single byte, no trail byte, and nothing else stands for the null character. -/
structure KeepsZero (set : DoubleByte) : Prop where
  zero : set.single? 0 = some '\x00'
  single : ∀ b c, set.single? b = some c → b ≠ 0 → c ≠ '\x00'
  trail : ∀ lead, set.pair? lead 0 = none
  pair : ∀ lead trail c, set.pair? lead trail = some c → c ≠ '\x00'

variable {set : DoubleByte} {b next : UInt8} {c : Char}

theorem decode_of_single (single : set.single? b = some c) (rest : List UInt8) :
    set.decode (b :: rest) = c :: set.decode rest := by
  cases rest with
  | nil => simp [decode, single]
  | cons next rest => rw [decode, single]

theorem decode_of_pair (lead : set.single? b = none) (pair : set.pair? b next = some c)
    (rest : List UInt8) : set.decode (b :: next :: rest) = c :: set.decode rest := by
  rw [decode, lead, pair]

theorem decode_of_stray (lead : set.single? b = none) (stray : set.pair? b next = none)
    (rest : List UInt8) :
    set.decode (b :: next :: rest) = replacement :: set.decode (next :: rest) := by
  rw [decode, lead, stray]

namespace KeepsZero

variable (keeps : set.KeepsZero)

include keeps

theorem decode_zero (back : List UInt8) : set.decode (0 :: back) = '\x00' :: set.decode back :=
  decode_of_single keeps.zero back

/-- A byte in front of a zero byte is decoded as if the text ended behind it. -/
theorem decode_before_zero (b : UInt8) (back : List UInt8) :
    set.decode (b :: 0 :: back) = set.decode [b] ++ '\x00' :: set.decode back := by
  cases lead : set.single? b with
  | none =>
      rw [decode_of_stray lead (keeps.trail b), keeps.decode_zero]
      simp [decode, lead]
  | some c =>
      rw [decode_of_single lead, keeps.decode_zero]
      simp [decode, lead]

theorem decode_append_zero (front back : List UInt8) :
    set.decode (front ++ 0 :: back) = set.decode front ++ '\x00' :: set.decode back := by
  induction front using decode.induct set with
  | case1 => exact keeps.decode_zero back
  | case2 b => exact keeps.decode_before_zero b back
  | case3 b next rest c single ih =>
      rw [List.cons_append, decode_of_single single, decode_of_single single, ih, List.cons_append]
  | case4 b next rest lead c pair ih =>
      rw [List.cons_append, List.cons_append, decode_of_pair lead pair, decode_of_pair lead pair,
        ih, List.cons_append]
  | case5 b next rest lead stray ih =>
      rw [List.cons_append, List.cons_append, decode_of_stray lead stray,
        decode_of_stray lead stray, ← List.cons_append, ih, List.cons_append]

theorem null_notMem_decode (bytes : List UInt8) (nonzero : 0 ∉ bytes) :
    '\x00' ∉ set.decode bytes := by
  induction bytes using decode.induct set with
  | case1 => simp [decode]
  | case2 b =>
      rw [decode, List.mem_singleton]
      cases single : set.single? b with
      | none => exact Ne.symm replacement_ne_null
      | some c =>
          have here : b ≠ 0 := fun zero => nonzero (by simp [zero])
          exact Ne.symm (keeps.single b c single here)
  | case3 b next rest c single ih =>
      rw [List.mem_cons, not_or] at nonzero
      rw [decode_of_single single, List.mem_cons, not_or]
      exact ⟨Ne.symm (keeps.single b c single (Ne.symm nonzero.1)), ih nonzero.2⟩
  | case4 b next rest lead c pair ih =>
      rw [List.mem_cons, not_or, List.mem_cons, not_or] at nonzero
      rw [decode_of_pair lead pair, List.mem_cons, not_or]
      exact ⟨Ne.symm (keeps.pair b next c pair), ih nonzero.2.2⟩
  | case5 b next rest lead stray ih =>
      rw [List.mem_cons, not_or] at nonzero
      rw [decode_of_stray lead stray, List.mem_cons, not_or]
      exact ⟨Ne.symm replacement_ne_null, ih nonzero.2⟩

theorem partsAtZero : PartsAtZero set.decode where
  part := keeps.decode_append_zero
  plain := keeps.null_notMem_decode

end KeepsZero

end DoubleByte

theorem cell?_ne_null {rows : Array String} {row column : Nat} {c : Char}
    (found : cell? rows row column = some c) : c ≠ '\x00' := by
  obtain ⟨text, _, found⟩ := Option.bind_eq_some_iff.mp found
  obtain ⟨cell, _, found⟩ := Option.bind_eq_some_iff.mp found
  intro null
  split at found
  · cases found
  · rename_i beyondAscii
    cases found
    rw [null] at beyondAscii
    exact beyondAscii (by decide)

theorem keepsZero_shiftJis : shiftJis.KeepsZero where
  zero := rfl
  single := by
    intro b c found nonzero
    have number : b.toNat ≠ 0 := fun zero => nonzero (UInt8.toNat_inj.mp zero)
    have byte := b.toNat_lt
    simp only [shiftJis, ShiftJis.single?] at found
    split at found
    · obtain rfl := Option.some.inj found
      exact char_ne_null (Or.inl (by omega)) number
    · split at found
      · cases found
        decide
      · split at found
        · obtain rfl := Option.some.inj found
          exact char_ne_null (Or.inr ⟨by omega, by omega⟩) (by omega)
        · split at found
          · obtain rfl := Option.some.inj found
            exact char_ne_null (Or.inr ⟨by omega, by omega⟩) (by omega)
          · cases found
  trail := fun _ => rfl
  pair := by
    intro lead trail c found
    obtain ⟨column, placed, found⟩ := Option.bind_eq_some_iff.mp found
    split at found
    · obtain rfl := Option.some.inj found
      have small : column < 188 := by
        unfold column? at placed
        split at placed
        · cases placed
        · split at placed <;> cases placed <;> omega
      exact char_ne_null (Or.inr ⟨by omega, by omega⟩) (by omega)
    · exact cell?_ne_null found

theorem keepsZero_gbk : gbk.KeepsZero where
  zero := rfl
  single := by
    intro b c found nonzero
    have number : b.toNat ≠ 0 := fun zero => nonzero (UInt8.toNat_inj.mp zero)
    simp only [gbk, Gbk.single?] at found
    split at found
    · obtain rfl := Option.some.inj found
      exact char_ne_null (Or.inl (by omega)) number
    · cases found
  trail := fun _ => rfl
  pair := by
    intro lead trail c found
    obtain ⟨column, _, found⟩ := Option.bind_eq_some_iff.mp found
    split at found
    · cases found
    · exact cell?_ne_null found

end Charset

/-! ## The three encodings -/

theorem Encoding.exists_partsAtZero (encoding : Encoding) :
    ∃ decode, (∀ bytes, encoding.decode bytes = String.ofList (decode bytes)) ∧
      Charset.PartsAtZero decode := by
  cases encoding with
  | shiftJis => exact ⟨_, fun _ => rfl, Charset.keepsZero_shiftJis.partsAtZero⟩
  | gbk => exact ⟨_, fun _ => rfl, Charset.keepsZero_gbk.partsAtZero⟩
  | utf8 => exact ⟨_, fun _ => rfl, Charset.Utf8.partsAtZero⟩

/-- The text before the first null character. -/
def cutAtNull (text : String) : String := String.ofList (text.toList.takeWhile (· ≠ '\x00'))

theorem Encoding.decodeField_eq_cut (encoding : Encoding) (raw : List UInt8) :
    encoding.decodeField raw = cutAtNull (encoding.decode raw) := by
  obtain ⟨decode, decodes, parts⟩ := encoding.exists_partsAtZero
  rw [decodeField, cutAtNull, decodes, decodes, parts.takeWhile_decode, String.toList_ofList]

/-- A text field is the text of all its bytes, cut at the first null character.  A zero byte keeps
what is decoded before it and behind it apart, and null characters come from zero bytes only. -/
theorem cut_commutes_with_decoding :
    (∀ (scenario : Scenario) (offset length : Int),
      scenario.text offset length =
        (scenario.blob.bytes offset length).map fun raw =>
          cutAtNull (scenario.encoding.decode raw)) ∧
    ∀ encoding : Encoding,
      (∀ raw, encoding.decode (raw.takeWhile (· ≠ 0)) = cutAtNull (encoding.decode raw)) ∧
      (∀ front back, encoding.decode (front ++ 0 :: back) =
        encoding.decode front ++ "\x00" ++ encoding.decode back) ∧
      ∀ raw, '\x00' ∈ (encoding.decode raw).toList ↔ 0 ∈ raw := by
  refine ⟨fun scenario offset length => ?_, fun encoding => ⟨?_, ?_, ?_⟩⟩
  · rw [Scenario.text, funext scenario.encoding.decodeField_eq_cut]
  · exact encoding.decodeField_eq_cut
  · intro front back
    obtain ⟨decode, decodes, parts⟩ := encoding.exists_partsAtZero
    rw [decodes, decodes, decodes, parts.part, String.ofList_append, ← List.singleton_append,
      String.ofList_append, String.append_assoc]
  · intro raw
    obtain ⟨decode, decodes, parts⟩ := encoding.exists_partsAtZero
    rw [decodes, String.toList_ofList]
    exact parts.null_mem_decode_iff raw

/-! ## UTF-8 fields -/

namespace Charset.Utf8

theorem zero_notMem_encode {cs : List Char} (plain : '\x00' ∉ cs) : 0 ∉ encode cs := by
  rw [← partsAtZero.null_mem_decode_iff, decode_encode]
  exact plain

theorem null_notMem_field (raw : List UInt8) :
    '\x00' ∉ (Encoding.utf8.decodeField raw).toList := by
  rw [Encoding.decodeField, Encoding.decode, String.toList_ofList]
  apply null_notMem_decode
  intro zero
  simpa using List.mem_takeWhile_imp zero

end Charset.Utf8

theorem Encoding.decodeField_encode {text : String} (plain : '\x00' ∉ text.toList)
    (junk : List UInt8) :
    utf8.decodeField (Charset.Utf8.encode text.toList) = text ∧
      utf8.decodeField (Charset.Utf8.encode text.toList ++ 0 :: junk) = text := by
  have nonzero := Charset.Utf8.zero_notMem_encode plain
  have read : utf8.decode (Charset.Utf8.encode text.toList) = text := by
    rw [decode, Charset.Utf8.decode_encode, String.ofList_toList]
  constructor
  · rw [decodeField, Charset.takeWhile_ne_of_notMem nonzero, read]
  · rw [decodeField, Charset.takeWhile_ne_of_append nonzero, read]

/-- The field of `length` bytes at `offset` holds these bytes: they fill it, or a zero byte stands
behind them in it. -/
def Scenario.HoldsField (scenario : Scenario) (offset length : Int) (bytes : List UInt8) : Prop :=
  ∃ field : List UInt8, scenario.blob.HasAt offset field ∧ length = field.length ∧
    (field = bytes ∨ ∃ junk, field = bytes ++ 0 :: junk)

theorem Scenario.text_of_hasAt {scenario : Scenario} {offset : Int} {raw : List UInt8}
    (there : scenario.blob.HasAt offset raw) :
    scenario.text offset raw.length = .ok (scenario.encoding.decodeField raw) := by
  rw [Scenario.text, there]
  rfl

theorem Scenario.text_of_holdsField {scenario : Scenario} (utf8 : scenario.encoding = .utf8)
    {offset length : Int} {text : String} (plain : '\x00' ∉ text.toList)
    (held : scenario.HoldsField offset length (Charset.Utf8.encode text.toList)) :
    scenario.text offset length = .ok text := by
  obtain ⟨field, there, rfl, filled⟩ := held
  rw [Scenario.text_of_hasAt there, utf8]
  rcases filled with rfl | ⟨junk, rfl⟩
  · rw [(Encoding.decodeField_encode plain []).1]
  · rw [(Encoding.decodeField_encode plain junk).2]

/-- A text without null characters is read back from every field that holds its UTF-8 encoding.
Whatever bytes a field has, they are read as a text, and that text is read back from every field
that holds its encoding. -/
theorem utf8_field_read_back :
    (∀ (text : String) (scenario : Scenario) (offset length : Int),
      '\x00' ∉ text.toList → scenario.encoding = .utf8 →
      scenario.HoldsField offset length (Charset.Utf8.encode text.toList) →
      scenario.text offset length = .ok text) ∧
    ∀ (scenario : Scenario) (offset : Int) (raw : List UInt8),
      scenario.encoding = .utf8 → scenario.blob.HasAt offset raw →
      ∃ text, scenario.text offset raw.length = .ok text ∧
        ∀ (again : Scenario) (start length : Int), again.encoding = .utf8 →
          again.HoldsField start length (Charset.Utf8.encode text.toList) →
          again.text start length = .ok text := by
  constructor
  · intro text scenario offset length plain utf8 held
    exact Scenario.text_of_holdsField utf8 plain held
  · intro scenario offset raw utf8 there
    refine ⟨_, Scenario.text_of_hasAt there, ?_⟩
    intro again start length againUtf8 held
    rw [utf8] at held ⊢
    exact Scenario.text_of_holdsField againUtf8 (Charset.Utf8.null_notMem_field raw) held

/-- A file whose title field holds a text of characters with two, three and four bytes, a zero byte,
a byte that is no character, and the encoding of the character that replaces it. -/
def accentedFile : Blob :=
  #[4, 0, 0, 0,
    4, 0, 0, 0,  0, 0,  0, 0,  0, 0,
    14,  0xC3, 0xA9,  0xE6, 0x97, 0xA5,  0xF0, 0x9F, 0x98, 0x80,  0,  0xFF,  0xEF, 0xBF, 0xBD,
    0, 0]

theorem utf8_field_read_back_title :
    ∃ scenario, Scenario.parse accentedFile .utf8 = .ok scenario ∧
      scenario.text 15 14 = .ok "é日😀" ∧
      scenario.text 25 1 = .ok "\uFFFD" ∧ scenario.text 26 3 = .ok "\uFFFD" := by
  have parses : (Scenario.parse accentedFile .utf8).toOption.isSome = true := by decide +kernel
  obtain ⟨scenario, parsed⟩ := Option.isSome_iff_exists.mp parses
  have success := eq_ok_of_toOption parsed
  obtain ⟨blob, utf8, _⟩ := Scenario.facts_of_parse success
  have title : scenario.blob.HasAt 15
      (Charset.Utf8.encode "é日😀".toList ++ 0 :: [0xFF, 0xEF, 0xBF, 0xBD]) := by
    rw [blob]
    exact eq_ok_of_toOption (by decide +kernel)
  have stray : scenario.blob.HasAt 25 [0xFF] := by
    rw [blob]
    exact eq_ok_of_toOption (by decide +kernel)
  have replaced : scenario.blob.HasAt 26 (Charset.Utf8.encode "\uFFFD".toList) := by
    rw [blob]
    exact eq_ok_of_toOption (by decide +kernel)
  obtain ⟨text, read, again⟩ := utf8_field_read_back.2 scenario 25 _ utf8 stray
  have same : text = "\uFFFD" := by
    rw [Scenario.text_of_hasAt stray, utf8] at read
    rw [← Except.ok.inj read]
    decide +kernel
  subst same
  refine ⟨scenario, success, ?_, read, again scenario 26 3 utf8 ?_⟩
  · refine utf8_field_read_back.1 "é日😀" scenario 15 14 (by decide) utf8 ?_
    exact ⟨_, title, rfl, .inr ⟨_, rfl⟩⟩
  · exact ⟨_, replaced, rfl, .inl rfl⟩

end SceneCode
