import SceneCode.Listing
import SceneCode.OperandStack
import SceneCode.Proofs.Numeral

/-!
# Texts of operands

What a listing writes for a constant, for a slot and for an expression can be told apart by its
characters.  A numeral is made of figures, a text is in quotes, the name of a slot starts with its
letters, and an expression has a bracket in it.  So no constant is written like a slot, only nil is
written `nil`, and two slots are never written alike.

The literal of a text is delimited by its quotes.  A scanner that takes a character behind a
backslash as it is and stops at the next quote reads the text back, whatever stands behind the
literal (`Constant.readText?_literal_append`).
-/

set_option autoImplicit false

namespace SceneCode

/-! ## Figures -/

/-- The characters of numerals with a point, a sign or an exponent. -/
def isFigure (c : Char) : Bool :=
  c.isDigit || c = '.' || c = 'e' || c = '+' || c = '-'

/-- A text of figures. -/
def Figures (text : String) : Prop := ∀ c ∈ text.toList, isFigure c = true

instance (text : String) : Decidable (Figures text) :=
  List.decidableBAll (fun c => isFigure c = true) text.toList

theorem isFigure_of_isDigit {c : Char} (digit : c.isDigit = true) : isFigure c = true := by
  simp [isFigure, digit]

theorem isFigure_of_mem_toDigits {n : Nat} {c : Char} (member : c ∈ Nat.toDigits 10 n) :
    isFigure c = true :=
  isFigure_of_isDigit (Nat.isDigit_of_mem_toDigits (by decide) (by decide) member)

theorem figures_decimal (number : Int) : Figures (Text.decimal number) := by
  intro c member
  simp only [Text.decimal, Text.padded, String.toList_ofList, List.mem_append,
    List.mem_replicate] at member
  rcases member with (sign | ⟨_, rfl⟩) | digit
  · split at sign
    · rw [List.mem_singleton] at sign
      subst sign
      rfl
    · cases sign
  · rfl
  · exact isFigure_of_mem_toDigits digit

theorem Figures.append {first second : String} (left : Figures first) (right : Figures second) :
    Figures (first ++ second) := by
  intro c member
  rw [String.toList_append, List.mem_append] at member
  rcases member with early | late
  · exact left c early
  · exact right c late

theorem figures_ofList {cs : List Char} (all : ∀ c ∈ cs, isFigure c = true) :
    Figures (String.ofList cs) := by
  intro c member
  rw [String.toList_ofList] at member
  exact all c member

theorem isFigure_of_mem_replicate {count : Nat} {c : Char}
    (member : c ∈ List.replicate count '0') : isFigure c = true := by
  rw [(List.mem_replicate.mp member).2]
  rfl

namespace Number.NumberFormat

variable {digits : List Char}

theorem figures_positionalText (all : ∀ c ∈ digits, isFigure c = true) (leading : Int) :
    Figures (positionalText digits leading) := by
  unfold positionalText
  split
  · apply Figures.append
    · decide
    · apply figures_ofList
      intro c member
      rcases List.mem_append.mp member with zero | digit
      · exact isFigure_of_mem_replicate zero
      · exact all c digit
  · apply Figures.append
    · apply Figures.append
      · apply figures_ofList
        intro c member
        rcases List.mem_append.mp member with digit | zero
        · exact all c (List.mem_of_mem_take digit)
        · exact isFigure_of_mem_replicate zero
      · decide
    · split
      · decide
      · exact figures_ofList fun c member => all c (List.mem_of_mem_drop member)

theorem figures_exponentText (all : ∀ c ∈ digits, isFigure c = true) (leading : Int) :
    Figures (listingFormat.exponentText digits leading) := by
  unfold exponentText
  refine Figures.append (Figures.append (Figures.append (Figures.append ?_ ?_) ?_) ?_) ?_
  · exact figures_ofList fun c member => all c (List.mem_of_mem_take member)
  · split
    · decide
    · apply Figures.append
      · decide
      · exact figures_ofList fun c member => all c (List.mem_of_mem_drop member)
  · decide
  · split <;> decide
  · apply figures_ofList
    intro c member
    rcases List.mem_append.mp member with zero | digit
    · exact isFigure_of_mem_replicate zero
    · exact isFigure_of_mem_toDigits digit

theorem figures_decimalText (d : Decimal) : Figures (listingFormat.decimalText d) := by
  have all : ∀ c ∈ withoutTrailingZeros (Nat.toDigits 10 d.digits), isFigure c = true := by
    intro c member
    rw [withoutTrailingZeros, List.mem_reverse] at member
    have digit := List.mem_reverse.mp ((List.dropWhile_suffix _).subset member)
    exact isFigure_of_mem_toDigits digit
  unfold decimalText
  dsimp only
  split
  · exact figures_positionalText all _
  · exact figures_exponentText all _

/-- A number is written in figures, unless it has no digits. -/
theorem figures_write (x : Binary64) :
    Figures (listingFormat.write x) ∨ listingFormat.write x ∈ ["nan", "inf", "-inf"] := by
  have sign : Figures (if x.negative then "-" else "") := by
    split <;> decide
  unfold write
  dsimp only
  cases x.magnitude with
  | nan => exact .inr List.mem_cons_self
  | infinite => exact .inr (by cases x.negative <;> decide)
  | finite mantissa exponent =>
      cases mantissa with
      | zero => exact .inl (sign.append (by decide))
      | succ mantissa => exact .inl (sign.append (figures_decimalText _))

end Number.NumberFormat

/-! ## Constants and slots -/

namespace Value

theorem toList_localName (index : Int) :
    (localName index).toList = 'l' :: 'o' :: 'c' :: 'a' :: 'l' :: (Text.decimal index).toList := by
  simp [localName]

theorem toList_argName (index : Int) :
    (argName index).toList = 'a' :: 'r' :: 'g' :: (Text.decimal (-index - 2)).toList := by
  simp [argName]

theorem localName_ne_argName (index other : Int) : localName index ≠ argName other := by
  intro same
  have first := congrArg (fun text => text.toList.head?) same
  simp [toList_localName, toList_argName] at first

end Value

theorem Text.decimal_natCast (number : Nat) :
    (Text.decimal number).toList = Nat.toDigits 10 number := by
  simp [Text.decimal, Text.padded]

/-- Different numbers have different numerals. -/
theorem Text.decimal_injective {first second : Nat}
    (same : (Text.decimal first).toList = (Text.decimal second).toList) : first = second := by
  rw [Text.decimal_natCast, Text.decimal_natCast] at same
  have read := congrArg (Nat.ofDigitChars 10 · 0) same
  simpa [Nat.ofDigitChars_ten_toDigits] using read

namespace Value

theorem localName_inj {index other : Int} (nonneg : 0 ≤ index) (otherNonneg : 0 ≤ other) :
    localName index = localName other ↔ index = other := by
  refine ⟨fun same => ?_, congrArg localName⟩
  obtain ⟨first, rfl⟩ := Int.eq_ofNat_of_zero_le nonneg
  obtain ⟨second, rfl⟩ := Int.eq_ofNat_of_zero_le otherNonneg
  have digits := congrArg String.toList same
  simp only [toList_localName, List.cons.injEq, true_and] at digits
  rw [Text.decimal_injective digits]

theorem argName_inj {index other : Int} (below : index ≤ -2) (otherBelow : other ≤ -2) :
    argName index = argName other ↔ index = other := by
  refine ⟨fun same => ?_, congrArg argName⟩
  obtain ⟨first, firstSame⟩ := Int.eq_ofNat_of_zero_le (by omega : 0 ≤ -index - 2)
  obtain ⟨second, secondSame⟩ := Int.eq_ofNat_of_zero_le (by omega : 0 ≤ -other - 2)
  have digits := congrArg String.toList same
  simp only [toList_argName, firstSame, secondSame, List.cons.injEq, true_and] at digits
  have equal := Text.decimal_injective digits
  omega

end Value

/-- The letters that slots, globals, results and operators start with. -/
def initials : List Char := ['l', 'a', 'g', 'r', 'p']

/-- A text that starts with a name. -/
def Named (text : String) : Prop := ∃ c ∈ initials, text.toList.head? = some c

theorem Named.append {first : String} (named : Named first) (second : String) :
    Named (first ++ second) := by
  obtain ⟨c, initial, starts⟩ := named
  refine ⟨c, initial, ?_⟩
  rw [String.toList_append, List.head?_append, starts, Option.some_or]

theorem named_of_word {word : String} (starts : word.toList.head? ∈ initials.map some) :
    Named word := by
  obtain ⟨c, initial, same⟩ := List.mem_map.mp starts
  exact ⟨c, initial, same.symm⟩

theorem named_localName (index : Int) : Named (Value.localName index) :=
  (named_of_word (by decide) : Named "local").append _

theorem named_argName (index : Int) : Named (Value.argName index) :=
  (named_of_word (by decide) : Named "arg").append _

theorem named_symbol (mnemonic : String) : Named ("pvm_" ++ mnemonic) :=
  (named_of_word (by decide) : Named "pvm_").append _

/-- A text with a bracket in it. -/
def Bracketed (text : String) : Prop := '(' ∈ text.toList ∨ '[' ∈ text.toList

instance (text : String) : Decidable (Bracketed text) := inferInstanceAs (Decidable (_ ∨ _))

theorem bracketed_append {first second : String} :
    Bracketed (first ++ second) ↔ Bracketed first ∨ Bracketed second := by
  simp only [Bracketed, String.toList_append, List.mem_append]
  exact or_or_or_comm

theorem Figures.not_bracketed {text : String} (figures : Figures text) : ¬ Bracketed text := by
  rintro (round | square)
  · cases figures _ round
  · cases figures _ square

/-- A number brings no bracket into a name. -/
theorem not_bracketed_numbered {word : String} (plain : ¬ Bracketed word) (number : Int) :
    ¬ Bracketed (word ++ Text.decimal number) := by
  rw [bracketed_append]
  exact not_or.mpr ⟨plain, (figures_decimal number).not_bracketed⟩

namespace Constant

/-- How the literals of constants look. -/
theorem literal_cases (constant : Constant) :
    constant.literal ∈ ["nil", "true", "nan", "inf", "-inf"] ∨ Figures constant.literal ∨
      constant.literal.toList.head? = some '"' := by
  cases constant with
  | nil => exact .inl (by decide)
  | truth => exact .inl (by decide)
  | int value => exact .inr (.inl (figures_decimal value))
  | float value =>
      rcases Number.NumberFormat.figures_write value with figures | special
      · exact .inr (.inl figures)
      · exact .inl (List.mem_cons_of_mem _ (List.mem_cons_of_mem _ special))
  | text value => exact .inr (.inr (by simp [literal, textLiteral]))

/-- Only nil is written `nil`. -/
theorem literal_eq_nil_iff {constant : Constant} : constant.literal = "nil" ↔ constant = nil := by
  constructor
  · intro same
    have figureless : ¬ Figures constant.literal := by
      intro figures
      have first := figures 'n' (by rw [same]; decide)
      cases first
    cases constant with
    | nil => rfl
    | truth => exact absurd same (by decide)
    | int value => exact absurd (figures_decimal value) figureless
    | float value =>
        rcases Number.NumberFormat.figures_write value with figures | special
        · exact absurd figures figureless
        · rw [show Number.listingFormat.write value = "nil" from same] at special
          exact absurd special (by decide)
    | text value =>
        have first := congrArg (fun text => text.toList.head?) same
        simp [literal, textLiteral] at first
  · rintro rfl
    rfl

end Constant

/-- No literal starts with a name. -/
theorem Named.ne_literal {text : String} (named : Named text) (constant : Constant) :
    text ≠ constant.literal := by
  rintro rfl
  obtain ⟨c, initial, first⟩ := named
  rcases constant.literal_cases with word | figures | quoted
  · have apart : (["nil", "true", "nan", "inf", "-inf"].all fun text =>
        initials.all fun c => text.toList.head? ≠ some c) = true := by
      decide
    have differs := List.all_eq_true.mp (List.all_eq_true.mp apart _ word) c initial
    exact of_decide_eq_true differs first
  · have apart : initials.all (fun c => !isFigure c) = true := by decide
    have figure := figures c (List.mem_of_head? first)
    have other := List.all_eq_true.mp apart c initial
    rw [figure] at other
    cases other
  · have apart : '"' ∉ initials := by decide
    rw [quoted] at first
    cases first
    exact apart initial

theorem Named.ne_nil {text : String} (named : Named text) : text ≠ "nil" := named.ne_literal .nil

/-- How a global, a result or an expression is written: with a name at its start, and but for `ret`
with a bracket in it. -/
structure Composite (text : String) : Prop where
  named : Named text
  bracketed : text = "ret" ∨ Bracketed text

namespace Composite

variable {text : String}

theorem ne_localName (composite : Composite text) (index : Int) :
    text ≠ Value.localName index := by
  rintro rfl
  rcases composite.bracketed with word | bracket
  · have letters := congrArg String.toList word
    simp [Value.toList_localName] at letters
  · exact not_bracketed_numbered (by decide) index bracket

theorem ne_argName (composite : Composite text) (index : Int) : text ≠ Value.argName index := by
  rintro rfl
  rcases composite.bracketed with word | bracket
  · have letters := congrArg String.toList word
    simp [Value.toList_argName] at letters
  · exact not_bracketed_numbered (by decide) _ bracket

theorem of_named {front back : String} (named : Named front) (bracketed : Bracketed back) :
    Composite (front ++ back) where
  named := named.append back
  bracketed := .inr (bracketed_append.mpr (.inr bracketed))

theorem of_global (index : Int) : Composite ("global[" ++ Text.decimal index ++ "]") where
  named := ((named_of_word (by decide) : Named "global[").append _).append _
  bracketed := .inr (.inr (by simp))

theorem of_result : Composite "ret" where
  named := named_of_word (by decide)
  bracketed := .inl rfl

end Composite

/-! ## Values -/

namespace Listing

variable {routine : Routine} {fuel : Nat} {index : Int}

theorem isOperandSlot_numbered (number : Nat) (locals : Int) :
    isOperandSlot (Value.localName number) locals =
      if Text.digitLimit < (Nat.toDigits 10 number).length then
        .error (.longSlotNumber (Nat.toDigits 10 number).length)
      else .ok (locals ≤ number) := by
  unfold isOperandSlot
  rw [Value.toList_localName]
  simp only [String.ofList_toList, Text.readInteger_numeral]
  by_cases long : Text.digitLimit < (Nat.toDigits 10 number).length
  · rw [if_pos long, if_pos long]
  · rw [if_neg long, if_neg long]

theorem isOperandSlot_localName (nonneg : 0 ≤ index) (small : index < 10000000000)
    (locals : Int) : isOperandSlot (Value.localName index) locals = .ok (locals ≤ index) := by
  obtain ⟨number, rfl⟩ := Int.eq_ofNat_of_zero_le nonneg
  have short := Text.length_toDigits_le (by omega : number < 10000000000)
  rw [isOperandSlot_numbered, if_neg (Nat.not_lt.mpr short)]

theorem isOperandSlot_argName (index locals : Int) :
    isOperandSlot (Value.argName index) locals = .ok false := by
  unfold isOperandSlot
  rw [Value.toList_argName]
  rfl

theorem globalName_eq_ok {text : String} (written : globalName index = .ok text) :
    text = "global[" ++ Text.decimal index ++ "]" := by
  unfold globalName at written
  split at written <;> cases written
  rfl

theorem constant_eq_ok {content : Constant} {text : String}
    (written : constant content = .ok text) : text = content.literal := by
  unfold constant at written
  split at written <;> cases written
  rfl

theorem constant_of_isWritable {content : Constant} (short : content.isWritable = true) :
    constant content = .ok content.literal :=
  if_pos short

/-- A slot above the locals is written as what was pushed there. -/
theorem valueWithin_pushed (nonneg : 0 ≤ index) (above : routine.locals ≤ index)
    (small : index < 10000000000) (content : Constant) :
    valueWithin routine fuel (.slot (Value.localName index) content) = constant content := by
  have decided := isOperandSlot_localName nonneg small routine.locals
  cases content with
  | nil =>
      simp [valueWithin, Constant.isNil, decided, above, bind, Except.bind, pure, Except.pure,
        constant, Constant.isWritable, Constant.literal]
  | _ => simp [valueWithin, Constant.isNil]

/-- A declared local is written by its name. -/
theorem valueWithin_unset (nonneg : 0 ≤ index) (below : index < routine.locals)
    (small : index < 10000000000) :
    valueWithin routine fuel (OperandStack.unset index) = .ok (Value.localName index) := by
  have decided := isOperandSlot_localName nonneg small routine.locals
  simp [valueWithin, OperandStack.unset, Constant.isNil, decided, Int.not_le.mpr below, bind,
    Except.bind, pure, Except.pure]

theorem valueWithin_arg :
    valueWithin routine fuel (.slot (Value.argName index) .nil) = .ok (Value.argName index) := by
  have decided := isOperandSlot_argName index routine.locals
  simp [valueWithin, Constant.isNil, decided, bind, Except.bind, pure, Except.pure]

theorem exists_of_bind {α β : Type} {first : Except OutputFault α}
    {next : α → Except OutputFault β} {result : β} (ran : (first >>= next) = .ok result) :
    ∃ value, first = .ok value ∧ next value = .ok result := by
  cases first with
  | error fault => cases ran
  | ok value => exact ⟨value, rfl, ran⟩

end Listing

/-! ## Reading literals -/

namespace Constant

/-- Reads a literal from behind its opening quote: the text and what follows the closing quote. -/
def scan : List Char → Option (List Char × List Char)
  | [] | ['\\'] => none
  | '"' :: rest => some ([], rest)
  | '\\' :: c :: rest => (scan rest).map fun found => (c :: found.1, found.2)
  | c :: rest => (scan rest).map fun found => (c :: found.1, found.2)

theorem scan_plain {c : Char} (notSlash : c ≠ '\\') (notQuote : c ≠ '"') (rest : List Char) :
    scan (c :: rest) = (scan rest).map fun found => (c :: found.1, found.2) := by
  rw [scan]
  all_goals simp [notSlash, notQuote]

/-- A literal reads as its text, whatever follows it. -/
theorem scan_escaped (cs rest : List Char) :
    scan (cs.flatMap escaped ++ '"' :: rest) = some (cs, rest) := by
  induction cs with
  | nil => rfl
  | cons c later ih =>
      rw [List.flatMap_cons, List.append_assoc]
      by_cases special : c = '\\' ∨ c = '"'
      · have twice : escaped c = ['\\', c] := by
          rw [escaped, if_pos (by simpa [or_iff_not_imp_left] using special)]
        rw [twice, List.cons_append, List.cons_append, List.nil_append, scan, ih, Option.map_some]
      · obtain ⟨notSlash, notQuote⟩ := not_or.mp special
        have once : escaped c = [c] := by simp [escaped, notSlash, notQuote]
        rw [once, List.cons_append, List.nil_append, scan_plain notSlash notQuote, ih,
          Option.map_some]

/-- What has been read stays read if the text goes on. -/
theorem scan_append {cs found rest : List Char} (read : scan cs = some (found, rest))
    (more : List Char) : scan (cs ++ more) = some (found, rest ++ more) := by
  fun_induction scan cs generalizing found rest with
  | case1 => cases read
  | case2 => cases read
  | case3 behind =>
      cases read
      rfl
  | case4 c behind ih =>
      obtain ⟨inner, readInner, same⟩ := Option.map_eq_some_iff.mp read
      cases same
      rw [List.cons_append, List.cons_append, scan, ih readInner, Option.map_some]
  | case5 c behind lastSlash notQuote slash ih =>
      have notSlash : c ≠ '\\' := by
        intro same
        cases behind with
        | nil => exact lastSlash same rfl
        | cons next later => exact slash next later same rfl
      obtain ⟨inner, readInner, same⟩ := Option.map_eq_some_iff.mp read
      cases same
      rw [List.cons_append, scan_plain notSlash notQuote, ih readInner, Option.map_some]

/-- Reads a literal at the beginning of a text: what it stands for and the text behind it. -/
def readText? (text : String) : Option (String × String) :=
  match text.toList with
  | '"' :: cs => (scan cs).map fun found => (String.ofList found.1, String.ofList found.2)
  | _ => none

theorem readText?_of_toList {text : String} {cs : List Char} (quoted : text.toList = '"' :: cs) :
    readText? text =
      (scan cs).map fun found => (String.ofList found.1, String.ofList found.2) := by
  rw [readText?, quoted]
  rfl

theorem toList_text (value : String) :
    (text value).literal.toList = '"' :: (value.toList.flatMap escaped ++ ['"']) := by
  rw [literal, textLiteral, String.toList_ofList, List.cons_append]

theorem readText?_literal_append (value behind : String) :
    readText? ((text value).literal ++ behind) = some (value, behind) := by
  have quoted : ((text value).literal ++ behind).toList =
      '"' :: (value.toList.flatMap escaped ++ '"' :: behind.toList) := by
    rw [String.toList_append, toList_text, List.cons_append, List.append_assoc,
      List.singleton_append]
  rw [readText?_of_toList quoted, scan_escaped, Option.map_some, String.ofList_toList,
    String.ofList_toList]

theorem readText?_append {front found rest : String} (read : readText? front = some (found, rest))
    (back : String) : readText? (front ++ back) = some (found, rest ++ back) := by
  unfold readText? at read
  split at read
  · rename_i cs quoted
    obtain ⟨inner, scanned, same⟩ := Option.map_eq_some_iff.mp read
    cases same
    have longer : (front ++ back).toList = '"' :: (cs ++ back.toList) := by
      rw [String.toList_append, quoted, List.cons_append]
    rw [readText?_of_toList longer, scan_append scanned, Option.map_some, String.ofList_append,
      String.ofList_toList]
  · cases read

/-- A literal ends in one place only, whatever follows it. -/
theorem text_append_inj {value other behind otherBehind : String} :
    (text value).literal ++ behind = (text other).literal ++ otherBehind ↔
      value = other ∧ behind = otherBehind := by
  constructor
  · intro same
    have read := congrArg readText? same
    rw [readText?_literal_append, readText?_literal_append, Option.some.injEq,
      Prod.mk.injEq] at read
    exact read
  · rintro ⟨rfl, rfl⟩
    rfl

/-- The text with every `old` replaced. -/
def replaced (old : Char) (new cs : List Char) : List Char :=
  cs.flatMap fun c => if c = old then new else [c]

/-- To escape a text, its backslashes are replaced first and its quotes afterwards. -/
theorem flatMap_escaped (cs : List Char) :
    cs.flatMap escaped = replaced '"' ['\\', '"'] (replaced '\\' ['\\', '\\'] cs) := by
  have here : ∀ c, escaped c =
      (if c = '\\' then ['\\', '\\'] else [c]).flatMap
        fun c => if c = '"' then ['\\', '"'] else [c] := by
    intro c
    by_cases slash : c = '\\'
    · subst slash
      rfl
    · by_cases quote : c = '"'
      · subst quote
        rfl
      · simp [escaped, slash, quote]
  rw [replaced, replaced, List.flatMap_assoc]
  exact congrArg cs.flatMap (funext here)

/-- The literal of a text can be read back, whatever follows it: it stands for that text and ends
where the following text begins.  So different texts have different literals, a literal is never
taken for a longer or a shorter one, and what stands before its last quote is no literal. -/
theorem text_literals_read_back (value behind : String) :
    (text value).literal.toList =
        '"' :: (replaced '"' ['\\', '"'] (replaced '\\' ['\\', '\\'] value.toList) ++ ['"']) ∧
      readText? ((text value).literal ++ behind) = some (value, behind) ∧
      (∀ other, (text value).literal = (text other).literal ↔ value = other) ∧
      (∀ other otherBehind, (text value).literal ++ behind = (text other).literal ++ otherBehind ↔
        value = other ∧ behind = otherBehind) ∧
      (∀ front back, (text value).literal = front ++ back → back ≠ "" →
        readText? front = none) := by
  refine ⟨?_, readText?_literal_append value behind, ?_, fun _ _ => text_append_inj, ?_⟩
  · rw [toList_text, flatMap_escaped]
  · intro other
    have whole := @text_append_inj value other "" ""
    rw [String.append_empty, String.append_empty] at whole
    rw [whole, and_iff_left rfl]
  · intro front back whole more
    cases read : readText? front with
    | none => rfl
    | some found =>
        -- The beginning would be read as a literal with the rest of this one behind it.
        have longer := readText?_append read back
        have full := readText?_literal_append value ""
        rw [String.append_empty, whole, longer] at full
        obtain ⟨-, nothing⟩ := Prod.mk.inj (Option.some.inj full)
        exact absurd (String.append_eq_empty_iff.mp nothing).2 more

/-- A text that ends with a backslash, before a text that begins with a quote. -/
theorem text_literals_read_back_slash :
    (text "a\"\\").literal = "\"a\\\"\\\\\"" ∧
      readText? ((text "a\"\\").literal ++ "\"b") = some ("a\"\\", "\"b") ∧
      readText? "\"a\\\"\\\\" = none := by
  have literal : (text "a\"\\").literal = "\"a\\\"\\\\\"" := by decide
  obtain ⟨-, read, -, -, unread⟩ := text_literals_read_back "a\"\\" "\"b"
  exact ⟨literal, read, unread _ "\"" literal (by decide)⟩

end Constant

end SceneCode
