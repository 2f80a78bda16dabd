import SceneCode.Proofs.StoreMachine
import SceneCode.Proofs.TreeText

/-!
# Listings are unambiguous

The text of an operand determines its tree, up to the addresses of instructions.  A text starts with
a word, a global or a quoted literal; this head ends where a bracket or a comma follows, and what is
behind it says how the tree goes on.  So two texts that agree, whatever may follow them, have the
same head and the same parts (`ValueTree.Formed.determined`), by induction on the tree.

Floats are compared by how they are written: there is one text for all NaNs.
-/

set_option autoImplicit false

namespace SceneCode

/-! ## Trees up to addresses -/

/-- The same constant, floats compared by their text. -/
def Constant.Alike : Constant → Constant → Prop
  | .float x, .float y => Number.listingFormat.write x = Number.listingFormat.write y
  | a, b => a = b

/-- The same tree up to the addresses of instructions. -/
inductive ValueTree.Alike : ValueTree → ValueTree → Prop where
  | constant {value other : Constant} (alike : value.Alike other) :
      Alike (.constant value) (.constant other)
  | localSlot (index : Int) : Alike (.localSlot index) (.localSlot index)
  | argSlot (index : Int) : Alike (.argSlot index) (.argSlot index)
  | global (index : Int) : Alike (.global index) (.global index)
  | returnValue : Alike .returnValue .returnValue
  | unary (address other : Int) (operator : String) {operand operand' : ValueTree}
      (alike : operand.Alike operand') :
      Alike (.unary address operator operand) (.unary other operator operand')
  | binary (address other : Int) (operator : String) {left left' right right' : ValueTree}
      (leftAlike : left.Alike left') (rightAlike : right.Alike right') :
      Alike (.binary address operator left right) (.binary other operator left' right')
  | globalEntry (address other : Int) {table table' key key' : ValueTree}
      (tableAlike : table.Alike table') (alike : key.Alike key') :
      Alike (.globalEntry address table key) (.globalEntry other table' key')
  | localEntry (address other : Int) {table table' key key' : ValueTree}
      (tableAlike : table.Alike table') (alike : key.Alike key') :
      Alike (.localEntry address table key) (.localEntry other table' key')

/-! ## Constants -/

theorem Text.toList_decimal (number : Int) :
    (Text.decimal number).toList =
      (if number < 0 then ['-'] else []) ++ Nat.toDigits 10 number.natAbs := by
  by_cases negative : number < 0 <;> simp [Text.decimal, Text.padded, negative]

/-- A numeral is made of digits and a sign. -/
theorem Text.mem_decimal {number : Int} {c : Char} (member : c ∈ (Text.decimal number).toList) :
    c = '-' ∨ c.isDigit = true := by
  rw [Text.toList_decimal, List.mem_append] at member
  rcases member with sign | digit
  · split at sign
    · exact .inl (List.mem_singleton.mp sign)
    · cases sign
  · exact .inr (Nat.isDigit_of_mem_toDigits (by decide) (by decide) digit)

theorem Text.decimal_inj {first second : Int} :
    Text.decimal first = Text.decimal second ↔ first = second := by
  refine ⟨fun same => ?_, congrArg Text.decimal⟩
  have chars := congrArg String.toList same
  rw [Text.toList_decimal, Text.toList_decimal] at chars
  have unsigned : ∀ number rest, Nat.toDigits 10 number ≠ '-' :: rest := by
    intro number rest starts
    have digit := Nat.isDigit_of_mem_toDigits (b := 10) (n := number) (c := '-') (by decide)
      (by decide) (by simp [starts])
    cases digit
  have numbers : Nat.toDigits 10 first.natAbs = Nat.toDigits 10 second.natAbs →
      first.natAbs = second.natAbs := by
    intro digits
    have read := congrArg (Nat.ofDigitChars 10 · 0) digits
    simpa [Nat.ofDigitChars_ten_toDigits] using read
  by_cases firstNegative : first < 0 <;> by_cases secondNegative : second < 0
  · simp only [firstNegative, secondNegative, if_true, List.cons_append, List.nil_append,
      List.cons.injEq, true_and] at chars
    have equal := numbers chars
    omega
  · simp only [firstNegative, secondNegative, if_true, if_false, List.cons_append,
      List.nil_append] at chars
    exact absurd chars.symm (unsigned _ _)
  · simp only [firstNegative, secondNegative, if_true, if_false, List.cons_append,
      List.nil_append] at chars
    exact absurd chars (unsigned _ _)
  · simp only [firstNegative, secondNegative, if_false, List.nil_append] at chars
    have equal := numbers chars
    omega

namespace Number.NumberFormat

/-- A point or an exponent is in every number that has digits. -/
theorem marked_decimalText (d : Decimal) :
    ∃ c ∈ (listingFormat.decimalText d).toList, c ∈ ['.', 'e', 'n'] := by
  unfold decimalText
  dsimp only
  split
  · refine ⟨'.', ?_, by decide⟩
    unfold positionalText
    split <;> simp
  · exact ⟨'e', by simp [exponentText, listingFormat], by decide⟩

/-- A float has a mark that no integer has: a point, an exponent or a name is in it. -/
theorem marked_write (x : Binary64) :
    ∃ c ∈ (listingFormat.write x).toList, c ∈ ['.', 'e', 'n'] := by
  unfold write
  dsimp only
  generalize (if x.negative then "-" else "") = sign
  cases x.magnitude with
  | nan => exact ⟨'n', by simp [listingFormat], by decide⟩
  | infinite => exact ⟨'n', by simp [listingFormat], by decide⟩
  | finite mantissa exponent =>
      cases mantissa with
      | zero => exact ⟨'.', by simp, by decide⟩
      | succ mantissa =>
          obtain ⟨c, member, mark⟩ := marked_decimalText (shortest (mantissa + 1) exponent)
          refine ⟨c, ?_, mark⟩
          simp only [String.toList_append]
          exact List.mem_append_right _ member

end Number.NumberFormat

namespace Constant

theorem decimal_ne_write (number : Int) (x : Number.Binary64) :
    Text.decimal number ≠ Number.listingFormat.write x := by
  intro same
  obtain ⟨c, member, mark⟩ := Number.NumberFormat.marked_write x
  rw [← same] at member
  have digitless : ['.', 'e', 'n'].all (fun c => c ≠ '-' && !c.isDigit) = true := by decide
  have plain := List.all_eq_true.mp digitless c mark
  rcases Text.mem_decimal member with rfl | digit
  · simp at plain
  · simp [digit] at plain

theorem textLiteral_inj {first second : String} (same : textLiteral first = textLiteral second) :
    first = second := by
  have whole : (text first).literal ++ "" = (text second).literal ++ "" :=
    congrArg (· ++ "") same
  exact (text_append_inj.mp whole).1

/-- No other literal starts with a quote. -/
theorem text_of_quote (constant : Constant)
    (quoted : constant.literal.toList.head? = some '"') : ∃ value, constant = .text value := by
  have unquoted : ¬ Figures constant.literal ∧
      constant.literal ∉ ["nil", "true", "nan", "inf", "-inf"] := by
    refine ⟨fun figures => ?_, fun word => ?_⟩
    · cases figures '"' (List.mem_of_head? quoted)
    · have apart : (["nil", "true", "nan", "inf", "-inf"].all fun text =>
          text.toList.head? ≠ some '"') = true := by
        decide
      exact of_decide_eq_true (List.all_eq_true.mp apart _ word) quoted
  cases constant with
  | nil => exact absurd (by decide) unquoted.2
  | truth => exact absurd (by decide) unquoted.2
  | int value => exact absurd (figures_decimal value) unquoted.1
  | float value =>
      rcases Number.NumberFormat.figures_write value with figures | special
      · exact absurd figures unquoted.1
      · exact absurd (List.mem_cons_of_mem _ (List.mem_cons_of_mem _ special)) unquoted.2
  | text value => exact ⟨value, rfl⟩

theorem eq_truth_of_literal {constant : Constant} (same : constant.literal = "true") :
    constant = .truth := by
  have figureless : ¬ Figures "true" := by decide
  cases constant with
  | nil => exact absurd same (by decide)
  | truth => rfl
  | int value => exact absurd (same ▸ figures_decimal value) figureless
  | float value =>
      rw [literal] at same
      rcases Number.NumberFormat.figures_write value with figures | special
      · exact absurd (same ▸ figures) figureless
      · rw [same] at special
        exact absurd special (by decide)
  | text value =>
      have first := congrArg (fun text => text.toList.head?) same
      simp [literal, textLiteral] at first

/-- A literal determines its constant. -/
theorem alike_of_literal {first second : Constant} (same : first.literal = second.literal) :
    first.Alike second := by
  cases first with
  | nil => exact (literal_eq_nil_iff.mp same.symm).symm
  | truth => exact (eq_truth_of_literal same.symm).symm
  | text value =>
      obtain ⟨other, rfl⟩ := text_of_quote second (by
        rw [← same]
        simp [literal, textLiteral])
      exact congrArg Constant.text (textLiteral_inj same)
  | int value =>
      cases second with
      | nil => exact literal_eq_nil_iff.mp same
      | truth => exact eq_truth_of_literal same
      | int other => exact congrArg Constant.int (Text.decimal_inj.mp same)
      | float other => exact absurd same (decimal_ne_write value other)
      | text other =>
          obtain ⟨_, impossible⟩ := text_of_quote (.int value) (by
            rw [same]
            simp [literal, textLiteral])
          cases impossible
  | float value =>
      cases second with
      | nil => exact literal_eq_nil_iff.mp same
      | truth => exact eq_truth_of_literal same
      | int other => exact absurd same.symm (decimal_ne_write other value)
      | float other => exact same
      | text other =>
          obtain ⟨_, impossible⟩ := text_of_quote (.float value) (by
            rw [same]
            simp [literal, textLiteral])
          cases impossible

theorem Alike.literal_eq {first second : Constant} (alike : first.Alike second) :
    first.literal = second.literal := by
  cases first with
  | float value =>
      cases second with
      | float other => exact alike
      | _ => cases alike
  | _ => exact congrArg literal alike

end Constant

/-! ## Heads -/

/-- The characters that end a word. -/
def isBreak (c : Char) : Bool := c = '(' || c = ')' || c = '[' || c = ']' || c = ','

/-- A text that ends, or goes on with a bracket or a comma. -/
def Breaks (cs : List Char) : Prop := ∀ c ∈ cs.head?, isBreak c = true

/-- A text that ends, or goes on behind a part of an expression. -/
def Closes (cs : List Char) : Prop := ∀ c ∈ cs.head?, c = ')' ∨ c = ']' ∨ c = ','

theorem Closes.breaks {cs : List Char} (closes : Closes cs) : Breaks cs := by
  intro c first
  rcases closes c first with rfl | rfl | rfl <;> rfl

theorem closes_cons {c : Char} (closing : c = ')' ∨ c = ']' ∨ c = ',') (rest : List Char) :
    Closes (c :: rest) := by
  rintro _ ⟨⟩
  exact closing

/-- Where a run of characters of one class ends is determined by what follows it. -/
theorem split_run {p : Char → Bool} {first second : List Char} :
    ∀ {rest behind : List Char}, (∀ c ∈ first, p c = true) → (∀ c ∈ second, p c = true) →
      (∀ c ∈ rest.head?, p c = false) → (∀ c ∈ behind.head?, p c = false) →
      first ++ rest = second ++ behind → first = second ∧ rest = behind := by
  induction first generalizing second with
  | nil =>
      intro rest behind _ all stops _ same
      cases second with
      | nil => exact ⟨rfl, same⟩
      | cons c more =>
          rw [List.nil_append] at same
          have stopped := stops c (by simp [same])
          rw [all c List.mem_cons_self] at stopped
          cases stopped
  | cons c more ih =>
      intro rest behind all others stops ends same
      cases second with
      | nil =>
          rw [List.nil_append] at same
          have stopped := ends c (by simp [← same])
          rw [all c List.mem_cons_self] at stopped
          cases stopped
      | cons other further =>
          simp only [List.cons_append, List.cons.injEq] at same
          obtain ⟨rfl, same⟩ := same
          obtain ⟨rfl, ended⟩ := ih (fun c member => all c (List.mem_cons_of_mem _ member))
            (fun c member => others c (List.mem_cons_of_mem _ member)) stops ends same
          exact ⟨rfl, ended⟩

/-- What the text of a tree starts with. -/
inductive Head where
  | literal (value : Constant)
  | localSlot (index : Int)
  | argSlot (index : Int)
  | global (index : Int)
  | returnValue
  | unary (operator : UnaryOperator)
  | binary (operator : BinaryOperator)

namespace Head

def text : Head → String
  | literal value => value.literal
  | localSlot index => Value.localName index
  | argSlot index => "arg" ++ Text.decimal index
  | global index => "global[" ++ Text.decimal index ++ "]"
  | returnValue => "ret"
  | unary operator => operator.symbol
  | binary operator => operator.symbol

/-- The same head, floats compared by their text. -/
def Alike : Head → Head → Prop
  | literal value, literal other => value.Alike other
  | a, b => a = b

/-- The first letter of a head that is a name. -/
def initial? : Head → Option Char
  | literal _ => none
  | localSlot _ => some 'l'
  | argSlot _ => some 'a'
  | global _ => some 'g'
  | returnValue => some 'r'
  | unary _ | binary _ => some 'p'

theorem first_of_initial? {head : Head} {c : Char} (named : head.initial? = some c) :
    head.text.toList.head? = some c ∧ c ∈ initials := by
  cases head <;> cases named <;>
    simp [text, Value.localName, UnaryOperator.symbol, BinaryOperator.symbol, initials]

theorem first_of_literal {value : Constant} {c : Char}
    (first : value.literal.toList.head? = some c) : c ∉ initials := by
  intro initial
  exact Named.ne_literal ⟨c, initial, first⟩ value rfl

theorem initial?_of_text {first second : Head} (same : first.text = second.text) :
    first.initial? = second.initial? := by
  cases firstInitial : first.initial? with
  | none =>
      cases secondInitial : second.initial? with
      | none => rfl
      | some c =>
          obtain ⟨starts, initial⟩ := first_of_initial? secondInitial
          cases first with
          | literal value => exact absurd initial (first_of_literal (same ▸ starts))
          | _ => cases firstInitial
  | some c =>
      obtain ⟨starts, initial⟩ := first_of_initial? firstInitial
      cases secondInitial : second.initial? with
      | none =>
          cases second with
          | literal value => exact absurd initial (first_of_literal (same ▸ starts))
          | _ => cases secondInitial
      | some other =>
          have otherStarts := (first_of_initial? secondInitial).1
          rw [← same, starts] at otherStarts
          exact otherStarts

/-- Heads with the same text are the same. -/
theorem alike_of_text {first second : Head} (same : first.text = second.text) :
    first.Alike second := by
  have initialSame := initial?_of_text same
  cases first with
  | literal value =>
      cases second with
      | literal other => exact Constant.alike_of_literal same
      | _ => cases initialSame
  | localSlot index =>
      cases second with
      | localSlot other =>
          exact congrArg localSlot (Text.decimal_inj.mp (String.append_right_inj _ |>.mp same))
      | _ => cases initialSame
  | argSlot index =>
      cases second with
      | argSlot other =>
          exact congrArg argSlot (Text.decimal_inj.mp (String.append_right_inj _ |>.mp same))
      | _ => cases initialSame
  | global index =>
      cases second with
      | global other =>
          have numeral := String.append_right_inj _ |>.mp (String.append_left_inj _ |>.mp same)
          exact congrArg global (Text.decimal_inj.mp numeral)
      | _ => cases initialSame
  | returnValue =>
      cases second with
      | returnValue => rfl
      | _ => cases initialSame
  | unary operator =>
      cases second with
      | unary other => cases operator; cases other; rfl
      | binary other => cases operator; cases other <;> exact absurd same (by decide)
      | _ => cases initialSame
  | binary operator =>
      cases second with
      | unary other => cases other; cases operator <;> exact absurd same (by decide)
      | binary other =>
          have read := congrArg BinaryOperator.ofSymbol? same
          rw [text, text, BinaryOperator.ofSymbol?_symbol, BinaryOperator.ofSymbol?_symbol] at read
          exact congrArg binary (Option.some.inj read)
      | _ => cases initialSame

/-- A text without a bracket or a comma that starts neither like a literal in quotes nor like a
global. -/
def isWord (text : String) : Bool :=
  text.toList.all (fun c => !isBreak c) && text.toList.head?.all fun c => c ≠ '"' && c ≠ 'g'

theorem unbroken_of_isWord {text : String} (word : isWord text = true) :
    ∀ c ∈ text.toList, (!isBreak c) = true :=
  List.all_eq_true.mp (Bool.and_eq_true_iff.mp word).1

theorem first_of_isWord {text : String} {c : Char} (word : isWord text = true)
    (starts : text.toList.head? = some c) : c ≠ '"' ∧ c ≠ 'g' := by
  have other := (Bool.and_eq_true_iff.mp word).2
  rw [starts] at other
  simpa using other

theorem unbroken_of_isFigure {c : Char} (figure : isFigure c = true) : (!isBreak c) = true := by
  by_contra broken
  simp only [isBreak, Bool.not_eq_true', Bool.not_eq_false, Bool.or_eq_true,
    decide_eq_true_eq] at broken
  rcases broken with (((rfl | rfl) | rfl) | rfl) | rfl <;> cases figure

theorem isWord_of_figures {text : String} (figures : Figures text) : isWord text = true := by
  refine Bool.and_eq_true_iff.mpr ⟨?_, ?_⟩
  · exact List.all_eq_true.mpr fun c member => unbroken_of_isFigure (figures c member)
  · cases starts : text.toList.head? with
    | none => rfl
    | some c =>
        have figure := figures c (List.mem_of_head? starts)
        have other : c ≠ '"' ∧ c ≠ 'g' := by constructor <;> rintro rfl <;> cases figure
        simpa using other

/-- A name that goes on with a numeral. -/
theorem isWord_numbered (name : String) (word : isWord name = true) (nonempty : name.toList ≠ [])
    (number : Int) : isWord (name ++ Text.decimal number) = true := by
  refine Bool.and_eq_true_iff.mpr ⟨?_, ?_⟩
  · rw [String.toList_append, List.all_append, Bool.and_eq_true_iff]
    refine ⟨(Bool.and_eq_true_iff.mp word).1, List.all_eq_true.mpr fun c member => ?_⟩
    exact unbroken_of_isFigure (figures_decimal number c member)
  · rw [String.toList_append, List.head?_append_of_ne_nil _ nonempty]
    exact (Bool.and_eq_true_iff.mp word).2

/-- A head is a word, a quoted literal or a global. -/
theorem spelled (head : Head) : isWord head.text = true ∨
    (∃ value, head = .literal (.text value)) ∨ ∃ index, head = .global index := by
  cases head with
  | literal value =>
      cases value with
      | nil => exact .inl (by decide)
      | truth => exact .inl (by decide)
      | int value => exact .inl (isWord_of_figures (figures_decimal value))
      | float value =>
          rcases Number.NumberFormat.figures_write value with figures | special
          · exact .inl (isWord_of_figures figures)
          · have words : (["nan", "inf", "-inf"].all isWord) = true := by decide
            exact .inl (List.all_eq_true.mp words _ special)
      | text value => exact .inr (.inl ⟨value, rfl⟩)
  | localSlot index => exact .inl (isWord_numbered "local" (by decide) (by decide) index)
  | argSlot index => exact .inl (isWord_numbered "arg" (by decide) (by decide) index)
  | global index => exact .inr (.inr ⟨index, rfl⟩)
  | returnValue => exact .inl (by decide)
  | unary operator =>
      cases operator
      exact .inl (by decide)
  | binary operator => cases operator <;> exact .inl (by decide)

theorem toList_global (index : Int) (rest : List Char) :
    (global index).text.toList ++ rest =
      "global".toList ++ '[' :: ((Text.decimal index).toList ++ ']' :: rest) := by
  simp [text]

theorem toList_quoted (value : String) (rest : List Char) :
    (literal (.text value)).text.toList ++ rest =
      '"' :: (value.toList.flatMap Constant.escaped ++ '"' :: rest) := by
  simp [text, Constant.literal, Constant.textLiteral]

/-- No word starts a text that starts with another kind of head. -/
theorem ne_of_isWord {word : String} {rest behind : List Char} {head : Head}
    (isWord : isWord word = true) (breaks : Breaks rest)
    (other : (∃ value, head = .literal (.text value)) ∨ ∃ index, head = .global index) :
    word.toList ++ rest ≠ head.text.toList ++ behind := by
  intro same
  have quote : isBreak '"' = false := by decide
  rcases other with ⟨value, rfl⟩ | ⟨index, rfl⟩
  · rw [toList_quoted] at same
    cases chars : word.toList with
    | nil =>
        rw [chars, List.nil_append] at same
        have stops := breaks '"' (by simp [same])
        rw [quote] at stops
        cases stops
    | cons c more =>
        rw [chars, List.cons_append, List.cons.injEq] at same
        exact (first_of_isWord isWord (by rw [chars]; rfl)).1 same.1
  · rw [toList_global] at same
    have letters : ("global".toList.all fun c => !isBreak c) = true := by decide
    obtain ⟨whole, _⟩ := split_run (unbroken_of_isWord isWord) (List.all_eq_true.mp letters)
      (fun c first => by simp [breaks c first]) (by simp [isBreak]) same
    exact (first_of_isWord (c := 'g') isWord (by rw [whole]; rfl)).2 rfl

/-- The head of a text is determined, if what follows it is no part of a word. -/
theorem split {first second : Head} {rest behind : List Char} (breaks : Breaks rest)
    (alsoBreaks : Breaks behind)
    (same : first.text.toList ++ rest = second.text.toList ++ behind) :
    first.Alike second ∧ rest = behind := by
  rcases first.spelled with word | other
  · rcases second.spelled with alsoWord | otherwise
    · obtain ⟨whole, ends⟩ := split_run (unbroken_of_isWord word) (unbroken_of_isWord alsoWord)
        (fun c starts => by simp [breaks c starts]) (fun c starts => by simp [alsoBreaks c starts])
        same
      exact ⟨alike_of_text (String.toList_inj.mp whole), ends⟩
    · exact absurd same (ne_of_isWord word breaks otherwise)
  · rcases second.spelled with alsoWord | otherwise
    · exact absurd same.symm (ne_of_isWord alsoWord alsoBreaks other)
    · rcases other with ⟨value, rfl⟩ | ⟨index, rfl⟩ <;>
        rcases otherwise with ⟨value', rfl⟩ | ⟨index', rfl⟩
      · rw [toList_quoted, toList_quoted, List.cons.injEq] at same
        have read := congrArg Constant.scan same.2
        rw [Constant.scan_escaped, Constant.scan_escaped, Option.some.injEq,
          Prod.mk.injEq] at read
        exact ⟨congrArg Constant.text (String.toList_inj.mp read.1), read.2⟩
      · rw [toList_quoted, toList_global] at same
        cases same
      · rw [toList_quoted, toList_global] at same
        cases same
      · rw [toList_global, toList_global, List.append_cancel_left_eq, List.cons.injEq] at same
        obtain ⟨digits, ends⟩ := split_run (p := isFigure) (figures_decimal index)
          (figures_decimal index') (by simp [isFigure]) (by simp [isFigure]) same.2
        rw [List.cons.injEq] at ends
        exact ⟨congrArg global (Text.decimal_inj.mp (String.toList_inj.mp digits)), ends.2⟩

end Head

/-! ## Trees -/

namespace ValueTree

/-- A tree that instructions can make and the head of its text; that of an access is the head of
the table. -/
inductive Begins : Head → ValueTree → Prop where
  | constant (value : Constant) : Begins (.literal value) (.constant value)
  | localSlot (index : Int) : Begins (.localSlot index) (.localSlot index)
  | argSlot (index : Int) : Begins (.argSlot index) (.argSlot index)
  | global (index : Int) : Begins (.global index) (.global index)
  | returnValue : Begins .returnValue .returnValue
  | unary (address : Int) (operator : UnaryOperator) {operand : ValueTree}
      (formed : operand.Formed) :
      Begins (.unary operator) (.unary address operator.symbol operand)
  | binary (address : Int) (operator : BinaryOperator) {left right : ValueTree}
      (leftFormed : left.Formed) (rightFormed : right.Formed) :
      Begins (.binary operator) (.binary address operator.symbol left right)
  | globalEntry (address index : Int) {key : ValueTree} (formed : key.Formed) :
      Begins (.global index) (.globalEntry address (.global index) key)
  | localEntry (address index : Int) {key : ValueTree} (formed : key.Formed) :
      Begins (.localSlot index) (.localEntry address (.localSlot index) key)
  | argEntry (address index : Int) {key : ValueTree} (formed : key.Formed) :
      Begins (.argSlot index) (.localEntry address (.argSlot index) key)

theorem Formed.exists_head {tree : ValueTree} (formed : tree.Formed) :
    ∃ head, Begins head tree := by
  cases formed with
  | constant value => exact ⟨_, .constant value⟩
  | localSlot index => exact ⟨_, .localSlot index⟩
  | argSlot index => exact ⟨_, .argSlot index⟩
  | global index => exact ⟨_, .global index⟩
  | returnValue => exact ⟨_, .returnValue⟩
  | unary address operator formed => exact ⟨_, .unary address operator formed⟩
  | binary address operator leftFormed rightFormed =>
      exact ⟨_, .binary address operator leftFormed rightFormed⟩
  | globalEntry address index formed => exact ⟨_, .globalEntry address index formed⟩
  | localEntry address index formed => exact ⟨_, .localEntry address index formed⟩
  | argEntry address index formed => exact ⟨_, .argEntry address index formed⟩

/-- What is behind the head of a tree. -/
def tail : ValueTree → List Char
  | unary _ _ operand => '(' :: (operand.text.toList ++ [')'])
  | binary _ _ left right => '(' :: (left.text.toList ++ ',' :: ' ' :: (right.text.toList ++ [')']))
  | globalEntry _ _ key | localEntry _ _ key => '[' :: (key.text.toList ++ [']'])
  | _ => []

theorem Begins.toList_text {head : Head} {tree : ValueTree} (begins : Begins head tree) :
    tree.text.toList = head.text.toList ++ tree.tail := by
  cases begins <;> simp [text, tail, Head.text]

theorem breaks_tail (tree : ValueTree) {rest : List Char} (closes : Closes rest) :
    Breaks (tree.tail ++ rest) := by
  cases tree with
  | unary | binary | globalEntry | localEntry =>
      rintro _ ⟨⟩
      rfl
  | _ => exact closes.breaks

/-- A tree whose text starts like that of another one has the same head, and what is behind the
heads agrees. -/
theorem Begins.split {head : Head} {tree other : ValueTree} {rest behind : List Char}
    (begins : Begins head tree) (formed : other.Formed) (closes : Closes rest)
    (alsoCloses : Closes behind)
    (same : tree.text.toList ++ rest = other.text.toList ++ behind) :
    ∃ head', Begins head' other ∧ head.Alike head' ∧ tree.tail ++ rest = other.tail ++ behind := by
  obtain ⟨head', otherBegins⟩ := formed.exists_head
  rw [begins.toList_text, otherBegins.toList_text, List.append_assoc, List.append_assoc] at same
  obtain ⟨alike, tails⟩ :=
    Head.split (tree.breaks_tail closes) (other.breaks_tail alsoCloses) same
  exact ⟨head', otherBegins, alike, tails⟩

/-- What closes an expression does not open the key of an access. -/
theorem ne_key_of_closes {rest key behind : List Char} (closes : Closes rest) :
    rest ≠ '[' :: key ++ behind := by
  rintro rfl
  rcases closes '[' rfl with bracket | bracket | bracket <;> cases bracket

/-- The text of the tree belongs to no other tree, whatever may follow it. -/
def Determined (tree : ValueTree) : Prop :=
  ∀ (other : ValueTree) (rest behind : List Char), other.Formed → Closes rest → Closes behind →
    tree.text.toList ++ rest = other.text.toList ++ behind → tree.Alike other ∧ rest = behind

namespace Determined

/-- It is enough to compare trees with the same head by what is behind it. -/
theorem of_begins {head : Head} {tree : ValueTree} (begins : Begins head tree)
    (step : ∀ {head' : Head} {other : ValueTree} {rest behind : List Char}, Begins head' other →
      head.Alike head' → Closes rest → Closes behind → tree.tail ++ rest = other.tail ++ behind →
      tree.Alike other ∧ rest = behind) : tree.Determined := by
  intro other rest behind formed closes alsoCloses same
  obtain ⟨_, otherBegins, alike, tails⟩ := begins.split formed closes alsoCloses same
  exact step otherBegins alike closes alsoCloses tails

/-- An operand that a bracket closes. -/
theorem closed {operand other : ValueTree} {rest behind : List Char} {opening closing : Char}
    (determined : operand.Determined) (formed : other.Formed) (bracket : closing ∈ [')', ']'])
    (same : opening :: (operand.text.toList ++ [closing]) ++ rest =
      opening :: (other.text.toList ++ [closing]) ++ behind) :
    operand.Alike other ∧ rest = behind := by
  have closes : closing = ')' ∨ closing = ']' ∨ closing = ',' := by
    rcases List.mem_pair.mp bracket with rfl | rfl <;> simp
  simp only [List.cons_append, List.append_assoc, List.cons.injEq, true_and,
    List.nil_append] at same
  obtain ⟨alike, ends⟩ :=
    determined _ _ _ formed (closes_cons closes rest) (closes_cons closes behind) same
  exact ⟨alike, (List.cons.inj ends).2⟩

/-- Two operands, parted by a comma. -/
theorem parted {left right left' right' : ValueTree} {rest behind : List Char}
    (leftDetermined : left.Determined) (rightDetermined : right.Determined)
    (leftFormed : left'.Formed) (rightFormed : right'.Formed)
    (same : '(' :: (left.text.toList ++ ',' :: ' ' :: (right.text.toList ++ [')'])) ++ rest =
      '(' :: (left'.text.toList ++ ',' :: ' ' :: (right'.text.toList ++ [')'])) ++ behind) :
    left.Alike left' ∧ right.Alike right' ∧ rest = behind := by
  simp only [List.cons_append, List.append_assoc, List.cons.injEq, true_and] at same
  obtain ⟨leftAlike, ends⟩ := leftDetermined _ _ _ leftFormed
    (closes_cons (.inr (.inr rfl)) _) (closes_cons (.inr (.inr rfl)) _) same
  have bracketed : ' ' :: (right.text.toList ++ [')']) ++ rest =
      ' ' :: (right'.text.toList ++ [')']) ++ behind := by
    simpa using ends
  obtain ⟨rightAlike, ends⟩ := rightDetermined.closed rightFormed (by simp) bracketed
  exact ⟨leftAlike, rightAlike, ends⟩

end Determined

/-- The text of a tree that instructions can make determines it.  A slot and an access of the same
slot are told apart by the bracket, which closes no expression. -/
theorem Formed.determined {tree : ValueTree} (formed : tree.Formed) : tree.Determined := by
  induction formed with
  | constant value =>
      refine .of_begins (.constant value) fun begins alike _ _ tails => ?_
      cases begins with
      | constant => exact ⟨.constant alike, tails⟩
      | _ => cases alike
  | returnValue =>
      refine .of_begins .returnValue fun begins alike _ _ tails => ?_
      cases begins with
      | returnValue => exact ⟨.returnValue, tails⟩
      | _ => cases alike
  | localSlot index =>
      refine .of_begins (.localSlot index) fun begins alike closes _ tails => ?_
      cases begins with
      | localSlot =>
          cases alike
          exact ⟨.localSlot _, tails⟩
      | localEntry => exact absurd tails (ne_key_of_closes closes)
      | _ => cases alike
  | argSlot index =>
      refine .of_begins (.argSlot index) fun begins alike closes _ tails => ?_
      cases begins with
      | argSlot =>
          cases alike
          exact ⟨.argSlot _, tails⟩
      | argEntry => exact absurd tails (ne_key_of_closes closes)
      | _ => cases alike
  | global index =>
      refine .of_begins (.global index) fun begins alike closes _ tails => ?_
      cases begins with
      | global =>
          cases alike
          exact ⟨.global _, tails⟩
      | globalEntry => exact absurd tails (ne_key_of_closes closes)
      | _ => cases alike
  | unary address operator formed ih =>
      refine .of_begins (.unary address operator formed) fun begins alike _ _ tails => ?_
      cases begins with
      | unary _ _ otherFormed =>
          cases alike
          obtain ⟨operandAlike, ends⟩ := ih.closed otherFormed (by simp) tails
          exact ⟨.unary _ _ _ operandAlike, ends⟩
      | _ => cases alike
  | binary address operator leftFormed rightFormed leftDetermined rightDetermined =>
      refine .of_begins (.binary address operator leftFormed rightFormed)
        fun begins alike _ _ tails => ?_
      cases begins with
      | binary _ _ otherLeft otherRight =>
          cases alike
          obtain ⟨leftAlike, rightAlike, ends⟩ :=
            leftDetermined.parted rightDetermined otherLeft otherRight tails
          exact ⟨.binary _ _ _ leftAlike rightAlike, ends⟩
      | _ => cases alike
  | globalEntry address index formed ih =>
      refine .of_begins (.globalEntry address index formed) fun begins alike _ closes tails => ?_
      cases begins with
      | globalEntry _ _ otherFormed =>
          cases alike
          obtain ⟨keyAlike, ends⟩ := ih.closed otherFormed (by simp) tails
          exact ⟨.globalEntry _ _ (.global _) keyAlike, ends⟩
      | global => exact absurd tails.symm (ne_key_of_closes closes)
      | _ => cases alike
  | localEntry address index formed ih =>
      refine .of_begins (.localEntry address index formed) fun begins alike _ closes tails => ?_
      cases begins with
      | localEntry _ _ otherFormed =>
          cases alike
          obtain ⟨keyAlike, ends⟩ := ih.closed otherFormed (by simp) tails
          exact ⟨.localEntry _ _ (.localSlot _) keyAlike, ends⟩
      | localSlot => exact absurd tails.symm (ne_key_of_closes closes)
      | _ => cases alike
  | argEntry address index formed ih =>
      refine .of_begins (.argEntry address index formed) fun begins alike _ closes tails => ?_
      cases begins with
      | argEntry _ _ otherFormed =>
          cases alike
          obtain ⟨keyAlike, ends⟩ := ih.closed otherFormed (by simp) tails
          exact ⟨.localEntry _ _ (.argSlot _) keyAlike, ends⟩
      | argSlot => exact absurd tails.symm (ne_key_of_closes closes)
      | _ => cases alike

theorem Alike.text_eq {tree other : ValueTree} (alike : tree.Alike other) :
    tree.text = other.text := by
  induction alike with
  | constant alike => exact alike.literal_eq
  | unary _ _ _ _ same => simp only [text, same]
  | binary _ _ _ _ _ leftSame rightSame => simp only [text, leftSame, rightSame]
  | globalEntry _ _ _ _ tableSame same | localEntry _ _ _ _ tableSame same =>
      simp only [text, tableSame, same]
  | _ => rfl

/-- Two trees that instructions can make are written alike exactly if they are the same up to the
addresses of instructions. -/
theorem text_eq_iff {tree other : ValueTree} (formed : tree.Formed) (otherFormed : other.Formed) :
    tree.text = other.text ↔ tree.Alike other := by
  refine ⟨fun same => ?_, Alike.text_eq⟩
  have closes : Closes [] := by simp [Closes]
  exact (formed.determined _ _ _ otherFormed closes closes (by rw [same])).1

end ValueTree

/-! ## Operands of programs -/

/-- What a listing writes for an operand of a program is the text of its tree, and instructions can
make that tree. -/
theorem exists_tree_of_written {blob : Blob} {encoding : Encoding} {program : Program} {owner : Int}
    {routine : Routine} {statement : Statement} {value : Value} {text : String}
    (decoded : disassemble blob encoding = .ok program)
    (known : program.routine? owner = some routine)
    (stored : statement ∈ routine.arena.toList) (operand : value ∈ statement.action.operands)
    (written : Listing.value routine value = .ok text) :
    ∃ tree, routine.tree? value = some tree ∧ tree.text = text ∧ tree.Formed := by
  obtain ⟨scenario, _, _, _, _, decoding⟩ := exists_decoding decoded
  obtain ⟨_, locals, _, _, _, declared, _, made⟩ := decoding.made known
  have small : routine.locals < 10000000000 := by
    have byte := locals.toNat_lt
    omega
  obtain ⟨tree, read, same, formed⟩ := Listing.writes_of_valueWithin small
    (fun statement member => (made statement member).action) _
    ((made statement stored).action.operands value operand) written
  exact ⟨tree, read, same, formed⟩

/-- What a listing writes for an operand says what the operand is.  Take an operand of any statement
in each of two programs that were disassembled, and the texts that are written for them.  Both
operands have trees, every reference replaced by the expression it leads to, and the texts are the
same exactly if the trees are the same up to the addresses of instructions. -/
theorem written_alike_iff (blob blob' : Blob) (encoding encoding' : Encoding)
    (program program' : Program) (owner owner' : Int) (routine routine' : Routine)
    (statement statement' : Statement) (value value' : Value) (text text' : String)
    (decoded : disassemble blob encoding = .ok program)
    (decoded' : disassemble blob' encoding' = .ok program')
    (known : program.routine? owner = some routine)
    (known' : program'.routine? owner' = some routine')
    (stored : statement ∈ routine.arena.toList) (stored' : statement' ∈ routine'.arena.toList)
    (operand : value ∈ statement.action.operands)
    (operand' : value' ∈ statement'.action.operands)
    (written : Listing.value routine value = .ok text)
    (written' : Listing.value routine' value' = .ok text') :
    ∃ tree tree', routine.tree? value = some tree ∧ routine'.tree? value' = some tree' ∧
      (text = text' ↔ tree.Alike tree') := by
  obtain ⟨tree, read, rfl, formed⟩ := exists_tree_of_written decoded known stored operand written
  obtain ⟨tree', read', rfl, formed'⟩ :=
    exists_tree_of_written decoded' known' stored' operand' written'
  exact ⟨tree, tree', read, read', ValueTree.text_eq_iff formed formed'⟩

/-- A file with one routine, which stores in global 1 what global 1 holds under the key 2. -/
def entryFile : Blob :=
  #[0x10, 0, 0, 0,
    0x01, 0, 0,  0x0C, 2,  0x11, 1, 0,  0x15, 1, 0,  0x04,
    4, 0, 0, 0,  0, 0,  0, 0,  0, 0,  0,  0, 0]

/-- What is stored for it. -/
def entryRoutine : Routine where
  args := 0
  locals := 0
  arena := #[⟨9, .globalTableAccess (.global 1) (.slot "local0" (.int 2))⟩,
    ⟨12, .assign (.global 1) (.expr 0)⟩, ⟨15, .ret false⟩]
  body := #[1, 2]

theorem written_alike_iff_entry :
    ∃ program, disassemble entryFile .utf8 = .ok program ∧
      program.routine? 4 = some entryRoutine ∧
      Listing.value entryRoutine (.global 1) = .ok "global[1]" ∧
      Listing.value entryRoutine (.expr 0) = .ok "global[1][2]" ∧
      ∃ tree tree', entryRoutine.tree? (.global 1) = some tree ∧
        entryRoutine.tree? (.expr 0) = some tree' ∧ ¬ tree.Alike tree' := by
  have decodes : (disassemble entryFile .utf8).toOption.map (fun program => program.routine? 4) =
      some (some entryRoutine) := by
    decide +kernel
  obtain ⟨program, decoded, known⟩ := Option.map_eq_some_iff.mp decodes
  have slot : Listing.value entryRoutine (.global 1) = .ok "global[1]" := by decide +kernel
  have entry : Listing.value entryRoutine (.expr 0) = .ok "global[1][2]" := by decide +kernel
  have stored : ⟨12, .assign (.global 1) (.expr 0)⟩ ∈ entryRoutine.arena.toList := by
    simp [entryRoutine]
  obtain ⟨tree, tree', read, read', alike⟩ :=
    written_alike_iff entryFile entryFile .utf8 .utf8 program program 4 4 entryRoutine entryRoutine
      _ _ (.global 1) (.expr 0) _ _ (eq_ok_of_toOption decoded) (eq_ok_of_toOption decoded) known
      known stored stored (by simp [Action.operands]) (by simp [Action.operands]) slot entry
  exact ⟨program, eq_ok_of_toOption decoded, known, slot, entry, tree, tree', read, read',
    fun same => absurd (alike.mpr same) (by decide)⟩

end SceneCode
