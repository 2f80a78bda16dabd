import Mathlib
import SceneCode.Proofs.Output
import SceneCode.Proofs.TreeText

/-!
# The lines of a listing

A listing is made of entries: three for the header, and for every routine its title, one entry for
each statement and an empty one.  Each entry ends with a line feed, so that the lines of the listing
are its entries, if no entry has a line feed inside.  An entry has one only if it comes from the
file: constant texts and the names of system calls are written into the entries with their line
feeds (`listing_lines`).
-/

set_option autoImplicit false

namespace SceneCode

/-! ## Line feeds -/

def lineFeeds (text : String) : Nat := text.toList.count '\n'

@[simp] theorem lineFeeds_append (first second : String) :
    lineFeeds (first ++ second) = lineFeeds first + lineFeeds second := by
  simp [lineFeeds]

theorem lineFeeds_eq_zero_iff {text : String} : lineFeeds text = 0 ↔ '\n' ∉ text.toList :=
  List.count_eq_zero

/-- A fixed text, which is looked through. -/
theorem lineFeeds_word {text : String} (plain : '\n' ∉ text.toList) : lineFeeds text = 0 :=
  lineFeeds_eq_zero_iff.mpr plain

theorem lineFeeds_of_figures {text : String} (figures : Figures text) : lineFeeds text = 0 := by
  rw [lineFeeds_eq_zero_iff]
  intro member
  cases figures _ member

@[simp] theorem lineFeeds_decimal (number : Int) : lineFeeds (Text.decimal number) = 0 :=
  lineFeeds_of_figures (figures_decimal number)

@[simp] theorem lineFeeds_write (x : Number.Binary64) :
    lineFeeds (Number.listingFormat.write x) = 0 := by
  rcases Number.NumberFormat.figures_write x with figures | special
  · exact lineFeeds_of_figures figures
  · have plain : (["nan", "inf", "-inf"].all fun text => lineFeeds text = 0) = true := by decide
    exact of_decide_eq_true (List.all_eq_true.mp plain _ special)

/-- Escapes bring no line feed into a literal and take none out of it. -/
@[simp] theorem lineFeeds_textLiteral (text : String) :
    lineFeeds (Constant.textLiteral text) = lineFeeds text := by
  have each : ∀ cs : List Char, (cs.flatMap Constant.escaped).count '\n' = cs.count '\n' := by
    intro cs
    induction cs with
    | nil => rfl
    | cons c rest ih =>
        rw [List.flatMap_cons, List.count_append, ih]
        by_cases special : (c = '\\' || c = '"') = true
        · have other : c ≠ '\n' := by
            rintro rfl
            cases special
          simp [Constant.escaped, special, other]
        · rw [Constant.escaped, if_neg special, ← List.count_append, List.singleton_append]
  simp [lineFeeds, Constant.textLiteral, each]

namespace Text

theorem exists_digit_of_mem_toDigits {base : Nat} (wide : 1 < base) (number : Nat) :
    ∀ c ∈ Nat.toDigits base number, ∃ digit < base, c = digit.digitChar := by
  induction number using Nat.strong_induction_on with
  | _ number ih =>
      intro c member
      rw [Nat.toDigits_eq_if wide] at member
      split at member
      · rename_i small
        exact ⟨number, small, List.mem_singleton.mp member⟩
      · rename_i large
        rcases List.mem_append.mp member with earlier | last
        · exact ih (number / base) (Nat.div_lt_self (by omega) wide) c earlier
        · exact ⟨number % base, Nat.mod_lt _ (by omega), List.mem_singleton.mp last⟩

/-- The digits of offsets and addresses. -/
def hexDigits : List Char := "0123456789ABCDEF".toList

theorem mem_upper_toDigits {number : Nat} {c : Char}
    (member : c ∈ (Nat.toDigits 16 number).map Char.toUpper) : c ∈ hexDigits := by
  obtain ⟨lower, digit, rfl⟩ := List.mem_map.mp member
  obtain ⟨value, small, rfl⟩ := exists_digit_of_mem_toDigits (by decide) number lower digit
  have all : ∀ value < 16, value.digitChar.toUpper ∈ hexDigits := by decide
  exact all value small

theorem mem_hex {width : Nat} {number : Int} {c : Char} (member : c ∈ (hex width number).toList) :
    c ∈ hexDigits ∨ (number < 0 ∧ c = '-') := by
  simp only [hex, padded, String.toList_ofList, List.mem_append, List.mem_replicate] at member
  rcases member with (sign | ⟨_, rfl⟩) | digit
  · split at sign
    · rename_i negative
      exact .inr ⟨of_decide_eq_true negative, List.mem_singleton.mp sign⟩
    · cases sign
  · exact .inl (by decide)
  · exact .inl (mem_upper_toDigits digit)

/-- An address in a file of less than four gigabytes has eight digits. -/
theorem length_hex {number : Int} (nonneg : 0 ≤ number) (small : number < 2 ^ 32) :
    (hex 8 number).length = 8 := by
  have short : (Nat.toDigits 16 number.natAbs).length ≤ 8 :=
    (Nat.length_toDigits_le_iff (by decide) (by decide)).mpr (by omega)
  have unsigned : decide (number < 0) = false := decide_eq_false (by omega)
  rw [← String.length_toList]
  simp only [hex, padded, unsigned, String.toList_ofList, List.length_append,
    List.length_replicate, List.length_map, Bool.false_eq_true, if_false, List.length_nil]
  omega

end Text

@[simp] theorem lineFeeds_hex (width : Nat) (number : Int) :
    lineFeeds (Text.hex width number) = 0 := by
  rw [lineFeeds_eq_zero_iff]
  intro member
  rcases Text.mem_hex member with digit | ⟨_, impossible⟩
  · exact absurd digit (by decide)
  · cases impossible

@[simp] theorem lineFeeds_address (number : Int) : lineFeeds (Text.address number) = 0 := by
  have mark : lineFeeds "0x" = 0 := by decide
  simp [Text.address, mark]

namespace Text

theorem lineFeed_notMem_lowerHex (width number : Nat) : '\n' ∉ (lowerHex width number).toList := by
  intro member
  simp only [lowerHex, padded, String.toList_ofList, Bool.false_eq_true, if_false, List.nil_append,
    List.mem_append, List.mem_replicate] at member
  rcases member with ⟨_, zero⟩ | digit
  · cases zero
  · obtain ⟨value, small, same⟩ := exists_digit_of_mem_toDigits (by decide) number _ digit
    have none : ∀ value < 16, '\n' ≠ value.digitChar := by decide
    exact none value small same

/-- Every line feed of a quoted text is escaped. -/
theorem lineFeed_notMem_escaped {mark : Char} (other : mark ≠ '\n') (c : Char) :
    '\n' ∉ escaped mark c := by
  have numeric : '\n' ∉ numericEscape c := by
    unfold numericEscape
    split
    · simp [lineFeed_notMem_lowerHex]
    · split <;> simp [lineFeed_notMem_lowerHex]
  by_cases feed : c = '\n'
  · subst feed
    simp [escaped, other.symm]
  · unfold escaped
    split_ifs <;> first | exact numeric | simp [Ne.symm feed]

end Text

@[simp] theorem lineFeeds_quoted (text : String) : lineFeeds (Text.quoted text) = 0 := by
  have mark : Text.quoteMark text.toList ≠ '\n' := by
    unfold Text.quoteMark
    split <;> decide
  rw [lineFeeds_eq_zero_iff]
  simp [Text.quoted, mark.symm, Text.lineFeed_notMem_escaped mark]

@[simp] theorem lineFeeds_nameFor (address entryPoint : Int) :
    lineFeeds (SymbolTable.nameFor OrderedMap.empty address (some entryPoint)) = 0 := by
  have main : lineFeeds "main" = 0 := by decide
  have made : lineFeeds "routine_" = 0 := by decide
  unfold SymbolTable.nameFor
  have unknown : (OrderedMap.empty : SymbolTable).find? address = none := rfl
  simp only [unknown, Option.getD_none]
  split_ifs <;> simp_all

/-- The line feeds of several texts. -/
def lineFeedsIn (texts : List String) : Nat := (texts.map lineFeeds).sum

@[simp] theorem lineFeedsIn_nil : lineFeedsIn [] = 0 := rfl

@[simp] theorem lineFeedsIn_cons (text : String) (rest : List String) :
    lineFeedsIn (text :: rest) = lineFeeds text + lineFeedsIn rest := by
  simp [lineFeedsIn]

@[simp] theorem lineFeedsIn_append (first second : List String) :
    lineFeedsIn (first ++ second) = lineFeedsIn first + lineFeedsIn second := by
  simp [lineFeedsIn]

theorem lineFeedsIn_eq_zero_iff {texts : List String} :
    lineFeedsIn texts = 0 ↔ ∀ text ∈ texts, lineFeeds text = 0 := by
  induction texts with
  | nil => simp
  | cons text rest ih => simp [ih]

theorem lineFeedsIn_flatMap_congr {α : Type} {items : List α} {first second : α → List String}
    (each : ∀ item ∈ items, lineFeedsIn (first item) = lineFeedsIn (second item)) :
    lineFeedsIn (items.flatMap first) = lineFeedsIn (items.flatMap second) := by
  induction items with
  | nil => rfl
  | cons item rest ih =>
      obtain ⟨here, others⟩ := List.forall_mem_cons.mp each
      simp only [List.flatMap_cons, lineFeedsIn_append, here, ih others]

theorem lineFeeds_intercalate (texts : List String) :
    lineFeeds (String.intercalate ", " texts) = lineFeedsIn texts := by
  induction texts with
  | nil => rfl
  | cons text rest ih =>
      cases rest with
      | nil => simp
      | cons next others =>
          rw [String.intercalate_cons_cons, lineFeeds_append, lineFeeds_append, ih]
          simp (disch := decide) [lineFeeds_word]

/-! ## Texts from the file -/

namespace ValueTree

/-- The constant texts in a tree. -/
def texts : ValueTree → List String
  | constant (.text value) => [value]
  | unary _ _ operand => operand.texts
  | binary _ _ first second | globalEntry _ first second | localEntry _ first second =>
    first.texts ++ second.texts
  | _ => []

theorem Formed.lineFeeds_text {tree : ValueTree} (formed : tree.Formed) :
    lineFeeds tree.text = lineFeedsIn tree.texts := by
  induction formed with
  | constant value =>
      cases value <;> simp (disch := decide) [text, texts, Constant.literal, lineFeeds_word]
  | unary _ operator _ ih =>
      have symbol : lineFeeds operator.symbol = 0 := by cases operator; decide
      simp (disch := decide) [text, texts, ih, symbol, lineFeeds_word]
  | binary _ operator _ _ leftSame rightSame =>
      have symbol : lineFeeds operator.symbol = 0 := by cases operator <;> decide
      simp (disch := decide) [text, texts, leftSame, rightSame, symbol, lineFeeds_word]
  | globalEntry _ _ _ ih | localEntry _ _ _ ih | argEntry _ _ _ ih =>
      simp (disch := decide) [text, texts, ih, Value.localName, lineFeeds_word]
  | _ => simp (disch := decide) [text, texts, Value.localName, lineFeeds_word]

end ValueTree

namespace ActionTree

/-- How a listing writes a statement. -/
def text (symbols : SymbolTable) (entryPoint : Int) : ActionTree → String
  | call target args => "call " ++ symbols.nameFor target (some entryPoint) ++ "("
      ++ String.intercalate ", " (args.map ValueTree.text) ++ ")"
  | syscall name args => "syscall " ++ name ++ "("
      ++ String.intercalate ", " (args.map ValueTree.text) ++ ")"
  | ret hasValue => if hasValue then "return value" else "return"
  | jump target => "jmp " ++ Text.address target
  | branch target condition => "jz " ++ condition.text ++ " -> " ++ Text.address target
  | assign target value => target.text ++ " = " ++ value.text

def operands : ActionTree → List ValueTree
  | call _ args | syscall _ args => args
  | ret _ | jump _ => []
  | branch _ condition => [condition]
  | assign target value => [target, value]

/-- The texts that a statement has from the file: its constant texts and the name of a system
call. -/
def texts (action : ActionTree) : List String :=
  (match action with
    | syscall name _ => [name]
    | _ => []) ++ action.operands.flatMap ValueTree.texts

theorem lineFeeds_operands {trees : List ValueTree} (formed : ∀ tree ∈ trees, tree.Formed) :
    lineFeeds (String.intercalate ", " (trees.map ValueTree.text)) =
      lineFeedsIn (trees.flatMap ValueTree.texts) := by
  rw [lineFeeds_intercalate, List.map_eq_flatMap]
  refine lineFeedsIn_flatMap_congr fun tree member => ?_
  simpa using (formed tree member).lineFeeds_text

theorem lineFeeds_text {action : ActionTree} (formed : ∀ tree ∈ action.operands, tree.Formed)
    (entryPoint : Int) :
    lineFeeds (action.text OrderedMap.empty entryPoint) = lineFeedsIn action.texts := by
  cases action with
  | call _ args | syscall _ args =>
      have written := lineFeeds_operands formed
      simp only [operands] at written
      simp (disch := decide) [text, texts, operands, written, lineFeeds_word]
  | ret hasValue =>
      cases hasValue <;> simp (disch := decide) [text, texts, operands, lineFeeds_word]
  | jump => simp (disch := decide) [text, texts, operands, lineFeeds_word]
  | branch _ condition =>
      have here := (formed condition (by simp [operands])).lineFeeds_text
      simp (disch := decide) [text, texts, operands, here, lineFeeds_word]
  | assign target value =>
      have left := (formed target (by simp [operands])).lineFeeds_text
      have right := (formed value (by simp [operands])).lineFeeds_text
      simp (disch := decide) [text, texts, operands, left, right, lineFeeds_word]

end ActionTree

def StatementTree.line (symbols : SymbolTable) (entryPoint : Int) (statement : StatementTree) :
    String :=
  "  " ++ Text.hex 8 statement.address ++ ": " ++ statement.action.text symbols entryPoint

/-- What a listing shows of a routine. -/
def RoutineTree.block (symbols : SymbolTable) (entryPoint : Int) (tree : RoutineTree) :
    List String :=
  ("; routine " ++ symbols.nameFor tree.address (some entryPoint)
    ++ " offset=" ++ Text.address tree.address ++ " args=" ++ Text.decimal tree.args
    ++ " locals=" ++ Text.decimal tree.locals
    ++ " statements=" ++ Text.decimal tree.statements.length)
  :: tree.statements.map (StatementTree.line symbols entryPoint) ++ [""]

/-- The texts that a routine has from the file. -/
def RoutineTree.texts (tree : RoutineTree) : List String :=
  tree.statements.flatMap fun statement => statement.action.texts

/-- A statement that instructions can make. -/
structure StatementTree.Formed (scenario : Scenario) (statement : StatementTree) : Prop where
  nonneg : 0 ≤ statement.address
  before : statement.address < scenario.streamEnd
  operands : ∀ operand ∈ statement.action.operands, operand.Formed

/-! ## Listings by trees -/

theorem mapM_eq_ok {α β : Type} {step : α → Except OutputFault β} {items : List α}
    {results : List β}
    (each : List.Forall₂ (fun item result => step item = .ok result) items results) :
    items.mapM step = .ok results := by
  induction each with
  | nil => rfl
  | cons here _ ih =>
      rw [List.mapM_cons, here, ih]
      rfl

namespace Listing

variable {scenario : Scenario} {given : Instruction → Prop} {routine : Routine}

section

variable (small : routine.locals < 10000000000)
  (arena : ∀ statement ∈ routine.arena.toList,
    statement.Made scenario given routine.locals)

include small arena

theorem value_of_tree {v : Value} {tree : ValueTree} (made : v.Made scenario given routine.locals)
    (read : routine.tree? v = some tree) : value routine v = .ok tree.text ∧ tree.Formed := by
  have short : ∀ statement ∈ routine.arena.toList, ∀ value ∈ statement.action.operands,
      value.isWritable = true := fun statement member operand used =>
    ((arena statement member).action.operands operand used).isWritable
  obtain ⟨text, written⟩ := succeeds_valueWithin short made.isWritable read
  obtain ⟨found, foundRead, rfl, formed⟩ := writes_of_valueWithin small
    (fun statement member => (arena statement member).action) _ made written
  obtain rfl : found = tree := Option.some.inj (foundRead.symm.trans read)
  exact ⟨written, formed⟩

theorem values_of_trees {values : List Value} {trees : List ValueTree}
    (made : ∀ v ∈ values, v.Made scenario given routine.locals)
    (read : List.Forall₂ (fun v tree => routine.tree? v = some tree) values trees) :
    List.Forall₂ (fun v text => value routine v = .ok text) values (trees.map ValueTree.text) ∧
      ∀ tree ∈ trees, tree.Formed := by
  induction read with
  | nil => exact ⟨.nil, by simp⟩
  | cons here _ ih =>
      obtain ⟨first, others⟩ := List.forall_mem_cons.mp made
      obtain ⟨written, formed⟩ := value_of_tree small arena first here
      obtain ⟨othersWritten, othersFormed⟩ := ih others
      exact ⟨.cons written othersWritten, List.forall_mem_cons.mpr ⟨formed, othersFormed⟩⟩

/-- A listing writes a statement as its tree says. -/
theorem statement_of_tree {symbols : SymbolTable} {entryPoint : Int} {action : Action}
    {tree : ActionTree} (made : action.Made scenario given routine.locals)
    (read : routine.actionTree? action = some tree) :
    statement symbols entryPoint routine action = .ok (tree.text symbols entryPoint) ∧
      ∀ operand ∈ tree.operands, operand.Formed := by
  have operands := made.operands
  cases action with
  | call target args | syscall name args =>
      simp only [Routine.actionTree?, Option.bind_eq_bind, Option.bind_eq_some_iff] at read
      obtain ⟨trees, argsRead, same⟩ := read
      cases same
      obtain ⟨written, formed⟩ :=
        values_of_trees small arena operands (mapM_eq_some_iff.mp argsRead)
      have texts : args.mapM (value routine) = .ok (trees.map ValueTree.text) := mapM_eq_ok written
      refine ⟨?_, formed⟩
      rw [statement, arguments, texts]
      rfl
  | ret | jump =>
      cases read
      exact ⟨rfl, by simp [ActionTree.operands]⟩
  | branch target condition =>
      simp only [Routine.actionTree?, Option.bind_eq_bind, Option.bind_eq_some_iff] at read
      obtain ⟨conditionTree, conditionRead, same⟩ := read
      cases same
      obtain ⟨written, formed⟩ :=
        value_of_tree small arena (operands condition (by simp [Action.operands])) conditionRead
      refine ⟨?_, by simpa [ActionTree.operands] using formed⟩
      rw [statement, written]
      rfl
  | assign target source =>
      simp only [Routine.actionTree?, Option.bind_eq_bind, Option.bind_eq_some_iff] at read
      obtain ⟨targetTree, targetRead, sourceTree, sourceRead, same⟩ := read
      cases same
      obtain ⟨targetWritten, targetFormed⟩ :=
        value_of_tree small arena (operands target (by simp [Action.operands])) targetRead
      obtain ⟨sourceWritten, sourceFormed⟩ :=
        value_of_tree small arena (operands source (by simp [Action.operands])) sourceRead
      refine ⟨?_, by simpa [ActionTree.operands] using ⟨targetFormed, sourceFormed⟩⟩
      rw [statement, targetWritten, sourceWritten]
      rfl
  | _ => cases read

/-- A listing shows the statements of a routine as their trees say. -/
theorem lines_of_trees {symbols : SymbolTable} {entryPoint : Int} {statements : List Statement}
    {trees : List StatementTree} (stored : ∀ s ∈ statements, s ∈ routine.arena.toList)
    (read : List.Forall₂ (fun s tree => routine.statementTree? s = some tree) statements trees) :
    List.Forall₂ (fun s line => statementLine symbols entryPoint routine s = .ok line) statements
        (trees.map (StatementTree.line symbols entryPoint)) ∧
      ∀ tree ∈ trees, tree.Formed scenario := by
  induction read with
  | nil => exact ⟨.nil, by simp⟩
  | @cons s tree _ _ here _ ih =>
      obtain ⟨member, others⟩ := List.forall_mem_cons.mp stored
      obtain ⟨othersWritten, othersFormed⟩ := ih others
      have made := arena s member
      simp only [Routine.statementTree?, Option.bind_eq_bind, Option.bind_eq_some_iff] at here
      obtain ⟨action, actionRead, same⟩ := here
      cases same
      obtain ⟨written, operands⟩ := statement_of_tree small arena made.action actionRead
      refine ⟨.cons ?_ othersWritten,
        List.forall_mem_cons.mpr ⟨⟨made.nonneg, made.before, operands⟩, othersFormed⟩⟩
      rw [statementLine, written]
      rfl

/-- A listing shows a routine as its tree says. -/
theorem routineLines_of_tree {symbols : SymbolTable} {entryPoint address : Int}
    {tree : RoutineTree} (writable : routine.Writable)
    (read : routine.routineTree? address = some tree) :
    routineLines symbols entryPoint address routine = .ok (tree.block symbols entryPoint) ∧
      ∀ statement ∈ tree.statements, statement.Formed scenario := by
  obtain ⟨statements, located, statementsRead⟩ := Routine.statements_of_routineTree? read
  obtain ⟨trees, _, rfl⟩ := Routine.routineTree?_eq_some_iff.mp read
  have each := mapM_eq_some_iff.mp statementsRead
  obtain ⟨written, formed⟩ :=
    lines_of_trees small arena (Routine.mem_of_statements? located) each
  refine ⟨?_, formed⟩
  rw [routineLines, located]
  dsimp only
  rw [titleLine_of_isWritable writable.args writable.locals, mapM_eq_ok written, each.length_eq]
  rfl

end

end Listing

/-! ## Whole listings -/

/-- The lines of a listing, each ended by a line feed. -/
def joined (lines : List String) : String := String.join (lines.map (· ++ "\n"))

theorem lineFeeds_joined (lines : List String) :
    lineFeeds (joined lines) = lines.length + lineFeedsIn lines := by
  have feed : lineFeeds "\n" = 1 := by decide
  induction lines with
  | nil => rfl
  | cons line rest ih =>
      rw [joined, List.map_cons, String.join_cons, ← joined]
      simp only [lineFeeds_append, ih, feed, List.length_cons, lineFeedsIn_cons]
      omega

theorem splitOn_joined {lines : List String} (plain : ∀ line ∈ lines, lineFeeds line = 0) :
    (joined lines).toList.splitOn '\n' = lines.map String.toList ++ [[]] := by
  have whole : (joined lines).toList = ['\n'].intercalate (lines.map String.toList ++ [[]]) := by
    clear plain
    induction lines with
    | nil => rfl
    | cons line rest ih =>
        rw [joined, List.map_cons, String.join_cons, ← joined, String.toList_append, ih]
        cases rest <;> simp
  rw [whole]
  apply List.splitOn_intercalate _ _ (by simp)
  intro line member
  rcases List.mem_append.mp member with entry | last
  · obtain ⟨text, listed, rfl⟩ := List.mem_map.mp entry
    exact lineFeeds_eq_zero_iff.mp (plain text listed)
  · rw [List.mem_singleton.mp last]
    simp

theorem exists_results {α β : Type} {R : α → β → Prop} {P : β → Prop} {items : List α}
    (each : ∀ item ∈ items, ∃ result, R item result ∧ P result) :
    ∃ results, List.Forall₂ R items results ∧ ∀ result ∈ results, P result := by
  induction items with
  | nil => exact ⟨[], .nil, by simp⟩
  | cons item rest ih =>
      obtain ⟨⟨result, related, holds⟩, others⟩ := List.forall_mem_cons.mp each
      obtain ⟨results, othersRelated, othersHold⟩ := ih others
      exact ⟨result :: results, .cons related othersRelated,
        List.forall_mem_cons.mpr ⟨holds, othersHold⟩⟩

namespace Listing

/-- What a listing without symbols shows of a program with these routines. -/
def entries (program : Program) (trees : List RoutineTree) : List String :=
  header program ++ trees.flatMap (RoutineTree.block OrderedMap.empty program.entryPoint)

theorem length_entries (program : Program) (trees : List RoutineTree) :
    (entries program trees).length =
      3 + (trees.map fun tree => 2 + tree.statements.length).sum := by
  have block : ∀ tree : RoutineTree,
      (tree.block OrderedMap.empty program.entryPoint).length = 2 + tree.statements.length := by
    intro tree
    simp only [RoutineTree.block, List.cons_append, List.length_cons, List.length_append,
      List.length_map, List.length_nil]
    omega
  simp [entries, header, List.length_flatMap, block]
  omega

theorem lineFeedsIn_block {tree : RoutineTree} {scenario : Scenario} (entryPoint : Int)
    (formed : ∀ statement ∈ tree.statements, statement.Formed scenario) :
    lineFeedsIn (tree.block OrderedMap.empty entryPoint) = lineFeedsIn tree.texts := by
  have statements :
      lineFeedsIn (tree.statements.map (StatementTree.line OrderedMap.empty entryPoint)) =
        lineFeedsIn tree.texts := by
    rw [List.map_eq_flatMap]
    refine lineFeedsIn_flatMap_congr fun statement member => ?_
    have action := ActionTree.lineFeeds_text (formed statement member).operands entryPoint
    simp (disch := decide) [StatementTree.line, action, lineFeeds_word]
  simp (disch := decide) [RoutineTree.block, statements, lineFeeds_word]

/-- Line feeds inside the entries come from the file. -/
theorem lineFeedsIn_entries (program : Program) {trees : List RoutineTree} {scenario : Scenario}
    (formed : ∀ tree ∈ trees, ∀ statement ∈ tree.statements, statement.Formed scenario) :
    lineFeedsIn (entries program trees) = lineFeedsIn (trees.flatMap RoutineTree.texts) := by
  have blocks := lineFeedsIn_flatMap_congr fun tree member =>
    lineFeedsIn_block program.entryPoint (formed tree member)
  rw [entries, lineFeedsIn_append, blocks]
  simp (disch := decide) [header, lineFeeds_word]

/-- A listing shows the routines of a program as their trees say. -/
theorem lines_of_disassemble {blob : Blob} {encoding : Encoding} {program : Program}
    {scenario : Scenario} {found final : Decoder} {visited : List Decoder}
    (decoded : disassemble blob encoding = .ok program)
    (decoding : Decoding scenario program found visited final)
    (symbols : SymbolTable := OrderedMap.empty) :
    ∃ trees, program.routines.sorted.mapM (fun entry => entry.2.routineTree? entry.1) = some trees ∧
      lines symbols program = .ok (header program ++
        trees.flatMap (RoutineTree.block symbols program.entryPoint)) ∧
      ∀ tree ∈ trees, ∀ statement ∈ tree.statements, statement.Formed scenario := by
  have each : ∀ entry ∈ program.routines.sorted, ∃ tree : RoutineTree,
      (entry.2.routineTree? entry.1 = some tree ∧
        routineLines symbols program.entryPoint entry.1 entry.2 =
          .ok (tree.block symbols program.entryPoint)) ∧
      ∀ statement ∈ tree.statements, statement.Formed scenario := by
    intro entry member
    obtain ⟨tree, read⟩ := (readable_of_disassemble decoded).sorted member
    have known : program.routine? entry.1 = some entry.2 :=
      OrderedMap.find?_of_mem (program.routines.sorted_perm.mem_iff.mp member)
    obtain ⟨_, locals, _, _, _, declared, _, made⟩ := decoding.made known
    have small : entry.2.locals < 10000000000 := by
      have byte := locals.toNat_lt
      omega
    have writable := writable_of_disassemble decoded entry.1 entry.2 known
    obtain ⟨written, formed⟩ := routineLines_of_tree small made writable read
    exact ⟨tree, ⟨read, written⟩, formed⟩
  obtain ⟨trees, shown, formed⟩ := exists_results each
  refine ⟨trees, mapM_eq_some_iff.mpr (shown.imp fun _ _ both => both.1), ?_, formed⟩
  have blocks : List.Forall₂ (fun (entry : Int × Routine) block =>
      routineLines symbols program.entryPoint entry.1 entry.2 = .ok block)
      program.routines.sorted
      (trees.map (RoutineTree.block symbols program.entryPoint)) :=
    List.forall₂_map_right_iff.mpr (shown.imp fun _ _ both => both.2)
  have shownAll := mapM_eq_ok blocks
  unfold lines
  rw [shownAll]
  simp only [List.flatMap_def]
  rfl

end Listing

/-- What the lines of a listing without symbols are, for every program that was disassembled.  The
listing has one entry for every statement, which begins with two blanks, the eight digits of the
address and a colon; a line feed stands at the end of every entry, and any other line feed is one of
a text from the file.  So it has as many lines as it should, and these are its entries, if the texts
from the file have no line feed, and more otherwise. -/
theorem listing_lines (blob : Blob) (encoding : Encoding) (program : Program)
    (decoded : disassemble blob encoding = .ok program) :
    ∃ trees text,
      program.routines.sorted.mapM (fun entry => entry.2.routineTree? entry.1) = some trees ∧
      Listing.render OrderedMap.empty program = .ok text ∧
      (∀ tree ∈ trees, ∀ statement ∈ tree.statements,
        (Text.hex 8 statement.address).length = 8 ∧
          ∀ c ∈ (Text.hex 8 statement.address).toList, c ∈ Text.hexDigits) ∧
      lineFeeds text = 3 + (trees.map fun tree => 2 + tree.statements.length).sum +
        lineFeedsIn (trees.flatMap RoutineTree.texts) ∧
      ((∀ given ∈ trees.flatMap RoutineTree.texts, lineFeeds given = 0) →
        text.toList.splitOn '\n' =
          (Listing.entries program trees).map String.toList ++ [[]]) := by
  obtain ⟨scenario, found, visited, final, _, decoding⟩ := exists_decoding decoded
  obtain ⟨trees, read, lines, formed⟩ := Listing.lines_of_disassemble decoded decoding
  have inside := Listing.lineFeedsIn_entries program formed
  refine ⟨trees, joined (Listing.entries program trees), read, ?_, ?_, ?_, ?_⟩
  · rw [Listing.render, lines]
    rfl
  · intro tree member statement listed
    obtain ⟨nonneg, before, _⟩ := formed tree member statement listed
    have early : scenario.streamEnd < 4294967296 := decoding.early
    refine ⟨Text.length_hex nonneg (by omega), fun c digit => ?_⟩
    exact (Text.mem_hex digit).resolve_right fun ⟨negative, _⟩ => by omega
  · rw [lineFeeds_joined, inside, Listing.length_entries]
  · intro plain
    refine splitOn_joined (lineFeedsIn_eq_zero_iff.mp ?_)
    rw [inside]
    exact lineFeedsIn_eq_zero_iff.mpr plain

/-- A file with one routine, which stores in global 0 a text that is a line feed. -/
def feedFile : Blob :=
  #[0x0E, 0, 0, 0,
    0x01, 0, 0,  0x0E, 2, 0x0A, 0,  0x15, 0, 0,
    4, 0, 0, 0,  0, 0,  0, 0,  0, 0,  0,  0, 0]

theorem listing_lines_feed :
    ∃ program trees text, disassemble feedFile .utf8 = .ok program ∧
      program.routines.sorted.mapM (fun entry => entry.2.routineTree? entry.1) = some trees ∧
      Listing.render OrderedMap.empty program = .ok text ∧
      lineFeeds text = 3 + (trees.map fun tree => 2 + tree.statements.length).sum +
        lineFeedsIn (trees.flatMap RoutineTree.texts) := by
  have decodes : (disassemble feedFile .utf8).toOption.isSome = true := by decide +kernel
  obtain ⟨program, decoded⟩ := Option.isSome_iff_exists.mp decodes
  have success := eq_ok_of_toOption decoded
  obtain ⟨trees, text, read, rendered, _, counted, _⟩ :=
    listing_lines feedFile .utf8 program success
  exact ⟨program, trees, text, success, read, rendered, counted⟩

/-- The line feed of the text is in the listing: it has a line more than it should. -/
theorem feed_parts_line :
    ∃ program text, disassemble feedFile .utf8 = .ok program ∧
      Listing.render OrderedMap.empty program = .ok text ∧
      lineFeeds text ≠
        3 + (program.routines.sorted.map fun entry => 2 + entry.2.body.size).sum := by
  have counts : (disassemble feedFile .utf8).toOption.map (fun program =>
      ((Listing.render OrderedMap.empty program).toOption.map lineFeeds,
        3 + (program.routines.sorted.map fun entry => 2 + entry.2.body.size).sum)) =
      some (some 7, 6) := by
    decide +kernel
  obtain ⟨program, decoded, counted⟩ := Option.map_eq_some_iff.mp counts
  obtain ⟨rendered, lines⟩ := Prod.mk.inj counted
  obtain ⟨text, written, feeds⟩ := Option.map_eq_some_iff.mp rendered
  refine ⟨program, text, eq_ok_of_toOption decoded, eq_ok_of_toOption written, ?_⟩
  rw [feeds, lines]
  decide

end SceneCode
