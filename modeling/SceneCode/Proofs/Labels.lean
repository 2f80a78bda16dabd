import Mathlib
import SceneCode.Proofs.Arguments
import SceneCode.Proofs.Lines

/-!
# Names of routines in a listing

A listing names routines in two places: in the title of the block that shows a routine, and in the
line of every call of it.  Both names are made from the address of the routine, so they agree
(`Labelled`).  Without symbols the name tells the address: the value of a hexadecimal numeral is
read back from it (`Text.hexValue_hex`), and `main` is no such name.  Then every name stands in the
title of one routine only (`Identifying`).
-/

set_option autoImplicit false

namespace SceneCode

/-! ## Hexadecimal numerals -/

namespace Text

/-- The number that a hexadecimal numeral stands for. -/
def hexValue : List Char → Int
  | '-' :: digits => -(positional 16 digits : Int)
  | digits => positional 16 digits

theorem positional_append (base : Nat) (front back : List Char) :
    positional base (front ++ back) =
      back.foldl (fun value c => value * base + (asciiDigit? c).getD 0)
        (positional base front) :=
  List.foldl_append

theorem positional_zeros (base count : Nat) (digits : List Char) :
    positional base (List.replicate count '0' ++ digits) = positional base digits := by
  have zero : asciiDigit? '0' = some 0 := rfl
  have none : positional base (List.replicate count '0') = 0 := by
    induction count with
    | zero => rfl
    | succ count ih =>
        rw [List.replicate_succ', positional_append, ih]
        simp [zero]
  rw [positional_append, none]
  rfl

theorem positional_toDigits (number : Nat) :
    positional 16 ((Nat.toDigits 16 number).map Char.toUpper) = number := by
  have digit : ∀ value < 16, asciiDigit? value.digitChar.toUpper = some value := by decide
  induction number using Nat.strong_induction_on with
  | _ number ih =>
      rw [Nat.toDigits_eq_if (by decide)]
      split
      · rename_i small
        simp [positional, digit number small]
      · rename_i large
        have less : number / 16 < number := Nat.div_lt_self (by omega) (by decide)
        rw [List.map_append, positional_append, ih _ less]
        simp only [List.map_cons, List.map_nil, List.foldl_cons, List.foldl_nil,
          digit _ (Nat.mod_lt number (by decide)), Option.getD_some]
        omega

theorem exists_digits_of_hex (width : Nat) (number : Int) :
    ∃ digits, (hex width number).toList = (if number < 0 then ['-'] else []) ++ digits ∧
      positional 16 digits = number.natAbs ∧ '-' ∉ digits := by
  have hexadecimal : '-' ∉ hexDigits := by decide
  refine ⟨List.replicate (width - (if number < 0 then ['-'] else []).length -
    ((Nat.toDigits 16 number.natAbs).map Char.toUpper).length) '0' ++
      (Nat.toDigits 16 number.natAbs).map Char.toUpper, ?_, ?_, ?_⟩
  · simp only [hex, padded, String.toList_ofList, decide_eq_true_eq, List.append_assoc]
  · rw [positional_zeros, positional_toDigits]
  · intro member
    rcases List.mem_append.mp member with zero | digit
    · cases (List.mem_replicate.mp zero).2
    · exact hexadecimal (mem_upper_toDigits digit)

/-- A number is read back from its numeral, whatever its sign and the width of the field. -/
theorem hexValue_hex (width : Nat) (number : Int) :
    hexValue (hex width number).toList = number := by
  obtain ⟨digits, written, value, unsigned⟩ := exists_digits_of_hex width number
  by_cases negative : number < 0
  · rw [written, if_pos negative, List.singleton_append, hexValue, value]
    omega
  · rw [written, if_neg negative, List.nil_append, hexValue.eq_2, value]
    · omega
    · intro rest signed
      exact unsigned (signed ▸ List.mem_cons_self)

theorem hex_injective (width : Nat) : Function.Injective (hex width) := by
  intro first second same
  rw [← hexValue_hex width first, same, hexValue_hex]

end Text

/-! ## Names made from addresses -/

namespace SymbolTable

theorem nameFor_empty (address : Int) (entryPoint : Option Int) :
    nameFor OrderedMap.empty address entryPoint =
      if entryPoint = some address then "main" else "routine_" ++ Text.hex 8 address :=
  rfl

theorem main_ne_routine (text : String) : "main" ≠ "routine_" ++ text := by
  intro same
  have characters := congrArg String.toList same
  rw [String.toList_append] at characters
  cases characters

/-- Without symbols the name of a routine tells its address. -/
theorem nameFor_empty_injective (entryPoint : Option Int) :
    Function.Injective fun address => nameFor OrderedMap.empty address entryPoint := by
  intro first second same
  simp only [nameFor_empty] at same
  split at same
  · rename_i firstMain
    split at same
    · rename_i secondMain
      exact Option.some.inj (firstMain.symm.trans secondMain)
    · exact absurd same (main_ne_routine _)
  · split at same
    · exact absurd same.symm (main_ne_routine _)
    · exact Text.hex_injective 8 ((String.append_right_inj _).mp same)

end SymbolTable

/-! ## The blocks of a listing -/

namespace Listing

/-- What a listing shows of a routine: its title, and for every statement its line. -/
structure Block where
  address : Int
  routine : Routine
  title : String
  lines : List (Statement × String)

namespace Block

def text (block : Block) : List String := block.title :: block.lines.map Prod.snd ++ [""]

/-- The title has this name for the routine. -/
def Named (block : Block) (name : String) : Prop :=
  block.title = "; routine " ++ name ++ " offset=" ++ Text.address block.address
    ++ " args=" ++ Text.decimal block.routine.args
    ++ " locals=" ++ Text.decimal block.routine.locals
    ++ " statements=" ++ Text.decimal block.lines.length

/-- The line is that of a call, with this name for its target. -/
def Calls (block : Block) (line : Statement × String) (target : Int) (name : String) : Prop :=
  line ∈ block.lines ∧ ∃ values shown, line.1.action = .call target values ∧
    arguments block.routine values = .ok shown ∧
    line.2 = "  " ++ Text.hex 8 line.1.address ++ ": " ++ ("call " ++ name ++ "(" ++ shown ++ ")")

/-- The lines of a block are those that the routine is listed with. -/
structure Shows (symbols : SymbolTable) (entryPoint : Int) (block : Block) : Prop where
  statements : block.routine.statements? = some (block.lines.map Prod.fst)
  title : block.Named (symbols.nameFor block.address (some entryPoint))
  lines : ∀ line ∈ block.lines,
    statementLine symbols entryPoint block.routine line.1 = .ok line.2

end Block

/-- A listing is made of these blocks, one for each routine, by increasing address. -/
structure MadeOf (symbols : SymbolTable) (program : Program) (blocks : List Block) : Prop where
  lines : Listing.lines symbols program = .ok (header program ++ blocks.flatMap Block.text)
  routines : blocks.map (fun block => (block.address, block.routine)) = program.routines.sorted
  statements : ∀ block ∈ blocks,
    block.routine.statements? = some (block.lines.map Prod.fst)

/-- Every routine has a name in its title, and every call has the name of its target. -/
structure Labelled (blocks : List Block) : Prop where
  titled : ∀ block ∈ blocks, ∃ name, block.Named name
  printed : ∀ block ∈ blocks, ∀ line ∈ block.lines, ∀ target values,
    line.1.action = .call target values → ∃ name, block.Calls line target name
  agrees : ∀ block ∈ blocks, ∀ line target name, block.Calls line target name →
    ∃ callee ∈ blocks, callee.address = target ∧ callee.Named name

/-- No two titles have the same name, and the name in a call stands in the title of its target
only. -/
structure Identifying (blocks : List Block) : Prop where
  apart : blocks.Pairwise fun first second => ∀ name, first.Named name → ¬ second.Named name
  unique : ∀ block ∈ blocks, ∀ line target name, block.Calls line target name →
    ∃ callee ∈ blocks, callee.address = target ∧
      ∀ other ∈ blocks, other.Named name ↔ other = callee

theorem exists_pairs_of_mapM {α β : Type} {step : α → Except OutputFault β} :
    ∀ {items : List α} {results : List β}, items.mapM step = .ok results →
      ∃ pairs : List (α × β), pairs.map Prod.fst = items ∧ pairs.map Prod.snd = results ∧
        ∀ pair ∈ pairs, step pair.1 = .ok pair.2 := by
  intro items
  induction items with
  | nil =>
      intro results ran
      cases ran
      exact ⟨[], rfl, rfl, by simp⟩
  | cons item rest ih =>
      intro results ran
      rw [List.mapM_cons] at ran
      cases here : step item with
      | error fault =>
          rw [here] at ran
          cases ran
      | ok result =>
          cases later : rest.mapM step with
          | error fault =>
              rw [here, later] at ran
              cases ran
          | ok others =>
              rw [here, later] at ran
              cases ran
              obtain ⟨pairs, firsts, seconds, each⟩ := ih later
              exact ⟨(item, result) :: pairs, by simp [firsts], by simp [seconds],
                List.forall_mem_cons.mpr ⟨here, each⟩⟩

variable {symbols : SymbolTable} {entryPoint : Int}

theorem exists_block {address : Int} {routine : Routine} {text : List String}
    (written : routineLines symbols entryPoint address routine = .ok text) :
    ∃ block : Block, block.text = text ∧ block.address = address ∧ block.routine = routine ∧
      block.Shows symbols entryPoint := by
  unfold routineLines at written
  cases listed : routine.statements? with
  | none =>
      rw [listed] at written
      cases written
  | some statements =>
      rw [listed] at written
      obtain ⟨title, titled, rest⟩ := exists_of_bind written
      obtain ⟨lines, ran, made⟩ := exists_of_bind rest
      cases made
      obtain ⟨pairs, rfl, rfl, each⟩ := exists_pairs_of_mapM ran
      refine ⟨⟨address, routine, title, pairs⟩, rfl, rfl, rfl, listed, ?_, each⟩
      rw [Block.Named, titleLine_eq_ok titled, List.length_map]
      rfl

theorem exists_madeOf {program : Program} (readable : program.routines.Readable)
    (writable : program.routines.Writable) (symbols : SymbolTable) :
    ∃ blocks, MadeOf symbols program blocks ∧
      ∀ block ∈ blocks, block.Shows symbols program.entryPoint := by
  have each : ∀ entry ∈ program.routines.sorted, ∃ block : Block,
      (routineLines symbols program.entryPoint entry.1 entry.2 = .ok block.text ∧
        (block.address, block.routine) = entry) ∧
      block.Shows symbols program.entryPoint := by
    intro entry member
    obtain ⟨tree, read⟩ := readable.sorted member
    obtain ⟨text, written⟩ : Succeeds
        (routineLines symbols program.entryPoint entry.1 entry.2) :=
      succeeds_routineLines (writable.sorted member) read
    obtain ⟨block, rfl, address, routine, shows⟩ := exists_block written
    exact ⟨block, ⟨written, Prod.ext address routine⟩, shows⟩
  obtain ⟨blocks, related, shows⟩ := exists_results each
  refine ⟨blocks, ⟨?_, ?_, fun block member => (shows block member).statements⟩, shows⟩
  · have ran : program.routines.sorted.mapM (fun entry =>
        routineLines symbols program.entryPoint entry.1 entry.2) =
          .ok (blocks.map Block.text) :=
      mapM_eq_ok (List.forall₂_map_right_iff.mpr (related.imp fun _ _ both => both.1))
    unfold Listing.lines
    rw [ran, List.flatMap_def]
    rfl
  · have same : List.Forall₂ Eq program.routines.sorted
        (blocks.map fun block => (block.address, block.routine)) :=
      List.forall₂_map_right_iff.mpr (related.imp fun _ _ both => both.2.symm)
    rw [List.forall₂_eq_eq_eq] at same
    exact same.symm

/-! ## The names in them -/

namespace Block

variable {block : Block} {line : Statement × String} {target : Int} {name : String}

theorem Named.unique {other : String} (first : block.Named name) (second : block.Named other) :
    name = other := by
  have same := first.symm.trans second
  simpa only [String.append_left_inj, String.append_right_inj] using same

/-- The name in the title of a routine. -/
theorem Shows.named_iff (shows : block.Shows symbols entryPoint) :
    block.Named name ↔ name = symbols.nameFor block.address (some entryPoint) := by
  constructor
  · intro named
    exact named.unique shows.title
  · intro same
    rw [same]
    exact shows.title

theorem Shows.exists_call (shows : block.Shows symbols entryPoint) (member : line ∈ block.lines)
    {values : List Value} (calls : line.1.action = .call target values) :
    block.Calls line target (symbols.nameFor target (some entryPoint)) := by
  have written := shows.lines line member
  unfold statementLine at written
  rw [calls, statement] at written
  cases shown : arguments block.routine values with
  | error fault =>
      rw [shown] at written
      cases written
  | ok text =>
      rw [shown] at written
      exact ⟨member, values, text, calls, shown, (Except.ok.inj written).symm⟩

theorem Calls.unique {other : String} (first : block.Calls line target name)
    (second : block.Calls line target other) : name = other := by
  obtain ⟨_, values, shown, calls, written, text⟩ := first
  obtain ⟨_, others, otherShown, otherCalls, otherWritten, otherText⟩ := second
  rw [calls] at otherCalls
  cases otherCalls
  rw [written] at otherWritten
  cases otherWritten
  rw [text] at otherText
  simpa only [String.append_left_inj, String.append_right_inj] using otherText

/-- The name in the line of a call. -/
theorem Shows.name_of_calls (shows : block.Shows symbols entryPoint)
    (calls : block.Calls line target name) :
    name = symbols.nameFor target (some entryPoint) := by
  obtain ⟨values, _, action, _⟩ := calls.2
  exact calls.unique (shows.exists_call calls.1 action)

end Block

end Listing

/-! ## Targets of calls -/

/-- The target of a call is a routine of the program. -/
theorem Decoding.exists_callee {scenario : Scenario} {program : Program} {found final : Decoder}
    {visited : List Decoder} (decoding : Decoding scenario program found visited final)
    {owner : Int} {routine : Routine} (known : program.routine? owner = some routine)
    {statements : List Statement} (listed : routine.statements? = some statements)
    {statement : Statement} (member : statement ∈ statements) {target : Int}
    {values : List Value} (calls : statement.action = .call target values) :
    ∃ callee, program.routine? target = some callee := by
  obtain ⟨_, _, _, _, _, enters, passage, kept⟩ := decoding.exists_way known
  have blank : ({ args := routine.args, locals := routine.locals } : Routine).statements? =
      some [] := rfl
  obtain ⟨activation, left, inside, leftListed, emitted⟩ :=
    statements_of_passage passage enters.inside blank
  have same : activation.routine = routine := Option.some.inj (inside.found.symm.trans kept)
  rw [same, listed, List.nil_append] at leftListed
  obtain rfl := Option.some.inj leftListed
  obtain ⟨_, _, _, _, _, _, _, _, _, _, outcome, leaves⟩ := emitted statement member
  obtain ⟨number, args, _, rfl, arity, _⟩ := Activation.call_of_outcome outcome leaves calls
  obtain ⟨callee, calleeKnown, _⟩ := Option.map_eq_some_iff.mp arity
  exact ⟨callee, calleeKnown⟩

namespace Listing

variable {symbols : SymbolTable} {program : Program} {blocks : List Block}

theorem MadeOf.routine_of_mem (made : MadeOf symbols program blocks) {block : Block}
    (member : block ∈ blocks) : program.routine? block.address = some block.routine := by
  have entry : (block.address, block.routine) ∈ program.routines.sorted := by
    rw [← made.routines]
    exact List.mem_map_of_mem member
  exact OrderedMap.find?_of_mem (program.routines.sorted_perm.mem_iff.mp entry)

theorem MadeOf.exists_block_of_routine (made : MadeOf symbols program blocks) {address : Int}
    {routine : Routine} (known : program.routine? address = some routine) :
    ∃ block ∈ blocks, block.address = address := by
  have entry : (address, routine) ∈ program.routines.sorted :=
    program.routines.sorted_perm.mem_iff.mpr (OrderedMap.mem_of_find? known)
  rw [← made.routines] at entry
  obtain ⟨block, member, same⟩ := List.mem_map.mp entry
  exact ⟨block, member, (Prod.mk.inj same).1⟩

theorem MadeOf.addresses_nodup (made : MadeOf symbols program blocks) :
    (blocks.map Block.address).Nodup := by
  have distinct : (program.routines.sorted.map Prod.fst).Nodup :=
    (program.routines.sorted_perm.map Prod.fst).nodup_iff.mpr program.routines.distinct
  rw [← made.routines, List.map_map] at distinct
  exact distinct

theorem labelled_of_disassemble {blob : Blob} {encoding : Encoding}
    (decoded : disassemble blob encoding = .ok program) (made : MadeOf symbols program blocks)
    (shows : ∀ block ∈ blocks, block.Shows symbols program.entryPoint) : Labelled blocks where
  titled block member := ⟨_, (shows block member).title⟩
  printed block member line listed target values calls :=
    ⟨_, (shows block member).exists_call listed calls⟩
  agrees := by
    intro block member line target name calls
    obtain ⟨scenario, found, visited, final, _, decoding⟩ := exists_decoding decoded
    obtain ⟨values, _, action, _⟩ := calls.2
    obtain ⟨callee, known⟩ := decoding.exists_callee (made.routine_of_mem member)
      (made.statements block member) (List.mem_map_of_mem calls.1) action
    obtain ⟨other, otherMember, rfl⟩ := made.exists_block_of_routine known
    refine ⟨other, otherMember, rfl, ?_⟩
    rw [(shows other otherMember).named_iff]
    exact (shows block member).name_of_calls calls

/-- Without symbols two routines with one name are the same. -/
theorem identifying_of_empty (made : MadeOf OrderedMap.empty program blocks)
    (shows : ∀ block ∈ blocks, block.Shows OrderedMap.empty program.entryPoint)
    (labelled : Labelled blocks) : Identifying blocks := by
  have sameAddress : ∀ first ∈ blocks, ∀ second ∈ blocks, ∀ name, first.Named name →
      second.Named name → first.address = second.address := by
    intro first firstMember second secondMember name firstNamed secondNamed
    rw [(shows first firstMember).named_iff] at firstNamed
    rw [(shows second secondMember).named_iff] at secondNamed
    exact SymbolTable.nameFor_empty_injective _ (firstNamed.symm.trans secondNamed)
  have distinct := made.addresses_nodup
  constructor
  · have apart : blocks.Pairwise fun first second => first.address ≠ second.address :=
      List.pairwise_map.mp distinct
    refine apart.imp_of_mem ?_
    intro first second firstMember secondMember different name firstNamed secondNamed
    exact different
      (sameAddress first firstMember second secondMember name firstNamed secondNamed)
  · intro block member line target name calls
    obtain ⟨callee, calleeMember, address, named⟩ :=
      labelled.agrees block member line target name calls
    refine ⟨callee, calleeMember, address, fun other otherMember => ?_⟩
    constructor
    · intro otherNamed
      exact List.inj_on_of_nodup_map distinct otherMember calleeMember
        (sameAddress other otherMember callee calleeMember name otherNamed named)
    · intro same
      rw [same]
      exact named

end Listing

/-- The names of routines without symbols tell their addresses.  In the listing of a program that
was disassembled, whatever the symbols, a call has the name that stands in the title of its target;
without symbols it is the name in no other title. -/
theorem call_labels_identify (blob : Blob) (encoding : Encoding) (program : Program)
    (decoded : disassemble blob encoding = .ok program) :
    (∀ entryPoint : Option Int,
      Function.Injective fun address => SymbolTable.nameFor OrderedMap.empty address entryPoint) ∧
    ∀ symbols, ∃ blocks, Listing.MadeOf symbols program blocks ∧ Listing.Labelled blocks ∧
      (symbols = OrderedMap.empty → Listing.Identifying blocks) := by
  refine ⟨SymbolTable.nameFor_empty_injective, fun symbols => ?_⟩
  obtain ⟨blocks, made, shows⟩ := Listing.exists_madeOf (readable_of_disassemble decoded)
    (writable_of_disassemble decoded) symbols
  have labelled := Listing.labelled_of_disassemble decoded made shows
  refine ⟨blocks, made, labelled, ?_⟩
  intro none
  subst none
  exact Listing.identifying_of_empty made shows labelled

theorem call_labels_identify_call :
    ∃ program blocks, disassemble callFile .utf8 = .ok program ∧
      Listing.MadeOf OrderedMap.empty program blocks ∧
      ∃ block ∈ blocks, ∃ line name, block.Calls line 15 name ∧
        ∃ callee ∈ blocks, callee.address = 15 ∧
          ∀ other ∈ blocks, other.Named name ↔ other = callee := by
  have decodes : (disassemble callFile .utf8).toOption.map
      (fun program => (program.routine? 4).map Routine.statements?) = some (some (some
        [⟨9, .call 15 [.slot "local0" (.int 5)]⟩, ⟨14, .ret false⟩])) := by
    decide +kernel
  obtain ⟨program, decoded, reads⟩ := Option.map_eq_some_iff.mp decodes
  obtain ⟨routine, known, listed⟩ := Option.map_eq_some_iff.mp reads
  have success := eq_ok_of_toOption decoded
  obtain ⟨_, labels⟩ := call_labels_identify callFile .utf8 program success
  obtain ⟨blocks, made, labelled, identifying⟩ := labels OrderedMap.empty
  obtain ⟨block, member, address⟩ := made.exists_block_of_routine known
  have same : block.routine = routine := by
    have found := made.routine_of_mem member
    rw [address, known] at found
    exact (Option.some.inj found).symm
  have statements := made.statements block member
  rw [same, listed, Option.some.injEq] at statements
  have first : (⟨9, .call 15 [.slot "local0" (.int 5)]⟩ : Statement) ∈
      block.lines.map Prod.fst := by
    rw [← statements]
    exact List.mem_cons_self
  obtain ⟨line, lineMember, action⟩ := List.mem_map.mp first
  obtain ⟨name, calls⟩ := labelled.printed block member line lineMember 15 _ (by rw [action])
  exact ⟨program, blocks, success, made, block, member, line, name, calls,
    (identifying rfl).unique block member line 15 name calls⟩

end SceneCode
