import SceneCode.Export
import SceneCode.Proofs.Provenance

/-!
# Printing and exporting programs

A routine that reads as a tree can be printed and exported: the references that the printers follow
are those that were followed to read it.  A listing also needs numbers that are short enough to be
written.  Every routine of a program that was disassembled reads as a tree, because interpretation
keeps its routines so, and instructions have no room for longer numbers.
-/

set_option autoImplicit false

namespace SceneCode

open EStateM (Result)

/-! ## Results that succeed -/

def Succeeds {ε α : Type} (result : Except ε α) : Prop := ∃ value, result = .ok value

namespace Succeeds

variable {ε α β : Type}

theorem pure (value : α) : Succeeds (Pure.pure value : Except ε α) := ⟨value, rfl⟩

theorem bind {first : Except ε α} {next : α → Except ε β} (succeeds : Succeeds first)
    (nextSucceeds : ∀ value, Succeeds (next value)) : Succeeds (first >>= next) := by
  obtain ⟨value, rfl⟩ := succeeds
  exact nextSucceeds value

theorem mapM {step : α → Except ε β} {items : List α}
    (each : ∀ item ∈ items, Succeeds (step item)) : Succeeds (items.mapM step) := by
  induction items with
  | nil => exact .pure []
  | cons item rest ih =>
      rw [List.mapM_cons]
      refine (each item List.mem_cons_self).bind fun first => ?_
      exact (ih fun item member => each item (List.mem_cons_of_mem _ member)).bind
        fun others => .pure _

end Succeeds

/-! ## Actions whose operands can be written -/

/-- Every operand that is read to read an expression can be read itself. -/
theorem operands_of_expressionTree? {value : Value → Option ValueTree} {statement : Statement}
    {tree : ValueTree} (read : Routine.expressionTree? value statement = some tree) :
    statement.action.isExpression = true ∧
      ∀ operand ∈ statement.action.operands, ∃ operandTree, value operand = some operandTree := by
  obtain ⟨address, action⟩ := statement
  cases action with
  | unary operator operand =>
      simp only [Routine.expressionTree?, Option.bind_eq_bind, Option.bind_eq_some_iff] at read
      obtain ⟨operandTree, operandRead, _⟩ := read
      exact ⟨rfl, by simp [Action.operands, operandRead]⟩
  | binary _ first second | globalTableAccess first second | localTableAccess first second =>
      simp only [Routine.expressionTree?, Option.bind_eq_bind, Option.bind_eq_some_iff] at read
      obtain ⟨firstTree, firstRead, secondTree, secondRead, _⟩ := read
      exact ⟨rfl, by simp [Action.operands, firstRead, secondRead]⟩
  | _ => cases read

theorem operands_of_statementTree? {routine : Routine} {statement : Statement}
    {tree : StatementTree} (read : routine.statementTree? statement = some tree) :
    statement.action ≠ .bare ∧
      ∀ operand ∈ statement.action.operands,
        ∃ operandTree, routine.tree? operand = some operandTree := by
  obtain ⟨address, action⟩ := statement
  simp only [Routine.statementTree?, Option.bind_eq_bind, Option.bind_eq_some_iff] at read
  obtain ⟨actionTree, actionRead, _⟩ := read
  cases action with
  | call _ args | syscall _ args =>
      simp only [Routine.actionTree?, Option.bind_eq_bind, Option.bind_eq_some_iff] at actionRead
      obtain ⟨trees, argsRead, _⟩ := actionRead
      exact ⟨by simp, fun operand member => mapM_mem argsRead member⟩
  | branch _ condition =>
      simp only [Routine.actionTree?, Option.bind_eq_bind, Option.bind_eq_some_iff] at actionRead
      obtain ⟨conditionTree, conditionRead, _⟩ := actionRead
      exact ⟨by simp, by simp [Action.operands, conditionRead]⟩
  | assign target value =>
      simp only [Routine.actionTree?, Option.bind_eq_bind, Option.bind_eq_some_iff] at actionRead
      obtain ⟨targetTree, targetRead, valueTree, valueRead, _⟩ := actionRead
      exact ⟨by simp, by simp [Action.operands, targetRead, valueRead]⟩
  | ret | jump => exact ⟨by simp, by simp [Action.operands]⟩
  | _ => cases actionRead

theorem Routine.statementAt?_of_treeWithin {routine : Routine} {fuel : Nat} {index : Int}
    {tree : ValueTree} (read : routine.treeWithin (fuel + 1) (.expr index) = some tree) :
    ∃ statement, routine.statementAt? index = some statement ∧
      Routine.expressionTree? (routine.treeWithin fuel) statement = some tree := by
  unfold Routine.treeWithin at read
  split at read
  · cases read
  · rename_i nonneg
    cases located : routine.arena[index.toNat]? with
    | none => simp [located] at read
    | some statement =>
        rw [located] at read
        exact ⟨statement, by simp [Routine.statementAt?, nonneg, located], read⟩

theorem Routine.statements_of_routineTree? {routine : Routine} {address : Int}
    {tree : RoutineTree} (read : routine.routineTree? address = some tree) :
    ∃ statements, routine.statements? = some statements ∧
      statements.mapM routine.statementTree? = some tree.statements := by
  obtain ⟨trees, treesRead, rfl⟩ := Routine.routineTree?_eq_some_iff.mp read
  simpa only [Routine.statementTrees?, Option.bind_eq_bind, Option.bind_eq_some_iff]
    using treesRead

/-- A routine with numbers that can all be written. -/
structure Routine.Writable (routine : Routine) : Prop where
  args : Text.isWritable routine.args = true
  locals : Text.isWritable routine.locals = true
  operands : ∀ statement ∈ routine.arena.toList, ∀ value ∈ statement.action.operands,
    value.isWritable = true

namespace Listing

theorem succeeds_expression {value : Value → Except OutputFault String} {action : Action}
    (computes : action.isExpression = true)
    (operands : ∀ operand ∈ action.operands, Succeeds (value operand)) :
    Succeeds (expression value action) := by
  cases action with
  | unary operator operand =>
      exact (operands _ (by simp [Action.operands])).bind fun _ => .pure _
  | binary _ first second | globalTableAccess first second | localTableAccess first second =>
      exact (operands _ (by simp [Action.operands])).bind fun _ =>
        (operands _ (by simp [Action.operands])).bind fun _ => .pure _
  | _ => cases computes

theorem succeeds_statement {symbols : SymbolTable} {entryPoint : Int} {routine : Routine}
    {action : Action} (plain : action ≠ .bare)
    (operands : ∀ operand ∈ action.operands, Succeeds (value routine operand)) :
    Succeeds (statement symbols entryPoint routine action) := by
  cases action with
  | call _ args | syscall _ args =>
      exact ((Succeeds.mapM operands).bind fun _ => .pure _).bind fun _ => .pure _
  | ret | jump => exact .pure _
  | branch _ condition => exact (operands _ (by simp [Action.operands])).bind fun _ => .pure _
  | assign target source =>
      exact (operands _ (by simp [Action.operands])).bind fun _ =>
        (operands _ (by simp [Action.operands])).bind fun _ => .pure _
  | bare => exact absurd rfl plain
  | _ => exact succeeds_expression rfl operands

theorem succeeds_isOperandSlot {routine : Routine} {name : String} {tree : ValueTree}
    (read : routine.slotTree? name = some tree) :
    Succeeds (isOperandSlot name routine.locals) := by
  unfold Routine.slotTree? at read
  unfold isOperandSlot
  split at read
  · rename_i digits same
    simp only [same]
    cases number : Text.readInteger .decimal (String.ofList digits) with
    | ok index => exact ⟨_, rfl⟩
    | error fault => simp [number] at read
  · rename_i digits same
    simp only [same]
    exact ⟨_, rfl⟩
  · cases read

/-- Values that refer to no expression. -/
theorem succeeds_leaf {routine : Routine} {fuel : Nat} {v : Value} {tree : ValueTree}
    (leaf : ∀ index, v ≠ .expr index) (short : v.isWritable = true)
    (read : routine.treeWithin fuel v = some tree) : Succeeds (valueWithin routine fuel v) := by
  cases v with
  | slot name content =>
      cases unknown : content.isNil with
      | false =>
          have written : constant content = .ok content.literal := if_pos short
          exact ⟨content.literal, by simp [valueWithin, unknown, written]⟩
      | true =>
          simp only [Routine.treeWithin, unknown, if_true] at read
          obtain ⟨above, decided⟩ := succeeds_isOperandSlot read
          cases above with
          | true => exact ⟨"nil", by simp [valueWithin, unknown, decided]; rfl⟩
          | false => exact ⟨name, by simp [valueWithin, unknown, decided]; rfl⟩
  | global index => exact ⟨_, by rw [valueWithin]; exact if_pos short⟩
  | returnValue => exact ⟨_, by simp [valueWithin]; rfl⟩
  | bare => simp [Routine.treeWithin] at read
  | expr index => exact absurd rfl (leaf index)

theorem succeeds_valueWithin {routine : Routine} {fuel : Nat}
    (arena : ∀ statement ∈ routine.arena.toList, ∀ value ∈ statement.action.operands,
      value.isWritable = true) :
    ∀ {v : Value} {tree : ValueTree}, v.isWritable = true →
      routine.treeWithin fuel v = some tree → Succeeds (valueWithin routine fuel v) := by
  induction fuel with
  | zero =>
      intro v tree short read
      refine succeeds_leaf ?_ short read
      rintro index rfl
      simp [Routine.treeWithin] at read
  | succ fuel ih =>
      intro v tree short read
      cases v with
      | expr index =>
          obtain ⟨statement, located, expressionRead⟩ := Routine.statementAt?_of_treeWithin read
          obtain ⟨computes, operands⟩ := operands_of_expressionTree? expressionRead
          rw [valueWithin, located]
          refine succeeds_expression computes fun operand member => ?_
          obtain ⟨operandTree, operandRead⟩ := operands operand member
          exact ih (arena statement (Routine.mem_of_statementAt? located) operand member)
            operandRead
      | _ => exact succeeds_leaf (by simp) short read

theorem titleLine_of_isWritable {routine : Routine}
    (args : Text.isWritable routine.args = true) (locals : Text.isWritable routine.locals = true)
    (symbols : SymbolTable) (entryPoint address : Int) (count : Nat) :
    titleLine symbols entryPoint address routine count =
      .ok (titleText symbols entryPoint address routine count) := by
  rw [titleLine, args, locals]
  rfl

theorem titleLine_eq_ok {symbols : SymbolTable} {entryPoint address : Int} {routine : Routine}
    {count : Nat} {title : String}
    (written : titleLine symbols entryPoint address routine count = .ok title) :
    title = titleText symbols entryPoint address routine count := by
  unfold titleLine at written
  split at written <;> cases written
  rfl

theorem succeeds_routineLines {symbols : SymbolTable} {entryPoint address : Int}
    {routine : Routine} {tree : RoutineTree} (writable : routine.Writable)
    (read : routine.routineTree? address = some tree) :
    Succeeds (routineLines symbols entryPoint address routine) := by
  obtain ⟨statements, listed, statementsRead⟩ := Routine.statements_of_routineTree? read
  unfold routineLines
  rw [listed]
  refine Succeeds.bind ⟨_, titleLine_of_isWritable writable.args writable.locals _ _ _ _⟩
    fun title => (Succeeds.mapM fun s member => ?_).bind fun lines => .pure _
  obtain ⟨statementTree, statementRead⟩ := mapM_mem statementsRead member
  obtain ⟨plain, operands⟩ := operands_of_statementTree? statementRead
  refine (succeeds_statement plain fun operand used => ?_).bind fun text => .pure _
  obtain ⟨operandTree, operandRead⟩ := operands operand used
  have stored := Routine.mem_of_statements? listed s member
  exact succeeds_valueWithin writable.operands (writable.operands s stored operand used)
    operandRead

end Listing

namespace Export

theorem succeeds_fields {value : Value → Except OutputFault Json} {action : Action}
    (plain : action ≠ .bare)
    (operands : ∀ operand ∈ action.operands, Succeeds (value operand)) :
    Succeeds (fields value action) := by
  cases action with
  | call _ args | syscall _ args => exact (Succeeds.mapM operands).bind fun _ => .pure _
  | ret | jump => exact .pure _
  | branch _ operand | unary _ operand =>
      exact (operands _ (by simp [Action.operands])).bind fun _ => .pure _
  | assign first second | binary _ first second | globalTableAccess first second
  | localTableAccess first second =>
      exact (operands _ (by simp [Action.operands])).bind fun _ =>
        (operands _ (by simp [Action.operands])).bind fun _ => .pure _
  | bare => exact absurd rfl plain

theorem succeeds_valueWithin {routine : Routine} {fuel : Nat} :
    ∀ {v : Value} {tree : ValueTree}, routine.treeWithin fuel v = some tree →
      Succeeds (valueWithin routine fuel v) := by
  induction fuel with
  | zero =>
      intro v tree read
      cases v with
      | slot | global | returnValue => exact .pure _
      | bare | expr => simp [Routine.treeWithin] at read
  | succ fuel ih =>
      intro v tree read
      cases v with
      | slot | global | returnValue => exact .pure _
      | bare => simp [Routine.treeWithin] at read
      | expr index =>
          obtain ⟨s, located, expressionRead⟩ := Routine.statementAt?_of_treeWithin read
          obtain ⟨computes, operands⟩ := operands_of_expressionTree? expressionRead
          have plain : s.action ≠ .bare := by
            intro same
            simp [same, Action.isExpression] at computes
          have written := succeeds_fields plain fun operand member =>
            ih (operands operand member).choose_spec
          rw [valueWithin, located]
          exact (written.bind fun rest => .pure _).bind fun inner => .pure _

theorem succeeds_routine {address : Int} {r : Routine} {tree : RoutineTree}
    (read : r.routineTree? address = some tree) : Succeeds (routine address r) := by
  obtain ⟨statements, listed, statementsRead⟩ := Routine.statements_of_routineTree? read
  unfold routine
  rw [listed]
  refine (Succeeds.mapM fun s member => ?_).bind fun items => .pure _
  obtain ⟨statementTree, statementRead⟩ := mapM_mem statementsRead member
  obtain ⟨plain, operands⟩ := operands_of_statementTree? statementRead
  refine (succeeds_fields plain fun operand used => ?_).bind fun rest => .pure _
  obtain ⟨operandTree, operandRead⟩ := operands operand used
  exact succeeds_valueWithin operandRead

end Export

/-! ## Decoders whose routines read as trees -/

def RoutineTable.Readable (table : RoutineTable) : Prop :=
  ∀ address routine, table.find? address = some routine →
    ∃ tree, routine.routineTree? address = some tree

/-- Every routine of the table reads as a tree, and so does what is being decoded. -/
structure Decoder.Readable (decoder : Decoder) : Prop where
  table : decoder.routines.Readable
  active : ∀ address activation, decoder.Inside decoder.routines.arity address activation →
    ∃ state, activation.Models address state

theorem RoutineTable.readable_resetAll (table : RoutineTable) : table.resetAll.Readable := by
  intro address routine found
  rw [RoutineTable.resetAll, OrderedMap.find?_mapValues] at found
  obtain ⟨old, _, rfl⟩ := Option.map_eq_some_iff.mp found
  exact ⟨⟨address, old.args, old.locals, []⟩, rfl⟩

theorem readable_beforeInterpretation (decoder : Decoder) :
    decoder.beforeInterpretation.Readable where
  table := RoutineTable.readable_resetAll decoder.routines
  active := by
    intro address activation inside
    obtain ⟨stack, framed, _⟩ := inside.stack
    cases framed

theorem readable_interpretStep {scenario : Scenario} {before after : Decoder}
    (regular : before.Regular) (readable : before.Readable)
    (early : before.cursor < Nat.pow 256 4)
    (stepped : (Decode.interpretStep scenario).run before = .ok () after) : after.Readable := by
  have played := Decode.played_interpretStep scenario regular
  rw [stepped] at played
  cases played with
  | idle table frame =>
      refine ⟨table ▸ readable.table, fun address activation inside => ?_⟩
      rw [table] at inside
      exact readable.active address activation (inside.ofSame table.symm frame.symm)
  | @entered routine _ starts found table inside =>
      refine ⟨table ▸ readable.table, fun address activation alsoInside => ?_⟩
      rw [table] at alsoInside
      obtain ⟨rfl, rfl⟩ := inside.unique alsoInside
      obtain ⟨tree, read⟩ := readable.table _ _ found
      exact ⟨⟨[], tree⟩, .nil, read⟩
  | @effected opcode operation address activation effect rest _ located denotes inside few outcome
      left table =>
      obtain ⟨state, models⟩ := readable.active address activation inside
      obtain ⟨nonneg, small⟩ := regular.small inside early
      have simulated := simulated_outcome scenario before.routines.arity before.cursor models
        nonneg small denotes.slotSigned
      rw [outcome] at simulated
      obtain ⟨next, _, nextModels⟩ := simulated.of_ok
      constructor
      · intro other routine found
        rw [table, OrderedMap.find?_modify] at found
        split at found
        · rename_i same
          obtain ⟨_, _, rfl⟩ := Option.map_eq_some_iff.mp found
          exact ⟨_, same ▸ nextModels.routine⟩
        · exact readable.table other routine found
      · intro other also alsoInside
        rw [left.arity_eq] at alsoInside
        obtain ⟨rfl, rfl⟩ := left.unique alsoInside
        exact ⟨next, nextModels⟩

theorem readable_of_disassemble {blob : Blob} {encoding : Encoding} {program : Program}
    (decoded : disassemble blob encoding = .ok program) : program.routines.Readable := by
  obtain ⟨scenario, found, final, parsed, discovered, interpreted, rfl⟩ :=
    passes_of_disassemble decoded
  have small : scenario.streamEnd < Nat.pow 256 4 := (Scenario.facts_of_parse parsed).2.2.2.2
  have power : Nat.pow 256 4 = 4294967296 := by decide
  obtain ⟨visited, walk⟩ := walk_of_interpret scenario found
  have kept := walk.invariant (fun decoder => decoder.Regular ∧ decoder.Readable)
    (fun before after holds inside stepped =>
      ⟨(Decode.regular_interpretStep holds.1 stepped).1,
        readable_interpretStep holds.1 holds.2 (by omega) stepped⟩)
    ⟨regular_beforeInterpretation discovered, readable_beforeInterpretation found⟩
  exact (kept.2 final interpreted).2.table

def RoutineTable.Writable (table : RoutineTable) : Prop :=
  ∀ address routine, table.find? address = some routine → routine.Writable

/-- The numbers of a program fit into its instructions. -/
theorem writable_of_disassemble {blob : Blob} {encoding : Encoding} {program : Program}
    (decoded : disassemble blob encoding = .ok program) : program.routines.Writable := by
  obtain ⟨scenario, found, visited, final, _, decoding⟩ := exists_decoding decoded
  intro address routine known
  obtain ⟨args, locals, body, _, argsSame, localsSame, _, made⟩ := decoding.made known
  have argsByte := args.toNat_lt
  have localsByte := locals.toNat_lt
  exact ⟨Text.isWritable_of_small (by omega), Text.isWritable_of_small (by omega),
    fun statement stored value used =>
      ((made statement stored).action.operands value used).isWritable⟩

theorem RoutineTable.Readable.sorted {table : RoutineTable} (readable : table.Readable)
    {entry : Int × Routine} (member : entry ∈ table.sorted) :
    ∃ tree, entry.2.routineTree? entry.1 = some tree :=
  readable entry.1 entry.2 (OrderedMap.find?_of_mem (table.sorted_perm.mem_iff.mp member))

theorem RoutineTable.Writable.sorted {table : RoutineTable} (writable : table.Writable)
    {entry : Int × Routine} (member : entry ∈ table.sorted) : entry.2.Writable :=
  writable entry.1 entry.2 (OrderedMap.find?_of_mem (table.sorted_perm.mem_iff.mp member))

theorem Export.succeeds_program {program : Program} (readable : program.routines.Readable) :
    Succeeds (Export.program program) := by
  refine Succeeds.bind (Succeeds.mapM fun entry member => ?_) fun routines => .pure _
  obtain ⟨tree, read⟩ := readable.sorted member
  exact Export.succeeds_routine read

theorem Listing.succeeds_render {program : Program} (readable : program.routines.Readable)
    (writable : program.routines.Writable) (symbols : SymbolTable) :
    Succeeds (Listing.render symbols program) := by
  have lines : Succeeds (Listing.lines symbols program) := by
    refine Succeeds.bind (Succeeds.mapM fun entry member => ?_) fun blocks => .pure _
    obtain ⟨tree, read⟩ := readable.sorted member
    exact Listing.succeeds_routineLines (writable.sorted member) read
  exact lines.bind fun _ => .pure _

/-- A program that was disassembled can be printed, with whatever symbols, and exported: every
reference in it leads to an expression, and no expression is inside itself. -/
theorem output_succeeds (blob : Blob) (encoding : Encoding) (program : Program)
    (symbols : SymbolTable) (decoded : disassemble blob encoding = .ok program) :
    (∃ text, Listing.render symbols program = .ok text) ∧
      (∃ document, Export.program program = .ok document) ∧
      ∀ address routine, program.routines.find? address = some routine →
        ∃ tree, routine.routineTree? address = some tree := by
  have readable := readable_of_disassemble decoded
  have writable := writable_of_disassemble decoded
  exact ⟨Listing.succeeds_render readable writable symbols, Export.succeeds_program readable,
    readable⟩

theorem output_succeeds_sum :
    ∃ program, disassemble sumFile .utf8 = .ok program ∧
      ∃ text, Listing.render OrderedMap.empty program = .ok text := by
  have decoded : (disassemble sumFile .utf8).toOption.isSome = true := by decide +kernel
  obtain ⟨program, found⟩ := Option.isSome_iff_exists.mp decoded
  have success := eq_ok_of_toOption found
  exact ⟨program, success, (output_succeeds sumFile .utf8 program OrderedMap.empty success).1⟩

end SceneCode
