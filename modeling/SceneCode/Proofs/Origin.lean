import Mathlib.Data.List.Forall2
import SceneCode.Proofs.Literal
import SceneCode.Proofs.StackEffect

/-!
# Origins of operands

A pushed nil and a local of unknown content are the same kind of value: a slot that holds nil.  A
listing tells them apart by the number in the name of the slot.  Whether it is right can only be
said with a second account of where each value came from.

`Origins` is that account.  It goes through the instructions of a routine beside the decoder and
keeps, in place of the values, which constant was pushed or which slot was named; operands have no
numbers in it.  What ties the two is that a pushed constant gets a number at or above the number of
locals (`Origin.Explains`), which every instruction keeps (`Origins.Explains.step`).
`operands_print_origins` compares them at the end: every operand of every stored statement is
written as its origin asks for.
-/

set_option autoImplicit false

namespace SceneCode

/-! ## The account -/

/-- Where a value came from. -/
inductive Origin where
  /-- It was pushed as a constant. -/
  | constant (constant : Constant)
  /-- It is the local or argument with this index. -/
  | slot (index : Int)
  /-- A global, the result of a call or an expression. -/
  | elsewhere
  deriving DecidableEq, Repr

namespace Operation

/-- Where the value that an operation pushes came from. -/
def pushedOrigins (locals : Int) (operands : List Origin) : Operation → List Origin
  | .push constant => [.constant constant]
  | .pushSlot index => [.slot index]
  | .copyTop => [operands.headD (.slot (locals - 1))]
  | .pushGlobal _ | .pushReturn | .pushGlobalEntry _ | .pushLocalEntry _ | .unary _ | .binary _ =>
    [.elsewhere]
  | _ => []

/-- Where the operands of each statement came from that an operation stores, by those it takes off
the stack, the topmost first. -/
def storedOrigins (taken : List Origin) : Operation → List (List Origin)
  | .call _ | .syscall _ | .ret _ | .jump _ | .branch _ | .unary _ => [taken]
  | .binary _ => [taken.reverse]
  | .popGlobal _ | .pushGlobalEntry _ => [.elsewhere :: taken]
  | .popSlot index | .pushLocalEntry index => [.slot index :: taken]
  | .popGlobalEntry _ => [.elsewhere :: taken.drop 1, .elsewhere :: taken.take 1]
  | .popLocalEntry index => [.slot index :: taken.drop 1, .elsewhere :: taken.take 1]
  | _ => []

end Operation

structure Origins where
  /-- The operands on the stack, the topmost first. -/
  operands : List Origin := []
  /-- The operands of each stored statement. -/
  lines : List (List Origin) := []
  deriving DecidableEq, Repr

namespace Origins

def step (scenario : Scenario) (arity : Int → Option Int) (locals : Int) (origins : Origins)
    (operation : Operation) : Origins :=
  let count := operation.consumed scenario arity
  { operands := operation.pushedOrigins locals origins.operands ++ origins.operands.drop count
    lines := origins.lines ++ operation.storedOrigins (origins.operands.take count) }

/-- The account of instructions that follow each other. -/
def run (scenario : Scenario) (arity : Int → Option Int) (locals : Int) (origins : Origins)
    (instructions : List Instruction) : Origins :=
  instructions.foldl (fun origins instruction =>
    origins.step scenario arity locals (instruction.operation scenario.encoding)) origins

end Origins

/-! ## Values that have an origin -/

/-- A value that came from there, in a routine with so many locals. -/
inductive Origin.Explains (locals : Int) : Origin → Value → Prop where
  | constant {index : Int} {constant : Constant} (nonneg : 0 ≤ index) (above : locals ≤ index)
      (small : index < 10000000000) (short : constant.isWritable = true) :
      Explains locals (.constant constant) (.slot (Value.localName index) constant)
  | declared {index : Int} (nonneg : 0 ≤ index) (below : index < locals) :
      Explains locals (.slot index) (OperandStack.unset index)
  | argument {index : Int} (below : index ≤ -2) :
      Explains locals (.slot index) (.slot (Value.argName index) .nil)
  | global {index : Int} : Explains locals .elsewhere (.global index)
  | result : Explains locals .elsewhere .returnValue
  | expression {index : Int} : Explains locals .elsewhere (.expr index)

theorem Origin.explains_slot {routine : Routine} {index : Int} {value : Value}
    (found : routine.slot index = .ok value) :
    Origin.Explains routine.locals (.slot index) value := by
  rcases Routine.slot_cases found with ⟨⟨nonneg, below⟩, rfl⟩ | ⟨below, rfl⟩
  · exact .declared nonneg below
  · exact .argument below

/-- An expression that starts with the name of an operator, of a global or of a slot. -/
def Action.Fronted (locals : Int) : Action → Prop
  | .unary operator _ | .binary operator _ _ => Named operator
  | .globalTableAccess table _ | .localTableAccess table _ =>
    (∃ index, table = .global index) ∨ ∃ index, Origin.Explains locals (.slot index) table
  | _ => True

/-- An action whose operands came from there. -/
structure Action.Explained (locals : Int) (line : List Origin) (action : Action) : Prop where
  operands : List.Forall₂ (Origin.Explains locals) line action.operands
  fronted : action.Fronted locals

/-- The account of an activation: of its operands, and of those of every statement it stored. -/
structure Origins.Explains (origins : Origins) (activation : Activation) : Prop where
  operands : List.Forall₂ (Origin.Explains activation.routine.locals) origins.operands
    activation.operands
  lines : List.Forall₂ (fun line statement =>
    statement.action.Explained activation.routine.locals line) origins.lines
    activation.routine.arena.toList

theorem Origins.Explains.fronted {origins : Origins} {activation : Activation}
    (explains : origins.Explains activation) :
    ∀ statement ∈ activation.routine.arena.toList,
      statement.action.Fronted activation.routine.locals := by
  have paired : List.Forall₂ (fun (statement : Statement) line =>
      statement.action.Fronted activation.routine.locals ∧
        statement.action.Explained activation.routine.locals line)
      activation.routine.arena.toList origins.lines :=
    (explains.lines.imp fun _ _ explained => ⟨explained.fronted, explained⟩).flip
  exact ((List.forall₂_and_left _ _).mp paired).1

/-! ## One instruction -/

/-- An effect that pushes and stores what came from there. -/
inductive Effect.Explained (locals : Int) : List Origin → List (List Origin) → Effect → Prop where
  | none : Explained locals [] [] .none
  | push {origin : Origin} {value : Value} (explains : origin.Explains locals value) :
      Explained locals [origin] [] (.push value)
  | compute {line : List Origin} {action : Action} (explains : action.Explained locals line) :
      Explained locals [.elsewhere] [line] (.compute action)
  | perform {line : List Origin} {action : Action} (explains : action.Explained locals line) :
      Explained locals [] [line] (.perform action)
  | store {line : List Origin} {origin : Origin} {entry : Action} {value : Value}
      (entryExplains : entry.Explained locals line) (explains : origin.Explains locals value) :
      Explained locals [] [line, [.elsewhere, origin]] (.store entry value)

/-- What an effect leaves has the account with its origins added. -/
theorem Effect.Explained.apply {address : Int} {activation : Activation} {origins : Origins}
    {known pushed : List Origin} {stored : List (List Origin)} {rest : List Value} {effect : Effect}
    (explained : effect.Explained activation.routine.locals pushed stored)
    (explains : origins.Explains activation)
    (left : List.Forall₂ (Origin.Explains activation.routine.locals) known rest) :
    Origins.Explains ⟨pushed ++ known, origins.lines ++ stored⟩
      (effect.apply address rest activation.routine) := by
  cases explained with
  | none => exact ⟨left, (List.append_nil origins.lines).symm ▸ explains.lines⟩
  | push pushedExplains =>
      exact ⟨.cons pushedExplains left, (List.append_nil origins.lines).symm ▸ explains.lines⟩
  | compute actionExplains =>
      refine ⟨.cons .expression left, ?_⟩
      simp only [Effect.apply, Routine.allocate, Array.toList_push]
      exact List.rel_append explains.lines (.cons actionExplains .nil)
  | perform actionExplains =>
      refine ⟨left, ?_⟩
      simp only [Effect.apply, Routine.append, Array.toList_push]
      exact List.rel_append explains.lines (.cons actionExplains .nil)
  | store entryExplains valueExplains =>
      refine ⟨left, ?_⟩
      simp only [Effect.apply, Routine.allocate, Routine.append, Array.toList_push,
        List.append_assoc]
      refine List.rel_append explains.lines (.cons entryExplains (.cons ⟨?_, trivial⟩ .nil))
      exact .cons .expression (.cons valueExplains .nil)

/-- An instruction that succeeds has the effect that its account tells of. -/
theorem explained_of_outcome {scenario : Scenario} {arity : Int → Option Int} {address : Int}
    {activation : Activation} {known : List Origin} {operation : Operation} {effect : Effect}
    {rest : List Value}
    (explains : List.Forall₂ (Origin.Explains activation.routine.locals) known activation.operands)
    (short : ∀ constant, operation = .push constant → constant.isWritable = true)
    (nonneg : 0 ≤ activation.routine.locals)
    (small : activation.routine.locals + activation.operands.length < 10000000000)
    (outcome : activation.outcome scenario arity address operation = .ok (effect, rest)) :
    effect.Explained activation.routine.locals
      (operation.pushedOrigins activation.routine.locals known)
      (operation.storedOrigins (known.take (operation.consumed scenario arity))) := by
  have valid := Activation.valid_of_outcome outcome
  obtain ⟨operands, routine⟩ := activation
  dsimp only at explains nonneg small ⊢
  cases operation with
  | nop | enter =>
      cases outcome
      exact .none
  | ret | jump =>
      cases outcome
      exact .perform ⟨.nil, trivial⟩
  | call target =>
      obtain ⟨args, found⟩ := Option.isSome_iff_exists.mp valid
      simp only [Activation.outcome, found] at outcome
      obtain ⟨_, rfl, _⟩ := Activation.eq_of_taking outcome
      simp only [Operation.consumed, found, Option.getD_some]
      exact .perform ⟨List.forall₂_take _ explains, trivial⟩
  | syscall id =>
      obtain ⟨syscall, found⟩ := Option.isSome_iff_exists.mp valid
      simp only [Activation.outcome, found] at outcome
      obtain ⟨_, rfl, _⟩ := Activation.eq_of_taking outcome
      simp only [Operation.consumed, found, Option.map_some, Option.getD_some]
      exact .perform ⟨List.forall₂_take _ explains, trivial⟩
  | push constant =>
      simp only [Activation.outcome] at outcome
      cases outcome
      exact .push (.constant (by omega) (by omega) small (short constant rfl))
  | pushGlobal index =>
      cases outcome
      exact .push .global
  | pushReturn =>
      cases outcome
      exact .push .result
  | pushSlot index =>
      obtain ⟨value, found⟩ := Routine.exists_slot valid
      simp only [Activation.outcome, found] at outcome
      cases outcome
      exact .push (Origin.explains_slot found)
  | copyTop =>
      cases explains with
      | cons top below =>
          cases outcome
          exact .push top
      | nil =>
          by_cases declared : routine.locals = 0
          · simp [Activation.outcome, declared] at outcome
          · simp only [Activation.outcome, declared, if_false] at outcome
            cases outcome
            exact .push (.declared (by omega) (by omega))
  | branch target =>
      cases explains with
      | nil => cases outcome
      | cons top below =>
          cases outcome
          exact .perform ⟨.cons top .nil, trivial⟩
  | popGlobal index =>
      cases explains with
      | nil => cases outcome
      | cons top below =>
          cases outcome
          exact .perform ⟨.cons .global (.cons top .nil), trivial⟩
  | popSlot index =>
      obtain ⟨target, found⟩ := Routine.exists_slot valid
      simp only [Activation.outcome, found] at outcome
      cases explains with
      | nil => cases outcome
      | cons top below =>
          cases outcome
          exact .perform ⟨.cons (Origin.explains_slot found) (.cons top .nil), trivial⟩
  | pushGlobalEntry table =>
      cases explains with
      | nil => cases outcome
      | cons top below =>
          cases outcome
          exact .compute ⟨.cons .global (.cons top .nil), .inl ⟨_, rfl⟩⟩
  | pushLocalEntry index =>
      obtain ⟨table, found⟩ := Routine.exists_slot valid
      have tableExplains := Origin.explains_slot found
      simp only [Activation.outcome, found] at outcome
      cases explains with
      | nil => cases outcome
      | cons top below =>
          cases outcome
          exact .compute ⟨.cons tableExplains (.cons top .nil), .inr ⟨_, tableExplains⟩⟩
  | unary operator =>
      cases explains with
      | nil => cases outcome
      | cons top below =>
          cases outcome
          exact .compute ⟨.cons top .nil, named_symbol _⟩
  | binary operator =>
      rcases explains with _ | ⟨right, _ | ⟨left, below⟩⟩
      · cases outcome
      · cases outcome
      · cases outcome
        exact .compute ⟨.cons left (.cons right .nil), named_symbol _⟩
  | popGlobalEntry table =>
      rcases explains with _ | ⟨value, _ | ⟨key, below⟩⟩
      · cases outcome
      · cases outcome
      · cases outcome
        exact .store ⟨.cons .global (.cons key .nil), .inl ⟨_, rfl⟩⟩ value
  | popLocalEntry index =>
      obtain ⟨table, found⟩ := Routine.exists_slot valid
      have tableExplains := Origin.explains_slot found
      simp only [Activation.outcome, found] at outcome
      rcases explains with _ | ⟨value, _ | ⟨key, below⟩⟩
      · cases outcome
      · cases outcome
      · cases outcome
        exact .store ⟨.cons tableExplains (.cons key .nil), .inr ⟨_, tableExplains⟩⟩ value

/-- An instruction that succeeds keeps the account. -/
theorem Origins.Explains.step {scenario : Scenario} {arity : Int → Option Int} {address : Int}
    {activation : Activation} {origins : Origins} {operation : Operation} {effect : Effect}
    {rest : List Value} (explains : origins.Explains activation)
    (short : ∀ constant, operation = .push constant → constant.isWritable = true)
    (nonneg : 0 ≤ activation.routine.locals)
    (small : activation.routine.locals + activation.operands.length < 10000000000)
    (outcome : activation.outcome scenario arity address operation = .ok (effect, rest)) :
    (origins.step scenario arity activation.routine.locals operation).Explains
      (effect.apply address rest activation.routine) := by
  have left := List.forall₂_drop (operation.consumed scenario arity) explains.operands
  rw [← (Activation.rest_of_outcome outcome).2.1] at left
  exact (explained_of_outcome explains.operands short nonneg small outcome).apply explains left

/-! ## A routine -/

/-- The account of the instructions that interpretation gets over tells of what they leave. -/
theorem explained_of_passage {scenario : Scenario} {arity : Int → Option Int} {owner : Int}
    {decoder last : Decoder} {body : List Instruction}
    (early : scenario.streamEnd < Nat.pow 256 4) (passage : Passage scenario decoder body last) :
    ∀ {activation : Activation} {origins : Origins}, decoder.Regular →
      decoder.Inside arity owner activation → origins.Explains activation →
      ∃ left, last.Inside arity owner left ∧
        left.routine.locals = activation.routine.locals ∧
        (origins.run scenario arity activation.routine.locals body).Explains left := by
  induction passage with
  | nil =>
      intro activation origins _ inside explains
      exact ⟨activation, inside, rfl, explains⟩
  | cons before plain there stepped later ih =>
      intro activation origins regular inside explains
      obtain ⟨nonneg, small⟩ := regular.small inside (by omega)
      obtain ⟨effect, rest, _, outcome, afterInside⟩ :=
        effect_interpretStep plain there inside stepped
      obtain ⟨left, leftInside, sameLocals, leftExplains⟩ :=
        ih (Decode.regular_interpretStep regular stepped).1 afterInside
          (explains.step (fun _ pushes => Instruction.isWritable_pushed pushes) nonneg small
            outcome)
      rw [Effect.locals_apply] at sameLocals leftExplains
      exact ⟨left, leftInside, sameLocals, leftExplains⟩

/-! ## Printing -/

/-- What is written for a value that came from there, in a routine with so many locals.  A constant
is its literal, a slot its name, and nothing else is written like either. -/
structure Origin.PrintsAs (locals : Int) (origin : Origin)
    (written : Except OutputFault String) : Prop where
  valid : ∀ index, origin = .slot index → 0 ≤ index ∧ index < locals ∨ index ≤ -2
  constant : ∀ constant, origin = .constant constant → written = .ok constant.literal
  literal_iff : (∃ constant : Constant, written = .ok constant.literal) ↔
    ∃ constant, origin = .constant constant
  nil_iff : written = .ok "nil" ↔ origin = .constant .nil
  local_iff : ∀ index, 0 ≤ index → index < locals →
    (written = .ok (Value.localName index) ↔ origin = .slot index)
  arg_iff : ∀ index, index ≤ -2 → (written = .ok (Value.argName index) ↔ origin = .slot index)
  undeclared : ∀ index, locals ≤ index → written ≠ .ok (Value.localName index)

namespace Origin.PrintsAs

variable {locals index : Int} {text : String}

theorem of_constant (constant : Constant) :
    Origin.PrintsAs locals (.constant constant) (.ok constant.literal) where
  valid := by simp
  constant := by
    rintro _ ⟨⟩
    rfl
  literal_iff := iff_of_true ⟨constant, rfl⟩ ⟨constant, rfl⟩
  nil_iff := by simp [Constant.literal_eq_nil_iff]
  local_iff index _ _ := by simp [((named_localName index).ne_literal constant).symm]
  arg_iff index _ := by simp [((named_argName index).ne_literal constant).symm]
  undeclared index _ := by simp [((named_localName index).ne_literal constant).symm]

theorem of_local (nonneg : 0 ≤ index) (below : index < locals) :
    Origin.PrintsAs locals (.slot index) (.ok (Value.localName index)) where
  valid := by
    rintro _ ⟨⟩
    exact .inl ⟨nonneg, below⟩
  constant := by simp
  literal_iff := by simp [(named_localName index).ne_literal]
  nil_iff := by simp [(named_localName index).ne_nil]
  local_iff other otherNonneg _ := by
    simp [Value.localName_inj nonneg otherNonneg]
  arg_iff other _ := by
    have apart : index ≠ other := by omega
    simp [Value.localName_ne_argName, apart]
  undeclared other above same := by
    have equal := (Value.localName_inj nonneg (by omega)).mp (Except.ok.inj same)
    omega

theorem of_arg (below : index ≤ -2) :
    Origin.PrintsAs locals (.slot index) (.ok (Value.argName index)) where
  valid := by
    rintro _ ⟨⟩
    exact .inr below
  constant := by simp
  literal_iff := by simp [(named_argName index).ne_literal]
  nil_iff := by simp [(named_argName index).ne_nil]
  local_iff other _ _ := by
    have apart : index ≠ other := by omega
    simp [(Value.localName_ne_argName _ _).symm, apart]
  arg_iff other otherBelow := by
    simp [Value.argName_inj below otherBelow]
  undeclared other _ := by
    simp [(Value.localName_ne_argName _ _).symm]

theorem of_elsewhere {written : Except OutputFault String}
    (composite : ∀ text, written = .ok text → Composite text) :
    Origin.PrintsAs locals .elsewhere written where
  valid := by simp
  constant := by simp
  literal_iff := by
    simp only [reduceCtorEq, exists_false, iff_false, not_exists]
    intro constant same
    exact (composite _ same).named.ne_literal constant rfl
  nil_iff := by
    simp only [reduceCtorEq, iff_false]
    intro same
    exact (composite _ same).named.ne_nil rfl
  local_iff index _ _ := by
    simp only [reduceCtorEq, iff_false]
    intro same
    exact (composite _ same).ne_localName index rfl
  arg_iff index _ := by
    simp only [reduceCtorEq, iff_false]
    intro same
    exact (composite _ same).ne_argName index rfl
  undeclared index _ same := (composite _ same).ne_localName index rfl

end Origin.PrintsAs

namespace Listing

variable {routine : Routine} {fuel : Nat} {text : String}

/-- A slot that an instruction named is written by its name. -/
theorem valueWithin_slot {index : Int} {value : Value} (fuel : Nat)
    (small : routine.locals < 10000000000)
    (explains : Origin.Explains routine.locals (.slot index) value) :
    0 ≤ index ∧ index < routine.locals ∧
        valueWithin routine fuel value = .ok (Value.localName index) ∨
      index ≤ -2 ∧ valueWithin routine fuel value = .ok (Value.argName index) := by
  cases explains with
  | declared nonneg below =>
      exact .inl ⟨nonneg, below, valueWithin_unset nonneg below (by omega)⟩
  | argument below => exact .inr ⟨below, valueWithin_arg⟩

theorem named_table {table : Value} (small : routine.locals < 10000000000)
    (front : (∃ index, table = .global index) ∨
      ∃ index, Origin.Explains routine.locals (.slot index) table)
    (written : valueWithin routine fuel table = .ok text) : Named text := by
  rcases front with ⟨index, rfl⟩ | ⟨index, explains⟩
  · rw [valueWithin] at written
    exact globalName_eq_ok written ▸ (Composite.of_global index).named
  · rcases valueWithin_slot fuel small explains with ⟨_, _, same⟩ | ⟨_, same⟩
    · rw [written] at same
      exact Except.ok.inj same ▸ named_localName index
    · rw [written] at same
      exact Except.ok.inj same ▸ named_argName index

theorem composite_expression {action : Action} (small : routine.locals < 10000000000)
    (fronted : action.Fronted routine.locals)
    (written : expression (valueWithin routine fuel) action = .ok text) : Composite text := by
  have round : Bracketed "(" := .inl (by decide)
  have square : Bracketed "[" := .inr (by decide)
  cases action with
  | unary operator operand =>
      obtain ⟨operandText, _, ended⟩ := exists_of_bind written
      cases ended
      simp only [String.append_assoc]
      exact .of_named fronted (bracketed_append.mpr (.inl round))
  | binary operator first second =>
      obtain ⟨firstText, _, rest⟩ := exists_of_bind written
      obtain ⟨secondText, _, ended⟩ := exists_of_bind rest
      cases ended
      simp only [String.append_assoc]
      exact .of_named fronted (bracketed_append.mpr (.inl round))
  | globalTableAccess table key | localTableAccess table key =>
      obtain ⟨tableText, tableWritten, rest⟩ := exists_of_bind written
      obtain ⟨keyText, _, ended⟩ := exists_of_bind rest
      cases ended
      simp only [String.append_assoc]
      exact .of_named (named_table small fronted tableWritten) (bracketed_append.mpr (.inl square))
  | _ => cases written

/-- A value is written as its origin asks for, however deep inside other expressions. -/
theorem printsAs_valueWithin {origin : Origin} {value : Value}
    (small : routine.locals < 10000000000)
    (fronted : ∀ statement ∈ routine.arena.toList, statement.action.Fronted routine.locals)
    (explains : origin.Explains routine.locals value) (fuel : Nat) :
    origin.PrintsAs routine.locals (valueWithin routine fuel value) := by
  cases explains with
  | constant nonneg above smallIndex short =>
      rw [valueWithin_pushed nonneg above smallIndex, constant_of_isWritable short]
      exact .of_constant _
  | declared nonneg below =>
      rw [valueWithin_unset nonneg below (by omega)]
      exact .of_local nonneg below
  | argument below =>
      rw [valueWithin_arg]
      exact .of_arg below
  | global =>
      rw [valueWithin]
      exact .of_elsewhere fun text written => globalName_eq_ok written ▸ .of_global _
  | result =>
      rw [valueWithin]
      refine .of_elsewhere fun text written => ?_
      cases written
      exact .of_result
  | @expression index =>
      refine .of_elsewhere fun text written => ?_
      cases fuel with
      | zero =>
          rw [valueWithin] at written
          split at written <;> cases written
      | succ fuel =>
          rw [valueWithin] at written
          cases located : routine.statementAt? index with
          | none => simp [located] at written
          | some statement =>
              rw [located] at written
              exact composite_expression small
                (fronted statement (Routine.mem_of_statementAt? located)) written

end Listing

/-- In a program that was disassembled take any routine, the instructions from its start to its end,
and the account of where values come from in them.  The statements stored with the routine are those
the account tells of, with as many operands.  Every one of these operands, at whatever depth it is
written in a listing, is written as the literal of a constant exactly if it was pushed as one, as
`nil` exactly if nil was pushed, and by the name of a local or argument exactly if it is that one;
no name of a local above the declared ones is ever written for it. -/
theorem operands_print_origins (blob : Blob) (encoding : Encoding) (program : Program)
    (decoded : disassemble blob encoding = .ok program) :
    ∃ scenario, Scenario.parse blob encoding = .ok scenario ∧
      ∀ owner routine, program.routine? owner = some routine →
        ∃ (args locals : UInt8) (body : List Instruction),
          blob.HasAt owner (Reference.encode (.initStack args locals :: body)) ∧
          owner + (Reference.encode (.initStack args locals :: body)).length =
            program.routineEnd owner ∧
          (∀ instruction ∈ body, instruction.opcode ≠ .initStack) ∧
          routine.locals = locals.toNat ∧
          List.Forall₂ (fun line statement =>
              List.Forall₂ (fun origin value => ∀ fuel,
                origin.PrintsAs routine.locals (Listing.valueWithin routine fuel value))
              line statement.action.operands)
            (Origins.run scenario program.routines.arity routine.locals {} body).lines
            routine.arena.toList := by
  obtain ⟨scenario, found, visited, final, parsed, decoding⟩ := exists_decoding decoded
  refine ⟨scenario, parsed, ?_⟩
  intro owner routine known
  have started : owner ∈ program.routines.keys :=
    List.mem_map_of_mem (OrderedMap.mem_of_find? known)
  obtain ⟨args, locals, body, there, ends, _, plain⟩ := decoding.exists_body started
  obtain ⟨start, _, entered, last, _, _, regular, _, inside, passage, kept⟩ :=
    decoding.exists_passage started there plain (ends ▸ program.routineEnd_stops owner)
  obtain ⟨left, lastInside, sameLocals, explains⟩ :=
    explained_of_passage decoding.early passage regular inside
      (⟨.nil, .nil⟩ : Origins.Explains {} _)
  have same : routine = left.routine :=
    Option.some.inj (known.symm.trans (kept.trans lastInside.found))
  subst same
  rw [← sameLocals] at explains
  dsimp only at sameLocals
  have small : left.routine.locals < 10000000000 := by
    have byte := locals.toNat_lt
    omega
  have blobSame := (Scenario.facts_of_parse parsed).1
  refine ⟨args, locals, body, blobSame ▸ there, ends, plain, sameLocals, ?_⟩
  refine explains.lines.imp fun line statement explained => ?_
  exact explained.operands.imp fun origin value valueExplains =>
    Listing.printsAs_valueWithin small explains.fronted valueExplains

/-- A file with one routine, which adds a pushed nil and its only local. -/
def nilFile : Blob :=
  #[0x0F, 0, 0, 0,
    0x01, 0, 1,  0x08,  0x10, 0,  0x1A,  0x15, 1, 0,  0x04,
    4, 0, 0, 0,  0, 0,  0, 0,  0, 0,  0,  0, 0]

/-- What is stored for it. -/
def nilRoutine : Routine where
  args := 0
  locals := 1
  arena := #[⟨10, .binary "pvm_add" (.slot "local1" .nil) (.slot "local0" .nil)⟩,
    ⟨11, .assign (.global 1) (.expr 0)⟩, ⟨14, .ret false⟩]
  body := #[1, 2]

theorem operands_print_origins_nil :
    ∃ program scenario body rest, disassemble nilFile .utf8 = .ok program ∧
      program.routine? 4 = some nilRoutine ∧
      Listing.value nilRoutine (.slot "local1" .nil) = .ok "nil" ∧
      Listing.value nilRoutine (.slot "local0" .nil) = .ok (Value.localName 0) ∧
      (Origins.run scenario program.routines.arity 1 {} body).lines =
        [.constant .nil, .slot 0] :: rest := by
  have decodes : (disassemble nilFile .utf8).toOption.map (fun program => program.routine? 4) =
      some (some nilRoutine) := by
    decide +kernel
  obtain ⟨program, decoded, known⟩ := Option.map_eq_some_iff.mp decodes
  have pushed : Listing.value nilRoutine (.slot "local1" .nil) = .ok "nil" := by decide +kernel
  have declared : Listing.value nilRoutine (.slot "local0" .nil) = .ok (Value.localName 0) := by
    decide +kernel
  obtain ⟨scenario, _, prints⟩ :=
    operands_print_origins nilFile .utf8 program (eq_ok_of_toOption decoded)
  obtain ⟨_, _, body, _, _, _, _, lines⟩ := prints 4 nilRoutine known
  obtain ⟨line, rest, first, _, same⟩ := List.forall₂_cons_right_iff.mp lines
  obtain ⟨origin, others, nilPrints, second, rfl⟩ := List.forall₂_cons_right_iff.mp first
  obtain ⟨other, _, localPrints, none, rfl⟩ := List.forall₂_cons_right_iff.mp second
  cases none
  refine ⟨program, scenario, body, rest, eq_ok_of_toOption decoded, known, pushed, declared, ?_⟩
  rw [show (1 : Int) = nilRoutine.locals from rfl, same, (nilPrints _).nil_iff.mp pushed,
    ((localPrints _).local_iff 0 (by decide) (by decide)).mp declared]

end SceneCode
