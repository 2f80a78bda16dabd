import SceneCode.Proofs.Execution
import SceneCode.Proofs.Passes

/-!
# Interpretation, step by step

A decoder is `Regular` if its table is one that discovery can have made and it stands outside every
routine or inside one of the table, with no more operands than it has passed bytes.  After a
discovery that completes interpretation starts at a regular decoder and stays at regular ones.

`played_interpretStep` is the complete list of what a step can do at such a decoder: it does
nothing, enters a routine, has an effect on the routine it is inside, or fails.
-/

set_option autoImplicit false

namespace SceneCode

open EStateM (Result)

/-- The routines declare no more locals than a byte can count. -/
def RoutineTable.Bounded (table : RoutineTable) : Prop :=
  ∀ address routine, table.find? address = some routine →
    0 ≤ routine.locals ∧ routine.locals < 256

structure Decoder.Regular (decoder : Decoder) : Prop where
  bounded : decoder.routines.Bounded
  cursor_nonneg : 0 ≤ decoder.cursor
  placed : decoder.frame = none ∨ ∃ address activation,
    decoder.Inside decoder.routines.arity address activation ∧
      (activation.operands.length : Int) ≤ decoder.cursor

theorem Decoder.Inside.ofSame {arity : Int → Option Int} {decoder other : Decoder} {address : Int}
    {activation : Activation} (inside : decoder.Inside arity address activation)
    (table : other.routines = decoder.routines) (frame : other.frame = decoder.frame) :
    other.Inside arity address activation where
  arity_eq := table ▸ inside.arity_eq
  found := table ▸ inside.found
  stack := frame ▸ inside.stack

theorem Decoder.Inside.unique {arity : Int → Option Int} {decoder : Decoder}
    {address other : Int} {activation also : Activation}
    (inside : decoder.Inside arity address activation)
    (alsoInside : decoder.Inside arity other also) : address = other ∧ activation = also := by
  obtain ⟨stack, framed, holds⟩ := inside.stack
  obtain ⟨_, alsoFramed, alsoHolds⟩ := alsoInside.stack
  rw [framed] at alsoFramed
  cases alsoFramed
  have sameRoutine : activation.routine = also.routine :=
    Option.some.inj (inside.found.symm.trans alsoInside.found)
  obtain ⟨operands, routine⟩ := activation
  obtain ⟨others, alsoRoutine⟩ := also
  dsimp only at sameRoutine
  subst sameRoutine
  exact ⟨rfl, congrArg (Activation.mk · routine) (holds.unique alsoHolds)⟩

/-- In a stream of which offsets have four bytes no slot number outgrows ten digits. -/
theorem Decoder.Regular.small {arity : Int → Option Int} {decoder : Decoder} {address : Int}
    {activation : Activation} (regular : decoder.Regular)
    (inside : decoder.Inside arity address activation) (early : decoder.cursor < Nat.pow 256 4) :
    0 ≤ activation.routine.locals ∧
      activation.routine.locals + activation.operands.length < 10000000000 := by
  have power : Nat.pow 256 4 = 4294967296 := by decide
  have bounds := regular.bounded _ _ inside.found
  rcases regular.placed with outside | ⟨_, _, placed, few⟩
  · obtain ⟨_, framed, _⟩ := inside.stack
    rw [outside] at framed
    cases framed
  · obtain ⟨_, rfl⟩ := inside.unique (inside.arity_eq ▸ placed)
    omega

theorem Decoder.Regular.moved {decoder : Decoder} {cursor : Int} (regular : decoder.Regular)
    (later : decoder.cursor ≤ cursor) : { decoder with cursor }.Regular where
  bounded := regular.bounded
  cursor_nonneg := Int.le_trans regular.cursor_nonneg later
  placed := by
    rcases regular.placed with outside | ⟨address, activation, inside, few⟩
    · exact .inl outside
    · exact .inr ⟨address, activation, inside.ofSame rfl rfl, Int.le_trans few later⟩

/-! ## What effects leave on the stack -/

theorem Effect.length_apply (address : Int) (operands : List Value) (routine : Routine)
    (effect : Effect) :
    (effect.apply address operands routine).operands.length ≤ operands.length + 1 := by
  cases effect <;> simp [Effect.apply]

theorem Effect.locals_apply (address : Int) (operands : List Value) (routine : Routine)
    (effect : Effect) :
    (effect.apply address operands routine).routine.locals = routine.locals := by
  cases effect <;> rfl

namespace Activation

variable {scenario : Scenario} {arity : Int → Option Int} {address : Int}
  {activation : Activation} {effect : Effect} {rest : List Value}

theorem suffix_of_taking {count : Nat} {make : List Value → Effect}
    (taken : activation.taking count make = .ok (effect, rest)) : rest <:+ activation.operands := by
  unfold taking at taken
  split at taken
  · cases taken
    exact List.drop_suffix _ _
  · cases taken

theorem suffix_of_outcome {operation : Operation}
    (outcome : activation.outcome scenario arity address operation = .ok (effect, rest)) :
    rest <:+ activation.operands := by
  obtain ⟨operands, routine⟩ := activation
  have one : ∀ value, rest <:+ value :: rest := fun value => List.suffix_cons value rest
  have two : ∀ value key, rest <:+ value :: key :: rest := fun value key => ⟨[value, key], rfl⟩
  cases operation with
  | call target =>
      simp only [Activation.outcome] at outcome
      cases known : arity target <;> rw [known] at outcome
      · cases outcome
      · exact suffix_of_taking outcome
  | syscall id =>
      simp only [Activation.outcome] at outcome
      cases known : scenario.syscall? id <;> rw [known] at outcome
      · cases outcome
      · exact suffix_of_taking outcome
  | branch | pushGlobalEntry | popGlobal | unary =>
      cases operands <;> cases outcome
      exact one _
  | pushSlot index =>
      simp only [Activation.outcome] at outcome
      cases found : routine.slot index <;> rw [found] at outcome <;> cases outcome
      exact List.suffix_refl _
  | pushLocalEntry index | popSlot index =>
      simp only [Activation.outcome] at outcome
      cases found : routine.slot index <;> rw [found] at outcome <;> cases operands <;>
        cases outcome
      exact one _
  | copyTop =>
      cases operands with
      | nil =>
          simp only [Activation.outcome] at outcome
          split at outcome <;> cases outcome
          exact List.suffix_refl _
      | cons value below =>
          cases outcome
          exact List.suffix_refl _
  | popGlobalEntry | binary =>
      rcases operands with _ | ⟨value, _ | ⟨key, below⟩⟩
      · cases outcome
      · cases outcome
      · cases outcome
        exact two _ _
  | popLocalEntry index =>
      rcases operands with _ | ⟨value, _ | ⟨key, below⟩⟩
      · cases outcome
      · cases outcome
      · simp only [Activation.outcome] at outcome
        cases found : routine.slot index <;> rw [found] at outcome <;> cases outcome
        exact two _ _
  | _ =>
      cases outcome
      exact List.suffix_refl _

theorem length_of_outcome {operation : Operation}
    (outcome : activation.outcome scenario arity address operation = .ok (effect, rest)) :
    (effect.apply address rest activation.routine).operands.length ≤
      activation.operands.length + 1 := by
  have applied := Effect.length_apply address rest activation.routine effect
  have left := (suffix_of_outcome outcome).length_le
  omega

end Activation

/-! ## Steps at a regular decoder -/

namespace Decode

/-- What a step of interpretation can do. -/
inductive Played (scenario : Scenario) (before : Decoder) : Result Fault Decoder Unit → Prop where
  | unreadable {fault : ContainerFault} {after : Decoder}
      (table : after.routines = before.routines) (frame : after.frame = before.frame) :
      Played scenario before (.error (.container fault) after)
  | idle {after : Decoder}
      (table : after.routines = before.routines) (frame : after.frame = before.frame)
      (quiet : scenario.opcodeAt? before.cursor = none ∨
        scenario.opcodeAt? before.cursor = some .nop) :
      Played scenario before (.ok () after)
  | entered {routine : Routine} {after : Decoder}
      (starts : scenario.opcodeAt? before.cursor = some .initStack)
      (found : before.routines.find? before.cursor = some routine)
      (table : after.routines = before.routines)
      (inside : after.Inside before.routines.arity before.cursor ⟨[], routine⟩) :
      Played scenario before (.ok () after)
  | missing {after : Decoder}
      (starts : scenario.opcodeAt? before.cursor = some .initStack)
      (absent : before.routines.find? before.cursor = none)
      (table : after.routines = before.routines) (frame : after.frame = before.frame) :
      Played scenario before (.error (.routineNotFound before.cursor) after)
  | stray {opcode : Opcode} {operation : Operation} {fault : Fault} {after : Decoder}
      (located : scenario.opcodeAt? before.cursor = some opcode)
      (denotes : opcode.Denotes operation) (outside : before.frame = none)
      (failure : strayFault scenario after before.cursor operation = some fault)
      (table : after.routines = before.routines) (frame : after.frame = before.frame) :
      Played scenario before (.error fault after)
  | effected {opcode : Opcode} {operation : Operation} {address : Int} {activation : Activation}
      {effect : Effect} {rest : List Value} {after : Decoder}
      (located : scenario.opcodeAt? before.cursor = some opcode)
      (denotes : opcode.Denotes operation)
      (inside : before.Inside before.routines.arity address activation)
      (few : (activation.operands.length : Int) ≤ before.cursor)
      (outcome : activation.outcome scenario before.routines.arity before.cursor operation =
        .ok (effect, rest))
      (left : after.Inside before.routines.arity address
        (effect.apply before.cursor rest activation.routine))
      (table : after.routines = before.routines.modify address fun _ =>
        (effect.apply before.cursor rest activation.routine).routine)
      (plain : opcode ≠ .initStack) :
      Played scenario before (.ok () after)
  | failed {opcode : Opcode} {operation : Operation} {address : Int} {activation : Activation}
      {fault : Fault} {rest : List Value} {after : Decoder}
      (located : scenario.opcodeAt? before.cursor = some opcode)
      (denotes : opcode.Denotes operation)
      (inside : before.Inside before.routines.arity address activation)
      (few : (activation.operands.length : Int) ≤ before.cursor)
      (outcome : activation.outcome scenario before.routines.arity before.cursor operation =
        .error fault)
      (below : rest <:+ activation.operands)
      (left : after.Inside before.routines.arity address ⟨rest, activation.routine⟩)
      (table : after.routines = before.routines) :
      Played scenario before (.error fault after)

theorem played_interpretStep (scenario : Scenario) {before : Decoder} (regular : before.Regular) :
    Played scenario before ((interpretStep scenario).run before) := by
  have interpreted := run_interpretStep scenario before
  generalize (interpretStep scenario).run before = result at interpreted
  cases interpreted with
  | unreadable => exact .unreadable rfl rfl
  | skipped absent => exact .idle rfl rfl (.inl absent)
  | @executed opcode operation size located denotes length fits =>
      -- The instruction runs with the cursor behind it; nothing else differs from `before`.
      generalize reached : { before with cursor := before.cursor + 1 + size } = start
      have table : start.routines = before.routines := by rw [← reached]
      have frame : start.frame = before.frame := by rw [← reached]
      by_cases starts : operation = .enter
      · subst starts
        have opcodeStarts := denotes.enter_iff.mp rfl
        subst opcodeStarts
        cases found : before.routines.find? before.cursor with
        | none =>
            rw [run_execute_enter_none (table ▸ found)]
            exact .missing located found table frame
        | some routine =>
            have startFound : start.routines.find? before.cursor = some routine := table ▸ found
            obtain ⟨after, ran, same, inside⟩ :=
              run_execute_enter scenario startFound (regular.bounded _ _ found).1
            rw [ran]
            exact .entered located found (same.trans table) (table ▸ inside)
      · rcases regular.placed with outside | ⟨address, activation, inside, few⟩
        · rw [run_execute_outside (frame ▸ outside) scenario _ operation starts]
          cases failure : strayFault scenario start before.cursor operation with
          | none =>
              have still := nop_of_strayFault starts failure
              exact .idle table frame (.inr (located.trans (congrArg some (denotes.nop still))))
          | some fault => exact .stray located denotes outside failure table frame
        · have startInside := inside.ofSame table frame
          cases ends_execute scenario before.routines.arity before.cursor operation starts
            denotes.slotSigned activation with
          | ok outcome ends =>
              obtain ⟨after, ran, left, changed⟩ := ends start address startInside
              rw [ran]
              exact .effected located denotes inside few outcome left (table ▸ changed)
                (fun begins => starts (denotes.enter_iff.mpr begins))
          | error outcome below ends =>
              obtain ⟨after, ran, left, changed⟩ := ends start address startInside
              rw [ran]
              refine .failed located denotes inside few outcome below left ?_
              rw [changed, table]
              exact OrderedMap.modify_self inside.found

/-- Interpretation stays at regular decoders and leaves the arities of the routines. -/
theorem regular_interpretStep {scenario : Scenario} {before after : Decoder}
    (regular : before.Regular) (stepped : (interpretStep scenario).run before = .ok () after) :
    after.Regular ∧ after.routines.arity = before.routines.arity := by
  have moved := moves_interpretStep scenario before after stepped
  have nonneg := regular.cursor_nonneg
  have played := played_interpretStep scenario regular
  rw [stepped] at played
  cases played with
  | idle table frame =>
      refine ⟨⟨table ▸ regular.bounded, by omega, ?_⟩, by rw [table]⟩
      rcases regular.placed with outside | ⟨address, activation, inside, few⟩
      · exact .inl (frame ▸ outside)
      · refine .inr ⟨address, activation, ?_, by omega⟩
        rw [table]
        exact inside.ofSame table frame
  | entered starts found table inside =>
      refine ⟨⟨table ▸ regular.bounded, by omega, ?_⟩, by rw [table]⟩
      exact .inr ⟨_, _, by rw [table]; exact inside, by simp; omega⟩
  | @effected opcode operation address activation effect rest _ located denotes inside few outcome
      left table =>
      have grown := Activation.length_of_outcome outcome
      refine ⟨⟨?_, by omega, .inr ⟨address, _, left.arity_eq ▸ left, by omega⟩⟩, left.arity_eq⟩
      intro other routine found
      rw [table, OrderedMap.find?_modify] at found
      split at found
      · obtain ⟨_, _, rfl⟩ := Option.map_eq_some_iff.mp found
        rw [Effect.locals_apply]
        exact regular.bounded _ _ inside.found
      · exact regular.bounded _ _ found

end Decode

/-! ## From discovery to interpretation -/

theorem bounded_discoverStep {scenario : Scenario} {before after : Decoder}
    (bounded : before.routines.Bounded)
    (stepped : (Decode.discoverStep scenario).run before = .ok () after) :
    after.routines.Bounded := by
  have discovered := Decode.run_discoverStep scenario before
  rw [stepped] at discovered
  cases discovered with
  | @entered args locals found argsRead localsRead =>
      intro address routine located
      simp only [Decoder.putRoutine, OrderedMap.find?_insert] at located
      split at located
      · cases located
        have small : locals < 256 := (Blob.bounds_of_unsigned localsRead).2.2
        dsimp only
        omega
      · exact bounded _ _ located
  | passed found plain length => exact bounded

theorem found_discoverStep {scenario : Scenario} {before after : Decoder} {address : Int}
    (found : (before.routines.find? address).isSome)
    (stepped : (Decode.discoverStep scenario).run before = .ok () after) :
    (after.routines.find? address).isSome := by
  have discovered := Decode.run_discoverStep scenario before
  rw [stepped] at discovered
  cases discovered with
  | entered located argsRead localsRead =>
      simp only [Decoder.putRoutine, OrderedMap.find?_insert]
      split
      · rfl
      · exact found
  | passed located plain length => exact found

/-- Discovery finds every routine that starts where it passes. -/
theorem found_of_walk {scenario : Scenario} {stop : Int} {decoder : Decoder}
    {passed : List Decoder} {result : Result Fault Decoder Unit}
    (walk : Walk stop (Decode.discoverStep scenario) decoder passed result) :
    ∀ last, result = .ok () last → ∀ state ∈ passed,
      scenario.opcodeAt? state.cursor = some .initStack →
      (last.routines.find? state.cursor).isSome := by
  induction walk with
  | finish reached => simp
  | fault inside failed => simp
  | @next decoder after passed result inside stepped rest ih =>
      intro last ended state member starts
      rcases List.mem_cons.mp member with same | later
      · subst same
        have foundHere : (after.routines.find? state.cursor).isSome := by
          have discovered := Decode.run_discoverStep scenario state
          rw [stepped] at discovered
          cases discovered with
          | entered located argsRead localsRead => simp [Decoder.putRoutine]
          | passed located plain length => simp_all
        exact (rest.invariant (fun decoder => (decoder.routines.find? state.cursor).isSome)
          (fun before after found _ stepped => found_discoverStep found stepped)
          foundHere).2 last ended
      · exact ih last ended state later starts

theorem RoutineTable.arity_resetAll (table : RoutineTable) :
    table.resetAll.arity = table.arity := by
  funext address
  simp only [RoutineTable.arity, RoutineTable.resetAll, OrderedMap.find?_mapValues,
    Option.map_map]
  rfl

theorem RoutineTable.bounded_resetAll {table : RoutineTable} (bounded : table.Bounded) :
    table.resetAll.Bounded := by
  intro address routine found
  rw [RoutineTable.resetAll, OrderedMap.find?_mapValues] at found
  obtain ⟨old, located, rfl⟩ := Option.map_eq_some_iff.mp found
  exact bounded address old located

theorem bounded_of_discover {scenario : Scenario} {start found : Decoder}
    (completed : (Decode.discover scenario).run start = .ok () found) :
    found.routines.Bounded := by
  obtain ⟨passed, last, walk, rfl⟩ := walk_of_discover completed
  refine (walk.invariant (fun decoder => decoder.routines.Bounded)
    (fun before after bounded _ stepped => bounded_discoverStep bounded stepped) ?_).2 last rfl
  intro address routine located
  cases located

theorem regular_beforeInterpretation {scenario : Scenario} {start found : Decoder}
    (completed : (Decode.discover scenario).run start = .ok () found) :
    found.beforeInterpretation.Regular where
  bounded := RoutineTable.bounded_resetAll (bounded_of_discover completed)
  cursor_nonneg := by
    simp only [Decoder.beforeInterpretation, Decoder.rewind]
    omega
  placed := .inl rfl

/-- Interpretation after discovery visits regular decoders, and a routine is known wherever it
starts one. -/
theorem regular_of_walk {blob : Blob} {encoding : Encoding} {scenario : Scenario}
    {start found : Decoder} {visited : List Decoder} {ending : Result Fault Decoder Unit}
    (parsed : Scenario.parse blob encoding = .ok scenario)
    (completed : (Decode.discover scenario).run start = .ok () found)
    (walk : Walk scenario.streamEnd (Decode.interpretStep scenario) found.beforeInterpretation
      visited ending) :
    ∀ state ∈ visited, state.Regular ∧ (scenario.opcodeAt? state.cursor = some .initStack →
      (state.routines.find? state.cursor).isSome) := by
  have regularWalk := (walk.invariant
    (fun decoder => decoder.Regular ∧ decoder.routines.arity = found.routines.arity)
    (fun before after holds _ stepped =>
      have next := Decode.regular_interpretStep holds.1 stepped
      ⟨next.1, next.2.trans holds.2⟩)
    ⟨regular_beforeInterpretation completed, RoutineTable.arity_resetAll _⟩).1
  obtain ⟨passed, last, discovery, rfl⟩ := walk_of_discover completed
  have ahead := (follows_of_passes parsed discovery walk).1
  intro state member
  obtain ⟨regular, arity⟩ := regularWalk state member
  refine ⟨regular, fun starts => ?_⟩
  obtain ⟨passing, passes, same⟩ := List.mem_map.mp (ahead.subset (List.mem_map_of_mem member))
  have known := found_of_walk discovery last rfl passing passes (same ▸ starts)
  have entry := congrFun arity state.cursor
  simp only [RoutineTable.arity, Decoder.afterDiscovery] at entry
  rw [same] at known
  rw [← Option.isSome_map, entry, Option.isSome_map]
  exact known

end SceneCode
