import SceneCode.Proofs.Fetch
import SceneCode.Proofs.Layout
import SceneCode.Proofs.OrderedMap
import SceneCode.Proofs.Walk

/-!
# Text and the rest of a program

A text encoding influences nothing but text.  `eraseText` empties the texts that come from the file:
the title, the names of system calls and string constants.  Every operation on values, operand
stacks and routines commutes with it.

`Alike` compares two runs: from decoders that are the same without texts, both succeed or both fail
with the same fault, and the decoders they leave are again the same without texts.  The steps of a
pass compose, so the two runs of a whole disassembly are alike, whatever the encodings are.
-/

set_option autoImplicit false

namespace SceneCode

open EStateM (Result)

/-! ## Erasing texts -/

def Constant.eraseText : Constant → Constant
  | .text _ => .text ""
  | constant => constant

def Value.eraseText : Value → Value
  | .slot name constant => .slot name constant.eraseText
  | value => value

def Action.eraseText : Action → Action
  | .call target args => .call target (args.map Value.eraseText)
  | .syscall _ args => .syscall "" (args.map Value.eraseText)
  | .ret hasValue => .ret hasValue
  | .jump target => .jump target
  | .branch target condition => .branch target condition.eraseText
  | .globalTableAccess table key => .globalTableAccess table.eraseText key.eraseText
  | .localTableAccess table key => .localTableAccess table.eraseText key.eraseText
  | .binary operator left right => .binary operator left.eraseText right.eraseText
  | .unary operator operand => .unary operator operand.eraseText
  | .assign target value => .assign target.eraseText value.eraseText
  | .bare => .bare

def Statement.eraseText (statement : Statement) : Statement :=
  { statement with action := statement.action.eraseText }

def Routine.eraseText (routine : Routine) : Routine :=
  { routine with arena := routine.arena.map Statement.eraseText }

def RoutineTable.eraseText (table : RoutineTable) : RoutineTable :=
  table.mapValues Routine.eraseText

def Program.eraseText (program : Program) : Program :=
  { program with title := "", routines := program.routines.eraseText }

def OperandStack.eraseText (stack : OperandStack) : OperandStack :=
  { stack with slots := stack.slots.map Value.eraseText }

def Frame.eraseText (frame : Frame) : Frame :=
  { frame with
    stack := frame.stack.eraseText
    detached := frame.detached.map Routine.eraseText }

def Decoder.eraseText (decoder : Decoder) : Decoder :=
  { decoder with
    routines := decoder.routines.eraseText
    frame := decoder.frame.map Frame.eraseText }

/-! ## Operations commute with erasing -/

theorem Value.ofLocal_eraseText (index : Int) (constant : Constant) :
    (ofLocal index constant).map eraseText = ofLocal index constant.eraseText := by
  unfold ofLocal
  split
  · rfl
  · split <;> rfl

theorem Value.ofArg_eraseText (index : Int) (constant : Constant) :
    (ofArg index constant).map eraseText = ofArg index constant.eraseText := by
  unfold ofArg
  split
  · rfl
  · split <;> rfl

namespace OperandStack

theorem named_eraseText (position : Int) (constant : Constant) :
    (named position constant).map Value.eraseText = named position constant.eraseText := by
  unfold named
  split
  · exact Value.ofLocal_eraseText position constant
  · rfl

@[simp] theorem top_eraseText (stack : OperandStack) : stack.eraseText.top = stack.top := rfl

@[simp] theorem locals_eraseText (stack : OperandStack) : stack.eraseText.locals = stack.locals :=
  rfl

theorem start_eraseText (locals args : Int) :
    (start locals args).eraseText = start locals args := by
  simp [eraseText, start, unset, Function.comp_def, Value.eraseText, Constant.eraseText]

theorem slotAt_eraseText (stack : OperandStack) (position : Int) :
    (stack.slotAt position).map Value.eraseText = stack.eraseText.slotAt position := by
  unfold slotAt
  split
  · rfl
  · simp only [eraseText, Array.getElem?_map]
    cases stack.slots[position.toNat]? with
    | none => rfl
    | some value => rfl

theorem push_eraseText (stack : OperandStack) (value : Value) :
    (stack.push value).map eraseText = stack.eraseText.push value.eraseText := by
  unfold push
  by_cases negative : stack.top < 0
  · simp [negative, Except.map]
  · by_cases inside : stack.top < stack.slots.size
    · simp [negative, inside, eraseText, Except.map]
    · simp [negative, inside, eraseText, Except.map]

theorem pushConstant_eraseText (stack : OperandStack) (constant : Constant) :
    (stack.pushConstant constant).map eraseText =
      stack.eraseText.pushConstant constant.eraseText := by
  unfold pushConstant
  rw [top_eraseText, ← named_eraseText]
  cases named stack.top constant with
  | error fault => rfl
  | ok value => exact push_eraseText stack value

theorem get_eraseText (stack : OperandStack) (index : Int) :
    (stack.get index).map Value.eraseText = stack.eraseText.get index := by
  unfold get
  rw [locals_eraseText]
  split
  · exact slotAt_eraseText stack index
  · split
    · exact Value.ofArg_eraseText index .nil
    · split <;> rfl

theorem denotes_eraseText (stack : OperandStack) (index : Int) :
    stack.eraseText.denotes index = stack.denotes index := rfl

theorem copyTop_eraseText (stack : OperandStack) :
    stack.copyTop.map eraseText = stack.eraseText.copyTop := by
  unfold copyTop
  rw [top_eraseText, ← slotAt_eraseText]
  split
  · rfl
  · cases stack.slotAt (stack.top - 1) with
    | error fault => rfl
    | ok value => exact push_eraseText stack value

theorem pop_eraseText (stack : OperandStack) :
    stack.pop.map (fun popped => (popped.1.eraseText, popped.2.eraseText)) =
      stack.eraseText.pop := by
  unfold pop
  rw [top_eraseText, locals_eraseText, ← slotAt_eraseText]
  split
  · rfl
  · cases stack.slotAt (stack.top - 1) with
    | error fault => rfl
    | ok value =>
        simp [Except.map, bind, Except.bind, pure, Except.pure, eraseText, unset, Value.eraseText,
          Constant.eraseText]

end OperandStack

namespace Routine

theorem allocate_eraseText (statement : Statement) (routine : Routine) :
    (routine.allocate statement).eraseText =
      routine.eraseText.allocate statement.eraseText := by
  simp [allocate, eraseText]

theorem append_eraseText (statement : Statement) (routine : Routine) :
    (routine.append statement).eraseText = routine.eraseText.append statement.eraseText := by
  simp [append, eraseText]

theorem reset_eraseText (routine : Routine) :
    routine.reset.eraseText = routine.eraseText.reset := by
  simp [reset, eraseText]

end Routine

namespace Decoder

theorem active?_eraseText (decoder : Decoder) :
    decoder.active?.map (fun found => (found.1, found.2.eraseText)) =
      decoder.eraseText.active? := by
  cases framed : decoder.frame with
  | none => simp [active?, eraseText, framed]
  | some frame =>
      cases detached : frame.detached with
      | some routine => simp [active?, eraseText, Frame.eraseText, framed, detached]
      | none =>
          simp only [active?, eraseText, Frame.eraseText, framed, detached, Option.map_some,
            Option.map_none, Option.none_or, Option.bind_eq_bind, Option.bind_some,
            RoutineTable.eraseText, OrderedMap.find?_mapValues]
          cases decoder.routines.find? frame.address with
          | none => rfl
          | some routine => rfl

theorem changeActive_eraseText (decoder : Decoder) {change changed : Routine → Routine}
    (commutes : ∀ routine, (change routine).eraseText = changed routine.eraseText) :
    (decoder.changeActive change).eraseText = decoder.eraseText.changeActive changed := by
  cases framed : decoder.frame with
  | none => simp [changeActive, eraseText, framed]
  | some frame =>
      cases detached : frame.detached with
      | some routine =>
          simp [changeActive, eraseText, Frame.eraseText, framed, detached, commutes]
      | none =>
          simp [changeActive, eraseText, Frame.eraseText, framed, detached,
            RoutineTable.eraseText, OrderedMap.modify_mapValues _ _ commutes]

def enterFrame (decoder : Decoder) (address locals args : Int) : Decoder :=
  { decoder with frame := some { address, stack := OperandStack.start locals args } }

def withStack (decoder : Decoder) (stack : OperandStack) : Decoder :=
  { decoder with frame := decoder.frame.map fun (frame : Frame) => { frame with stack } }

theorem withStack_eraseText (stack : OperandStack) (decoder : Decoder) :
    (decoder.withStack stack).eraseText = decoder.eraseText.withStack stack.eraseText := by
  cases framed : decoder.frame with
  | none => simp [withStack, eraseText, framed]
  | some frame => simp [withStack, eraseText, Frame.eraseText, framed]

end Decoder

/-! ## Two runs -/

/-- Options that are the same under a map are both there or both not. -/
theorem cases_of_map_eq {α β : Type} {erase : α → β} {first second : Option α}
    (same : first.map erase = second.map erase) :
    (first = none ∧ second = none) ∨
      ∃ value other, first = some value ∧ second = some other ∧ erase value = erase other := by
  cases first with
  | none => exact .inl ⟨rfl, Option.map_eq_none_iff.mp same.symm⟩
  | some value =>
      obtain ⟨other, found, erased⟩ := Option.map_eq_some_iff.mp same.symm
      exact .inr ⟨value, other, rfl, found, erased.symm⟩

/-- Answers that are the same under a map are the same fault or both successful. -/
theorem cases_of_answer_eq {ε α β : Type} {erase : α → β} {first second : Except ε α}
    (same : first.map erase = second.map erase) :
    (∃ fault, first = .error fault ∧ second = .error fault) ∨
      ∃ value other, first = .ok value ∧ second = .ok other ∧ erase value = erase other := by
  cases first with
  | error fault =>
      cases second with
      | error other =>
          cases same
          exact .inl ⟨fault, rfl, rfl⟩
      | ok other => cases same
  | ok value =>
      cases second with
      | error other => cases same
      | ok other => exact .inr ⟨value, other, rfl, rfl, Except.ok.inj same⟩

/-- Two runs end alike: with values in a relation or with the same fault, and at decoders that are
the same without texts. -/
inductive EndAlike {α : Type} (Same : α → α → Prop) :
    Result Fault Decoder α → Result Fault Decoder α → Prop where
  | ok {value other : α} {left right : Decoder} (values : Same value other)
      (decoders : left.eraseText = right.eraseText) :
      EndAlike Same (.ok value left) (.ok other right)
  | error {fault : Fault} {left right : Decoder}
      (decoders : left.eraseText = right.eraseText) :
      EndAlike Same (.error fault left) (.error fault right)

/-- From decoders that are the same without texts, two steps end alike. -/
def Alike {α : Type} (Same : α → α → Prop) (first second : Decode α) : Prop :=
  ∀ left right : Decoder, left.eraseText = right.eraseText →
    EndAlike Same (first.run left) (second.run right)

section

variable {α β : Type} {Same : α → α → Prop}

theorem alike_pure {value other : α} (same : Same value other) :
    Alike Same (pure value : Decode α) (pure other) :=
  fun _ _ decoders => .ok same decoders

theorem alike_throw (fault : Fault) : Alike Same (throw fault : Decode α) (throw fault) :=
  fun _ _ decoders => .error decoders

theorem alike_get : Alike (InvImage Eq Decoder.eraseText) (get : Decode Decoder) get :=
  fun _ _ decoders => .ok decoders decoders

theorem alike_modify (changed : Decoder → Decoder) {change other : Decoder → Decoder}
    (commutes : ∀ decoder, (change decoder).eraseText = changed decoder.eraseText)
    (otherCommutes : ∀ decoder, (other decoder).eraseText = changed decoder.eraseText) :
    Alike Eq (modify change : Decode Unit) (modify other) := by
  intro left right decoders
  refine .ok rfl ?_
  rw [commutes, otherCommutes, decoders]

theorem Alike.bind {first second : Decode α} {next other : α → Decode β} {Next : β → β → Prop}
    (alike : Alike Same first second)
    (nextAlike : ∀ value found, Same value found → Alike Next (next value) (other found)) :
    Alike Next (first >>= next) (second >>= other) := by
  intro left right decoders
  have ended := alike left right decoders
  rw [EStateM.run_bind, EStateM.run_bind]
  revert ended
  generalize first.run left = firstEnd
  generalize second.run right = secondEnd
  intro ended
  cases ended with
  | ok values after => exact nextAlike _ _ values _ _ after
  | error after => exact .error after

theorem Alike.discarded {first second : Decode α} (alike : Alike Same first second) :
    Alike Eq (discard first) (discard second) := by
  intro left right decoders
  have ended := alike left right decoders
  rw [Decode.run_discard, Decode.run_discard]
  revert ended
  generalize first.run left = firstEnd
  generalize second.run right = secondEnd
  intro ended
  cases ended with
  | ok values after => exact .ok rfl after
  | error after => exact .error after

end

namespace Decode

variable {α β : Type}

theorem alike_report (d : Diagnostic) : Alike Eq (report d) (report d) :=
  alike_modify (fun decoder => { decoder with log := decoder.log.push d })
    (fun _ => rfl) (fun _ => rfl)

theorem alike_advance (count : Nat) : Alike Eq (advance count) (advance count) :=
  alike_modify (fun decoder => { decoder with cursor := decoder.cursor + count })
    (fun _ => rfl) (fun _ => rfl)

theorem alike_cursor : Alike Eq cursor cursor :=
  alike_get.bind fun _ _ same => alike_pure (congrArg Decoder.cursor same :)

/-- Answers that are the same under `erase` stay so when they are lifted into a step. -/
theorem alike_lift {ε : Type} {lift : Except ε α → Decode α} {cause : ε → Fault} {erase : α → β}
    (succeeds : ∀ value, lift (.ok value) = pure value)
    (fails : ∀ fault, lift (.error fault) = throw (cause fault)) {answer other : Except ε α}
    (same : answer.map erase = other.map erase) :
    Alike (InvImage Eq erase) (lift answer) (lift other) := by
  obtain ⟨fault, rfl, rfl⟩ | ⟨value, found, rfl, rfl, values⟩ := cases_of_answer_eq same
  · rw [fails]
    exact alike_throw _
  · rw [succeeds, succeeds]
    exact alike_pure values

theorem alike_ofRead {erase : α → β} {answer other : Except ContainerFault α}
    (same : answer.map erase = other.map erase) :
    Alike (InvImage Eq erase) (ofRead answer) (ofRead other) :=
  alike_lift (fun _ => rfl) (fun _ => rfl) same

theorem alike_ofStack {erase : α → β} {answer other : Except Fault α}
    (same : answer.map erase = other.map erase) :
    Alike (InvImage Eq erase) (ofStack answer) (ofStack other) :=
  alike_lift (fun _ => rfl) (fun _ => rfl) same

theorem alike_take {erase : α → β} {width : Nat} {read other : Int → Except ContainerFault α}
    (same : ∀ offset, (read offset).map erase = (other offset).map erase) :
    Alike (InvImage Eq erase) (take width read) (take width other) := by
  refine alike_cursor.bind fun offset _ here => ?_
  subst here
  refine (alike_ofRead (same offset)).bind fun value found values => ?_
  exact (alike_advance width).bind fun _ _ _ => alike_pure values

/-- The same read in both runs. -/
theorem alike_takeSame (width : Nat) (read : Int → Except ContainerFault α) :
    Alike Eq (take width read) (take width read) :=
  have same : ∀ offset, (read offset).map id = (read offset).map id := fun _ => rfl
  alike_take same

/-- The two runs may read different texts, but they fail at the same ones. -/
theorem alike_takeText {first second : Scenario} (blob : first.blob = second.blob) :
    Alike (InvImage Eq fun _ => ()) (takeText first) (takeText second) := by
  unfold takeText takeUnsigned
  rw [blob]
  refine (alike_takeSame 1 _).bind fun length _ same => ?_
  subst same
  refine alike_take fun offset => ?_
  unfold Scenario.text
  rw [blob]
  cases second.blob.bytes offset length with
  | error fault => rfl
  | ok bytes => rfl

/-! ### The operand stack -/

theorem alike_operandStack :
    Alike (InvImage Eq OperandStack.eraseText) operandStack operandStack := by
  refine alike_get.bind fun left right same => ?_
  have frames : left.frame.map Frame.eraseText = right.frame.map Frame.eraseText :=
    congrArg Decoder.frame same
  obtain ⟨leftNone, rightNone⟩ | ⟨frame, other, leftSome, rightSome, erased⟩ :=
    cases_of_map_eq frames
  · simp only [leftNone, rightNone]
    refine alike_cursor.bind fun cursor _ here => ?_
    subst here
    exact alike_throw _
  · simp only [leftSome, rightSome]
    exact alike_pure (congrArg Frame.stack erased :)

theorem alike_setStack {stack other : OperandStack} (same : stack.eraseText = other.eraseText) :
    Alike Eq (setStack stack) (setStack other) := by
  refine alike_modify (·.withStack stack.eraseText) (Decoder.withStack_eraseText stack) ?_
  rw [same]
  exact Decoder.withStack_eraseText other

/-- A new stack that is the same without texts, or the same fault, in both runs. -/
theorem alike_restack {answer other : Except Fault OperandStack}
    (same : answer.map OperandStack.eraseText = other.map OperandStack.eraseText) :
    Alike Eq (ofStack answer >>= setStack) (ofStack other >>= setStack) :=
  (alike_ofStack same).bind fun _ _ after => alike_setStack after

theorem alike_push {value other : Value} (same : value.eraseText = other.eraseText) :
    Alike Eq (push value) (push other) := by
  refine alike_operandStack.bind fun left right erasedStacks => alike_restack ?_
  rw [OperandStack.push_eraseText, OperandStack.push_eraseText, same]
  exact congrArg (OperandStack.push · _) erasedStacks

theorem alike_pushConstant {constant other : Constant}
    (same : constant.eraseText = other.eraseText) :
    Alike Eq (pushConstant constant) (pushConstant other) := by
  refine alike_operandStack.bind fun left right erasedStacks => alike_restack ?_
  rw [OperandStack.pushConstant_eraseText, OperandStack.pushConstant_eraseText, same]
  exact congrArg (OperandStack.pushConstant · _) erasedStacks

theorem alike_pop : Alike (InvImage Eq Value.eraseText) pop pop := by
  refine alike_operandStack.bind fun left right erasedStacks => ?_
  have popped : left.pop.map (fun popped => (popped.1.eraseText, popped.2.eraseText)) =
      right.pop.map (fun popped => (popped.1.eraseText, popped.2.eraseText)) := by
    rw [OperandStack.pop_eraseText, OperandStack.pop_eraseText]
    exact congrArg OperandStack.pop erasedStacks
  refine (alike_ofStack popped).bind fun found other same => ?_
  obtain ⟨values, after⟩ := Prod.mk.inj (same :)
  exact (alike_setStack after).bind fun _ _ _ => alike_pure values

theorem alike_popMany (count : Nat) :
    Alike (InvImage Eq (List.map Value.eraseText)) (popMany count) (popMany count) := by
  induction count with
  | zero => exact alike_pure rfl
  | succ count ih =>
      refine alike_pop.bind fun first other values => ih.bind fun rest others more => ?_
      exact alike_pure (List.cons_eq_cons.mpr ⟨values, more⟩)

theorem alike_reportSlot {left right : OperandStack} (index : Int)
    (erased : left.eraseText = right.eraseText) :
    Alike Eq (reportSlot left index) (reportSlot right index) := by
  have locals : left.locals = right.locals := (congrArg OperandStack.locals erased :)
  unfold reportSlot
  rw [← left.denotes_eraseText, erased, right.denotes_eraseText, locals]
  split
  · exact alike_pure rfl
  · exact alike_report _

theorem alike_slot (index : Int) :
    Alike (InvImage Eq Value.eraseText) (slot index) (slot index) := by
  refine alike_operandStack.bind fun left right erasedStacks => ?_
  have found : (left.get index).map Value.eraseText = (right.get index).map Value.eraseText := by
    rw [OperandStack.get_eraseText, OperandStack.get_eraseText]
    exact congrArg (OperandStack.get · index) erasedStacks
  exact (alike_reportSlot index erasedStacks).bind fun _ _ _ => alike_ofStack found

theorem alike_copyTop : Alike Eq copyTop copyTop := by
  refine alike_operandStack.bind fun left right erasedStacks => ?_
  refine (alike_report _).bind fun _ _ _ => alike_restack ?_
  rw [OperandStack.copyTop_eraseText, OperandStack.copyTop_eraseText]
  exact congrArg OperandStack.copyTop erasedStacks

/-! ### The routine that is being decoded -/

theorem alike_routineAt (address : Int) :
    Alike (InvImage Eq Routine.eraseText) (routineAt address) (routineAt address) := by
  refine alike_get.bind fun left right same => ?_
  have tables : left.routines.eraseText = right.routines.eraseText :=
    congrArg Decoder.routines same
  have found := congrArg (OrderedMap.find? · address) tables
  simp only [RoutineTable.eraseText, OrderedMap.find?_mapValues] at found
  obtain ⟨leftNone, rightNone⟩ | ⟨routine, other, leftSome, rightSome, erased⟩ :=
    cases_of_map_eq found
  · simp only [leftNone, rightNone]
    exact alike_throw _
  · simp only [leftSome, rightSome]
    exact alike_pure erased

theorem alike_changeActive {change other : Routine → Routine} (changed : Routine → Routine)
    (commutes : ∀ routine, (change routine).eraseText = changed routine.eraseText)
    (otherCommutes : ∀ routine, (other routine).eraseText = changed routine.eraseText) :
    Alike (InvImage Eq Routine.eraseText) (changeActive change) (changeActive other) := by
  refine alike_get.bind fun left right same => ?_
  have active : left.active?.map (fun found => (found.1, found.2.eraseText)) =
      right.active?.map (fun found => (found.1, found.2.eraseText)) := by
    rw [Decoder.active?_eraseText, Decoder.active?_eraseText]
    exact congrArg Decoder.active? same
  obtain ⟨leftNone, rightNone⟩ | ⟨routine, found, leftSome, rightSome, erased⟩ :=
    cases_of_map_eq active
  · simp only [leftNone, rightNone]
    exact alike_throw _
  · simp only [leftSome, rightSome]
    obtain ⟨_, routines⟩ := Prod.mk.inj erased
    refine (alike_modify (·.changeActive changed) ?_ ?_).bind fun _ _ _ => alike_pure routines
    · exact fun decoder => decoder.changeActive_eraseText commutes
    · exact fun decoder => decoder.changeActive_eraseText otherCommutes

theorem alike_allocate (address : Int) {action other : Action}
    (same : action.eraseText = other.eraseText) :
    Alike (InvImage Eq Value.eraseText) (allocate ⟨address, action⟩)
      (allocate ⟨address, other⟩) := by
  have statements : (Statement.mk address other).eraseText =
      (Statement.mk address action).eraseText := congrArg (Statement.mk address) same.symm
  have changed := alike_changeActive (·.allocate (Statement.mk address action).eraseText)
    (Routine.allocate_eraseText ⟨address, action⟩)
    (statements ▸ Routine.allocate_eraseText ⟨address, other⟩)
  refine changed.bind fun left right routines => alike_pure ?_
  have arenas : left.arena.map Statement.eraseText = right.arena.map Statement.eraseText :=
    congrArg Routine.arena (routines :)
  have sizes := congrArg Array.size arenas
  rw [Array.size_map, Array.size_map] at sizes
  rw [InvImage, sizes]

theorem alike_pushExpr (address : Int) {action other : Action}
    (same : action.eraseText = other.eraseText) :
    Alike Eq (pushExpr address action) (pushExpr address other) :=
  (alike_allocate address same).bind fun _ _ values => alike_push values

theorem alike_emit (address : Int) {action other : Action}
    (same : action.eraseText = other.eraseText) :
    Alike Eq (emit ⟨address, action⟩) (emit ⟨address, other⟩) := by
  have statements : (Statement.mk address other).eraseText =
      (Statement.mk address action).eraseText := congrArg (Statement.mk address) same.symm
  have changed := alike_changeActive (·.append (Statement.mk address action).eraseText)
    (Routine.append_eraseText ⟨address, action⟩)
    (statements ▸ Routine.append_eraseText ⟨address, other⟩)
  refine alike_get.bind fun left right same => ?_
  have frames : left.frame.map Frame.eraseText = right.frame.map Frame.eraseText :=
    congrArg Decoder.frame (same :)
  have bothInside : left.frame.isNone = right.frame.isNone := by
    simpa using congrArg Option.isNone frames
  dsimp only
  rw [bothInside]
  split
  · have stray : Alike Eq (throw (.strayStatement address) : Decode Unit)
        (throw (.strayStatement address)) := alike_throw _
    exact stray.bind fun _ _ _ => changed.discarded
  · exact changed.discarded

theorem alike_enter (address : Int) : Alike Eq (enter address) (enter address) := by
  refine (alike_routineAt address).bind fun left right routines => ?_
  have erased : left.eraseText = right.eraseText := routines
  have args : left.args = right.args := (congrArg Routine.args erased :)
  have locals : left.locals = right.locals := (congrArg Routine.locals erased :)
  have commutes : ∀ decoder : Decoder,
      (decoder.enterFrame address right.locals right.args).eraseText =
        decoder.eraseText.enterFrame address right.locals right.args := by
    intro decoder
    simp [Decoder.enterFrame, Decoder.eraseText, Frame.eraseText, OperandStack.start_eraseText]
  dsimp only
  rw [args, locals]
  exact alike_modify (·.enterFrame address right.locals right.args) commutes commutes

end Decode

/-! ## Two disassemblies -/

/-- Two scenarios that differ in texts only. -/
structure Scenario.Alike (first second : Scenario) : Prop where
  blob : first.blob = second.blob
  streamEnd : first.streamEnd = second.streamEnd
  entryPoint : first.entryPoint = second.entryPoint
  arity : ∀ id, (first.syscall? id).map Syscall.args = (second.syscall? id).map Syscall.args

theorem Scenario.alike_ofRaw (blob : Blob) (first second : Encoding) (raw : Nat × RawDescription) :
    (ofRaw blob first raw).Alike (ofRaw blob second raw) where
  blob := rfl
  streamEnd := rfl
  entryPoint := rfl
  arity id := by
    unfold syscall?
    split
    · rfl
    · simp only [ofRaw, RawDescription.decode, List.getElem?_toArray, List.getElem?_mapIdx,
        Option.map_map]
      rfl

/-- Operations that differ in the text they push at most. -/
inductive Operation.Alike : Operation → Operation → Prop where
  | same (operation : Operation) : Alike operation operation
  | text (first second : String) : Alike (.push (.text first)) (.push (.text second))

namespace Decode

variable {first second : Scenario}

theorem alike_operation (alike : first.Alike second) (opcode : Opcode) :
    Alike Operation.Alike (operation first opcode) (operation second opcode) := by
  have plain : ∀ operation, Alike Operation.Alike (pure operation) (pure operation) :=
    fun operation => alike_pure (.same operation)
  have taken : ∀ {α : Type} (make : α → Operation) (width : Nat)
      (read other : Int → Except ContainerFault α), read = other → Alike Operation.Alike
        (do return make (← take width read)) (do return make (← take width other)) := by
    intro α make width read other same
    subst same
    refine (alike_takeSame width read).bind fun value _ same => ?_
    subst same
    exact plain _
  have unsigned := fun make width =>
    taken make width _ _ (congrArg (Blob.unsigned · width) alike.blob)
  have signed := fun make width =>
    taken make width _ _ (congrArg (Blob.signed · width) alike.blob)
  cases opcode with
  | nop => exact plain _
  | initStack => exact (alike_advance _).bind fun _ _ _ => plain _
  | call => exact unsigned .call 4
  | syscall => exact unsigned .syscall 2
  | ret => exact plain _
  | retv => exact plain _
  | jmp => exact unsigned .jump 4
  | jz => exact unsigned .branch 4
  | pushNil => exact plain _
  | pushTrue => exact plain _
  | pushI32 => exact signed (.push <| .int ·) 4
  | pushI16 => exact signed (.push <| .int ·) 2
  | pushI8 => exact signed (.push <| .int ·) 1
  | pushF32 => exact taken (.push <| .float ·) 4 _ _ (congrArg Blob.float alike.blob)
  | pushString =>
      refine (alike_takeText alike.blob).bind fun text other _ => ?_
      exact alike_pure (.text text other)
  | pushGlobal => exact unsigned .pushGlobal 2
  | pushStack => exact signed .pushSlot 1
  | pushGlobalTable => exact unsigned .pushGlobalEntry 2
  | pushLocalTable => exact signed .pushLocalEntry 1
  | pushTop => exact plain _
  | pushReturn => exact plain _
  | popGlobal => exact unsigned .popGlobal 2
  | popStack => exact signed .popSlot 1
  | popGlobalTable => exact unsigned .popGlobalEntry 2
  | popLocalTable => exact signed .popLocalEntry 1
  | unary operator => cases operator; exact plain _
  | binary operator => cases operator <;> exact plain _

theorem alike_execute (alike : first.Alike second) (address : Int) (operation : Operation) :
    Alike Eq (execute first address operation) (execute second address operation) := by
  cases operation with
  | nop => exact alike_pure rfl
  | enter => exact alike_enter address
  | call target =>
      refine (alike_routineAt target).bind fun callee other routines => ?_
      have erased : callee.eraseText = other.eraseText := routines
      have args : callee.args = other.args := (congrArg Routine.args erased :)
      rw [args]
      refine alike_operandStack.discarded.bind fun _ _ _ => ?_
      refine (alike_popMany _).bind fun taken others same => alike_emit address ?_
      exact congrArg (Action.call target) same
  | syscall id =>
      simp only [execute]
      obtain ⟨firstNone, secondNone⟩ | ⟨syscall, other, firstSome, secondSome, args⟩ :=
        cases_of_map_eq (alike.arity id)
      · simp only [firstNone, secondNone]
        exact alike_throw _
      · simp only [firstSome, secondSome, args]
        refine alike_operandStack.discarded.bind fun _ _ _ => ?_
        refine (alike_popMany _).bind fun taken others same => alike_emit address ?_
        exact congrArg (Action.syscall "") same
  | ret hasValue => exact alike_emit address rfl
  | jump target => exact alike_emit address rfl
  | branch target =>
      refine alike_pop.bind fun condition other same => alike_emit address ?_
      exact congrArg (Action.branch target) same
  | push constant => exact alike_pushConstant rfl
  | pushGlobal index => exact alike_push rfl
  | pushSlot index => exact (alike_slot index).bind fun _ _ same => alike_push same
  | pushGlobalEntry table =>
      refine alike_pop.bind fun key other same => alike_pushExpr address ?_
      exact congrArg (Action.globalTableAccess (.global table)) same
  | pushLocalEntry index =>
      refine (alike_slot index).bind fun table other tables => ?_
      refine alike_pop.bind fun key another keys => alike_pushExpr address ?_
      exact (congr (congrArg Action.localTableAccess tables) keys :)
  | copyTop => exact alike_copyTop
  | pushReturn => exact alike_push rfl
  | popGlobal index =>
      refine alike_pop.bind fun value other same => alike_emit address ?_
      exact congrArg (Action.assign (.global index)) same
  | popSlot index =>
      refine alike_pop.bind fun value other values => ?_
      refine (alike_slot index).bind fun target another targets => alike_emit address ?_
      exact (congr (congrArg Action.assign targets) values :)
  | popGlobalEntry table =>
      refine alike_pop.bind fun value other values => alike_pop.bind fun key another keys => ?_
      have entries : (Action.globalTableAccess (.global table) key).eraseText =
          (Action.globalTableAccess (.global table) another).eraseText :=
        congrArg (Action.globalTableAccess (.global table)) keys
      refine (alike_allocate address entries).bind
        fun target entry targets => alike_emit address ?_
      exact (congr (congrArg Action.assign targets) values :)
  | popLocalEntry index =>
      refine alike_pop.bind fun value other values => alike_pop.bind fun key another keys => ?_
      refine (alike_slot index).bind fun table alsoTable tables => ?_
      have entries : (Action.localTableAccess table key).eraseText =
          (Action.localTableAccess alsoTable another).eraseText :=
        (congr (congrArg Action.localTableAccess tables) keys :)
      refine (alike_allocate address entries).bind
        fun target entry targets => alike_emit address ?_
      exact (congr (congrArg Action.assign targets) values :)
  | unary operator =>
      refine alike_pop.bind fun operand other same => alike_pushExpr address ?_
      exact congrArg (Action.unary operator.symbol) same
  | binary operator =>
      refine alike_pop.bind fun right other rights => alike_pop.bind fun left another lefts => ?_
      exact alike_pushExpr address (congr (congrArg (Action.binary operator.symbol) lefts) rights :)

theorem alike_interpretStep (alike : first.Alike second) :
    Alike Eq (interpretStep first) (interpretStep second) := by
  unfold interpretStep takeUnsigned
  rw [alike.blob]
  refine alike_cursor.bind fun address _ here => ?_
  subst here
  refine (alike_takeSame 1 _).bind fun code _ same => ?_
  subst same
  cases Opcode.ofCode? code with
  | none => exact alike_report _
  | some opcode =>
      refine (alike_operation alike opcode).bind fun operation other operations => ?_
      cases operations with
      | same => exact alike_execute alike address operation
      | text text other => exact alike_pushConstant rfl

theorem alike_walk {stop : Int} {step other : Decode Unit} (alike : Alike Eq step other)
    (fuel : Nat) : Alike Eq (walk stop step fuel) (walk stop other fuel) := by
  induction fuel with
  | zero => exact alike_pure rfl
  | succ fuel ih =>
      refine alike_cursor.bind fun address _ here => ?_
      subst here
      split
      · exact alike.bind fun _ _ _ => ih
      · exact alike_pure rfl

theorem alike_interpret (alike : first.Alike second) :
    Alike Eq (interpret first) (interpret second) := by
  unfold interpret
  rw [alike.streamEnd]
  have reset : ∀ decoder : Decoder,
      { decoder with routines := decoder.routines.resetAll }.eraseText =
        { decoder.eraseText with routines := decoder.eraseText.routines.resetAll } := by
    intro decoder
    simp [Decoder.eraseText, RoutineTable.eraseText, RoutineTable.resetAll, OrderedMap.mapValues,
      Routine.reset_eraseText]
  refine (alike_modify Decoder.rewind (fun _ => rfl) (fun _ => rfl)).bind fun _ _ _ => ?_
  refine (alike_modify (fun decoder => { decoder with routines := decoder.routines.resetAll })
    reset reset).bind fun _ _ _ => ?_
  exact alike_walk (alike_interpretStep alike) _

end Decode

/-- Discovery reads no text at all. -/
theorem Scenario.Alike.discover {first second : Scenario} (alike : first.Alike second) :
    Decode.discover first = Decode.discover second := by
  unfold Decode.discover Decode.discoverStep Decode.takeUnsigned
  rw [alike.blob, alike.streamEnd]

theorem disassemble_eraseText (blob : Blob) (first second : Encoding) :
    (disassemble blob first).map Program.eraseText =
      (disassemble blob second).map Program.eraseText := by
  cases read : Scenario.parseRaw blob with
  | error fault =>
      have failed : ∀ encoding, Scenario.parse blob encoding = .error fault := by
        intro encoding
        rw [Scenario.parse_eq_map, read]
        rfl
      rw [disassemble_of_unreadable (failed first), disassemble_of_unreadable (failed second)]
  | ok raw =>
      have parsed : ∀ encoding, Scenario.parse blob encoding =
          .ok (Scenario.ofRaw blob encoding raw) := by
        intro encoding
        rw [Scenario.parse_eq_map, read]
        rfl
      have alike := Scenario.alike_ofRaw blob first second raw
      rw [disassemble_of_parse (parsed first), disassemble_of_parse (parsed second),
        alike.discover]
      cases (Decode.discover (Scenario.ofRaw blob second raw)).run {} with
      | error fault found => rfl
      | ok _ found =>
          have ended := Decode.alike_interpret alike found found rfl
          dsimp only
          revert ended
          generalize (Decode.interpret (Scenario.ofRaw blob first raw)).run found = left
          generalize (Decode.interpret (Scenario.ofRaw blob second raw)).run found = right
          intro ended
          cases ended with
          | error decoders => rfl
          | @ok _ _ left right _ decoders =>
              have routines : left.routines.eraseText = right.routines.eraseText :=
                congrArg Decoder.routines decoders
              have cursors : left.cursor = right.cursor := (congrArg Decoder.cursor decoders :)
              simp only [Except.map, Program.eraseText, routines, cursors, alike.entryPoint]

/-- Whatever the two encodings are, both disassemblies succeed or both fail, programs differ in
texts only, and faults do not differ. -/
theorem encoding_influences_text (blob : Blob) (first second : Encoding) :
    ((∃ program, disassemble blob first = .ok program) ↔
      ∃ program, disassemble blob second = .ok program) ∧
    (∀ program other, disassemble blob first = .ok program →
      disassemble blob second = .ok other → program.eraseText = other.eraseText) ∧
    ∀ fault other, disassemble blob first = .error fault →
      disassemble blob second = .error other → fault = other := by
  obtain ⟨fault, firstFails, secondFails⟩ | ⟨program, other, firstDecoded, secondDecoded, erased⟩ :=
    cases_of_answer_eq (disassemble_eraseText blob first second)
  · simp [firstFails, secondFails]
  · simp [firstDecoded, secondDecoded, erased]

/-- A file whose title is one letter in one encoding and no text in another, and a string constant
with the same byte. -/
def kanaFile : Blob :=
  #[0x0D, 0, 0, 0,
    0x01, 0, 0,  0x0E, 1, 0xB1,  0x15, 0, 0,
    4, 0, 0, 0,  0, 0,  0, 0,  0, 0,  1, 0xB1,  0, 0]

theorem encoding_influences_text_kana :
    ∃ program other, disassemble kanaFile .shiftJis = .ok program ∧
      disassemble kanaFile .utf8 = .ok other ∧ program.title = "ｱ" ∧ other.title ≠ "ｱ" ∧
      program.eraseText = other.eraseText := by
  have decoded : (disassemble kanaFile .shiftJis).toOption.map Program.title = some "ｱ" := by
    decide +kernel
  have otherDecoded : (disassemble kanaFile .utf8).toOption.map Program.title =
      some "\uFFFD" := by
    decide +kernel
  obtain ⟨program, found, title⟩ := Option.map_eq_some_iff.mp decoded
  obtain ⟨other, otherFound, otherTitle⟩ := Option.map_eq_some_iff.mp otherDecoded
  have success := eq_ok_of_toOption found
  have otherSuccess := eq_ok_of_toOption otherFound
  refine ⟨program, other, success, otherSuccess, title, ?_, ?_⟩
  · rw [otherTitle]
    decide
  · exact (encoding_influences_text kanaFile .shiftJis .utf8).2.1 program other success otherSuccess

end SceneCode
