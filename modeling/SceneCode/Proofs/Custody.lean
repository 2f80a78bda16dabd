import SceneCode.Proofs.Closure
import SceneCode.Proofs.Filing
import SceneCode.Proofs.Workbench

/-!
# Operands pass from hand to hand

An instruction takes operands off the stack, holds them for a moment, and puts each of them into
one place: into a statement, into an expression or back on the stack.  `Decoder.Carries` is a
property of the routine that is being decoded together with all values in its charge, those on its
stack and those in the hand of the instruction; taking and pushing move a value between the two and
change nothing.  What is left are the steps that store: `Transfer` says what they need, and every
instruction but the copy of the top keeps the property then (`Transfer.leads_execute`).

This holds of any table of routines and at every failure, so nothing is assumed of the number of
locals.
-/

set_option autoImplicit false

namespace SceneCode

open EStateM (Result)

/-- A value that refers to no expression. -/
def Value.Plain (value : Value) : Prop := ∀ index, value ≠ .expr index

theorem Value.plain_slot (name : String) (constant : Constant) :
    (Value.slot name constant).Plain := nofun

theorem Value.plain_global (index : Int) : (Value.global index).Plain := nofun

theorem Value.plain_returnValue : Value.returnValue.Plain := nofun

theorem Value.plain_or_expr (value : Value) : value.Plain ∨ ∃ index, value = .expr index := by
  cases value with
  | expr index => exact .inr ⟨index, rfl⟩
  | _ => exact .inl nofun

theorem Value.plain_of_ofArg {index : Int} {constant : Constant} {value : Value}
    (made : Value.ofArg index constant = .ok value) : value.Plain := by
  unfold Value.ofArg at made
  split at made
  · cases made
  · split at made
    · cases made
    · cases made
      exact plain_slot _ _

/-! ## Stacks with any number of locals -/

namespace OperandStack

/-- A stack with these operands, the topmost first.  If the number of locals is negative nothing can
be pushed. -/
inductive Bears (stack : OperandStack) : List Value → Prop where
  | holds {locals : Int} {operands : List Value} (holds : stack.Holds locals operands) :
      Bears stack operands
  | stuck (negative : stack.top < 0) (bare : stack.top ≤ stack.locals)
      (empty : stack.slots = #[]) : Bears stack []

theorem bears_start (locals args : Int) : (start locals args).Bears [] := by
  by_cases nonneg : 0 ≤ locals
  · exact .holds (holds_start args nonneg)
  · have none : locals.toNat = 0 := by omega
    exact .stuck (Int.not_le.mp nonneg) (Int.le_refl _) (by simp [start, none])

namespace Bears

variable {stack after : OperandStack} {operands : List Value} {value : Value}

theorem push (bears : stack.Bears operands) (pushed : stack.push value = .ok after) :
    after.Bears (value :: operands) := by
  cases bears with
  | holds holds =>
      obtain ⟨_, succeeds, changed⟩ := holds.push value
      cases pushed.symm.trans succeeds
      exact .holds changed
  | stuck negative => simp [OperandStack.push, negative] at pushed

theorem pop (bears : stack.Bears operands) (popped : stack.pop = .ok (value, after)) :
    ∃ rest, operands = value :: rest ∧ after.Bears rest := by
  cases bears with
  | holds holds =>
      cases operands with
      | nil =>
          rw [holds.pop_nil] at popped
          cases popped
      | cons first rest =>
          obtain ⟨_, succeeds, changed⟩ := holds.pop_cons
          cases popped.symm.trans succeeds
          exact ⟨rest, rfl, .holds changed⟩
  | stuck _ bare => simp [OperandStack.pop, bare] at popped

theorem get (bears : stack.Bears operands) {index : Int} (found : stack.get index = .ok value) :
    value.Plain := by
  unfold OperandStack.get at found
  split at found
  · rename_i inside
    cases bears with
    | holds holds =>
        rw [holds.slotAt_local inside.1 (holds.declared ▸ inside.2)] at found
        cases found
        exact Value.plain_slot _ _
    | stuck _ _ empty => simp [slotAt, empty] at found
  · split at found
    · exact Value.plain_of_ofArg found
    · split at found <;> cases found

/-- The copy is one of an operand, or of a local. -/
theorem copyTop (bears : stack.Bears operands) (copied : stack.copyTop = .ok after) :
    ∃ value, (value ∈ operands ∨ value.Plain) ∧ after.Bears (value :: operands) := by
  cases bears with
  | @holds locals _ holds =>
      cases operands with
      | cons first rest =>
          obtain ⟨_, succeeds, changed⟩ := holds.copyTop_cons
          cases copied.symm.trans succeeds
          exact ⟨first, .inl List.mem_cons_self, .holds changed⟩
      | nil =>
          by_cases none : locals = 0
          · subst none
            rw [holds.copyTop_empty] at copied
            cases copied
          · obtain ⟨_, succeeds, changed⟩ := holds.copyTop_nil none
            cases copied.symm.trans succeeds
            exact ⟨unset (locals - 1), .inr (Value.plain_slot _ _), .holds changed⟩
  | stuck negative _ empty =>
      have nonzero : stack.top ≠ 0 := by omega
      simp [OperandStack.copyTop, slotAt, empty, nonzero, bind, Except.bind] at copied

/-- All other slots are unset. -/
theorem of_mem_slots (bears : stack.Bears operands) (member : value ∈ stack.slots.toList) :
    value ∈ operands ∨ value.Plain := by
  cases bears with
  | holds holds =>
      obtain ⟨spare, slots⟩ := holds.slots
      have unsetPlain : ∀ first count, value ∈ unsetFrom first count → value.Plain := by
        intro first count inside
        obtain ⟨_, _, rfl⟩ := List.mem_map.mp inside
        exact Value.plain_slot _ _
      rw [slots, List.mem_append, List.mem_append, List.mem_reverse] at member
      rcases member with (below | inside) | above
      · exact .inr (unsetPlain _ _ below)
      · exact .inl inside
      · exact .inr (unsetPlain _ _ above)
  | stuck _ _ empty => simp [empty] at member

theorem live_eq (bears : stack.Bears operands) : stack.live = operands := by
  cases bears with
  | holds holds => exact holds.live_eq
  | stuck _ _ empty => simp [live, empty]

end Bears

end OperandStack

/-! ## Steps and what they lead to -/

/-- From every decoder with the first property the step ends at one with the last property, or it
fails and leaves one with the property `failed`. -/
def Leads {α : Type} (failed before : Decoder → Prop) (step : Decode α)
    (after : α → Decoder → Prop) : Prop :=
  ∀ decoder, before decoder →
    match step.run decoder with
    | .ok value last => after value last
    | .error _ last => failed last

namespace Leads

variable {α β : Type} {failed before : Decoder → Prop} {step : Decode α} {next : α → Decode β}
  {middle : α → Decoder → Prop} {after : β → Decoder → Prop}

theorem pure {value : α} (holds : ∀ decoder, before decoder → middle value decoder) :
    Leads failed before (pure value : Decode α) middle :=
  holds

theorem throw {fault : Fault} (holds : ∀ decoder, before decoder → failed decoder) :
    Leads failed before (throw fault : Decode α) middle :=
  holds

theorem bind (first : Leads failed before step middle)
    (second : ∀ value, Leads failed (middle value) (next value) after) :
    Leads failed before (step >>= next) after := by
  intro decoder holds
  have halfway := first decoder holds
  rw [EStateM.run_bind]
  cases ran : step.run decoder with
  | error fault last => simpa [ran] using halfway
  | ok value last =>
      rw [ran] at halfway
      exact second value last halfway

theorem of_before {weaker : Decoder → Prop} (leads : Leads failed weaker step middle)
    (implies : ∀ decoder, before decoder → weaker decoder) : Leads failed before step middle :=
  fun decoder holds => leads decoder (implies decoder holds)

theorem to_after {weaker : α → Decoder → Prop} (leads : Leads failed before step middle)
    (implies : ∀ value decoder, middle value decoder → weaker value decoder) :
    Leads failed before step weaker := by
  intro decoder holds
  have ended := leads decoder holds
  cases ran : step.run decoder with
  | error fault last => simpa [ran] using ended
  | ok value last =>
      rw [ran] at ended
      exact implies value last ended

/-- The step changes the stack of the routine that is being decoded, or fails and changes
nothing. -/
theorem restack {change : OperandStack → Except Fault OperandStack} {after : Decoder → Prop}
    (kept : ∀ decoder, before decoder → failed decoder)
    (changed : ∀ decoder frame stack, before decoder → decoder.frame = some frame →
      change frame.stack = .ok stack →
      after { decoder with frame := some { frame with stack } }) :
    Leads failed before
      (do Decode.setStack (← Decode.ofStack (change (← Decode.operandStack))))
      (fun _ => after) := by
  intro decoder holds
  rw [EStateM.run_bind]
  cases framed : decoder.frame with
  | none =>
      rw [Decode.run_operandStack_none framed]
      exact kept decoder holds
  | some frame =>
      rw [Decode.run_operandStack framed]
      simp only [EStateM.run_bind, Decode.run_ofStack]
      cases answer : change frame.stack with
      | error fault => exact kept decoder holds
      | ok stack =>
          simp only [answered, Decode.run_setStack framed]
          exact changed decoder frame stack holds framed answer

end Leads

/-! ## Values in the charge of a routine -/

/-- A property of a routine, by its address, and of the values in its charge.  It does not depend on
the order of the values, and neither losing one nor gaining one without a reference breaks it. -/
structure Custody (keeps : Int → Routine → List Value → Prop) : Prop where
  perm {address : Int} {routine : Routine} {values others : List Value} (same : others.Perm values)
    (kept : keeps address routine values) : keeps address routine others
  drop {address : Int} {routine : Routine} {value : Value} {values : List Value}
    (kept : keeps address routine (value :: values)) : keeps address routine values
  plain {address : Int} {routine : Routine} {value : Value} {values : List Value}
    (plain : value.Plain) (kept : keeps address routine values) :
    keeps address routine (value :: values)

namespace Custody

variable {keeps : Int → Routine → List Value → Prop} (custody : Custody keeps) {address : Int}
  {routine : Routine} {values others : List Value}

include custody

theorem drop_left (kept : keeps address routine (others ++ values)) :
    keeps address routine values := by
  induction others with
  | nil => exact kept
  | cons value rest ih => exact ih (custody.drop kept)

theorem drop_right (kept : keeps address routine (values ++ others)) :
    keeps address routine values :=
  custody.drop_left (custody.perm List.perm_append_comm kept)

end Custody

/-- Every routine of the table has the property with no values at all, and the one that is being
decoded, which starts at `owner`, has it with its operands and the values `hand`. -/
structure Decoder.Carries (decoder : Decoder) (keeps : Int → Routine → List Value → Prop)
    (owner : Option Int) (hand : List Value) : Prop where
  table : ∀ address routine, decoder.routines.find? address = some routine →
    keeps address routine []
  owner_eq : decoder.frame.map Frame.address = owner
  active : ∀ frame, decoder.frame = some frame → frame.detached = none ∧
    ∃ routine operands, decoder.routines.find? frame.address = some routine ∧
      frame.stack.Bears operands ∧ keeps frame.address routine (operands ++ hand)

namespace Decoder.Carries

variable {keeps : Int → Routine → List Value → Prop} {decoder : Decoder} {owner : Option Int}
  {hand others : List Value} {frame : Frame}

/-- The cursor and the log play no part. -/
theorem ofSame {other : Decoder} (carries : decoder.Carries keeps owner hand)
    (table : other.routines = decoder.routines) (same : other.frame = decoder.frame) :
    other.Carries keeps owner hand where
  table := table ▸ carries.table
  owner_eq := same ▸ carries.owner_eq
  active := by
    rw [same, table]
    exact carries.active

theorem mono {more : Int → Routine → List Value → Prop}
    (implies : ∀ address routine values, keeps address routine values →
      more address routine values)
    (carries : decoder.Carries keeps owner hand) : decoder.Carries more owner hand where
  table := fun address routine found => implies _ _ _ (carries.table address routine found)
  owner_eq := carries.owner_eq
  active := by
    intro frame framed
    obtain ⟨detached, routine, operands, found, bears, kept⟩ := carries.active frame framed
    exact ⟨detached, routine, operands, found, bears, implies _ _ _ kept⟩

/-- The values in the hand of an instruction can be exchanged for others. -/
theorem rehand
    (implies : ∀ address routine operands, keeps address routine (operands ++ hand) →
      keeps address routine (operands ++ others))
    (carries : decoder.Carries keeps owner hand) : decoder.Carries keeps owner others where
  table := carries.table
  owner_eq := carries.owner_eq
  active := by
    intro frame framed
    obtain ⟨detached, routine, operands, found, bears, kept⟩ := carries.active frame framed
    exact ⟨detached, routine, operands, found, bears, implies _ _ _ kept⟩

section

variable (custody : Custody keeps)

include custody

theorem perm (same : others.Perm hand) (carries : decoder.Carries keeps owner hand) :
    decoder.Carries keeps owner others :=
  carries.rehand fun _ _ operands kept => custody.perm (same.append_left operands) kept

theorem plain {value : Value} (plain : value.Plain) (carries : decoder.Carries keeps owner hand) :
    decoder.Carries keeps owner (value :: hand) :=
  carries.rehand fun _ _ _ kept => custody.perm List.perm_middle (custody.plain plain kept)

theorem release (carries : decoder.Carries keeps owner hand) : decoder.Carries keeps owner [] :=
  carries.rehand fun _ _ operands kept => by
    rw [List.append_nil]
    exact custody.drop_right kept

end

/-- The stack of the routine that is being decoded may change together with the hand. -/
theorem restack {stack : OperandStack} (carries : decoder.Carries keeps owner hand)
    (framed : decoder.frame = some frame)
    (implies : ∀ routine operands, frame.stack.Bears operands →
      keeps frame.address routine (operands ++ hand) →
      ∃ left, stack.Bears left ∧ keeps frame.address routine (left ++ others)) :
    ({ decoder with frame := some { frame with stack } } : Decoder).Carries keeps owner others where
  table := carries.table
  owner_eq := by
    have same := carries.owner_eq
    rw [framed] at same
    exact same
  active := by
    rintro _ ⟨⟩
    obtain ⟨detached, routine, operands, found, bears, kept⟩ := carries.active frame framed
    obtain ⟨left, leftBears, leftKept⟩ := implies routine operands bears kept
    exact ⟨detached, routine, left, found, leftBears, leftKept⟩

/-- The routine that is being decoded may change. -/
theorem change {more : Int → Routine → List Value → Prop} {change : Routine → Routine}
    {routine : Routine} (carries : decoder.Carries keeps owner hand)
    (weaken : ∀ address other values, keeps address other values → more address other values)
    (custody : Custody more) (framed : decoder.frame = some frame)
    (found : decoder.routines.find? frame.address = some routine)
    (implies : ∀ operands, keeps frame.address routine (operands ++ hand) →
      more frame.address (change routine) (operands ++ others)) :
    ({ decoder with routines := decoder.routines.modify frame.address change } : Decoder).Carries
      more owner others := by
  obtain ⟨detached, active, operands, activeFound, bears, kept⟩ := carries.active frame framed
  obtain rfl : active = routine := Option.some.inj (activeFound.symm.trans found)
  have changed := implies operands kept
  refine ⟨?_, carries.owner_eq, ?_⟩
  · intro address other otherFound
    dsimp only at otherFound
    rw [OrderedMap.find?_modify] at otherFound
    split at otherFound
    · rename_i same
      subst same
      rw [found] at otherFound
      cases otherFound
      exact custody.drop_right changed
    · exact weaken _ _ _ (carries.table address other otherFound)
  · intro other same
    obtain rfl : frame = other := Option.some.inj (framed.symm.trans same)
    refine ⟨detached, change active, operands, ?_, bears, changed⟩
    dsimp only
    rw [OrderedMap.find?_modify, if_pos rfl, found]
    rfl

end Decoder.Carries

/-! ## Instructions -/

/-- What the instruction at an address needs to lead from one property to another.  An expression is
stored once, which is where the property may change; a statement may be stored besides. -/
structure Transfer (position : Int) (owner : Option Int)
    (before after : Int → Routine → List Value → Prop) : Prop where
  custodyBefore : Custody before
  custodyAfter : Custody after
  weaken (address : Int) (routine : Routine) (values : List Value)
    (kept : before address routine values) : after address routine values
  allocate {address : Int} {routine : Routine} {action : Action} {values : List Value}
    (owns : owner = some address) (computes : action.isExpression = true)
    (kept : before address routine (action.operands ++ values)) :
    after address (routine.allocate ⟨position, action⟩) (.expr routine.arena.size :: values)
  append {address : Int} {routine : Routine} {action : Action} {values : List Value}
    (owns : owner = some address) (performs : action.kind?.isSome = true)
    (kept : after address routine (action.operands ++ values)) :
    after address (routine.append ⟨position, action⟩) values

namespace Transfer

variable {position : Int} {owner : Option Int} {before after : Int → Routine → List Value → Prop}
  (transfer : Transfer position owner before after) {hand : List Value}

include transfer

theorem lapse (decoder : Decoder) (carries : decoder.Carries before owner hand) :
    decoder.Carries after owner [] :=
  (carries.mono transfer.weaken).release transfer.custodyAfter

theorem lapseAfter (decoder : Decoder) (carries : decoder.Carries after owner hand) :
    decoder.Carries after owner [] :=
  carries.release transfer.custodyAfter

theorem leads_push (value : Value) :
    Leads (·.Carries after owner []) (·.Carries after owner (value :: hand)) (Decode.push value)
      (fun _ => (·.Carries after owner hand)) := by
  refine Leads.restack transfer.lapseAfter fun decoder frame stack carries framed pushed => ?_
  refine carries.restack framed fun routine operands bears kept => ?_
  exact ⟨value :: operands, bears.push pushed,
    transfer.custodyAfter.perm List.perm_middle.symm kept⟩

theorem leads_pushConstant (constant : Constant) :
    Leads (·.Carries after owner []) (·.Carries after owner hand) (Decode.pushConstant constant)
      (fun _ => (·.Carries after owner hand)) := by
  refine Leads.restack transfer.lapseAfter fun decoder frame stack carries framed pushed => ?_
  refine carries.restack framed fun routine operands bears kept => ?_
  unfold OperandStack.pushConstant OperandStack.named Value.ofLocal at pushed
  split at pushed
  · split at pushed <;> cases pushed
  · exact ⟨_, bears.push pushed, transfer.custodyAfter.plain (Value.plain_slot _ _) kept⟩

theorem leads_pop :
    Leads (·.Carries after owner []) (·.Carries before owner hand) Decode.pop
      (fun value => (·.Carries before owner (value :: hand))) := by
  intro decoder carries
  rw [Decode.pop, EStateM.run_bind]
  cases framed : decoder.frame with
  | none =>
      rw [Decode.run_operandStack_none framed]
      exact transfer.lapse decoder carries
  | some frame =>
      rw [Decode.run_operandStack framed]
      simp only [EStateM.run_bind, Decode.run_ofStack]
      cases popped : frame.stack.pop with
      | error fault => exact transfer.lapse decoder carries
      | ok result =>
          obtain ⟨value, stack⟩ := result
          simp only [answered, Decode.run_setStack framed, EStateM.run_pure]
          refine carries.restack framed fun routine operands bears kept => ?_
          obtain ⟨rest, rfl, restBears⟩ := bears.pop popped
          exact ⟨rest, restBears, transfer.custodyBefore.perm List.perm_middle kept⟩

theorem leads_popMany (count : Nat) :
    ∀ hand, Leads (·.Carries after owner []) (·.Carries before owner hand) (Decode.popMany count)
      (fun values => (·.Carries before owner (values ++ hand))) := by
  induction count with
  | zero => exact fun hand => .pure fun _ carries => carries
  | succ count ih =>
      intro hand
      refine transfer.leads_pop.bind fun value => (ih _).bind fun others => .pure ?_
      exact fun _ carries => carries.perm transfer.custodyBefore List.perm_middle.symm

theorem leads_slot (index : Int) :
    Leads (·.Carries after owner []) (·.Carries before owner hand) (Decode.slot index)
      (fun value => (·.Carries before owner (value :: hand))) := by
  intro decoder carries
  rw [Decode.slot, EStateM.run_bind]
  cases framed : decoder.frame with
  | none =>
      rw [Decode.run_operandStack_none framed]
      exact transfer.lapse decoder carries
  | some frame =>
      obtain ⟨log, reported⟩ := Decode.exists_run_reportSlot frame.stack index decoder
      rw [Decode.run_operandStack framed]
      simp only [EStateM.run_bind, reported, Decode.run_ofStack]
      cases found : frame.stack.get index with
      | error fault => exact (transfer.lapse decoder carries).ofSame rfl rfl
      | ok value =>
          obtain ⟨_, _, _, _, bears, _⟩ := carries.active frame framed
          exact (carries.plain transfer.custodyBefore (bears.get found)).ofSame rfl rfl

theorem leads_changeActive {keeps : Int → Routine → List Value → Prop} {change : Routine → Routine}
    {others : Routine → List Value}
    (weaken : ∀ address routine values, keeps address routine values →
      after address routine values)
    (implies : ∀ address routine operands, owner = some address →
      keeps address routine (operands ++ hand) →
      after address (change routine) (operands ++ others routine)) :
    Leads (·.Carries after owner []) (·.Carries keeps owner hand) (Decode.changeActive change)
      (fun routine => (·.Carries after owner (others routine))) := by
  intro decoder carries
  cases framed : decoder.frame with
  | none =>
      have outside : decoder.active? = none := by simp [Decoder.active?, framed]
      simp only [Decode.changeActive, EStateM.run_bind, EStateM.run_get, outside]
      exact (carries.mono weaken).release transfer.custodyAfter
  | some frame =>
      obtain ⟨attached, routine, _, found, _, _⟩ := carries.active frame framed
      have inside : decoder.active? = some (frame.address, routine) := by
        simp [Decoder.active?, framed, attached, found]
      have owns : owner = some frame.address := by
        rw [← carries.owner_eq, framed]
        rfl
      have changed : decoder.changeActive change =
          { decoder with routines := decoder.routines.modify frame.address change } := by
        simp only [Decoder.changeActive, framed, attached]
      simp only [Decode.changeActive, EStateM.run_bind, EStateM.run_get, inside,
        EStateM.run_modify, EStateM.run_pure, changed]
      exact carries.change weaken transfer.custodyAfter framed found fun operands kept =>
        implies _ _ _ owns kept

theorem leads_allocate (action : Action) (computes : action.isExpression = true) :
    Leads (·.Carries after owner []) (·.Carries before owner (action.operands ++ hand))
      (Decode.allocate ⟨position, action⟩)
      (fun value => (·.Carries after owner (value :: hand))) := by
  refine (transfer.leads_changeActive transfer.weaken ?_).bind
    fun routine => .pure fun _ carries => carries
  intro address routine operands owns kept
  have gathered := transfer.custodyBefore.perm (List.perm_append_comm_assoc _ _ _) kept
  exact transfer.custodyAfter.perm List.perm_middle (transfer.allocate owns computes gathered)

theorem leads_emit (action : Action) (performs : action.kind?.isSome = true) :
    Leads (·.Carries after owner []) (·.Carries after owner (action.operands ++ hand))
      (Decode.emit ⟨position, action⟩) (fun _ => (·.Carries after owner hand)) := by
  have changed : Leads (·.Carries after owner [])
      (·.Carries after owner (action.operands ++ hand))
      (discard (Decode.changeActive fun routine => routine.append ⟨position, action⟩))
      (fun _ => (·.Carries after owner hand)) := by
    rw [Decode.discard_eq]
    refine (transfer.leads_changeActive (fun _ _ _ kept => kept) ?_).bind
      fun routine => .pure fun _ carries => carries
    intro address routine operands owns kept
    exact transfer.append owns performs
      (transfer.custodyAfter.perm (List.perm_append_comm_assoc _ _ _) kept)
  intro decoder carries
  cases framed : decoder.frame with
  | none =>
      have stray : (Decode.emit ⟨position, action⟩).run decoder =
          .error (.strayStatement position) decoder := by
        simp [Decode.emit, framed]
      rw [stray]
      exact carries.release transfer.custodyAfter
  | some frame =>
      have guarded : (Decode.emit ⟨position, action⟩).run decoder =
          (discard (Decode.changeActive fun routine => routine.append ⟨position, action⟩)).run
            decoder := by
        simp [Decode.emit, framed]
      rw [guarded]
      exact changed decoder carries

/-- The expression goes onto the stack. -/
theorem leads_pushExpr (action : Action) (computes : action.isExpression = true) :
    Leads (·.Carries after owner []) (·.Carries before owner (action.operands ++ hand))
      (Decode.pushExpr position action) (fun _ => (·.Carries after owner hand)) :=
  (transfer.leads_allocate action computes).bind fun value => transfer.leads_push value

/-- The operands were taken off the stack, and nothing is computed. -/
theorem leads_perform (action : Action) (performs : action.kind?.isSome = true) :
    Leads (·.Carries after owner []) (·.Carries before owner (action.operands ++ hand))
      (Decode.emit ⟨position, action⟩) (fun _ => (·.Carries after owner hand)) :=
  (transfer.leads_emit action performs).of_before fun _ carries => carries.mono transfer.weaken

/-- The start of a routine gives it a stack without operands. -/
theorem leads_enter (address : Int) :
    Leads (·.Carries after owner []) (·.Carries before owner []) (Decode.enter address)
      (fun _ decoder => ∃ entered, decoder.Carries after entered []) := by
  intro decoder carries
  have kept := carries.mono transfer.weaken
  cases found : decoder.routines.find? address with
  | none => simpa [Decode.enter, Decode.routineAt, found, Decode.run_throw] using kept
  | some routine =>
      simp only [Decode.enter, Decode.routineAt, EStateM.run_bind, EStateM.run_get, found,
        EStateM.run_pure, EStateM.run_modify]
      refine ⟨some address, kept.table, rfl, ?_⟩
      rintro _ ⟨⟩
      exact ⟨rfl, routine, [], found, OperandStack.bears_start _ _, kept.table _ _ found⟩

/-- The arguments of a call go into its statement. -/
theorem leads_performing (count : Nat) (make : List Value → Action)
    (performs : ∀ values, (make values).kind?.isSome = true)
    (operands : ∀ values, (make values).operands = values) :
    Leads (·.Carries after owner []) (·.Carries before owner [])
      (do
        discard Decode.operandStack
        let arguments ← Decode.popMany count
        Decode.emit ⟨position, make arguments⟩)
      (fun _ => (·.Carries after owner [])) := by
  have looked : Leads (·.Carries after owner []) (·.Carries before owner [])
      (discard Decode.operandStack) (fun _ => (·.Carries before owner [])) := by
    intro decoder carries
    rw [Decode.run_discard]
    cases framed : decoder.frame with
    | none =>
        rw [Decode.run_operandStack_none framed]
        exact transfer.lapse decoder carries
    | some frame =>
        rw [Decode.run_operandStack framed]
        exact carries
  refine looked.bind fun _ => (transfer.leads_popMany count []).bind fun values => ?_
  refine (transfer.leads_perform _ (performs values)).of_before fun _ carries => ?_
  rwa [operands]

/-- Every instruction but the copy of the top moves its operands and copies none. -/
theorem leads_execute (scenario : Scenario) {operation : Operation}
    (moves : operation ≠ .copyTop) :
    Leads (·.Carries after owner []) (·.Carries before owner [])
      (Decode.execute scenario position operation)
      (fun _ decoder => ∃ entered, decoder.Carries after entered []) := by
  have plain : ∀ {value : Value} {hand : List Value}, value.Plain → ∀ decoder : Decoder,
      decoder.Carries before owner hand → decoder.Carries before owner (value :: hand) :=
    fun plain _ carries => carries.plain transfer.custodyBefore plain
  have weaken : ∀ {hand : List Value} (decoder : Decoder), decoder.Carries before owner hand →
      decoder.Carries after owner hand :=
    fun _ carries => carries.mono transfer.weaken
  by_cases start : operation = .enter
  · subst start
    exact transfer.leads_enter position
  suffices kept : Leads (·.Carries after owner []) (·.Carries before owner [])
      (Decode.execute scenario position operation) (fun _ => (·.Carries after owner [])) from
    kept.to_after fun _ decoder carries => ⟨owner, carries⟩
  cases operation with
  | nop => exact .pure weaken
  | enter => exact absurd rfl start
  | copyTop => exact absurd rfl moves
  | call target =>
      rw [Decode.execute]
      intro decoder carries
      cases found : decoder.routines.find? (target : Int) with
      | none =>
          simpa [Decode.routineAt, found, Decode.run_throw] using transfer.lapse decoder carries
      | some callee =>
          have performed := transfer.leads_performing callee.args.toNat
            (fun values => .call target values) (fun _ => rfl) (fun _ => rfl)
          simpa [Decode.routineAt, found] using performed decoder carries
  | syscall id =>
      rw [Decode.execute]
      cases scenario.syscall? id with
      | none => exact .throw transfer.lapse
      | some syscall =>
          exact transfer.leads_performing syscall.args
            (fun values => .syscall syscall.name values) (fun _ => rfl) (fun _ => rfl)
  | ret hasValue => exact transfer.leads_perform (.ret hasValue) rfl
  | jump target => exact transfer.leads_perform (.jump target) rfl
  | branch target =>
      exact transfer.leads_pop.bind fun condition =>
        transfer.leads_perform (.branch target condition) rfl
  | push constant => exact (transfer.leads_pushConstant constant).of_before weaken
  | pushGlobal index =>
      exact (transfer.leads_push (.global index)).of_before fun decoder carries =>
        weaken decoder (plain (Value.plain_global index) decoder carries)
  | pushSlot index =>
      exact (transfer.leads_slot index).bind fun value =>
        (transfer.leads_push value).of_before weaken
  | pushGlobalEntry table =>
      exact transfer.leads_pop.bind fun key => (transfer.leads_pushExpr
        (.globalTableAccess (.global table) key) rfl).of_before (plain (Value.plain_global _))
  | pushLocalEntry index =>
      refine (transfer.leads_slot index).bind fun table => transfer.leads_pop.bind fun key => ?_
      exact (transfer.leads_pushExpr (.localTableAccess table key) rfl).of_before
        fun _ carries => carries.perm transfer.custodyBefore (List.Perm.swap _ _ _)
  | pushReturn =>
      exact (transfer.leads_push .returnValue).of_before fun decoder carries =>
        weaken decoder (plain Value.plain_returnValue decoder carries)
  | popGlobal index =>
      exact transfer.leads_pop.bind fun value => (transfer.leads_perform
        (.assign (.global index) value) rfl).of_before (plain (Value.plain_global _))
  | popSlot index =>
      exact transfer.leads_pop.bind fun value => (transfer.leads_slot index).bind fun target =>
        transfer.leads_perform (.assign target value) rfl
  | popGlobalEntry table =>
      refine transfer.leads_pop.bind fun value => transfer.leads_pop.bind fun key => ?_
      refine ((transfer.leads_allocate
        (.globalTableAccess (.global table) key) rfl).of_before (plain (Value.plain_global _))).bind
        fun target => ?_
      exact transfer.leads_emit (.assign target value) rfl
  | popLocalEntry index =>
      refine transfer.leads_pop.bind fun value => transfer.leads_pop.bind fun key =>
        (transfer.leads_slot index).bind fun table => ?_
      exact (transfer.leads_allocate (.localTableAccess table key) rfl).bind
        fun target => transfer.leads_emit (.assign target value) rfl
  | unary operator =>
      exact transfer.leads_pop.bind fun operand =>
        transfer.leads_pushExpr (.unary operator.symbol operand) rfl
  | binary operator =>
      exact transfer.leads_pop.bind fun right => transfer.leads_pop.bind fun left =>
        transfer.leads_pushExpr (.binary operator.symbol left right) rfl

end Transfer

theorem Opcode.Denotes.copyTop {opcode : Opcode} (denotes : opcode.Denotes .copyTop) :
    opcode = .pushTop := by
  cases opcode <;> first | rfl | exact absurd denotes (by simp [Opcode.Denotes])

namespace Decoder.Carries

variable {before after : Int → Routine → List Value → Prop} {decoder : Decoder}
  {owner : Option Int}

/-- The copy of the top adds one value to those in the charge of the routine.  If it fails it
changes nothing. -/
theorem copyTop (carries : decoder.Carries before owner [])
    (weaken : ∀ address routine values, before address routine values →
      after address routine values)
    (copy : succeeded (Decode.copyTop.run decoder) = true → ∀ frame routine values value,
      decoder.frame = some frame → decoder.routines.find? frame.address = some routine →
      value ∈ values ∨ value.Plain → before frame.address routine values →
      after frame.address routine (value :: values)) :
    (settled (Decode.copyTop.run decoder)).Carries after owner [] := by
  have kept := carries.mono weaken
  cases framed : decoder.frame with
  | none =>
      have ran : Decode.copyTop.run decoder =
          .error (.outsideRoutine decoder.cursor) decoder := by
        simp [Decode.copyTop, Decode.run_operandStack_none framed]
      rw [ran]
      exact kept
  | some frame =>
      cases copied : frame.stack.copyTop with
      | error fault =>
          have ran : Decode.copyTop.run decoder =
              .error fault { decoder with log := decoder.log.push .topCopied } := by
            simp [Decode.copyTop, Decode.run_operandStack framed, Decode.report, copied,
              Decode.run_ofStack, answered]
          rw [ran]
          exact kept.ofSame rfl rfl
      | ok stack =>
          have ran : Decode.copyTop.run decoder = .ok () { decoder with
              frame := some { frame with stack }
              log := decoder.log.push .topCopied } := by
            simp [Decode.copyTop, Decode.run_operandStack framed, Decode.report, copied,
              Decode.run_ofStack, answered, Decode.setStack, framed]
          have copying := copy (by rw [ran]; rfl)
          obtain ⟨attached, routine, operands, found, bears, held⟩ := carries.active frame framed
          obtain ⟨value, among, changed⟩ := bears.copyTop copied
          have owned := carries.owner_eq
          rw [framed] at owned
          rw [ran]
          refine ⟨kept.table, owned, ?_⟩
          rintro _ ⟨⟩
          refine ⟨attached, routine, value :: operands, found, changed, ?_⟩
          rw [List.append_nil] at held ⊢
          exact copying frame routine operands value framed found among held

/-- One step of interpretation. -/
theorem interpretStep {scenario : Scenario} (carries : decoder.Carries before owner [])
    (transfer : Transfer decoder.cursor owner before after)
    (copy : scenario.opcodeAt? decoder.cursor = some .pushTop →
      succeeded ((Decode.interpretStep scenario).run decoder) = true →
      ∀ frame routine values value, decoder.frame = some frame →
      decoder.routines.find? frame.address = some routine → value ∈ values ∨ value.Plain →
      before frame.address routine values → after frame.address routine (value :: values)) :
    ∃ entered,
      (settled ((Decode.interpretStep scenario).run decoder)).Carries after entered [] := by
  have kept := carries.mono transfer.weaken
  have interpreted := Decode.run_interpretStep scenario decoder
  generalize (Decode.interpretStep scenario).run decoder = result at interpreted copy
  cases interpreted with
  | unreadable => exact ⟨owner, kept.ofSame rfl rfl⟩
  | skipped absent => exact ⟨owner, kept.ofSame rfl rfl⟩
  | @executed opcode operation size found denotes length inside =>
      have moved : ({ decoder with cursor := decoder.cursor + 1 + size } : Decoder).Carries before
          owner [] := carries.ofSame rfl rfl
      by_cases copies : operation = .copyTop
      · subst copies
        refine ⟨owner, moved.copyTop transfer.weaken fun success => copy ?_ success⟩
        rw [found, Opcode.Denotes.copyTop denotes]
      · have led := transfer.leads_execute scenario copies _ moved
        cases ran : (Decode.execute scenario decoder.cursor operation).run
            { decoder with cursor := decoder.cursor + 1 + size } with
        | error fault last =>
            rw [ran] at led
            exact ⟨owner, led⟩
        | ok _ last =>
            rw [ran] at led
            exact led

end Decoder.Carries

end SceneCode
