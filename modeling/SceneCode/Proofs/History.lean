import SceneCode.Proofs.Interpretation

/-!
# What the passes depend on

A decoder can be used again, whether a pass on it has succeeded or failed.  Both passes go back to
the start of the stream and leave every routine; discovery throws the table away, and interpretation
all statements in it.  So disassembly does not depend on what was done before, and interpretation
only on the addresses and counts of the table (`history_independent`).

No step reads the log or the end of an earlier discovery: `Respects` compares the runs of a step
from two decoders that may differ there, and in tables that answer every look-up alike.
-/

set_option autoImplicit false

namespace SceneCode

open EStateM (Result)

/-- What a run answers, without the decoder that it leaves. -/
def answer {α : Type} : Result Fault Decoder α → Except Fault α
  | .ok value _ => .ok value
  | .error fault _ => .error fault

/-! ## Two runs of a step -/

/-- Decoders at the same place; their logs may differ, and the ends of discovery. -/
structure Decoder.Agrees (Same : RoutineTable → RoutineTable → Prop) (left right : Decoder) :
    Prop where
  cursor : left.cursor = right.cursor
  frame : left.frame = right.frame
  routines : Same left.routines right.routines

/-- Tables in this relation answer alike, and go on to when they are changed alike. -/
structure Lookalike (Same : RoutineTable → RoutineTable → Prop) : Prop where
  find? {left right : RoutineTable} (same : Same left right) (address : Int) :
    left.find? address = right.find? address
  modify {left right : RoutineTable} (same : Same left right) (address : Int)
    (change : Routine → Routine) : Same (left.modify address change) (right.modify address change)
  insert {left right : RoutineTable} (same : Same left right) (address : Int)
    (routine : Routine) : Same (left.insert address routine) (right.insert address routine)

/-- Two runs give the same answer and leave decoders that agree. -/
structure AgreeAtEnd (Same : RoutineTable → RoutineTable → Prop) {α : Type}
    (first second : Result Fault Decoder α) : Prop where
  answer : answer first = answer second
  decoder : (settled first).Agrees Same (settled second)

/-- From decoders that agree the runs of a step end alike. -/
def Respects (Same : RoutineTable → RoutineTable → Prop) {α : Type} (step : Decode α) : Prop :=
  ∀ left right : Decoder, left.Agrees Same right →
    AgreeAtEnd Same (step.run left) (step.run right)

section

variable {α β : Type} {Same : RoutineTable → RoutineTable → Prop}

theorem respects_pure (value : α) : Respects Same (pure value : Decode α) :=
  fun _ _ agrees => ⟨rfl, agrees⟩

theorem respects_throw (fault : Fault) : Respects Same (throw fault : Decode α) :=
  fun _ _ agrees => ⟨rfl, agrees⟩

/-- Two runs that agree so far agree when they go on alike. -/
theorem AgreeAtEnd.bind {first : Decode α} {next : α → Decode β} {left right : Decoder}
    (agree : AgreeAtEnd Same (first.run left) (first.run right))
    (respects : ∀ value, Respects Same (next value)) :
    AgreeAtEnd Same ((first >>= next).run left) ((first >>= next).run right) := by
  obtain ⟨answers, after⟩ := agree
  rw [EStateM.run_bind, EStateM.run_bind]
  revert answers after
  cases first.run left with
  | ok value halfway =>
      cases first.run right with
      | ok other also =>
          intro answers after
          cases answers
          exact respects value halfway also after
      | error fault also =>
          intro answers
          cases answers
  | error fault halfway =>
      cases first.run right with
      | ok other also =>
          intro answers
          cases answers
      | error other also =>
          intro answers after
          cases answers
          exact ⟨rfl, after⟩

theorem Respects.bind {first : Decode α} {next : α → Decode β} (respects : Respects Same first)
    (nextRespects : ∀ value, Respects Same (next value)) : Respects Same (first >>= next) :=
  fun left right agrees => (respects left right agrees).bind nextRespects

/-- A step may look at whatever decoders that agree have in common. -/
theorem respects_get {next : Decoder → Decode α}
    (same : ∀ left right : Decoder, left.Agrees Same right → next left = next right)
    (respects : ∀ decoder, Respects Same (next decoder)) : Respects Same (get >>= next) := by
  intro left right agrees
  have ended := respects right left right agrees
  rw [EStateM.run_bind, EStateM.run_bind, EStateM.run_get, EStateM.run_get]
  dsimp only
  rw [same left right agrees]
  exact ended

theorem respects_modify {change : Decoder → Decoder}
    (agree : ∀ left right : Decoder, left.Agrees Same right →
      (change left).Agrees Same (change right)) :
    Respects Same (modify change : Decode Unit) :=
  fun left right agrees => ⟨rfl, agree left right agrees⟩

theorem respects_cursor : Respects Same Decode.cursor := by
  apply respects_get
  · intro left right agrees
    rw [agrees.cursor]
  · exact fun _ => respects_pure _

variable (lookalike : Lookalike Same)

include lookalike

theorem Lookalike.active? {left right : Decoder} (agrees : left.Agrees Same right) :
    left.active? = right.active? := by
  unfold Decoder.active?
  rw [agrees.frame]
  cases right.frame with
  | none => rfl
  | some frame =>
      simp only [Option.bind_eq_bind, Option.bind_some, lookalike.find? agrees.routines]

theorem Lookalike.changeActive {left right : Decoder} (agrees : left.Agrees Same right)
    (change : Routine → Routine) :
    (left.changeActive change).Agrees Same (right.changeActive change) := by
  have same := agrees.frame
  unfold Decoder.changeActive
  cases framed : right.frame with
  | none =>
      rw [framed] at same
      simp only [same]
      exact agrees
  | some frame =>
      rw [framed] at same
      simp only [same]
      cases frame.detached with
      | some routine => exact ⟨agrees.cursor, rfl, agrees.routines⟩
      | none => exact ⟨agrees.cursor, rfl, lookalike.modify agrees.routines _ _⟩

theorem respects_changeActive (change : Routine → Routine) :
    Respects Same (Decode.changeActive change) := by
  apply respects_get
  · intro left right agrees
    rw [lookalike.active? agrees]
  · intro decoder
    cases decoder.active? with
    | none => exact respects_throw _
    | some entry =>
        apply Respects.bind
        · exact respects_modify fun _ _ agrees => lookalike.changeActive agrees change
        · exact fun _ => respects_pure _

/-- Neither pass depends on more than where the decoder stands and what its table answers. -/
theorem closed_respects :
    ClosedOnStream (fun {α : Type} (step : Decode α) => Respects Same step) where
  pure := respects_pure
  throw := respects_throw
  bind := Respects.bind
  report d := respects_modify fun _ _ agrees => ⟨agrees.cursor, agrees.frame, agrees.routines⟩
  operandStack := by
    apply respects_get
    · intro left right agrees
      rw [agrees.frame]
    · intro decoder
      cases decoder.frame with
      | none => exact respects_cursor.bind fun _ => respects_throw _
      | some frame => exact respects_pure _
  setStack stack := by
    apply respects_modify
    intro left right agrees
    refine ⟨agrees.cursor, ?_, agrees.routines⟩
    dsimp only
    rw [agrees.frame]
  routineAt address := by
    apply respects_get
    · intro left right agrees
      rw [lookalike.find? agrees.routines]
    · intro decoder
      cases decoder.routines.find? address with
      | none => exact respects_throw _
      | some routine => exact respects_pure _
  setFrame frame := respects_modify fun _ _ agrees => ⟨agrees.cursor, rfl, agrees.routines⟩
  allocate statement :=
    (respects_changeActive lookalike fun routine => routine.allocate statement).bind
      fun _ => respects_pure _
  emit statement := by
    have appends : Respects Same
        (discard (Decode.changeActive fun routine => routine.append statement)) := by
      rw [Decode.discard_eq]
      exact (respects_changeActive lookalike _).bind fun _ => respects_pure _
    apply respects_get
    · intro left right agrees
      rw [agrees.frame]
    · intro decoder
      cases decoder.frame.isNone with
      | true => exact (respects_throw _).bind fun _ => appends
      | false => exact appends
  cursor := respects_cursor
  advance count := by
    apply respects_modify
    intro left right agrees
    refine ⟨?_, agrees.frame, agrees.routines⟩
    dsimp only
    rw [agrees.cursor]

theorem respects_putRoutine (address : Int) (routine : Routine) :
    Respects Same (modify fun decoder => decoder.putRoutine address routine : Decode Unit) := by
  apply respects_modify
  intro left right agrees
  refine ⟨agrees.cursor, ?_, lookalike.insert agrees.routines address routine⟩
  simp only [Decoder.putRoutine, agrees.frame, lookalike.find? agrees.routines]

theorem respects_interpretation (scenario : Scenario) :
    Respects Same (Decode.walk scenario.streamEnd (Decode.interpretStep scenario)
      scenario.streamEnd) :=
  have closed := closed_respects lookalike
  closed.walk (closed.interpretStep scenario) _ _

theorem respects_discovery (scenario : Scenario) :
    Respects Same (Decode.walk scenario.streamEnd (Decode.discoverStep scenario)
      scenario.streamEnd) :=
  have closed := closed_respects lookalike
  closed.walk (closed.discoverStep scenario (respects_putRoutine lookalike)) _ _

end

/-! ## The passes from any decoder -/

theorem lookalike_eq : Lookalike Eq where
  find? same _ := by rw [same]
  modify same _ _ := by rw [same]
  insert same _ _ := by rw [same]

namespace RoutineTable

/-- Tables that answer every look-up alike, in whatever order the routines were entered. -/
def AnswersAs (left right : RoutineTable) : Prop :=
  ∀ address, left.find? address = right.find? address

/-- The counts of the routine at an address. -/
def counts? (table : RoutineTable) (address : Int) : Option (Int × Int) :=
  (table.find? address).map fun routine => (routine.args, routine.locals)

theorem counts?_resetAll (table : RoutineTable) : table.resetAll.counts? = table.counts? := by
  funext address
  simp only [counts?, resetAll, OrderedMap.find?_mapValues, Option.map_map]
  rfl

/-- Once its statements are gone, nothing of a routine is left but its counts. -/
theorem find?_resetAll (table : RoutineTable) (address : Int) :
    table.resetAll.find? address =
      (table.counts? address).map fun counts => { args := counts.1, locals := counts.2 } := by
  simp only [counts?, resetAll, OrderedMap.find?_mapValues, Option.map_map]
  rfl

end RoutineTable

theorem lookalike_answersAs : Lookalike RoutineTable.AnswersAs where
  find? same := same
  modify same address change := by
    intro other
    rw [OrderedMap.find?_modify, OrderedMap.find?_modify, same]
  insert same address routine := by
    intro other
    rw [OrderedMap.find?_insert, OrderedMap.find?_insert, same]

/-- Discovery does not depend on the decoder at all. -/
theorem agree_discover (scenario : Scenario) (left right : Decoder) :
    AgreeAtEnd Eq ((Decode.discover scenario).run left)
      ((Decode.discover scenario).run right) := by
  have closed := closed_respects lookalike_eq
  have ending : Respects Eq (do
      modify fun decoder => { decoder with discoveryEnd := some decoder.cursor }
      Decode.report (.routinesFound (← get).routines.size) : Decode Unit) := by
    apply Respects.bind
    · exact respects_modify fun _ _ agrees => ⟨agrees.cursor, agrees.frame, agrees.routines⟩
    · intro _
      apply respects_get
      · intro left right agrees
        rw [agrees.routines]
      · exact fun _ => closed.report _
  have whole := (respects_discovery lookalike_eq scenario).bind fun _ => ending
  exact whole left.beforeDiscovery right.beforeDiscovery ⟨rfl, rfl, rfl⟩

/-- Interpretation depends on the addresses and counts of the routines only. -/
theorem agree_interpret (scenario : Scenario) {left right : Decoder}
    (counts : ∀ address, left.routines.counts? address = right.routines.counts? address) :
    AgreeAtEnd RoutineTable.AnswersAs ((Decode.interpret scenario).run left)
      ((Decode.interpret scenario).run right) := by
  apply respects_interpretation lookalike_answersAs scenario
  refine ⟨rfl, rfl, ?_⟩
  intro address
  change left.routines.resetAll.find? address = right.routines.resetAll.find? address
  rw [RoutineTable.find?_resetAll, RoutineTable.find?_resetAll, counts]

theorem respects_interpret (scenario : Scenario) : Respects Eq (Decode.interpret scenario) := by
  intro left right agrees
  apply respects_interpretation lookalike_eq scenario
  exact ⟨rfl, rfl, congrArg RoutineTable.resetAll agrees.routines⟩

theorem respects_program (scenario : Scenario) : Respects Eq (Decode.program scenario) := by
  apply respects_get
  · intro left right agrees
    rw [agrees.cursor, agrees.routines]
  · exact fun _ => respects_pure _

theorem agree_disassemble (scenario : Scenario) (left right : Decoder) :
    AgreeAtEnd Eq ((Decode.disassemble scenario).run left)
      ((Decode.disassemble scenario).run right) := by
  apply (agree_discover scenario left right).bind
  intro _
  exact (respects_interpret scenario).bind fun _ => respects_program scenario

theorem RoutineTable.counts?_modify (table : RoutineTable) (address : Int)
    {change : Routine → Routine}
    (counts : ∀ routine, (change routine).args = routine.args ∧
      (change routine).locals = routine.locals) :
    RoutineTable.counts? (table.modify address change) = table.counts? := by
  funext other
  unfold RoutineTable.counts?
  rw [OrderedMap.find?_modify]
  split
  · rw [Option.map_map]
    congr 1
    funext routine
    simp only [Function.comp_apply, counts]
  · rfl

/-- No instruction changes which routines there are or their counts. -/
theorem closed_keeps_outline :
    ClosedOnStream (fun {α : Type} (step : Decode α) =>
      Keeps (fun decoder => (decoder.routines.keys, decoder.routines.counts?)) step) where
  toClosed := by
    apply closed_keeps (fun _ _ => rfl) (fun _ _ => rfl)
    intro decoder change counts
    unfold Decoder.changeActive
    split
    · rfl
    · split
      · rfl
      · rw [OrderedMap.keys_modify, RoutineTable.counts?_modify _ _ counts]
  cursor _ := rfl
  advance _ _ := rfl

/-- Interpretation leaves the addresses and counts of the routines, and their order. -/
theorem keeps_interpret (scenario : Scenario) (decoder : Decoder) :
    (settled ((Decode.interpret scenario).run decoder)).routines.keys = decoder.routines.keys ∧
      (settled ((Decode.interpret scenario).run decoder)).routines.counts? =
        decoder.routines.counts? := by
  have steps := closed_keeps_outline.interpretStep scenario
  have kept := closed_keeps_outline.walk steps scenario.streamEnd scenario.streamEnd
    decoder.beforeInterpretation
  rw [← run_interpret, Prod.mk.injEq] at kept
  refine ⟨kept.1.trans ?_, kept.2.trans ?_⟩
  · exact OrderedMap.keys_mapValues _ _
  · exact RoutineTable.counts?_resetAll _

/-- Interpreting anew gives the same answer and leaves the decoder as it was. -/
theorem agree_interpret_again (scenario : Scenario) (decoder : Decoder) :
    AgreeAtEnd Eq
      ((Decode.interpret scenario).run (settled ((Decode.interpret scenario).run decoder)))
      ((Decode.interpret scenario).run decoder) := by
  have counts := (keeps_interpret scenario decoder).2
  have keys := (keeps_interpret scenario (settled ((Decode.interpret scenario).run decoder))).1
  obtain ⟨answers, after⟩ := agree_interpret scenario (congrFun counts)
  exact ⟨answers, after.cursor, after.frame, OrderedMap.ext_find? keys after.routines⟩

/-! ## Any history of calls -/

/-- What can be asked of a decoder. -/
inductive Request where
  | discover
  | interpret
  | disassemble
  deriving DecidableEq, Repr

def Request.run (scenario : Scenario) : Request → Decode Unit
  | discover => Decode.discover scenario
  | interpret => Decode.interpret scenario
  | disassemble => discard (Decode.disassemble scenario)

/-- The decoder after these requests, of which each may have failed. -/
def Decoder.after (scenario : Scenario) (history : List Request) : Decoder :=
  history.foldl (fun decoder request => settled ((request.run scenario).run decoder)) {}

/-- Disassembly on a decoder that was used before, with whatever requests and however they ended,
answers as on a new one.  Interpretation can be repeated, whether it has succeeded or failed: it
answers the same and leaves the same cursor, frame and table.  Its answer, the cursor and frame it
leaves, and every routine it leaves depend on the scenario and on the addresses and counts of the
table alone. -/
theorem history_independent (scenario : Scenario) :
    (∀ history : List Request,
      answer ((Decode.disassemble scenario).run (Decoder.after scenario history)) =
        answer scenario.disassemble) ∧
    (∀ decoder : Decoder, AgreeAtEnd Eq
      ((Decode.interpret scenario).run (settled ((Decode.interpret scenario).run decoder)))
      ((Decode.interpret scenario).run decoder)) ∧
    ∀ left right : Decoder,
      (∀ address, left.routines.counts? address = right.routines.counts? address) →
      AgreeAtEnd RoutineTable.AnswersAs ((Decode.interpret scenario).run left)
        ((Decode.interpret scenario).run right) := by
  refine ⟨?_, agree_interpret_again scenario, fun left right => agree_interpret scenario⟩
  intro history
  exact (agree_disassemble scenario (Decoder.after scenario history) {}).answer

/-- A decoder whose table has an old statement in it. -/
def staleDecoder : Decoder where
  routines := OrderedMap.ofList
    [(4, { args := 0, locals := 0, arena := #[⟨9, .ret false⟩], body := #[0] })]

/-- The same routine without statements. -/
def freshDecoder : Decoder where
  routines := OrderedMap.ofList [(4, { args := 0, locals := 0 })]

theorem history_independent_stale :
    answer ((Decode.disassemble sumScenario).run
      (Decoder.after sumScenario [.interpret, .disassemble, .interpret])) =
        answer sumScenario.disassemble ∧
    AgreeAtEnd RoutineTable.AnswersAs ((Decode.interpret sumScenario).run staleDecoder)
      ((Decode.interpret sumScenario).run freshDecoder) := by
  obtain ⟨anew, _, counts⟩ := history_independent sumScenario
  refine ⟨anew _, counts _ _ ?_⟩
  intro address
  by_cases same : address = 4
  · subst same
    rfl
  · simp [RoutineTable.counts?, staleDecoder, freshDecoder, OrderedMap.ofList, same]

end SceneCode
