import SceneCode.Proofs.Closure
import SceneCode.Proofs.Walk

/-!
# The two passes

Interpretation walks over the instructions that discovery walked over.  Both passes move the cursor
by `Scenario.lengthAt?`: discovery because it adds up sizes from the table, interpretation because
it reads the operands and because running an instruction does not move the cursor (`Keeps`).

`interpret_follows_discover` is the whole statement: the addresses interpretation visits are a
prefix of those of discovery, and all of them if it succeeds; then both end at the same offset, and
the instructions fill the space before it.
-/

set_option autoImplicit false

namespace SceneCode

open EStateM (Result)

/-! ## Running an instruction does not move the cursor -/

/-- A step leaves a part of the decoder as it was, whether it succeeds or fails. -/
def Keeps {α β : Type} (view : Decoder → β) (step : Decode α) : Prop :=
  ∀ decoder, view (settled (step.run decoder)) = view decoder

section

variable {α β γ : Type} {view : Decoder → γ}

theorem keeps_pure (value : α) : Keeps view (pure value : Decode α) := fun _ => rfl

theorem keeps_throw (fault : Fault) : Keeps view (throw fault : Decode α) := fun _ => rfl

theorem keeps_get : Keeps view (get : Decode Decoder) := fun _ => rfl

theorem keeps_modify {change : Decoder → Decoder}
    (same : ∀ decoder, view (change decoder) = view decoder) :
    Keeps view (modify change : Decode Unit) := same

theorem Keeps.bind {first : Decode α} {next : α → Decode β} (keeps : Keeps view first)
    (nextKeeps : ∀ value, Keeps view (next value)) : Keeps view (first >>= next) := by
  intro decoder
  have step := keeps decoder
  rw [EStateM.run_bind]
  cases ran : first.run decoder with
  | ok value after =>
      rw [ran] at step
      exact (nextKeeps value after).trans step
  | error fault after =>
      rw [ran] at step
      exact step

end

section

variable {γ : Type} {view : Decoder → γ}

theorem keeps_changeActive (change : Routine → Routine)
    (same : ∀ decoder : Decoder, view (decoder.changeActive change) = view decoder) :
    Keeps view (Decode.changeActive change) := by
  apply keeps_get.bind
  intro decoder
  cases decoder.active? with
  | none => exact keeps_throw _
  | some entry => exact (keeps_modify same).bind fun _ => keeps_pure _

/-- Instructions leave whatever does not depend on the log, on the frame and on the statements of
the routines. -/
theorem closed_keeps
    (log : ∀ (decoder : Decoder) (log : Array Diagnostic),
      view { decoder with log } = view decoder)
    (frame : ∀ (decoder : Decoder) (frame : Option Frame),
      view { decoder with frame } = view decoder)
    (statements : ∀ (decoder : Decoder) (change : Routine → Routine),
      (∀ routine, (change routine).args = routine.args ∧
        (change routine).locals = routine.locals) →
      view (decoder.changeActive change) = view decoder) :
    Closed (fun {α : Type} (step : Decode α) => Keeps view step) where
  pure := keeps_pure
  throw := keeps_throw
  bind := Keeps.bind
  report _ decoder := log decoder _
  operandStack := by
    apply keeps_get.bind
    intro decoder
    cases decoder.frame with
    | none => exact keeps_get.bind fun _ => keeps_throw _
    | some frame => exact keeps_pure _
  setStack _ decoder := frame decoder _
  routineAt address := by
    apply keeps_get.bind
    intro decoder
    cases decoder.routines.find? address with
    | none => exact keeps_throw _
    | some routine => exact keeps_pure _
  setFrame _ decoder := frame decoder _
  allocate statement :=
    (keeps_changeActive (fun routine => routine.allocate statement) fun decoder =>
      statements decoder _ fun _ => ⟨rfl, rfl⟩).bind fun _ => keeps_pure _
  emit statement := by
    have appends : Keeps view
        (discard (Decode.changeActive fun routine => routine.append statement)) := by
      rw [Decode.discard_eq]
      apply Keeps.bind
      · exact keeps_changeActive _ fun decoder => statements decoder _ fun _ => ⟨rfl, rfl⟩
      · exact fun _ => keeps_pure _
    apply keeps_get.bind
    intro decoder
    cases decoder.frame.isNone with
    | true => exact (keeps_throw _).bind fun _ => appends
    | false => exact appends

end

def Decoder.position (decoder : Decoder) : Int × Option Int :=
  (decoder.cursor, decoder.discoveryEnd)

namespace Decode

/-- Running an instruction does not move the cursor, however it ends. -/
theorem keeps_execute (scenario : Scenario) (address : Int) (operation : Operation) :
    Keeps Decoder.position (execute scenario address operation) := by
  apply (closed_keeps (fun _ _ => rfl) (fun _ _ => rfl) ?_).execute
  intro decoder change _
  unfold Decoder.changeActive
  split
  · rfl
  · split <;> rfl

/-! ## Both passes move by the length of the instruction -/

/-- A step that succeeds moves the cursor by the length of the instruction where it starts. -/
def Advances (scenario : Scenario) (step : Decode Unit) (before : Decoder) : Prop :=
  ∀ after, step.run before = .ok () after →
    ∃ length, scenario.lengthAt? before.cursor = some length ∧
      after.cursor = before.cursor + length

theorem lengthAt?_eq {scenario : Scenario} {address : Int} {opcode : Opcode} {size : Nat}
    (found : scenario.opcodeAt? address = some opcode)
    (length : scenario.operandLength? opcode (address + 1) = some size) :
    scenario.lengthAt? address = some (1 + size) := by
  simp [Scenario.lengthAt?, found, length]

theorem advances_discoverStep (scenario : Scenario) (before : Decoder) :
    Advances scenario (discoverStep scenario) before := by
  intro after stepped
  have discovered := run_discoverStep scenario before
  rw [stepped] at discovered
  cases discovered with
  | entered found argsRead localsRead =>
      refine ⟨3, lengthAt?_eq found rfl, ?_⟩
      simp only [Decoder.putRoutine]
      omega
  | @passed opcode size found plain length =>
      refine ⟨1 + size, lengthAt?_eq found length, ?_⟩
      dsimp only
      omega

theorem moves_discoverStep (scenario : Scenario) : Moves (discoverStep scenario) := by
  intro before after stepped
  obtain ⟨length, found, moved⟩ := advances_discoverStep scenario before after stepped
  have positive := Scenario.lengthAt?_pos found
  omega

theorem cursor_of_execute {scenario : Scenario} {address : Int} {operation : Operation}
    {before after : Decoder}
    (ran : (execute scenario address operation).run before = .ok () after) :
    after.cursor = before.cursor := by
  have kept := keeps_execute scenario address operation before
  rw [ran] at kept
  exact congrArg Prod.fst kept

theorem advances_interpretStep {scenario : Scenario} {before : Decoder} {opcode : Opcode}
    (known : scenario.opcodeAt? before.cursor = some opcode) :
    Advances scenario (interpretStep scenario) before := by
  intro after stepped
  have interpreted := run_interpretStep scenario before
  generalize same : (interpretStep scenario).run before = result at interpreted
  cases interpreted with
  | unreadable => simp [same] at stepped
  | skipped absent => simp [known] at absent
  | @executed opcode operation size found denotes length inside =>
      rw [same] at stepped
      have moved := cursor_of_execute stepped
      refine ⟨1 + size, lengthAt?_eq found length, ?_⟩
      rw [moved]
      dsimp only
      omega

theorem moves_interpretStep (scenario : Scenario) : Moves (interpretStep scenario) := by
  intro before after stepped
  have interpreted := run_interpretStep scenario before
  generalize same : (interpretStep scenario).run before = result at interpreted
  cases interpreted with
  | unreadable => simp [same] at stepped
  | skipped absent =>
      rw [same] at stepped
      cases stepped
      dsimp only
      omega
  | executed found denotes length inside =>
      rw [same] at stepped
      have moved := cursor_of_execute stepped
      rw [moved]
      dsimp only
      omega

theorem opcodeAt?_of_advances {scenario : Scenario} {step : Decode Unit} {before after : Decoder}
    (advances : Advances scenario step before) (stepped : step.run before = .ok () after) :
    ∃ opcode, scenario.opcodeAt? before.cursor = some opcode := by
  obtain ⟨length, found, _⟩ := advances after stepped
  unfold Scenario.lengthAt? at found
  split at found
  · rename_i opcode located
    exact ⟨opcode, located⟩
  · cases found

/-- Every byte of an instruction that both passes get over is read by one of them: the counts of a
routine by discovery, all other operands by interpretation. -/
theorem cursor_le_size {scenario : Scenario} {before after passing passed : Decoder}
    (discovered : (discoverStep scenario).run passing = .ok () passed)
    (stepped : (interpretStep scenario).run before = .ok () after)
    (same : before.cursor = passing.cursor) : after.cursor ≤ scenario.blob.size := by
  have discovery := run_discoverStep scenario passing
  have interpretation := run_interpretStep scenario before
  rw [discovered] at discovery
  generalize ended : (interpretStep scenario).run before = result at interpretation
  rw [ended] at stepped
  cases interpretation with
  | unreadable => cases stepped
  | skipped absent =>
      rw [same] at absent
      cases discovery <;> simp_all
  | @executed opcode operation size found denotes length inside =>
      rw [cursor_of_execute stepped]
      rcases inside with starts | inside
      · subst starts
        rw [same] at found
        have sizeExact : size = 2 := Option.some.inj (length.symm.trans rfl)
        cases discovery with
        | entered _ _ localsRead =>
            have fits := (Blob.bounds_of_unsigned localsRead).2.1
            dsimp only
            omega
        | passed other plain _ => simp_all
      · exact inside

end Decode

/-! ## Interpretation follows discovery -/

namespace Scenario

/-- The instructions at these addresses stand one behind the other and fill the space from `first`
to `last`. -/
def Tiles (scenario : Scenario) : Int → List Int → Int → Prop
  | first, [], last => first = last
  | first, address :: rest, last =>
    address = first ∧ ∃ length, scenario.lengthAt? first = some length ∧ 0 < length ∧
      scenario.Tiles (first + length) rest last

end Scenario

theorem Scenario.Tiles.ascending {scenario : Scenario} {first last : Int} {addresses : List Int}
    (tiles : scenario.Tiles first addresses last) :
    addresses.Pairwise (· < ·) ∧ ∀ address ∈ addresses, first ≤ address := by
  induction addresses generalizing first with
  | nil => simp
  | cons address rest ih =>
      obtain ⟨rfl, length, _, positive, restTiles⟩ := tiles
      obtain ⟨restAscending, behind⟩ := ih restTiles
      refine ⟨List.pairwise_cons.mpr ⟨?_, restAscending⟩, ?_⟩
      · intro other member
        have := behind other member
        omega
      · intro other member
        rcases List.mem_cons.mp member with rfl | later
        · exact Int.le_refl _
        · have := behind other later
          omega

open Decode (Advances advances_discoverStep advances_interpretStep)

theorem tiles_of_walk {scenario : Scenario} {stop : Int} {decoder : Decoder}
    {passed : List Decoder} {result : Result Fault Decoder Unit}
    (walk : Walk stop (Decode.discoverStep scenario) decoder passed result) :
    ∀ last, result = .ok () last →
      scenario.Tiles decoder.cursor (passed.map Decoder.cursor) last.cursor := by
  induction walk with
  | finish reached =>
      intro last ended
      cases ended
      rfl
  | fault inside failed => simp
  | @next decoder after passed result inside stepped rest ih =>
      intro last ended
      obtain ⟨length, found, moved⟩ := advances_discoverStep scenario decoder after stepped
      refine ⟨rfl, length, found, Scenario.lengthAt?_pos found, ?_⟩
      rw [← moved]
      exact ih last ended

/-- Side by side: interpretation from the same cursor takes its steps where discovery did. -/
theorem follows_of_walk {scenario : Scenario} {stop : Int} {start : Decoder}
    {passed : List Decoder} {result : Result Fault Decoder Unit}
    (discovery : Walk stop (Decode.discoverStep scenario) start passed result) :
    ∀ (last first : Decoder) (visited : List Decoder) (ending : Result Fault Decoder Unit),
      result = .ok () last →
      Walk stop (Decode.interpretStep scenario) first visited ending →
      first.cursor = start.cursor → start.cursor ≤ scenario.blob.size →
      visited.map Decoder.cursor <+: passed.map Decoder.cursor ∧
        ∀ final, ending = .ok () final →
          visited.map Decoder.cursor = passed.map Decoder.cursor ∧
            final.cursor = last.cursor ∧ final.cursor ≤ scenario.blob.size := by
  induction discovery with
  | finish reached =>
      intro last first visited ending succeeded interpretation same fits
      cases succeeded
      cases interpretation with
      | finish _ =>
          refine ⟨List.prefix_refl _, ?_⟩
          intro final ended
          cases ended
          exact ⟨rfl, same, same ▸ fits⟩
      | fault inside _ => omega
      | next inside _ _ => omega
  | fault inside failed => simp
  | @next start after passed result inside stepped rest ih =>
      intro last first visited ending succeeded interpretation same fits
      cases interpretation with
      | finish reached => omega
      | fault _ _ =>
          refine ⟨?_, by simp⟩
          simp [same]
      | @next _ firstAfter visited _ _ firstStepped firstRest =>
          have discoveryAdvances := advances_discoverStep scenario start
          obtain ⟨opcode, known⟩ := Decode.opcodeAt?_of_advances discoveryAdvances stepped
          obtain ⟨length, found, moved⟩ := discoveryAdvances after stepped
          obtain ⟨firstLength, firstFound, firstMoved⟩ :=
            advances_interpretStep (same ▸ known) firstAfter firstStepped
          have lengthSame : firstLength = length := by
            rw [same, found] at firstFound
            exact (Option.some.inj firstFound).symm
          have afterSame : firstAfter.cursor = after.cursor := by
            rw [firstMoved, moved, same, lengthSame]
          have afterFits := Decode.cursor_le_size stepped firstStepped same
          obtain ⟨ahead, atEnd⟩ := ih last firstAfter visited ending succeeded firstRest afterSame
            (afterSame ▸ afterFits)
          constructor
          · simpa [same] using ahead
          · intro final ended
            obtain ⟨allVisited, ends⟩ := atEnd final ended
            exact ⟨by simp [same, allVisited], ends⟩

theorem exists_discovery (scenario : Scenario) (start : Decoder) :
    ∃ passed, Walk scenario.streamEnd (Decode.discoverStep scenario) start.beforeDiscovery passed
      ((Decode.walk scenario.streamEnd (Decode.discoverStep scenario) scenario.streamEnd).run
        start.beforeDiscovery) := by
  have fuel : (scenario.streamEnd : Int) - start.beforeDiscovery.cursor ≤ scenario.streamEnd := by
    simp only [Decoder.beforeDiscovery, Decoder.rewind]
    omega
  exact exists_walk (Decode.moves_discoverStep scenario) _ _ fuel

theorem walk_of_discover {scenario : Scenario} {start found : Decoder}
    (completed : (Decode.discover scenario).run start = .ok () found) :
    ∃ passed last, Walk scenario.streamEnd (Decode.discoverStep scenario) start.beforeDiscovery
      passed (.ok () last) ∧ found = last.afterDiscovery := by
  obtain ⟨passed, walk⟩ := exists_discovery scenario start
  rw [run_discover] at completed
  generalize (Decode.walk scenario.streamEnd (Decode.discoverStep scenario)
    scenario.streamEnd).run start.beforeDiscovery = result at walk completed
  cases result with
  | ok _ last =>
      cases completed
      exact ⟨passed, last, walk, rfl⟩
  | error fault last => cases completed

theorem walk_of_interpret (scenario : Scenario) (start : Decoder) :
    ∃ visited, Walk scenario.streamEnd (Decode.interpretStep scenario) start.beforeInterpretation
      visited ((Decode.interpret scenario).run start) := by
  have fuel : (scenario.streamEnd : Int) - start.beforeInterpretation.cursor ≤
      scenario.streamEnd := by
    simp only [Decoder.beforeInterpretation, Decoder.rewind]
    omega
  rw [run_interpret]
  exact exists_walk (Decode.moves_interpretStep scenario) _ _ fuel

/-- Of a file that was parsed, interpretation takes its steps where discovery did. -/
theorem follows_of_passes {blob : Blob} {encoding : Encoding} {scenario : Scenario}
    {start last first : Decoder} {passed visited : List Decoder}
    {ending : Result Fault Decoder Unit}
    (parsed : Scenario.parse blob encoding = .ok scenario)
    (discovery : Walk scenario.streamEnd (Decode.discoverStep scenario) start.beforeDiscovery passed
      (.ok () last))
    (interpretation : Walk scenario.streamEnd (Decode.interpretStep scenario)
      first.beforeInterpretation visited ending) :
    visited.map Decoder.cursor <+: passed.map Decoder.cursor ∧
      ∀ final, ending = .ok () final →
        visited.map Decoder.cursor = passed.map Decoder.cursor ∧
          final.cursor = last.cursor ∧ final.cursor ≤ scenario.blob.size := by
  obtain ⟨blobSame, _, startsBefore, endsInside, _⟩ := Scenario.facts_of_parse parsed
  have startFits : (start.beforeDiscovery.cursor : Int) ≤ scenario.blob.size := by
    rw [blobSame]
    simp only [Decoder.beforeDiscovery, Decoder.rewind]
    omega
  exact follows_of_walk discovery last _ visited _ rfl interpretation rfl startFits

/-- The walks behind a program that was disassembled: both visit the same instructions, which fill
the space from the start of the stream to the end of the program. -/
theorem walks_of_disassemble {blob : Blob} {encoding : Encoding} {program : Program}
    (decoded : disassemble blob encoding = .ok program) :
    ∃ scenario passed last visited final, Scenario.parse blob encoding = .ok scenario ∧
      (Decode.discover scenario).run {} = .ok () last.afterDiscovery ∧
      Walk scenario.streamEnd (Decode.discoverStep scenario) (Decoder.beforeDiscovery {}) passed
        (.ok () last) ∧
      Walk scenario.streamEnd (Decode.interpretStep scenario)
        last.afterDiscovery.beforeInterpretation visited (.ok () final) ∧
      visited.map Decoder.cursor = passed.map Decoder.cursor ∧
      scenario.Tiles streamStart (passed.map Decoder.cursor) final.cursor ∧
      program = {
        entryPoint := scenario.entryPoint
        title := scenario.title
        routines := final.routines
        endOffset := final.cursor } := by
  obtain ⟨scenario, found, final, parsed, discovered, interpreted, rfl⟩ :=
    passes_of_disassemble decoded
  obtain ⟨passed, last, discovery, rfl⟩ := walk_of_discover discovered
  obtain ⟨visited, walk⟩ := walk_of_interpret scenario last.afterDiscovery
  rw [interpreted] at walk
  obtain ⟨_, atEnd⟩ := follows_of_passes parsed discovery walk
  obtain ⟨allVisited, sameEnd, _⟩ := atEnd final rfl
  refine ⟨scenario, passed, last, visited, final, parsed, discovered, discovery, walk, allVisited,
    ?_, rfl⟩
  rw [sameEnd]
  exact tiles_of_walk discovery last rfl

theorem discoveryEnd_of_interpretStep {scenario : Scenario} {before after : Decoder}
    (stepped : (Decode.interpretStep scenario).run before = .ok () after) :
    after.discoveryEnd = before.discoveryEnd := by
  have interpreted := Decode.run_interpretStep scenario before
  generalize same : (Decode.interpretStep scenario).run before = result at interpreted
  rw [same] at stepped
  cases interpreted with
  | unreadable => cases stepped
  | skipped absent =>
      cases stepped
      rfl
  | @executed opcode operation size found denotes length inside =>
      have kept := Decode.keeps_execute scenario before.cursor operation
        { before with cursor := before.cursor + 1 + size }
      rw [stepped] at kept
      exact congrArg Prod.snd kept

/-- After a discovery that completes, from whatever decoder, interpretation takes its steps at a
prefix of the addresses at which discovery took them.  Each step that succeeds moves the cursor by
the length of an instruction, as it did in discovery, and never meets an unknown opcode.  If
interpretation succeeds it has taken all the steps, ends where discovery ended, and the instructions
fill the space from the start of the stream up to there, which is at or behind the end of the stream
and inside the file. -/
theorem interpret_follows_discover (blob : Blob) (encoding : Encoding) (scenario : Scenario)
    (start found : Decoder) (parsed : Scenario.parse blob encoding = .ok scenario)
    (completed : (Decode.discover scenario).run start = .ok () found) :
    ∃ passed last visited,
      Walk scenario.streamEnd (Decode.discoverStep scenario) start.beforeDiscovery passed
        (.ok () last) ∧
      found = last.afterDiscovery ∧
      Walk scenario.streamEnd (Decode.interpretStep scenario) found.beforeInterpretation visited
        ((Decode.interpret scenario).run found) ∧
      visited.map Decoder.cursor <+: passed.map Decoder.cursor ∧
      (∀ before ∈ passed, Advances scenario (Decode.discoverStep scenario) before) ∧
      (∀ before ∈ visited, Advances scenario (Decode.interpretStep scenario) before ∧
        ∃ opcode, scenario.opcodeAt? before.cursor = some opcode) ∧
      ∀ final, (Decode.interpret scenario).run found = .ok () final →
        visited.map Decoder.cursor = passed.map Decoder.cursor ∧
        final.discoveryEnd = some final.cursor ∧
        scenario.Tiles streamStart (visited.map Decoder.cursor) final.cursor ∧
        (∀ before ∈ visited, before.cursor < scenario.streamEnd) ∧
        streamStart ≤ scenario.streamEnd ∧ scenario.streamEnd ≤ final.cursor ∧
        final.cursor ≤ blob.size := by
  obtain ⟨blobSame, _, startsBefore, endsInside, _⟩ := Scenario.facts_of_parse parsed
  obtain ⟨passed, last, discovery, rfl⟩ := walk_of_discover completed
  obtain ⟨visited, interpretation⟩ := walk_of_interpret scenario last.afterDiscovery
  have startFits : (start.beforeDiscovery.cursor : Int) ≤ scenario.blob.size := by
    rw [blobSame]
    simp only [Decoder.beforeDiscovery, Decoder.rewind]
    omega
  obtain ⟨ahead, atEnd⟩ := follows_of_walk discovery last _ visited _ rfl interpretation rfl
    startFits
  have known : ∀ before ∈ visited, ∃ opcode, scenario.opcodeAt? before.cursor = some opcode := by
    intro before member
    have address : before.cursor ∈ passed.map Decoder.cursor :=
      ahead.subset (List.mem_map_of_mem member)
    obtain ⟨passing, passes, same⟩ := List.mem_map.mp address
    obtain ⟨after, stepped⟩ := discovery.succeeds last rfl passing passes
    rw [← same]
    exact Decode.opcodeAt?_of_advances (advances_discoverStep scenario passing) stepped
  refine ⟨passed, last, visited, discovery, rfl, interpretation, ahead,
    fun before _ => advances_discoverStep scenario before, ?_, ?_⟩
  · intro before member
    obtain ⟨opcode, located⟩ := known before member
    exact ⟨advances_interpretStep located, opcode, located⟩
  · intro final ended
    obtain ⟨allVisited, sameEnd, fits⟩ := atEnd final ended
    have recorded := (interpretation.invariant
      (fun decoder => decoder.discoveryEnd = some last.cursor)
      (fun before after holds _ stepped =>
        (discoveryEnd_of_interpretStep stepped).trans holds) rfl).2 final ended
    refine ⟨allVisited, ?_, ?_, interpretation.cursor_lt, startsBefore,
      interpretation.le_cursor final ended, blobSame ▸ fits⟩
    · rw [recorded, sameEnd]
    · rw [allVisited, sameEnd]
      exact tiles_of_walk discovery last rfl

/-- A file with one routine, which stores the sum of two constants in a global. -/
def sumFile : Blob :=
  #[0x16, 0, 0, 0,
    0x01, 0, 0,  0x0A, 5, 0, 0, 0,  0x0A, 3, 0, 0, 0,  0x1A,  0x15, 1, 0,  0x04,
    4, 0, 0, 0,  0, 0,  0, 0,  0, 0,  0,  0, 0]

def sumScenario : Scenario where
  blob := sumFile
  encoding := .utf8
  streamEnd := 22
  description :=
    { entryPoint := 4, nonVolatileGlobals := 0, volatileGlobals := 0, gameMode := 0, title := "",
      syscalls := #[], customSyscalls := #[] }

theorem parse_sumFile : Scenario.parse sumFile .utf8 = .ok sumScenario :=
  eq_ok_of_toOption (by decide +kernel)

theorem interpret_follows_discover_sum :
    ∃ found final,
      (Decode.discover sumScenario).run {} = .ok () found ∧
      (Decode.interpret sumScenario).run found = .ok () final ∧
      final.discoveryEnd = some final.cursor ∧ 22 ≤ final.cursor ∧
      ∃ addresses, sumScenario.Tiles 4 addresses final.cursor := by
  have discovered : succeeded ((Decode.discover sumScenario).run {}) = true := by decide +kernel
  have interpreted : succeeded ((Decode.interpret sumScenario).run
      (settled ((Decode.discover sumScenario).run {}))) = true := by decide +kernel
  obtain ⟨_, _, visited, _, _, _, _, _, _, atEnd⟩ := interpret_follows_discover sumFile .utf8
    sumScenario {} _ parse_sumFile (eq_ok_of_succeeded discovered)
  obtain ⟨_, recorded, tiles, _, _, reached, _⟩ := atEnd _ (eq_ok_of_succeeded interpreted)
  exact ⟨_, _, eq_ok_of_succeeded discovered, eq_ok_of_succeeded interpreted, recorded,
    by exact_mod_cast reached, _, tiles⟩

end SceneCode
