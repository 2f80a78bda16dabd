import SceneCode.Proofs.Filing
import SceneCode.Proofs.Stream

/-!
# The passage through a routine

Interpretation comes to the start of a routine while the routine is blank, gets over its
instructions one by one, and does not come back to it.  So a routine of a program is what its own
instructions make of a blank one (`Decoding.exists_passage`), and every routine has instructions,
up to the start of the next routine or the end of the program (`Decoding.exists_body`).
-/

set_option autoImplicit false

namespace SceneCode

open EStateM (Result)

/-! ## Steps inside a routine -/

/-- A step over an encoded instruction moves the cursor behind it. -/
theorem cursor_interpretStep {scenario : Scenario} {decoder after : Decoder}
    {instruction : Instruction} (there : scenario.blob.HasAt decoder.cursor instruction.encode)
    (stepped : (Decode.interpretStep scenario).run decoder = .ok () after) :
    after.cursor = decoder.cursor + instruction.encode.length := by
  rw [Decode.run_interpretStep_encoded there] at stepped
  exact Decode.cursor_of_execute stepped

/-- A step over an encoded instruction of a routine has the effect that the instruction has. -/
theorem effect_interpretStep {scenario : Scenario} {arity : Int → Option Int}
    {decoder after : Decoder} {address : Int} {activation : Activation}
    {instruction : Instruction} (plain : instruction.opcode ≠ .initStack)
    (there : scenario.blob.HasAt decoder.cursor instruction.encode)
    (inside : decoder.Inside arity address activation)
    (stepped : (Decode.interpretStep scenario).run decoder = .ok () after) :
    ∃ effect rest, after.cursor = decoder.cursor + instruction.encode.length ∧
      activation.outcome scenario arity decoder.cursor
        (instruction.operation scenario.encoding) = .ok (effect, rest) ∧
      after.Inside arity address (effect.apply decoder.cursor rest activation.routine) := by
  have moved := cursor_interpretStep there stepped
  rw [Decode.run_interpretStep_encoded there] at stepped
  have start : { decoder with
      cursor := decoder.cursor + instruction.encode.length }.Inside arity address activation :=
    inside.ofSame rfl rfl
  cases Decode.ends_execute scenario arity decoder.cursor _
    (instruction.operation_ne_enter plain) (instruction.slotSigned _) activation with
  | error outcome _ ends =>
      obtain ⟨left, ran, _⟩ := ends _ address start
      rw [stepped] at ran
      cases ran
  | @ok effect rest outcome ends =>
      obtain ⟨left, ran, leftInside, _⟩ := ends _ address start
      rw [stepped] at ran
      cases ran
      exact ⟨effect, rest, moved, outcome, leftInside⟩

/-- Interpretation gets over these instructions of the stream, none of which starts a routine. -/
inductive Passage (scenario : Scenario) : Decoder → List Instruction → Decoder → Prop where
  | nil {decoder : Decoder} : Passage scenario decoder [] decoder
  | cons {decoder after last : Decoder} {instruction : Instruction} {rest : List Instruction}
      (before : decoder.cursor < scenario.streamEnd) (plain : instruction.opcode ≠ .initStack)
      (there : scenario.blob.HasAt decoder.cursor instruction.encode)
      (stepped : (Decode.interpretStep scenario).run decoder = .ok () after)
      (later : Passage scenario after rest last) :
      Passage scenario decoder (instruction :: rest) last

theorem Passage.regular {scenario : Scenario} {decoder last : Decoder} {body : List Instruction}
    (passage : Passage scenario decoder body last) (regular : decoder.Regular) : last.Regular := by
  induction passage with
  | nil => exact regular
  | cons before plain there stepped later ih =>
      exact ih (Decode.regular_interpretStep regular stepped).1

/-- The operations of instructions that stand one behind the other, each with its address. -/
def Instruction.code (encoding : Encoding) (address : Int) :
    List Instruction → List (Int × Operation)
  | [] => []
  | instruction :: rest =>
    (address, instruction.operation encoding) ::
      code encoding (address + instruction.encode.length) rest

/-- Runs instructions one after the other, each at its address. -/
def Activation.runAll (scenario : Scenario) (arity : Int → Option Int)
    (activation : Activation) : List (Int × Operation) → Option Activation
  | [] => some activation
  | (address, operation) :: rest =>
    match activation.outcome scenario arity address operation with
    | .ok (effect, left) =>
      (effect.apply address left activation.routine).runAll scenario arity rest
    | .error _ => none

/-- Inside a routine interpretation runs the instructions it gets over. -/
theorem run_of_passage {scenario : Scenario} {arity : Int → Option Int} {address : Int}
    {decoder last : Decoder} {body : List Instruction}
    (passage : Passage scenario decoder body last) :
    ∀ {activation : Activation}, decoder.Inside arity address activation →
      ∃ left, last.Inside arity address left ∧ activation.runAll scenario arity
        (Instruction.code scenario.encoding decoder.cursor body) = some left := by
  induction passage with
  | nil =>
      intro activation inside
      exact ⟨activation, inside, rfl⟩
  | cons before plain there stepped later ih =>
      intro activation inside
      obtain ⟨effect, rest, moved, outcome, afterInside⟩ :=
        effect_interpretStep plain there inside stepped
      obtain ⟨left, leftInside, ran⟩ := ih afterInside
      refine ⟨left, leftInside, ?_⟩
      rw [Instruction.code, Activation.runAll, outcome, ← moved]
      exact ran

/-- A walk passes the instructions that are encoded where it stands. -/
theorem passage_of_walk {scenario : Scenario} {final : Decoder} (body : List Instruction) :
    ∀ {decoder : Decoder} {visited : List Decoder},
      Walk scenario.streamEnd (Decode.interpretStep scenario) decoder visited (.ok () final) →
      scenario.blob.HasAt decoder.cursor (Reference.encode body) →
      decoder.cursor + (Reference.encode body).length ≤ final.cursor →
      (∀ instruction ∈ body, instruction.opcode ≠ .initStack) →
      ∃ last later, Passage scenario decoder body last ∧
        Walk scenario.streamEnd (Decode.interpretStep scenario) last later (.ok () final) ∧
        last.cursor = decoder.cursor + (Reference.encode body).length := by
  induction body with
  | nil =>
      intro decoder visited walk _ _ _
      exact ⟨decoder, visited, .nil, walk, by simp [Reference.encode]⟩
  | cons instruction rest ih =>
      intro decoder visited walk there ends plain
      obtain ⟨herePlain, restPlain⟩ := List.forall_mem_cons.mp plain
      rw [Reference.encode_cons] at there ends
      rw [List.length_append] at ends
      have length := instruction.length_encode
      obtain ⟨here, later⟩ := there.append
      cases walk with
      | finish reached => omega
      | @next _ after _ _ before stepped walkRest =>
          have moved := cursor_interpretStep here stepped
          obtain ⟨last, others, passage, lastWalk, reaches⟩ :=
            ih walkRest (moved ▸ later) (by omega) restPlain
          refine ⟨last, others, .cons before herePlain here stepped passage, lastWalk, ?_⟩
          rw [reaches, moved, Reference.encode_cons, List.length_append]
          omega

/-! ## Before and behind a routine -/

/-- A step at the start of a routine enters it. -/
theorem entered_interpretStep {scenario : Scenario} {before after : Decoder}
    (regular : before.Regular) (starts : scenario.opcodeAt? before.cursor = some .initStack)
    (stepped : (Decode.interpretStep scenario).run before = .ok () after) :
    ∃ routine, before.routines.find? before.cursor = some routine ∧
      after.routines = before.routines ∧
      after.Inside before.routines.arity before.cursor ⟨[], routine⟩ := by
  have played := Decode.played_interpretStep scenario regular
  rw [stepped] at played
  cases played with
  | idle table frame quiet =>
      rw [starts] at quiet
      rcases quiet with absent | nop
      · cases absent
      · cases nop
  | entered _ found table inside => exact ⟨_, found, table, inside⟩
  | effected located _ _ _ _ _ _ plain =>
      rw [starts] at located
      cases located
      exact absurd rfl plain

/-- A routine that interpretation has not come to yet is as it was at the start. -/
theorem find?_of_unreached {scenario : Scenario} {stop : Int} {decoder : Decoder}
    {visited : List Decoder} {result : Result Fault Decoder Unit}
    (walk : Walk stop (Decode.interpretStep scenario) decoder visited result)
    (regular : decoder.Regular) (outside : decoder.frame = none) :
    ∀ state ∈ visited, ∀ address, state.cursor ≤ address →
      state.routines.find? address = decoder.routines.find? address := by
  have kept : ∀ before after, before.Regular ∧
      (∀ start, before.frame.map Frame.address = some start → start < before.cursor) ∧
      (∀ address, before.cursor ≤ address →
        before.routines.find? address = decoder.routines.find? address) →
      before.cursor < stop → (Decode.interpretStep scenario).run before = .ok () after →
      after.Regular ∧
      (∀ start, after.frame.map Frame.address = some start → start < after.cursor) ∧
      ∀ address, after.cursor ≤ address →
        after.routines.find? address = decoder.routines.find? address := by
    rintro before after ⟨regular, earlier, same⟩ _ stepped
    have moved := Decode.moves_interpretStep scenario before after stepped
    refine ⟨(Decode.regular_interpretStep regular stepped).1, ?_⟩
    have played := Decode.played_interpretStep scenario regular
    rw [stepped] at played
    cases played with
    | idle table frame quiet =>
        rw [table, frame]
        exact ⟨fun start here => Int.lt_trans (earlier start here) moved,
          fun address later => same address (by omega)⟩
    | entered starts found table inside =>
        rw [table, inside.frame_eq]
        refine ⟨?_, fun address later => same address (by omega)⟩
        intro start here
        cases here
        exact moved
    | @effected _ _ owner _ _ _ _ _ _ inside _ _ left table =>
        have passed := earlier owner inside.frame_eq
        rw [left.frame_eq, table]
        refine ⟨?_, ?_⟩
        · intro start here
          cases here
          omega
        · intro address later
          rw [OrderedMap.find?_modify, if_neg (by omega)]
          exact same address (by omega)
  have initially : ∀ start, decoder.frame.map Frame.address = some start →
      start < decoder.cursor := by
    simp [outside]
  intro state member
  exact ((walk.invariant _ kept ⟨regular, initially, fun _ _ => rfl⟩).1 state member).2.2

/-- What discovery enters into its table where a routine starts. -/
theorem counts_of_start {scenario : Scenario} {found : Decoder} {addresses : List Int}
    {address : Int} {args locals : UInt8}
    (entries : found.routines.entries = addresses.filterMap scenario.startAt?)
    (passed : address ∈ addresses)
    (there : scenario.blob.HasAt address (Instruction.initStack args locals).encode) :
    found.routines.find? address = some { args := args.toNat, locals := locals.toNat } := by
  have located := Instruction.opcodeAt?_encoded there
  obtain ⟨argsRead, localsThere⟩ := Blob.unsigned_byte (Instruction.operands_encoded there)
  have localsRead := (Blob.unsigned_byte localsThere).1
  have second : address + 1 + 1 = address + 2 := by omega
  rw [second] at localsRead
  have starts : scenario.startAt? address =
      some (address, { args := args.toNat, locals := locals.toNat }) := by
    simp [Scenario.startAt?, located, Instruction.opcode, argsRead, localsRead]
  apply OrderedMap.find?_of_mem
  rw [entries]
  exact List.mem_filterMap.mpr ⟨address, passed, starts⟩

theorem blank_of_start {scenario : Scenario} {found state : Decoder} {visited : List Decoder}
    {result : Result Fault Decoder Unit} {addresses : List Int} {args locals : UInt8}
    (walk : Walk scenario.streamEnd (Decode.interpretStep scenario) found.beforeInterpretation
      visited result) (regular : found.beforeInterpretation.Regular)
    (entries : found.routines.entries = addresses.filterMap scenario.startAt?)
    (member : state ∈ visited) (passed : state.cursor ∈ addresses)
    (there : scenario.blob.HasAt state.cursor (Instruction.initStack args locals).encode) :
    state.routines.find? state.cursor =
      some { args := args.toNat, locals := locals.toNat } := by
  rw [find?_of_unreached walk regular rfl state member _ (Int.le_refl _),
    Decoder.beforeInterpretation, RoutineTable.resetAll, OrderedMap.find?_mapValues,
    counts_of_start entries passed there]
  rfl

/-- Once interpretation is inside another routine, a routine that it has passed stays as it is. -/
theorem find?_of_passed {scenario : Scenario} {stop address : Int} {decoder final : Decoder}
    {visited : List Decoder}
    (walk : Walk stop (Decode.interpretStep scenario) decoder visited (.ok () final))
    (regular : decoder.Regular) (passed : address < decoder.cursor)
    (elsewhere : decoder.frame.map Frame.address ≠ some address) :
    final.routines.find? address = decoder.routines.find? address := by
  have kept : ∀ before after, before.Regular ∧ address < before.cursor ∧
      before.frame.map Frame.address ≠ some address ∧
      before.routines.find? address = decoder.routines.find? address →
      before.cursor < stop → (Decode.interpretStep scenario).run before = .ok () after →
      after.Regular ∧ address < after.cursor ∧
      after.frame.map Frame.address ≠ some address ∧
      after.routines.find? address = decoder.routines.find? address := by
    rintro before after ⟨regular, passed, elsewhere, same⟩ _ stepped
    have moved := Decode.moves_interpretStep scenario before after stepped
    refine ⟨(Decode.regular_interpretStep regular stepped).1, by omega, ?_⟩
    have played := Decode.played_interpretStep scenario regular
    rw [stepped] at played
    cases played with
    | idle table frame quiet =>
        rw [table, frame]
        exact ⟨elsewhere, same⟩
    | entered starts found table inside =>
        rw [table, inside.frame_eq]
        refine ⟨fun here => ?_, same⟩
        cases here
        exact Int.lt_irrefl _ passed
    | @effected _ _ start _ _ _ _ _ _ inside _ _ left table =>
        have other : start ≠ address := by
          rintro rfl
          exact elsewhere inside.frame_eq
        rw [left.frame_eq, table, OrderedMap.find?_modify, if_neg (Ne.symm other)]
        exact ⟨fun here => other (Option.some.inj here), same⟩
  exact ((walk.invariant _ kept ⟨regular, passed, elsewhere, rfl⟩).2 final rfl).2.2.2

/-- Behind its last instruction a routine stays as it is, if the stream ends there or the next
routine starts there. -/
theorem find?_of_ended {scenario : Scenario} {stop address : Int} {arity : Int → Option Int}
    {activation : Activation} {decoder final : Decoder} {visited : List Decoder}
    (walk : Walk stop (Decode.interpretStep scenario) decoder visited (.ok () final))
    (regular : decoder.Regular) (inside : decoder.Inside arity address activation)
    (passed : address < decoder.cursor)
    (ends : final.cursor = decoder.cursor ∨ decoder.cursor < stop ∧
      scenario.opcodeAt? decoder.cursor = some .initStack) :
    final.routines.find? address = some activation.routine := by
  cases walk with
  | finish reached => exact inside.found
  | @next _ after _ _ _ stepped rest =>
      have moved := Decode.moves_interpretStep scenario decoder after stepped
      have forward := rest.cursor_le (Decode.moves_interpretStep scenario)
      rcases ends with same | ⟨_, starts⟩
      · omega
      · obtain ⟨routine, _, table, entered⟩ := entered_interpretStep regular starts stepped
        rw [find?_of_passed rest (Decode.regular_interpretStep regular stepped).1 (by omega), table]
        · exact inside.found
        · rw [entered.frame_eq]
          exact fun here => absurd (Option.some.inj here) (by omega)

/-! ## Routines of a program -/

/-- How a program was made: discovery left `found`, interpretation took its steps at `visited`, and
its instructions fill the stream up to the end of the program. -/
structure Decoding (scenario : Scenario) (program : Program) (found : Decoder)
    (visited : List Decoder) (final : Decoder) : Prop where
  discovered : (Decode.discover scenario).run {} = .ok () found
  entries : found.routines.entries = (visited.map Decoder.cursor).filterMap scenario.startAt?
  walk : Walk scenario.streamEnd (Decode.interpretStep scenario) found.beforeInterpretation visited
    (.ok () final)
  interpreted : (Decode.interpret scenario).run found = .ok () final
  routines : program.routines = final.routines
  ends : program.endOffset = final.cursor
  tiles : scenario.Tiles streamStart (visited.map Decoder.cursor) program.endOffset
  fits : program.endOffset ≤ scenario.blob.size
  early : scenario.streamEnd < Nat.pow 256 4
  keys : ∀ key, key ∈ program.routines.keys ↔
    key ∈ visited.map Decoder.cursor ∧ scenario.opcodeAt? key = some .initStack

theorem exists_decoding {blob : Blob} {encoding : Encoding} {program : Program}
    (decoded : disassemble blob encoding = .ok program) :
    ∃ scenario found visited final, Scenario.parse blob encoding = .ok scenario ∧
      Decoding scenario program found visited final := by
  obtain ⟨scenario, passed, last, visited, final, parsed, discovered, discovery, walk, same, tiles,
    rfl⟩ := walks_of_disassemble decoded
  obtain ⟨blobSame, _, _, _, early⟩ := Scenario.facts_of_parse parsed
  have entries := entries_of_discovery discovery
  have ends := end_le_size parsed discovery walk
  obtain ⟨_, course⟩ := walk_of_interpret scenario last.afterDiscovery
  refine ⟨scenario, _, visited, final, parsed, discovered, same ▸ entries, walk,
    (walk.unique course).2, rfl, rfl, same ▸ tiles, blobSame ▸ ends, early, ?_⟩
  intro key
  rw [same, keys_of_interpretation discovered walk]
  exact mem_keys_of_discovery discovery

theorem decoding_of_parse {blob : Blob} {encoding : Encoding} {scenario : Scenario}
    {program : Program} (parsed : Scenario.parse blob encoding = .ok scenario)
    (decoded : disassemble blob encoding = .ok program) :
    ∃ found visited final, Decoding scenario program found visited final := by
  obtain ⟨other, found, visited, final, otherParsed, decoding⟩ := exists_decoding decoded
  rw [parsed] at otherParsed
  cases otherParsed
  exact ⟨found, visited, final, decoding⟩

namespace Program

/-- Where the instructions of a routine end: at the next routine, or with the program. -/
def routineEnd (program : Program) (address : Int) : Int :=
  (program.routines.keys.filter (address < ·)).min?.getD program.endOffset

theorem routineEnd_cases (program : Program) (address : Int) :
    (program.routineEnd address ∈ program.routines.keys ∧ address < program.routineEnd address ∨
      program.routineEnd address = program.endOffset ∧
        ∀ key ∈ program.routines.keys, key ≤ address) ∧
    ∀ key ∈ program.routines.keys, address < key → program.routineEnd address ≤ key := by
  unfold routineEnd
  cases least : (program.routines.keys.filter (address < ·)).min? with
  | none =>
      have empty := List.min?_eq_none_iff.mp least
      have behind : ∀ key ∈ program.routines.keys, key ≤ address := by
        intro key member
        have excluded := List.filter_eq_nil_iff.mp empty key member
        simpa using excluded
      refine ⟨.inr ⟨rfl, behind⟩, ?_⟩
      intro key member later
      exact absurd (behind key member) (Int.not_le.mpr later)
  | some next =>
      obtain ⟨member, below⟩ := List.min?_eq_some_iff.mp least
      obtain ⟨known, later⟩ := List.mem_filter.mp member
      refine ⟨.inl ⟨known, by simpa using later⟩, ?_⟩
      intro key member later
      exact below key (List.mem_filter.mpr ⟨member, by simpa using later⟩)

theorem routineEnd_stops (program : Program) (address : Int) :
    program.endOffset = program.routineEnd address ∨
      program.routineEnd address ∈ program.routines.keys := by
  rcases (program.routineEnd_cases address).1 with ⟨known, _⟩ | ⟨last, _⟩
  · exact .inr known
  · exact .inl last.symm

end Program

theorem map_snd_layout (first : Int) (instructions : List Instruction) :
    (Reference.layout first instructions).map Prod.snd = instructions := by
  induction instructions generalizing first with
  | nil => rfl
  | cons instruction rest ih => rw [Reference.layout, List.map_cons, ih]

/-- Where the instructions of a list stand, their encodings stand. -/
theorem hasAt_of_layout {blob : Blob} {instructions : List Instruction} {first : Int}
    (there : blob.HasAt first (Reference.encode instructions)) :
    ∀ line ∈ Reference.layout first instructions, blob.HasAt line.1 line.2.encode := by
  induction instructions generalizing first with
  | nil => simp [Reference.layout]
  | cons instruction rest ih =>
      intro line member
      rw [Reference.encode_cons] at there
      obtain ⟨here, later⟩ := there.append
      rcases List.mem_cons.mp member with rfl | behind
      · exact here
      · exact ih later line behind

namespace Decoding

variable {scenario : Scenario} {program : Program} {found final : Decoder}
  {visited : List Decoder} (decoding : Decoding scenario program found visited final)

include decoding

/-- The routines take as many arguments all along. -/
theorem arity_of_visited {state : Decoder} (member : state ∈ visited) :
    state.Regular ∧ state.routines.arity = program.routines.arity := by
  have constant := decoding.walk.invariant
    (fun decoder => decoder.Regular ∧
      decoder.routines.arity = found.beforeInterpretation.routines.arity)
    (fun before after holds _ stepped =>
      have next := Decode.regular_interpretStep holds.1 stepped
      ⟨next.1, next.2.trans holds.2⟩)
    ⟨regular_beforeInterpretation decoding.discovered, rfl⟩
  obtain ⟨regular, same⟩ := constant.1 state member
  refine ⟨regular, ?_⟩
  rw [decoding.routines, same, (constant.2 final rfl).2]

/-- Interpretation comes to the start of a routine while the routine is blank. -/
theorem find?_of_start {state : Decoder} {args locals : UInt8} (member : state ∈ visited)
    (there : scenario.blob.HasAt state.cursor (Instruction.initStack args locals).encode) :
    state.routines.find? state.cursor =
      some { args := args.toNat, locals := locals.toNat } :=
  blank_of_start decoding.walk (regular_beforeInterpretation decoding.discovered) decoding.entries
    member (List.mem_map_of_mem member) there

/-- A routine ends behind its start and inside the file, where an instruction starts or where the
program ends. -/
theorem routineEnd_bounds {address : Int} (started : address ∈ program.routines.keys) :
    address < program.routineEnd address ∧ program.routineEnd address ≤ scenario.blob.size ∧
      (program.routineEnd address ∈ visited.map Decoder.cursor ∨
        program.routineEnd address = program.endOffset) := by
  have whole := decoding.fits
  rcases (program.routineEnd_cases address).1 with ⟨known, later⟩ | ⟨last, _⟩
  · have visits := ((decoding.keys _).mp known).1
    obtain ⟨_, _, before, _⟩ := decoding.tiles.length_of_mem visits
    exact ⟨later, by omega, .inl visits⟩
  · have visits := ((decoding.keys _).mp started).1
    obtain ⟨length, found, ends, _⟩ := decoding.tiles.length_of_mem visits
    have positive := Scenario.lengthAt?_pos found
    exact ⟨by omega, by omega, .inr last⟩

/-- The instructions of a routine: the first one starts it, the others do not start another. -/
theorem exists_body {address : Int} (started : address ∈ program.routines.keys) :
    ∃ args locals body,
      scenario.blob.HasAt address (Reference.encode (.initStack args locals :: body)) ∧
      address + (Reference.encode (.initStack args locals :: body)).length =
        program.routineEnd address ∧
      scenario.Tiles address
        ((Reference.layout address (.initStack args locals :: body)).map Prod.fst)
        (program.routineEnd address) ∧
      ∀ instruction ∈ body, instruction.opcode ≠ .initStack := by
  have least := (program.routineEnd_cases address).2
  obtain ⟨visits, starts⟩ := (decoding.keys address).mp started
  obtain ⟨before, fits, stops⟩ := decoding.routineEnd_bounds started
  generalize program.routineEnd address = ending at before fits stops least
  obtain ⟨rest, inside, tiles⟩ := decoding.tiles.between visits stops before
  have nonneg : 0 ≤ address := by
    have first := decoding.tiles.ascending.2 address visits
    omega
  obtain ⟨instructions, there, reaches, laid⟩ := exists_instructions tiles nonneg fits
  cases instructions with
  | nil => cases laid
  | cons instruction body =>
      rw [Reference.encode_cons] at there
      have begins := Instruction.opcodeAt?_encoded there.append.1
      obtain ⟨args, locals, rfl⟩ := Instruction.eq_initStack (begins.symm.trans starts)
      refine ⟨args, locals, body, there, reaches, laid ▸ tiles, ?_⟩
      intro instruction member another
      rw [← map_snd_layout _ body] at member
      obtain ⟨line, listed, rfl⟩ := List.mem_map.mp member
      have position : line.1 ∈ rest := by
        rw [Reference.layout, List.map_cons, List.cons.injEq] at laid
        rw [← laid.2]
        exact List.mem_map_of_mem listed
      -- A second start would be a routine between this one and its end.
      have located := Instruction.opcodeAt?_encoded (hasAt_of_layout there.append.2 line listed)
      rw [another] at located
      have key := (decoding.keys line.1).mpr
        ⟨inside (List.mem_cons_of_mem _ position), located⟩
      have later := (List.pairwise_cons.mp tiles.ascending.1).1 line.1 position
      obtain ⟨size, sized, before, _⟩ := tiles.length_of_mem (List.mem_cons_of_mem _ position)
      have positive := Scenario.lengthAt?_pos sized
      have beyond := least line.1 key later
      omega

/-- A routine is what its instructions leave of a blank one: interpretation enters it where it
starts and gets over its instructions, and the routine that it leaves is that of the program. -/
theorem exists_passage {address : Int} {args locals : UInt8} {body : List Instruction}
    (started : address ∈ program.routines.keys)
    (there : scenario.blob.HasAt address (Reference.encode (.initStack args locals :: body)))
    (plain : ∀ instruction ∈ body, instruction.opcode ≠ .initStack)
    (ends : program.endOffset = address +
        (Reference.encode (.initStack args locals :: body)).length ∨
      address + (Reference.encode (.initStack args locals :: body)).length ∈
        program.routines.keys) :
    ∃ start ∈ visited, ∃ entered last, start.cursor = address ∧
      (Decode.interpretStep scenario).run start = .ok () entered ∧ entered.Regular ∧
      entered.cursor = address + (Instruction.initStack args locals).encode.length ∧
      entered.Inside program.routines.arity address
        ⟨[], { args := args.toNat, locals := locals.toNat }⟩ ∧
      Passage scenario entered body last ∧
      program.routine? address = last.routines.find? address := by
  obtain ⟨visits, starts⟩ := (decoding.keys address).mp started
  obtain ⟨start, member, rfl⟩ := List.mem_map.mp visits
  obtain ⟨regular, arity⟩ := decoding.arity_of_visited member
  obtain ⟨later, rest⟩ := decoding.walk.resume start member
  rw [Reference.encode_cons] at there
  obtain ⟨startThere, bodyThere⟩ := there.append
  have length : (Reference.encode (.initStack args locals :: body)).length =
      (Instruction.initStack args locals).encode.length + (Reference.encode body).length := by
    rw [Reference.encode_cons, List.length_append]
  generalize (Reference.encode (.initStack args locals :: body)).length = width at ends length
  have stops : final.cursor = start.cursor + width ∨
      start.cursor + width < scenario.streamEnd ∧
        scenario.opcodeAt? (start.cursor + width) = some .initStack := by
    rw [← decoding.ends]
    refine ends.imp_right fun follows => ?_
    obtain ⟨nextVisits, nextStarts⟩ := (decoding.keys _).mp follows
    obtain ⟨state, inside, same⟩ := List.mem_map.mp nextVisits
    exact ⟨same ▸ decoding.walk.cursor_lt state inside, nextStarts⟩
  cases rest with
  | finish reached => exact absurd (decoding.walk.cursor_lt _ member) (Int.not_lt.mpr reached)
  | @next _ entered _ _ inside stepped rest =>
      obtain ⟨routine, located, _, blank⟩ := entered_interpretStep regular starts stepped
      rw [decoding.find?_of_start member startThere] at located
      cases located
      have moved := cursor_interpretStep startThere stepped
      rw [← moved] at bodyThere
      have reached := decoding.walk.le_cursor final rfl
      obtain ⟨last, others, passage, lastWalk, lastMoved⟩ :=
        passage_of_walk body rest bodyThere (by omega) plain
      have enteredRegular := (Decode.regular_interpretStep regular stepped).1
      obtain ⟨left, lastInside, _⟩ := run_of_passage passage blank
      have position : start.cursor + width = last.cursor := by omega
      rw [position] at stops
      have forward := (Instruction.initStack args locals).length_encode
      have kept := find?_of_ended lastWalk (passage.regular enteredRegular) lastInside
        (by omega) stops
      refine ⟨start, member, entered, last, rfl, stepped, enteredRegular, moved, arity ▸ blank,
        passage, ?_⟩
      rw [Program.routine?, decoding.routines, kept, lastInside.found]

end Decoding

end SceneCode
