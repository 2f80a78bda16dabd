import SceneCode.Proofs.Inlining

/-!
# Expressions are used once

An instruction moves its operands, and only the copy of the top copies one.  So an expression is
referred to at most once, by an entry of the arena or from the stack, and once more for every copy
that was made since it was stored (`Routine.Tallied`).  This holds in every state that
interpretation comes to, for any table of routines.

Without copies every expression of a program stands at most once in the whole listing and in the
whole document: the operands form trees.  Expressions are told apart by
their addresses there, since every expression of a program has an address of its own.
-/

set_option autoImplicit false

namespace SceneCode

/-! ## The tally of references -/

/-- The references to an entry of the routine at an address: those of its other entries, and those
of its live operands while it is being decoded. -/
def Decoder.references (decoder : Decoder) (address : Int) (index : Nat) : Nat :=
  (decoder.routines.find? address).elim 0 (·.references index) +
    decoder.frame.elim 0 fun frame =>
      if frame.address = address then frame.stack.live.count (.expr index) else 0

/-- The next step copies the top of the stack in the routine at an address, which has an entry with
this index already. -/
def Decoder.copies (scenario : Scenario) (address : Int) (index : Nat) (decoder : Decoder) : Bool :=
  scenario.opcodeAt? decoder.cursor = some .pushTop &&
    decoder.frame.map Frame.address = some address &&
    (decoder.routines.find? address).any (index < ·.arena.size) &&
    succeeded ((Decode.interpretStep scenario).run decoder)

namespace Routine

variable {scenario : Scenario} {passed : List Decoder} {owner : Int} {routine : Routine}
  {values : List Value} {before : Decoder}

theorem references_allocate (routine : Routine) (statement : Statement) (index : Nat) :
    (routine.allocate statement).references index =
      routine.references index + statement.action.operands.count (.expr index) := by
  simp [references, allocate]

theorem references_append (routine : Routine) (statement : Statement) (index : Nat) :
    (routine.append statement).references index =
      routine.references index + statement.action.operands.count (.expr index) :=
  references_allocate routine statement index

theorem count_eq_zero_of_supplied {limit index : Nat}
    (supplied : ∀ value ∈ values, routine.Supplies limit value) (above : limit ≤ index) :
    values.count (.expr index) = 0 := by
  rw [List.count_eq_zero]
  intro member
  have below := (supplied _ member index rfl).2.1
  omega

theorem Owned.references_eq_zero (owned : routine.Owned) {index : Nat}
    (above : routine.arena.size ≤ index) : routine.references index = 0 := by
  rw [references_eq_sum, Finset.sum_eq_zero]
  intro position inside
  by_contra refers
  have below := (owned.of_refersFrom refers).1
  rw [Finset.mem_range] at inside
  omega

/-- The arena is in order, and every entry is referred to at most once, from the arena or by a value
in the charge of the routine, and once more for every copy since it was stored. -/
structure Tallied (scenario : Scenario) (passed : List Decoder) (owner : Int) (routine : Routine)
    (values : List Value) : Prop where
  owns : routine.Owns passed owner values
  tally : ∀ index : Nat, routine.references index + values.count (.expr index) ≤
    1 + passed.countP (Decoder.copies scenario owner index)

theorem custody_tallied (scenario : Scenario) (passed : List Decoder) :
    Custody (Tallied scenario passed) where
  perm same kept := ⟨(custody_owns passed).perm same kept.owns, fun index => by
    rw [same.count_eq]
    exact kept.tally index⟩
  drop kept := ⟨(custody_owns passed).drop kept.owns, fun index => by
    have bound := kept.tally index
    rw [List.count_cons] at bound
    omega⟩
  plain plain kept := ⟨(custody_owns passed).plain plain kept.owns, fun index => by
    rw [List.count_cons_of_ne (plain index)]
    exact kept.tally index⟩

theorem Tallied.grown (tallied : routine.Tallied scenario passed owner values)
    (before : Decoder) : routine.Tallied scenario (passed ++ [before]) owner values where
  owns := tallied.owns.grown before
  tally := fun index => by
    have bound := tallied.tally index
    rw [List.countP_append]
    omega

/-- What an instruction stores keeps the tally: operands go from its hand into the arena, and
nothing refers to a new entry but the one reference that is made for it. -/
theorem transfer_tallied (scenario : Scenario)
    (earlier : ∀ state ∈ passed, state.cursor < before.cursor) :
    Transfer before.cursor (before.frame.map Frame.address) (Tallied scenario passed)
      (Tallied scenario (passed ++ [before])) where
  custodyBefore := custody_tallied scenario passed
  custodyAfter := custody_tallied scenario _
  weaken := fun _ _ _ kept => kept.grown before
  allocate := by
    intro owner routine action values owns computes kept
    refine ⟨(transfer_owns earlier).allocate owns computes kept.owns, fun index => ?_⟩
    have bound := (kept.grown before).tally index
    rw [List.count_append] at bound
    rw [references_allocate]
    by_cases new : index = routine.arena.size
    · subst new
      have unused := kept.owns.owned.references_eq_zero (Nat.le_refl _)
      have absent := count_eq_zero_of_supplied kept.owns.supplied (Nat.le_refl _)
      rw [List.count_append] at absent
      rw [List.count_cons_self]
      dsimp only
      omega
    · have other : Value.expr routine.arena.size ≠ .expr index := by
        rw [ne_eq, Value.expr.injEq, Nat.cast_inj]
        exact Ne.symm new
      rw [List.count_cons_of_ne other]
      dsimp only
      omega
  append := by
    intro owner routine action values owns performs kept
    refine ⟨(transfer_owns earlier).append owns performs kept.owns, fun index => ?_⟩
    have bound := kept.tally index
    rw [List.count_append] at bound
    rw [references_append]
    dsimp only
    omega

/-- A copy adds one reference, and it is counted. -/
theorem Tallied.copy {frame : Frame} {value : Value}
    (tallied : routine.Tallied scenario passed frame.address values)
    (copies : scenario.opcodeAt? before.cursor = some .pushTop)
    (success : succeeded ((Decode.interpretStep scenario).run before) = true)
    (framed : before.frame = some frame)
    (found : before.routines.find? frame.address = some routine)
    (among : value ∈ values ∨ value.Plain) :
    routine.Tallied scenario (passed ++ [before]) frame.address (value :: values) where
  owns := (tallied.owns.grown before).copy among
  tally := by
    intro index
    have bound := tallied.tally index
    rw [List.countP_append, List.count_cons]
    by_cases same : value = .expr index
    · have used := among.resolve_right fun plain => plain index same
      have inside : index < routine.arena.size := by
        have below := (tallied.owns.supplied value used index same).2.1
        omega
      have counted : before.copies scenario frame.address index = true := by
        simp [Decoder.copies, copies, framed, found, success, inside]
      rw [List.countP_singleton, if_pos counted, if_pos (by simp [same])]
      omega
    · rw [if_neg (by simp [same])]
      omega

end Routine

/-! ## Interpretation -/

theorem Decoder.Carries.references_le {scenario : Scenario} {decoder : Decoder}
    {passed : List Decoder} {owner : Option Int}
    (carries : decoder.Carries (Routine.Tallied scenario passed) owner []) (address : Int)
    (index : Nat) : decoder.references address index ≤
      1 + passed.countP (Decoder.copies scenario address index) := by
  unfold Decoder.references
  by_cases current : decoder.frame.map Frame.address = some address
  · obtain ⟨frame, framed, rfl⟩ := Option.map_eq_some_iff.mp current
    obtain ⟨_, routine, operands, found, bears, kept⟩ := carries.active frame framed
    have bound := kept.tally index
    rw [List.append_nil] at bound
    simpa [framed, found, bears.live_eq] using bound
  · have idle : (decoder.frame.elim 0 fun frame => if frame.address = address then
        frame.stack.live.count (.expr index) else 0) = 0 := by
      cases framed : decoder.frame with
      | none => rfl
      | some frame =>
          rw [framed, Option.map_some, Option.some.injEq] at current
          simp [current]
    rw [idle]
    cases found : decoder.routines.find? address with
    | none => simp
    | some routine =>
        have bound := (carries.table address routine found).tally index
        simpa using bound

theorem Decoder.Carries.tallied_interpretStep {scenario : Scenario} {passed : List Decoder}
    {before : Decoder} {owner : Option Int}
    (earlier : ∀ state ∈ passed, state.cursor < before.cursor)
    (carries : before.Carries (Routine.Tallied scenario passed) owner []) :
    ∃ entered, (settled ((Decode.interpretStep scenario).run before)).Carries
      (Routine.Tallied scenario (passed ++ [before])) entered [] := by
  obtain rfl := carries.owner_eq
  refine carries.interpretStep (Routine.transfer_tallied scenario earlier) ?_
  intro copies success frame routine values value framed found among kept
  exact kept.copy copies success framed found among

theorem Decoder.exists_tallied_of_walk {scenario : Scenario} {start : Decoder}
    {visited : List Decoder} {result : EStateM.Result Fault Decoder Unit}
    (walk : Walk scenario.streamEnd (Decode.interpretStep scenario) start.beforeInterpretation
      visited result) :
    ∀ passed state rest, visited ++ [settled result] = passed ++ state :: rest →
      ∃ owner, state.Carries (Routine.Tallied scenario passed) owner [] := by
  have blank : ∀ address (routine : Routine),
      routine.reset.Tallied scenario [] address [] := by
    intro address routine
    refine ⟨routine.owns_reset address, fun index => ?_⟩
    simp [Routine.references, Routine.reset]
  refine walk.history
    (fun passed state => ∃ owner, state.Carries (Routine.Tallied scenario passed) owner [])
    ⟨none, carries_beforeInterpretation blank start⟩ ?_
  rintro passed before rest split ⟨owner, carries⟩
  exact carries.tallied_interpretStep
    (walk.cursor_lt_of_split (Decode.moves_interpretStep scenario) split)

/-! ## Addresses of expressions -/

/-- The addresses of all expressions of a program. -/
def Program.expressionAddresses (program : Program) : List Int :=
  program.routines.entries.flatMap fun entry =>
    (entry.2.arena.toList.filter (·.action.isExpression)).map Statement.address

/-- The address of an entry tells its routine, so the addresses that routines show are different if
those of each routine are. -/
theorem nodup_flatMap_of_recorded {visited : List Decoder} {entries : List (Int × Routine)}
    {shown : Int × Routine → List Int}
    (ascending : visited.Pairwise fun earlier later => earlier.cursor < later.cursor)
    (keys : (entries.map Prod.fst).Nodup)
    (recorded : ∀ entry ∈ entries, entry.2.Recorded visited entry.1)
    (stored : ∀ entry ∈ entries, ∀ address ∈ shown entry,
      ∃ statement ∈ entry.2.arena.toList, statement.address = address)
    (each : ∀ entry ∈ entries, (shown entry).Nodup) : (entries.flatMap shown).Nodup := by
  have cursors : (visited.map Decoder.cursor).Nodup :=
    List.pairwise_map.mpr (ascending.imp fun below => Int.ne_of_lt below)
  refine List.nodup_flatMap.mpr ⟨each, (List.pairwise_map.mp keys).imp_of_mem ?_⟩
  intro first second firstListed secondListed different address inFirst inSecond
  obtain ⟨statement, firstStored, rfl⟩ := stored first firstListed address inFirst
  obtain ⟨other, secondStored, same⟩ := stored second secondListed _ inSecond
  obtain ⟨state, visits, stands, owner⟩ := (recorded first firstListed).met statement firstStored
  obtain ⟨again, visitsAgain, standsAgain, otherOwner⟩ :=
    (recorded second secondListed).met other secondStored
  have meets : state = again := List.inj_on_of_nodup_map cursors visits visitsAgain
    (stands.trans (same.symm.trans standsAgain.symm))
  subst meets
  exact different (Option.some.inj (owner.symm.trans otherOwner))

namespace Routine

variable {routine : Routine} {passed : List Decoder} {owner : Int}

theorem nodup_expressionAddresses (recorded : routine.Recorded passed owner) :
    ((routine.arena.toList.filter (·.action.isExpression)).map Statement.address).Nodup :=
  List.pairwise_map.mpr ((List.pairwise_filter.mpr recorded.distinct).imp
    fun below => Int.ne_of_lt below)

/-- The expressions of a routine have different addresses. -/
theorem addressAt_injective (recorded : routine.Recorded passed owner) {first second : Nat}
    {statement other : Statement} (found : routine.arena[first]? = some statement)
    (computes : statement.action.isExpression = true)
    (otherFound : routine.arena[second]? = some other)
    (otherComputes : other.action.isExpression = true)
    (same : statement.address = other.address) : first = second := by
  have apart : ∀ {first second : Nat} {statement other : Statement}, first < second →
      routine.arena[first]? = some statement → routine.arena[second]? = some other →
      statement.action.isExpression = true → other.action.isExpression = true →
      statement.address < other.address := by
    intro first second statement other below found otherFound computes otherComputes
    obtain ⟨inside, rfl⟩ := Array.getElem?_eq_some_iff.mp found
    obtain ⟨otherInside, rfl⟩ := Array.getElem?_eq_some_iff.mp otherFound
    exact List.pairwise_iff_getElem.mp recorded.distinct first second inside otherInside below
      computes otherComputes
  rcases Nat.lt_trichotomy first second with below | equal | above
  · have := apart below found otherFound computes otherComputes
    omega
  · exact equal
  · have := apart above otherFound found otherComputes computes
    omega

theorem exists_of_mem_sites (owned : routine.Owned) {address : Int}
    (member : address ∈ routine.sites) : ∃ statement ∈ routine.arena.toList,
      statement.address = address ∧ statement.action.isExpression = true := by
  obtain ⟨index, inlined, rfl⟩ := List.mem_map.mp member
  obtain ⟨statement, found, computes⟩ := expression_of_mem_inlined owned inlined
  refine ⟨statement, Array.mem_toList_iff.mpr (Array.mem_of_getElem? found), ?_, computes⟩
  simp [addressAt, found]

/-- If no entry is referred to twice, no expression is written out twice. -/
theorem nodup_sites (owned : routine.Owned) (recorded : routine.Recorded passed owner)
    (single : ∀ index, routine.references index ≤ 1) : routine.sites.Nodup := by
  refine (nodup_inlined owned single).map_on fun first inFirst second inSecond same => ?_
  obtain ⟨statement, found, computes⟩ := expression_of_mem_inlined owned inFirst
  obtain ⟨other, otherFound, otherComputes⟩ := expression_of_mem_inlined owned inSecond
  simp only [addressAt, found, otherFound, Option.elim_some] at same
  exact addressAt_injective recorded found computes otherFound otherComputes same

end Routine

/-- The routines of a table were decoded in the course of these steps, and no entry of any is
referred to twice. -/
structure RoutineTable.Unshared (table : RoutineTable) (visited : List Decoder) : Prop where
  ascending : visited.Pairwise fun earlier later => earlier.cursor < later.cursor
  owned : ∀ entry ∈ table.entries, entry.2.Owned
  recorded : ∀ entry ∈ table.entries, entry.2.Recorded visited entry.1
  single : ∀ entry ∈ table.entries, ∀ index, entry.2.references index ≤ 1

/-- What interpretation of a file without copies leaves. -/
theorem Decoding.unshared {scenario : Scenario} {program : Program} {found final : Decoder}
    {visited : List Decoder} (decoding : Decoding scenario program found visited final)
    (copiesNothing : ∀ state ∈ visited, scenario.opcodeAt? state.cursor ≠ some .pushTop) :
    program.routines.Unshared visited := by
  obtain ⟨owner, carries⟩ :=
    Decoder.exists_tallied_of_walk decoding.walk visited final [] rfl
  have tallied : ∀ entry ∈ program.routines.entries,
      entry.2.Tallied scenario visited entry.1 [] := by
    intro entry member
    rw [decoding.routines] at member
    exact carries.table entry.1 entry.2 (OrderedMap.find?_of_mem member)
  refine ⟨decoding.walk.ascending (Decode.moves_interpretStep scenario),
    fun entry member => (tallied entry member).owns.owned,
    fun entry member => (tallied entry member).owns.recorded, fun entry member index => ?_⟩
  have none : visited.countP (Decoder.copies scenario entry.1 index) = 0 := by
    rw [List.countP_eq_zero]
    intro state visits
    simp [Decoder.copies, copiesNothing state visits]
  have bound := (tallied entry member).tally index
  rw [none] at bound
  omega

namespace RoutineTable.Unshared

variable {program : Program} {visited : List Decoder}
  (unshared : program.routines.Unshared visited)

include unshared

theorem nodup_expressionAddresses : program.expressionAddresses.Nodup := by
  refine nodup_flatMap_of_recorded unshared.ascending program.routines.distinct unshared.recorded
    ?_ fun entry member => Routine.nodup_expressionAddresses (unshared.recorded entry member)
  intro entry _ address member
  obtain ⟨statement, listed, same⟩ := List.mem_map.mp member
  exact ⟨statement, List.mem_of_mem_filter listed, same⟩

theorem exists_of_mem_sites {entry : Int × Routine} (member : entry ∈ program.routines.sorted)
    {address : Int} (inside : address ∈ entry.2.sites) :
    ∃ statement ∈ entry.2.arena.toList, statement.address = address ∧
      statement.action.isExpression = true :=
  Routine.exists_of_mem_sites
    (unshared.owned entry (program.routines.sorted_perm.mem_iff.mp member)) inside

theorem nodup_sites : (program.routines.sorted.flatMap (·.2.sites)).Nodup := by
  have listed := fun entry => (program.routines.sorted_perm.mem_iff (a := entry)).mp
  refine nodup_flatMap_of_recorded unshared.ascending
    ((program.routines.sorted_perm.map Prod.fst).nodup_iff.mpr program.routines.distinct)
    (fun entry member => unshared.recorded entry (listed entry member)) ?_ ?_
  · intro entry member address inside
    obtain ⟨statement, stored, same, _⟩ := unshared.exists_of_mem_sites member inside
    exact ⟨statement, stored, same⟩
  · intro entry member
    exact Routine.nodup_sites (unshared.owned entry (listed entry member))
      (unshared.recorded entry (listed entry member)) (unshared.single entry (listed entry member))

theorem sites_subset :
    program.routines.sorted.flatMap (·.2.sites) ⊆ program.expressionAddresses := by
  intro address member
  obtain ⟨entry, listed, inside⟩ := List.mem_flatMap.mp member
  obtain ⟨statement, stored, same, computes⟩ := unshared.exists_of_mem_sites listed inside
  exact List.mem_flatMap.mpr ⟨entry, program.routines.sorted_perm.mem_iff.mp listed,
    List.mem_map.mpr ⟨statement, List.mem_filter.mpr ⟨stored, computes⟩, same⟩⟩

end RoutineTable.Unshared

/-- The trees of a program show the expressions of its routines. -/
theorem Program.sites_of_trees {program : Program} {trees : List RoutineTree}
    (read : program.routines.sorted.mapM (fun entry => entry.2.routineTree? entry.1) = some trees) :
    trees.flatMap RoutineTree.sites = program.routines.sorted.flatMap (·.2.sites) := by
  have each := mapM_eq_some_iff.mp read
  generalize program.routines.sorted = entries at each ⊢
  clear read
  induction each with
  | nil => rfl
  | cons here _ ih => simp [Routine.sites_of_routineTree? here, ih]

/-- How often expressions are used.  In every state that interpretation comes to, for every scenario
and every table of routines to start from, and in the state it ends in or that a fault leaves, an
entry of a routine is referred to at most once, and once more for every copy of the top of the stack
that was made in that routine since the entry was stored.

If no instruction of a file that can be disassembled is such a copy, its expressions, which have
different addresses, stand at most once each in the listing of the program, whatever the symbols
are, and in its document. -/
theorem expressions_used_once :
    (∀ (scenario : Scenario) (start : Decoder), ∃ visited,
      Walk scenario.streamEnd (Decode.interpretStep scenario) start.beforeInterpretation visited
        ((Decode.interpret scenario).run start) ∧
      ∀ passed state rest,
        visited ++ [settled ((Decode.interpret scenario).run start)] = passed ++ state :: rest →
        ∀ address index, state.references address index ≤
          1 + passed.countP (Decoder.copies scenario address index)) ∧
    ∀ (blob : Blob) (encoding : Encoding) (scenario : Scenario) (program : Program),
      Scenario.parse blob encoding = .ok scenario → disassemble blob encoding = .ok program →
      (∀ addresses, scenario.Tiles streamStart addresses program.endOffset →
        ∀ address ∈ addresses, scenario.opcodeAt? address ≠ some .pushTop) →
      program.expressionAddresses.Nodup ∧ ∃ trees document,
        program.routines.sorted.mapM (fun entry => entry.2.routineTree? entry.1) = some trees ∧
        (∀ symbols, Listing.render symbols program = .ok (joined (Listing.header program ++
          trees.flatMap (RoutineTree.block symbols program.entryPoint)))) ∧
        Export.program program = .ok document ∧
        (trees.flatMap RoutineTree.sites).Nodup ∧
        document.sites = trees.flatMap RoutineTree.sites ∧
        trees.flatMap RoutineTree.sites ⊆ program.expressionAddresses := by
  refine ⟨fun scenario start => ?_, fun blob encoding scenario program parsed decoded none => ?_⟩
  · obtain ⟨visited, walk⟩ := walk_of_interpret scenario start
    refine ⟨visited, walk, fun passed state rest split address index => ?_⟩
    obtain ⟨owner, carries⟩ := Decoder.exists_tallied_of_walk walk passed state rest split
    exact carries.references_le address index
  · obtain ⟨found, visited, final, decoding⟩ := decoding_of_parse parsed decoded
    have unshared := decoding.unshared fun state visits =>
      none _ decoding.tiles state.cursor (List.mem_map_of_mem visits)
    obtain ⟨trees, read, _⟩ := Listing.lines_of_disassemble decoded decoding
    obtain ⟨document, written⟩ := Export.succeeds_program (readable_of_disassemble decoded)
    refine ⟨unshared.nodup_expressionAddresses, trees, document, read, ?_, written, ?_⟩
    · intro symbols
      obtain ⟨others, otherRead, lines, _⟩ :=
        Listing.lines_of_disassemble decoded decoding symbols
      obtain rfl : others = trees := Option.some.inj (otherRead.symm.trans read)
      rw [Listing.render, lines]
      rfl
    · rw [Program.sites_of_trees read]
      exact ⟨unshared.nodup_sites,
        Export.yields_sitesOfProgram unshared.owned document written, unshared.sites_subset⟩

/-- The sum at offset 17 stands in the statement that stores it and nowhere else. -/
theorem expressions_used_once_sum :
    ∃ program trees document, disassemble sumFile .utf8 = .ok program ∧
      program.routines.sorted.mapM (fun entry => entry.2.routineTree? entry.1) = some trees ∧
      Export.program program = .ok document ∧
      trees.flatMap RoutineTree.sites = [17] ∧ document.sites = [17] := by
  have decodes : (disassemble sumFile .utf8).toOption.map (fun program : Program =>
      (program.endOffset, (program.routines.sorted.mapM fun entry : Int × Routine =>
        entry.2.routineTree? entry.1).map (List.flatMap RoutineTree.sites))) =
      some (22, some [17]) := by
    decide +kernel
  have opcodes : ∀ offset : Nat, offset < 22 → 4 ≤ offset →
      sumScenario.opcodeAt? offset ≠ some .pushTop := by
    decide +kernel
  obtain ⟨program, decoded, facts⟩ := Option.map_eq_some_iff.mp decodes
  obtain ⟨ends, sites⟩ := Prod.mk.inj facts
  have success := eq_ok_of_toOption decoded
  obtain ⟨_, trees, document, read, _, written, _, same, _⟩ := expressions_used_once.2 sumFile .utf8
    sumScenario program parse_sumFile success (by
      intro addresses tiles address member
      have low := tiles.ascending.2 address member
      obtain ⟨length, found, high, _⟩ := tiles.length_of_mem member
      have positive := Scenario.lengthAt?_pos found
      simp only [streamStart] at low
      obtain ⟨offset, rfl⟩ := Int.eq_ofNat_of_zero_le (show 0 ≤ address by omega)
      exact opcodes offset (by omega) (by omega))
  rw [read, Option.map_some, Option.some.injEq] at sites
  exact ⟨program, trees, document, success, read, written, sites, same.trans sites⟩

/-- A file that copies a sum and stores it in two globals: it is referred to twice. -/
def copyFile : Blob :=
  #[0x15, 0, 0, 0,
    0x01, 0, 0,  0x0C, 5,  0x0C, 3,  0x1A,  0x13,  0x15, 1, 0,  0x15, 2, 0,  0x04,  0x00,
    4, 0, 0, 0,  0, 0,  0, 0,  0, 0,  0,  0, 0]

example : (disassemble copyFile .utf8).toOption.map (fun program =>
    (program.routine? 4).map (·.references 0)) = some (some 2) := by
  decide +kernel

end SceneCode
