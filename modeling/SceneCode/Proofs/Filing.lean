import SceneCode.Proofs.Interpretation
import SceneCode.Proofs.Tree

/-!
# Where statements are filed

Disassembly walks over the instructions of the stream one behind the other.  Every instruction that
starts a routine enters one into the table, and every instruction whose opcode has a statement kind
files one statement under the routine that was started last.

`Scenario.filings` says this of a list of addresses alone, without a decoder: which statements the
instructions there have to leave, in which order and under which routine.  `filed_of_walk` says that
interpretation leaves exactly these.  Since routines start at ascending addresses, the statements of
all routines, read routine by routine, stand in the order of their instructions; nothing is lost,
filed twice or filed under another routine.
-/

set_option autoImplicit false

namespace SceneCode

open EStateM (Result)

inductive StatementKind where
  | call
  | syscall
  | ret (hasValue : Bool)
  | jump
  | branch
  | assign
  deriving DecidableEq, Repr

/-- The kind of a statement; expressions are none. -/
def Action.kind? : Action → Option StatementKind
  | .call .. => some .call
  | .syscall .. => some .syscall
  | .ret hasValue => some (.ret hasValue)
  | .jump _ => some .jump
  | .branch .. => some .branch
  | .assign .. => some .assign
  | _ => none

/-- The kind of statement that an opcode leaves, if it leaves one. -/
def Opcode.kind? : Opcode → Option StatementKind
  | .call => some .call
  | .syscall => some .syscall
  | .ret => some (.ret false)
  | .retv => some (.ret true)
  | .jmp => some .jump
  | .jz => some .branch
  | .popGlobal | .popStack | .popGlobalTable | .popLocalTable => some .assign
  | _ => none

/-! ## The statement of an instruction -/

/-- The statements that an effect adds to a routine. -/
def Effect.statements (address : Int) (routine : Routine) : Effect → List Statement
  | .perform action => [⟨address, action⟩]
  | .store _ value => [⟨address, .assign (.expr routine.arena.size) value⟩]
  | _ => []

theorem Effect.statements?_apply {address : Int} {routine : Routine} {listed : List Statement}
    (operands : List Value) (effect : Effect) (found : routine.statements? = some listed) :
    (effect.apply address operands routine).routine.statements? =
      some (listed ++ effect.statements address routine) := by
  have allocated : ∀ statement, (routine.allocate statement).statements? = some listed :=
    fun statement => Routine.statements?_mono (routine.extends_allocate statement) rfl found
  cases effect with
  | none | push => simpa [Effect.apply, Effect.statements] using found
  | compute action => simpa [Effect.apply, Effect.statements] using allocated _
  | perform action => exact Routine.statements?_append _ found
  | store entry value => exact Routine.statements?_append _ (allocated _)

def Operation.kind? : Operation → Option StatementKind
  | .call _ => some .call
  | .syscall _ => some .syscall
  | .ret hasValue => some (.ret hasValue)
  | .jump _ => some .jump
  | .branch _ => some .branch
  | .popGlobal _ | .popSlot _ | .popGlobalEntry _ | .popLocalEntry _ => some .assign
  | _ => none

theorem Opcode.Denotes.kind_eq {opcode : Opcode} {operation : Operation}
    (denotes : opcode.Denotes operation) : operation.kind? = opcode.kind? := by
  cases operation with
  | ret hasValue =>
      cases opcode with
      | ret | retv => exact congrArg (fun value => some (StatementKind.ret value)) denotes
      | _ => exact absurd denotes (by simp [Opcode.Denotes])
  | _ => cases opcode <;> first | rfl | exact absurd denotes (by simp [Opcode.Denotes])

/-- An effect that leaves one statement of a kind, or none. -/
def Effect.Leaves (effect : Effect) (kind : Option StatementKind) : Prop :=
  ∀ address routine, (effect.statements address routine).map
      (fun statement => (statement.address, statement.action.kind?)) =
    kind.toList.map fun kind => (address, some kind)

namespace Activation

variable {scenario : Scenario} {arity : Int → Option Int} {address : Int}
  {activation : Activation} {effect : Effect} {rest : List Value}

theorem leaves_of_taking {count : Nat} {make : List Value → Effect} {kind : Option StatementKind}
    (each : ∀ values, (make values).Leaves kind)
    (taken : activation.taking count make = .ok (effect, rest)) : effect.Leaves kind := by
  unfold taking at taken
  split at taken
  · cases taken
    exact each _
  · cases taken

/-- An instruction leaves a statement of its kind and no other. -/
theorem leaves_of_outcome {operation : Operation}
    (outcome : activation.outcome scenario arity address operation = .ok (effect, rest)) :
    effect.Leaves operation.kind? := by
  obtain ⟨operands, routine⟩ := activation
  cases operation with
  | call target =>
      simp only [Activation.outcome] at outcome
      cases known : arity target <;> rw [known] at outcome
      · cases outcome
      · exact leaves_of_taking (fun _ _ _ => rfl) outcome
  | syscall id =>
      simp only [Activation.outcome] at outcome
      cases known : scenario.syscall? id <;> rw [known] at outcome
      · cases outcome
      · exact leaves_of_taking (fun _ _ _ => rfl) outcome
  | branch | pushGlobalEntry | popGlobal | unary =>
      cases operands <;> cases outcome
      exact fun _ _ => rfl
  | pushSlot index =>
      simp only [Activation.outcome] at outcome
      cases found : routine.slot index <;> rw [found] at outcome <;> cases outcome
      exact fun _ _ => rfl
  | pushLocalEntry index | popSlot index =>
      simp only [Activation.outcome] at outcome
      cases found : routine.slot index <;> rw [found] at outcome <;> cases operands <;>
        cases outcome
      exact fun _ _ => rfl
  | copyTop =>
      cases operands with
      | nil =>
          simp only [Activation.outcome] at outcome
          split at outcome <;> cases outcome
          exact fun _ _ => rfl
      | cons value below =>
          cases outcome
          exact fun _ _ => rfl
  | popGlobalEntry | binary =>
      rcases operands with _ | ⟨value, _ | ⟨key, below⟩⟩ <;> cases outcome
      exact fun _ _ => rfl
  | popLocalEntry index =>
      rcases operands with _ | ⟨value, _ | ⟨key, below⟩⟩
      · cases outcome
      · cases outcome
      · simp only [Activation.outcome] at outcome
        cases found : routine.slot index <;> rw [found] at outcome <;> cases outcome
        exact fun _ _ => rfl
  | _ =>
      cases outcome
      exact fun _ _ => rfl

end Activation

/-! ## Statements routine by routine -/

/-- The statements of the routines in a list of entries, each with the address of its routine. -/
def filed? : List (Int × Routine) → Option (List (Int × Statement))
  | [] => some []
  | (address, routine) :: rest => do
    let here ← routine.statements?
    let others ← filed? rest
    pure (here.map (fun statement => (address, statement)) ++ others)

/-- The statements of a program, routine by routine in ascending order of their addresses. -/
def Program.filed? (program : Program) : Option (List (Int × Statement)) :=
  SceneCode.filed? program.routines.sorted

theorem filed?_cons_eq_some_iff {address : Int} {routine : Routine} {rest : List (Int × Routine)}
    {filed : List (Int × Statement)} :
    filed? ((address, routine) :: rest) = some filed ↔
      ∃ here others, routine.statements? = some here ∧ filed? rest = some others ∧
        filed = here.map (fun statement => (address, statement)) ++ others := by
  simp only [filed?, Option.bind_eq_bind, Option.bind_eq_some_iff, Option.pure_def,
    Option.some.injEq]
  constructor
  · rintro ⟨here, hereListed, others, othersFiled, rfl⟩
    exact ⟨here, others, hereListed, othersFiled, rfl⟩
  · rintro ⟨here, others, hereListed, othersFiled, rfl⟩
    exact ⟨here, hereListed, others, othersFiled, rfl⟩

theorem filed?_append_eq_some_iff {front back : List (Int × Routine)}
    {filed : List (Int × Statement)} :
    filed? (front ++ back) = some filed ↔
      ∃ first second, filed? front = some first ∧ filed? back = some second ∧
        filed = first ++ second := by
  induction front generalizing filed with
  | nil =>
      constructor
      · intro all
        exact ⟨[], filed, rfl, all, rfl⟩
      · rintro ⟨first, second, none, all, rfl⟩
        cases none
        exact all
  | cons entry rest ih =>
      obtain ⟨address, routine⟩ := entry
      rw [List.cons_append, filed?_cons_eq_some_iff]
      constructor
      · rintro ⟨here, others, hereListed, othersFiled, rfl⟩
        obtain ⟨first, second, firstFiled, secondFiled, rfl⟩ := ih.mp othersFiled
        exact ⟨_, second, filed?_cons_eq_some_iff.mpr ⟨here, first, hereListed, firstFiled, rfl⟩,
          secondFiled, (List.append_assoc _ _ _).symm⟩
      · rintro ⟨all, second, allFiled, secondFiled, rfl⟩
        obtain ⟨here, first, hereListed, firstFiled, rfl⟩ := filed?_cons_eq_some_iff.mp allFiled
        exact ⟨here, first ++ second, hereListed, ih.mpr ⟨first, second, firstFiled, secondFiled,
          rfl⟩, List.append_assoc _ _ _⟩

theorem filed?_of_blank {entries : List (Int × Routine)}
    (blank : ∀ entry ∈ entries, entry.2.body = #[]) : filed? entries = some [] := by
  induction entries with
  | nil => rfl
  | cons entry rest ih =>
      obtain ⟨address, routine⟩ := entry
      have empty : routine.statements? = some [] := by
        have empty : routine.body = #[] := blank (address, routine) List.mem_cons_self
        rw [Routine.statements?, empty]
        rfl
      have others := ih fun entry member => blank entry (List.mem_cons_of_mem _ member)
      exact filed?_cons_eq_some_iff.mpr ⟨[], [], empty, others, rfl⟩

/-! ## What a list of addresses has to leave -/

structure Filing where
  owner : Option Int
  address : Int
  kind : Option StatementKind
  deriving DecidableEq, Repr

/-- A statement that is filed under the routine at an address. -/
def Filing.of (entry : Int × Statement) : Filing :=
  ⟨some entry.1, entry.2.address, entry.2.action.kind?⟩

namespace Scenario

/-- The kind of statement that the instruction at an address leaves. -/
def kindAt? (scenario : Scenario) (address : Int) : Option StatementKind :=
  (scenario.opcodeAt? address).bind Opcode.kind?

def filingsAt (scenario : Scenario) (owner : Option Int) (address : Int) : List Filing :=
  (scenario.kindAt? address).toList.map fun kind => ⟨owner, address, some kind⟩

/-- The routine that instructions behind an address belong to. -/
def ownerAfter (scenario : Scenario) (owner : Option Int) (address : Int) : Option Int :=
  if scenario.opcodeAt? address = some .initStack then some address else owner

/-- What the instructions at these addresses leave, where the first of them belongs to `owner`. -/
def filings (scenario : Scenario) : Option Int → List Int → List Filing
  | _, [] => []
  | owner, address :: rest =>
    scenario.filingsAt owner address ++ scenario.filings (scenario.ownerAfter owner address) rest

variable {scenario : Scenario}

theorem kindAt?_of_quiet {address : Int}
    (quiet : scenario.opcodeAt? address = none ∨ scenario.opcodeAt? address = some .nop) :
    scenario.kindAt? address = none := by
  rcases quiet with absent | located
  · simp [kindAt?, absent]
  · simp [kindAt?, located, Opcode.kind?]

theorem ownerAfter_of_plain {address : Int} (owner : Option Int)
    (plain : scenario.opcodeAt? address ≠ some .initStack) :
    scenario.ownerAfter owner address = owner :=
  if_neg plain

/-- Each instruction leaves one statement of its kind, in the order of the addresses. -/
theorem map_filings (owner : Option Int) (addresses : List Int) :
    (scenario.filings owner addresses).map (fun filing => (filing.address, filing.kind)) =
      addresses.filterMap fun address =>
        (scenario.kindAt? address).map fun kind => (address, some kind) := by
  induction addresses generalizing owner with
  | nil => rfl
  | cons address rest ih =>
      rw [filings, List.map_append, ih, filingsAt, List.filterMap_cons]
      cases scenario.kindAt? address <;> rfl

/-- The owner of a statement is the greatest start of a routine before it. -/
theorem owner_of_filings {owner : Option Int} {addresses : List Int}
    (ascending : addresses.Pairwise (· < ·))
    (earlier : ∀ start, owner = some start → ∀ address ∈ addresses, start < address) :
    ∀ filing ∈ scenario.filings owner addresses, ∀ start, filing.owner = some start →
      (owner = some start ∨ start ∈ addresses ∧ scenario.opcodeAt? start = some .initStack) ∧
        start < filing.address ∧
        ∀ other ∈ addresses, scenario.opcodeAt? other = some .initStack →
          other < filing.address → other ≤ start := by
  induction addresses generalizing owner with
  | nil => simp [filings]
  | cons address rest ih =>
      obtain ⟨least, restAscending⟩ := List.pairwise_cons.mp ascending
      intro filing member start owned
      rw [filings, List.mem_append] at member
      rcases member with here | later
      · -- The instruction at `address` itself: every address of the list is at or behind it.
        obtain ⟨kind, _, rfl⟩ := List.mem_map.mp here
        refine ⟨.inl owned, earlier start owned address List.mem_cons_self, ?_⟩
        intro other inside _ before
        dsimp only at before
        rcases List.mem_cons.mp inside with rfl | behind
        · exact absurd before (Int.lt_irrefl _)
        · have := least other behind
          omega
      · have restEarlier : ∀ start, scenario.ownerAfter owner address = some start →
            ∀ other ∈ rest, start < other := by
          intro start after other inside
          unfold ownerAfter at after
          split at after
          · cases after
            exact least other inside
          · exact earlier start after other (List.mem_cons_of_mem _ inside)
        obtain ⟨origin, before, greatest⟩ := ih restAscending restEarlier filing later start owned
        by_cases starts : scenario.opcodeAt? address = some .initStack
        · rw [ownerAfter, if_pos starts, Option.some.injEq] at origin
          have atLeast : address ≤ start := by
            rcases origin with rfl | ⟨inside, _⟩
            · exact Int.le_refl _
            · exact Int.le_of_lt (least start inside)
          refine ⟨.inr ?_, before, ?_⟩
          · rcases origin with rfl | ⟨inside, begins⟩
            · exact ⟨List.mem_cons_self, starts⟩
            · exact ⟨List.mem_cons_of_mem _ inside, begins⟩
          · intro other inside begins lower
            rcases List.mem_cons.mp inside with rfl | behind
            · exact atLeast
            · exact greatest other behind begins lower
        · rw [ownerAfter_of_plain owner starts] at origin
          refine ⟨?_, before, ?_⟩
          · rcases origin with same | ⟨inside, begins⟩
            · exact .inl same
            · exact .inr ⟨List.mem_cons_of_mem _ inside, begins⟩
          · intro other inside begins lower
            rcases List.mem_cons.mp inside with rfl | behind
            · exact absurd begins starts
            · exact greatest other behind begins lower

end Scenario

/-! ## Interpretation leaves what it has to -/

/-- The statements that were filed so far, inside the routine `owner`.  Routines behind it have no
statements yet. -/
structure Decoder.Files (decoder : Decoder) (owner : Option Int)
    (filed : List (Int × Statement)) : Prop where
  frame : decoder.frame.map Frame.address = owner
  earlier : ∀ start, owner = some start → start < decoder.cursor
  ordered : decoder.routines.keys.Pairwise (· < ·)
  statements : filed? decoder.routines.entries = some filed
  blank : ∀ entry ∈ decoder.routines.entries, (∀ start, owner = some start → start < entry.1) →
    entry.2.body = #[]

theorem Decoder.Inside.frame_eq {arity : Int → Option Int} {decoder : Decoder} {address : Int}
    {activation : Activation} (inside : decoder.Inside arity address activation) :
    decoder.frame.map Frame.address = some address := by
  obtain ⟨stack, framed, _⟩ := inside.stack
  rw [framed]
  rfl

/-- An effect on the routine that was started last adds its statements behind all others. -/
theorem Decoder.Files.effect {before after : Decoder} {start position : Int}
    {activation : Activation} {filed : List (Int × Statement)} {operands : List Value}
    {effect : Effect} (files : before.Files (some start) filed)
    (inside : before.Inside before.routines.arity start activation)
    (left : after.Inside before.routines.arity start
      (effect.apply position operands activation.routine))
    (table : after.routines = before.routines.modify start fun _ =>
      (effect.apply position operands activation.routine).routine)
    (moved : before.cursor < after.cursor) :
    after.Files (some start) (filed ++ (effect.statements position activation.routine).map
      fun statement => (start, statement)) := by
  obtain ⟨front, back, split⟩ := List.append_of_mem (OrderedMap.mem_of_find? inside.found)
  have changed := OrderedMap.entries_modify split fun _ =>
    (effect.apply position operands activation.routine).routine
  rw [← table] at changed
  have ordered := files.ordered
  have behind : ∀ entry ∈ back, start < entry.1 := by
    intro entry member
    rw [OrderedMap.keys, split, List.map_append, List.map_cons, List.pairwise_append] at ordered
    exact (List.pairwise_cons.mp ordered.2.1).1 entry.1 (List.mem_map_of_mem member)
  have backBlank : filed? back = some [] := by
    refine filed?_of_blank fun entry member => ?_
    refine files.blank entry ?_ ?_
    · rw [split]
      exact List.mem_append_right _ (List.mem_cons_of_mem _ member)
    · intro other same
      cases same
      exact behind entry member
  refine ⟨left.frame_eq, ?_, ?_, ?_, ?_⟩
  · intro other same
    exact Int.lt_trans (files.earlier other same) moved
  · rw [table, OrderedMap.keys_modify]
    exact files.ordered
  · have statements := files.statements
    rw [split, filed?_append_eq_some_iff] at statements
    obtain ⟨first, second, firstFiled, secondFiled, rfl⟩ := statements
    obtain ⟨here, others, hereListed, othersFiled, rfl⟩ :=
      filed?_cons_eq_some_iff.mp secondFiled
    rw [backBlank] at othersFiled
    cases othersFiled
    rw [changed, filed?_append_eq_some_iff]
    refine ⟨first, _, firstFiled, filed?_cons_eq_some_iff.mpr ⟨_, [],
      effect.statements?_apply operands hereListed, backBlank, rfl⟩, ?_⟩
    simp
  · intro entry member later
    rw [changed] at member
    refine files.blank entry ?_ later
    rw [split]
    rcases List.mem_append.mp member with inFront | member
    · exact List.mem_append_left _ inFront
    · rcases List.mem_cons.mp member with rfl | inBack
      · exact absurd (later start rfl) (Int.lt_irrefl _)
      · exact List.mem_append_right _ (List.mem_cons_of_mem _ inBack)

/-- A step files what the instruction at the cursor has to leave. -/
theorem files_interpretStep {scenario : Scenario} {before after : Decoder} {owner : Option Int}
    {filed : List (Int × Statement)} (regular : before.Regular) (files : before.Files owner filed)
    (stepped : (Decode.interpretStep scenario).run before = .ok () after) :
    ∃ more, after.Files (scenario.ownerAfter owner before.cursor) (filed ++ more) ∧
      more.map Filing.of = scenario.filingsAt owner before.cursor := by
  have moved := Decode.moves_interpretStep scenario before after stepped
  have played := Decode.played_interpretStep scenario regular
  rw [stepped] at played
  cases played with
  | idle table frame quiet =>
      have plain : scenario.opcodeAt? before.cursor ≠ some .initStack := by
        rcases quiet with absent | located <;> simp_all
      refine ⟨[], ?_, by simp [Scenario.filingsAt, Scenario.kindAt?_of_quiet quiet]⟩
      rw [Scenario.ownerAfter_of_plain owner plain, List.append_nil]
      exact ⟨frame ▸ files.frame, fun start same => Int.lt_trans (files.earlier start same) moved,
        table ▸ files.ordered, table ▸ files.statements, table ▸ files.blank⟩
  | entered starts found table inside =>
      refine ⟨[], ?_, by simp [Scenario.filingsAt, Scenario.kindAt?, starts, Opcode.kind?]⟩
      rw [Scenario.ownerAfter, if_pos starts, List.append_nil]
      refine ⟨inside.frame_eq, ?_, table ▸ files.ordered, table ▸ files.statements, ?_⟩
      · intro start same
        cases same
        exact moved
      · intro entry member later
        rw [table] at member
        refine files.blank entry member fun start same => ?_
        exact Int.lt_trans (files.earlier start same) (later _ rfl)
  | @effected opcode operation start activation effect rest _ located denotes inside few outcome
      left table plain =>
      have owned : owner = some start := files.frame.symm.trans inside.frame_eq
      subst owned
      refine ⟨(effect.statements before.cursor activation.routine).map fun statement =>
        (start, statement), ?_, ?_⟩
      · rw [Scenario.ownerAfter_of_plain _ (by simpa [located] using plain)]
        exact files.effect inside left table moved
      · have leaves := Activation.leaves_of_outcome outcome before.cursor activation.routine
        have filings := congrArg
          (List.map fun (address, kind) => Filing.mk (some start) address kind) leaves
        simpa [Filing.of, Function.comp_def, Scenario.filingsAt, Scenario.kindAt?, located,
          denotes.kind_eq] using filings

/-- A walk files what the instructions it visits have to leave. -/
theorem files_of_walk {scenario : Scenario} {stop : Int} {decoder : Decoder}
    {visited : List Decoder} {result : Result Fault Decoder Unit}
    (walk : Walk stop (Decode.interpretStep scenario) decoder visited result) :
    ∀ (owner : Option Int) (filed : List (Int × Statement)) (final : Decoder),
      decoder.Regular → decoder.Files owner filed → result = .ok () final →
      ∃ more last, final.Files last (filed ++ more) ∧
        more.map Filing.of = scenario.filings owner (visited.map Decoder.cursor) := by
  induction walk with
  | finish reached =>
      intro owner filed final _ files ended
      cases ended
      exact ⟨[], owner, by simpa using files, rfl⟩
  | fault inside failed =>
      intro owner filed final _ _ ended
      cases ended
  | @next decoder after visited result inside stepped rest ih =>
      intro owner filed final regular files ended
      obtain ⟨here, hereFiles, hereLeft⟩ := files_interpretStep regular files stepped
      obtain ⟨more, last, moreFiles, moreLeft⟩ := ih _ _ final
        (Decode.regular_interpretStep regular stepped).1 hereFiles ended
      refine ⟨here ++ more, last, by simpa using moreFiles, ?_⟩
      rw [List.map_append, hereLeft, moreLeft]
      rfl

/-! ## The routines that discovery enters -/

/-- The routine that starts at an address; its counts stand behind the opcode. -/
def Scenario.startAt? (scenario : Scenario) (address : Int) : Option (Int × Routine) :=
  match scenario.opcodeAt? address, scenario.blob.unsigned 1 (address + 1),
    scenario.blob.unsigned 1 (address + 2) with
  | some .initStack, .ok args, .ok locals => some (address, { args, locals })
  | _, _, _ => none

theorem entries_discoverStep {scenario : Scenario} {before after : Decoder}
    (known : ∀ key ∈ before.routines.keys, key < before.cursor)
    (stepped : (Decode.discoverStep scenario).run before = .ok () after) :
    after.routines.entries =
      before.routines.entries ++ (scenario.startAt? before.cursor).toList := by
  have discovered := Decode.run_discoverStep scenario before
  rw [stepped] at discovered
  cases discovered with
  | @entered args locals found argsRead localsRead =>
      have absent : before.cursor ∉ before.routines.keys := fun member =>
        Int.lt_irrefl _ (known _ member)
      have second : before.cursor + 1 + 1 = before.cursor + 2 := by omega
      rw [second] at localsRead
      have start : scenario.startAt? before.cursor = some (before.cursor, { args, locals }) := by
        simp [Scenario.startAt?, found, argsRead, localsRead]
      rw [start]
      exact OrderedMap.entries_insert_of_absent absent
  | @passed opcode size found plain length =>
      have none : scenario.startAt? before.cursor = none := by
        unfold Scenario.startAt?
        split
        · rename_i starts _ _
          rw [found] at starts
          exact absurd (Option.some.inj starts) plain
        · rfl
      simp [none]

theorem Scenario.startAt?_eq_some {scenario : Scenario} {address : Int} {entry : Int × Routine}
    (starts : scenario.startAt? address = some entry) :
    entry.1 = address ∧ scenario.opcodeAt? address = some .initStack ∧
      ∃ args locals : Nat, scenario.blob.unsigned 1 (address + 1) = .ok args ∧
        scenario.blob.unsigned 1 (address + 2) = .ok locals ∧
        entry.2.args = args ∧ entry.2.locals = locals := by
  unfold Scenario.startAt? at starts
  split at starts
  · rename_i opcode args locals located argsRead localsRead
    cases starts
    exact ⟨rfl, located, args, locals, argsRead, localsRead, rfl, rfl⟩
  · cases starts

/-- Discovery enters the routines of the instructions it passes, in their order. -/
theorem entries_of_walk {scenario : Scenario} {stop : Int} {decoder : Decoder}
    {passed : List Decoder} {result : Result Fault Decoder Unit}
    (walk : Walk stop (Decode.discoverStep scenario) decoder passed result) :
    ∀ last, (∀ key ∈ decoder.routines.keys, key < decoder.cursor) → result = .ok () last →
      last.routines.entries =
        decoder.routines.entries ++ (passed.map Decoder.cursor).filterMap scenario.startAt? := by
  induction walk with
  | finish reached =>
      intro last _ ended
      cases ended
      simp
  | fault inside failed =>
      intro last _ ended
      cases ended
  | @next decoder after passed result inside stepped rest ih =>
      intro last known ended
      have moved := Decode.moves_discoverStep scenario decoder after stepped
      have entries := entries_discoverStep known stepped
      have afterKnown : ∀ key ∈ after.routines.keys, key < after.cursor := by
        intro key member
        rw [OrderedMap.keys, entries, List.map_append, List.mem_append] at member
        rcases member with old | new
        · exact Int.lt_trans (known key old) moved
        · obtain ⟨entry, starts, rfl⟩ := List.mem_map.mp new
          rw [(Scenario.startAt?_eq_some (Option.mem_toList.mp starts)).1]
          exact moved
      rw [ih last afterKnown ended, entries, List.append_assoc, List.map_cons,
        List.filterMap_cons]
      cases scenario.startAt? decoder.cursor <;> rfl

/-! ## Interpretation leaves the counts -/

/-- The routines of a table with their counts. -/
def RoutineTable.outline (table : RoutineTable) : List (Int × Int × Int) :=
  table.entries.map fun entry => (entry.1, entry.2.args, entry.2.locals)

theorem RoutineTable.keys_of_outline (table : RoutineTable) :
    table.keys = table.outline.map Prod.fst := by
  rw [RoutineTable.outline, List.map_map]
  rfl

theorem RoutineTable.outline_modify {table : RoutineTable} {address : Int}
    {routine changed : Routine} (found : table.find? address = some routine)
    (args : changed.args = routine.args) (locals : changed.locals = routine.locals) :
    RoutineTable.outline (table.modify address fun _ => changed) = table.outline := by
  obtain ⟨front, back, split⟩ := List.append_of_mem (OrderedMap.mem_of_find? found)
  simp [RoutineTable.outline, OrderedMap.entries_modify split, split, args, locals]

theorem Effect.args_apply (address : Int) (operands : List Value) (routine : Routine)
    (effect : Effect) :
    (effect.apply address operands routine).routine.args = routine.args := by
  cases effect <;> rfl

theorem outline_interpretStep {scenario : Scenario} {before after : Decoder}
    (regular : before.Regular)
    (stepped : (Decode.interpretStep scenario).run before = .ok () after) :
    after.routines.outline = before.routines.outline := by
  have played := Decode.played_interpretStep scenario regular
  rw [stepped] at played
  cases played with
  | idle table frame quiet => rw [table]
  | entered starts found table inside => rw [table]
  | effected located denotes inside few outcome left table plain =>
      rw [table]
      exact RoutineTable.outline_modify inside.found (Effect.args_apply ..)
        (Effect.locals_apply ..)

theorem RoutineTable.sorted_of_ordered {table : RoutineTable}
    (ordered : table.keys.Pairwise (· < ·)) : table.sorted = table.entries := by
  rw [OrderedMap.keys] at ordered
  unfold RoutineTable.sorted
  generalize table.entries = entries at ordered
  induction entries with
  | nil => rfl
  | cons entry rest ih =>
      obtain ⟨least, restOrdered⟩ := List.pairwise_cons.mp ordered
      rw [List.foldr_cons, ih restOrdered]
      cases rest with
      | nil => rfl
      | cons next others => exact if_pos (Int.le_of_lt (least next.1 (by simp)))

/-! ## The whole program -/

/-- Interpretation starts with the routines that discovery entered, all of them blank. -/
theorem files_beforeInterpretation {decoder : Decoder}
    (ordered : decoder.routines.keys.Pairwise (· < ·)) :
    decoder.beforeInterpretation.Files none [] := by
  have blank : ∀ entry ∈ decoder.beforeInterpretation.routines.entries, entry.2.body = #[] := by
    intro entry member
    obtain ⟨old, _, rfl⟩ := List.mem_map.mp member
    rfl
  refine ⟨rfl, by simp, ?_, filed?_of_blank blank, fun entry member _ => blank entry member⟩
  rw [Decoder.beforeInterpretation, RoutineTable.resetAll, OrderedMap.keys_mapValues]
  exact ordered

section

variable {scenario : Scenario} {passed visited : List Decoder} {start last final : Decoder}
  (discovery : Walk scenario.streamEnd (Decode.discoverStep scenario) start.beforeDiscovery passed
    (.ok () last))

include discovery

theorem entries_of_discovery :
    last.routines.entries = (passed.map Decoder.cursor).filterMap scenario.startAt? :=
  entries_of_walk discovery last
    (by simp [Decoder.beforeDiscovery, OrderedMap.keys, OrderedMap.empty]) rfl

theorem ordered_of_discovery (ascending : (passed.map Decoder.cursor).Pairwise (· < ·)) :
    last.routines.keys.Pairwise (· < ·) := by
  rw [OrderedMap.keys, entries_of_discovery discovery, List.pairwise_map]
  refine List.Pairwise.filterMap _ ?_ ascending
  intro first second before entry starts other follows
  rw [(Scenario.startAt?_eq_some starts).1, (Scenario.startAt?_eq_some follows).1]
  exact before

theorem mem_keys_of_discovery {key : Int} :
    key ∈ last.routines.keys ↔
      key ∈ passed.map Decoder.cursor ∧ scenario.opcodeAt? key = some .initStack := by
  constructor
  · intro member
    rw [OrderedMap.keys, entries_of_discovery discovery] at member
    obtain ⟨entry, started, rfl⟩ := List.mem_map.mp member
    obtain ⟨address, passes, starts⟩ := List.mem_filterMap.mp started
    obtain ⟨same, located, _⟩ := Scenario.startAt?_eq_some starts
    rw [same]
    exact ⟨passes, located⟩
  · rintro ⟨passes, located⟩
    obtain ⟨state, member, rfl⟩ := List.mem_map.mp passes
    obtain ⟨routine, found⟩ := Option.isSome_iff_exists.mp
      (found_of_walk discovery last rfl state member located)
    exact List.mem_map_of_mem (OrderedMap.mem_of_find? found)

end

theorem outline_of_interpretation {scenario : Scenario} {visited : List Decoder}
    {found final : Decoder} (discovered : (Decode.discover scenario).run {} = .ok () found)
    (walk : Walk scenario.streamEnd (Decode.interpretStep scenario) found.beforeInterpretation
      visited (.ok () final)) :
    final.routines.outline = found.routines.outline := by
  have reset : found.beforeInterpretation.routines.outline = found.routines.outline := by
    simp [RoutineTable.outline, Decoder.beforeInterpretation, RoutineTable.resetAll,
      OrderedMap.mapValues, Routine.reset]
  exact ((walk.invariant
    (fun decoder => decoder.Regular ∧ decoder.routines.outline = found.routines.outline)
    (fun before after holds _ stepped =>
      ⟨(Decode.regular_interpretStep holds.1 stepped).1,
        (outline_interpretStep holds.1 stepped).trans holds.2⟩)
    ⟨regular_beforeInterpretation discovered, reset⟩).2 final rfl).2

theorem keys_of_interpretation {scenario : Scenario} {visited : List Decoder}
    {found final : Decoder} (discovered : (Decode.discover scenario).run {} = .ok () found)
    (walk : Walk scenario.streamEnd (Decode.interpretStep scenario) found.beforeInterpretation
      visited (.ok () final)) :
    final.routines.keys = found.routines.keys := by
  rw [RoutineTable.keys_of_outline, RoutineTable.keys_of_outline,
    outline_of_interpretation discovered walk]

/-- The counts that a routine has at the end are those that stand where it starts. -/
theorem counts_of_interpretation {scenario : Scenario} {passed visited : List Decoder}
    {last final : Decoder}
    (discovered : (Decode.discover scenario).run {} = .ok () last.afterDiscovery)
    (discovery : Walk scenario.streamEnd (Decode.discoverStep scenario)
      (Decoder.beforeDiscovery {}) passed (.ok () last))
    (walk : Walk scenario.streamEnd (Decode.interpretStep scenario)
      last.afterDiscovery.beforeInterpretation visited (.ok () final))
    {key : Int} {routine : Routine} (found : final.routines.find? key = some routine) :
    ∃ args locals : Nat, scenario.blob.unsigned 1 (key + 1) = .ok args ∧
      scenario.blob.unsigned 1 (key + 2) = .ok locals ∧
      routine.args = args ∧ routine.locals = locals := by
  have outline : final.routines.outline = last.routines.outline :=
    (outline_of_interpretation discovered walk).trans rfl
  have listed : (key, routine.args, routine.locals) ∈ last.routines.outline := by
    rw [← outline]
    exact List.mem_map.mpr ⟨_, OrderedMap.mem_of_find? found, rfl⟩
  obtain ⟨entry, member, counts⟩ := List.mem_map.mp listed
  rw [entries_of_discovery discovery] at member
  obtain ⟨address, _, starts⟩ := List.mem_filterMap.mp member
  obtain ⟨position, _, args, locals, argsRead, localsRead, argsSame, localsSame⟩ :=
    Scenario.startAt?_eq_some starts
  simp only [Prod.mk.injEq] at counts
  obtain ⟨rfl, sameArgs, sameLocals⟩ := counts
  rw [← position] at argsRead localsRead
  exact ⟨args, locals, argsRead, localsRead, sameArgs ▸ argsSame, sameLocals ▸ localsSame⟩

/-- What is left at ascending addresses stands at ascending addresses. -/
theorem Scenario.ascending_of_filings {scenario : Scenario} {addresses : List Int}
    {filed : List (Int × Statement)} (ascending : addresses.Pairwise (· < ·))
    (kinds : (filed.map fun entry => (entry.2.address, entry.2.action.kind?)) =
      addresses.filterMap fun address =>
        (scenario.kindAt? address).map fun kind => (address, some kind)) :
    (filed.map fun entry => entry.2.address).Pairwise (· < ·) := by
  have addresses : (filed.map fun entry => entry.2.address) =
      (filed.map fun entry => (entry.2.address, entry.2.action.kind?)).map Prod.fst := by
    rw [List.map_map]
    rfl
  rw [addresses, kinds, List.pairwise_map]
  refine List.Pairwise.filterMap _ ?_ ascending
  intro first second before entry leaves other follows
  obtain ⟨_, _, rfl⟩ := Option.map_eq_some_iff.mp leaves
  obtain ⟨_, _, rfl⟩ := Option.map_eq_some_iff.mp follows
  exact before

/-- In a program that was disassembled, the routines start at exactly those instructions of the
stream that start one, and have the counts that stand there.  Read routine by routine in ascending
order, the statements stand at ascending addresses: each instruction whose opcode has a statement
kind has left one statement of that kind, and no other statement exists.  A statement is filed under
the routine with the greatest address before its own. -/
theorem statements_filed_once (blob : Blob) (encoding : Encoding) (program : Program)
    (decoded : disassemble blob encoding = .ok program) :
    ∃ scenario addresses filed,
      Scenario.parse blob encoding = .ok scenario ∧
      scenario.Tiles streamStart addresses program.endOffset ∧
      (∀ address ∈ addresses, address < scenario.streamEnd) ∧
      scenario.streamEnd ≤ program.endOffset ∧
      (∀ key, key ∈ program.routines.keys ↔
        key ∈ addresses ∧ scenario.opcodeAt? key = some .initStack) ∧
      (∀ key routine, program.routine? key = some routine →
        ∃ args locals : Nat, blob.unsigned 1 (key + 1) = .ok args ∧
          blob.unsigned 1 (key + 2) = .ok locals ∧
          routine.args = args ∧ routine.locals = locals) ∧
      program.filed? = some filed ∧
      (filed.map fun entry => entry.2.address).Pairwise (· < ·) ∧
      (filed.map fun entry => (entry.2.address, entry.2.action.kind?)) =
        addresses.filterMap (fun address =>
          (scenario.kindAt? address).map fun kind => (address, some kind)) ∧
      ∀ owner statement, (owner, statement) ∈ filed →
        owner ∈ program.routines.keys ∧ owner < statement.address ∧
        ∀ key ∈ program.routines.keys, key < statement.address → key ≤ owner := by
  obtain ⟨scenario, passed, last, visited, final, parsed, discovered, discovery, walk, same, tiles,
    rfl⟩ := walks_of_disassemble decoded
  have blobSame := (Scenario.facts_of_parse parsed).1
  have ascending := tiles.ascending.1
  have ordered := ordered_of_discovery discovery ascending
  have keys : ∀ key, key ∈ final.routines.keys ↔
      key ∈ passed.map Decoder.cursor ∧ scenario.opcodeAt? key = some .initStack := by
    intro key
    rw [keys_of_interpretation discovered walk]
    exact mem_keys_of_discovery discovery
  obtain ⟨filed, owner, files, left⟩ := files_of_walk walk none [] final
    (regular_beforeInterpretation discovered) (files_beforeInterpretation ordered) rfl
  rw [List.nil_append] at files
  rw [same] at left
  have kinds : (filed.map fun entry => (entry.2.address, entry.2.action.kind?)) =
      (passed.map Decoder.cursor).filterMap fun address =>
        (scenario.kindAt? address).map fun kind => (address, some kind) := by
    rw [← Scenario.map_filings none, ← left, List.map_map]
    rfl
  refine ⟨scenario, passed.map Decoder.cursor, filed, parsed, tiles, ?_, walk.le_cursor final rfl,
    keys, ?_, ?_, Scenario.ascending_of_filings ascending kinds, kinds, ?_⟩
  · intro address member
    obtain ⟨state, visits, rfl⟩ := List.mem_map.mp member
    exact discovery.cursor_lt state visits
  · intro key routine found
    rw [← blobSame]
    exact counts_of_interpretation discovered discovery walk found
  · rw [Program.filed?, RoutineTable.sorted_of_ordered files.ordered]
    exact files.statements
  · intro owner statement member
    have listed : Filing.of (owner, statement) ∈
        scenario.filings none (passed.map Decoder.cursor) := by
      rw [← left]
      exact List.mem_map_of_mem member
    obtain ⟨origin, before, greatest⟩ :=
      Scenario.owner_of_filings ascending (by simp) _ listed owner rfl
    refine ⟨(keys owner).mpr (origin.resolve_left (by simp)), before, ?_⟩
    intro key known lower
    obtain ⟨passes, starts⟩ := (keys key).mp known
    exact greatest key passes starts lower

/-- A file with two routines; the first one calls the second. -/
def callFile : Blob :=
  #[0x18, 0, 0, 0,
    0x01, 0, 0,  0x0C, 5,  0x02, 15, 0, 0, 0,  0x04,
    0x01, 1, 0,  0x10, 0xFE,  0x15, 1, 0,  0x05,
    4, 0, 0, 0,  0, 0,  0, 0,  0, 0,  0,  0, 0]

theorem statements_filed_once_call :
    ∃ program filed, disassemble callFile .utf8 = .ok program ∧ program.filed? = some filed ∧
      (filed.map fun entry => entry.2.address).Pairwise (· < ·) ∧
      ∀ owner statement, (owner, statement) ∈ filed → owner ∈ program.routines.keys := by
  have decoded : (disassemble callFile .utf8).toOption.isSome = true := by decide +kernel
  obtain ⟨program, found⟩ := Option.isSome_iff_exists.mp decoded
  have success := eq_ok_of_toOption found
  obtain ⟨_, _, filed, _, _, _, _, _, _, listed, ascending, _, owners⟩ :=
    statements_filed_once callFile .utf8 program success
  exact ⟨program, filed, success, listed, ascending,
    fun owner statement member => (owners owner statement member).1⟩

end SceneCode
