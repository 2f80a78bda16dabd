import SceneCode.Proofs.Custody
import SceneCode.Proofs.Passes

/-!
# The arena of a routine

Expressions and statements of a routine stand in one growing list.  A reference only goes back, to
an expression; the body lists exactly the entries that are statements; and the entries have the
order of the instructions they came from (`Routine.Owned`).  Values on the stack of the routine
refer to its own expressions.

Each instruction keeps this, whatever the table of routines is and also if it fails, so it holds in
every state that interpretation comes to.  The proof goes with a record of the past:
every entry stands at the address of an instruction that was met in its routine, and no two
expressions of a routine have the same address.
-/

set_option autoImplicit false

namespace SceneCode

/-! ## One routine -/

/-- If the value is a reference, it leads to an expression of the routine before `limit`. -/
def Routine.Supplies (routine : Routine) (limit : Nat) (value : Value) : Prop :=
  ∀ index, value = .expr index → 0 ≤ index ∧ index < limit ∧
    ∃ statement, routine.arena[index.toNat]? = some statement ∧
      statement.action.isExpression = true

/-- References lead back to expressions, every entry of the arena is an expression or a statement,
the body lists the statements in their order, and addresses do not decrease. -/
structure Routine.Owned (routine : Routine) : Prop where
  operands : ∀ position statement, routine.arena[position]? = some statement →
    ∀ value ∈ statement.action.operands, routine.Supplies position value
  kinds : ∀ statement ∈ routine.arena.toList,
    statement.action.isExpression = true ↔ statement.action.kind? = none
  body : routine.body.toList.Pairwise (· < ·)
  performed : ∀ position, position ∈ routine.body.toList ↔
    ∃ statement, routine.arena[position]? = some statement ∧
      statement.action.kind?.isSome = true
  ordered : routine.arena.toList.Pairwise fun first second => first.address ≤ second.address

namespace Routine

variable {routine longer : Routine} {statement : Statement} {value : Value} {limit : Nat}

theorem supplies_plain (plain : value.Plain) : routine.Supplies limit value :=
  fun index same => absurd same (plain index)

theorem Supplies.mono {higher : Nat} (supplies : routine.Supplies limit value)
    (above : limit ≤ higher) : routine.Supplies higher value := by
  intro index same
  obtain ⟨nonneg, below, found⟩ := supplies index same
  exact ⟨nonneg, by omega, found⟩

theorem Supplies.grown (supplies : routine.Supplies limit value) (grown : longer.Extends routine) :
    longer.Supplies limit value := by
  intro index same
  obtain ⟨nonneg, below, inner, found, computes⟩ := supplies index same
  exact ⟨nonneg, below, inner, grown.arena _ _ found, computes⟩

/-- A new expression can be referred to. -/
theorem supplies_allocate (computes : statement.action.isExpression = true) :
    (routine.allocate statement).Supplies (routine.allocate statement).arena.size
      (.expr routine.arena.size) := by
  intro index same
  cases same
  have below : routine.arena.size < (routine.allocate statement).arena.size := by simp [allocate]
  exact ⟨by omega, by omega, statement, by simp [allocate], computes⟩

theorem getElem?_push_cases {arena : Array Statement} {entry : Statement} {position : Nat}
    (found : (arena.push statement)[position]? = some entry) :
    arena[position]? = some entry ∨ position = arena.size ∧ entry = statement := by
  rw [Array.getElem?_push] at found
  split at found
  · rename_i last
    exact .inr ⟨last, (Option.some.inj found).symm⟩
  · exact .inl found

namespace Owned

/-- A further entry keeps all that is said of the arena. -/
theorem grow (owned : routine.Owned) (grown : longer.Extends routine)
    (pushed : longer.arena = routine.arena.push statement)
    (kind : statement.action.isExpression = true ↔ statement.action.kind? = none)
    (supplied : ∀ value ∈ statement.action.operands, routine.Supplies routine.arena.size value)
    (late : ∀ entry ∈ routine.arena.toList, entry.address ≤ statement.address)
    (body : longer.body.toList.Pairwise (· < ·))
    (performed : ∀ position, position ∈ longer.body.toList ↔
      ∃ entry, longer.arena[position]? = some entry ∧ entry.action.kind?.isSome = true) :
    longer.Owned where
  operands := by
    intro position entry found value used
    rw [pushed] at found
    rcases getElem?_push_cases found with old | ⟨rfl, rfl⟩
    · exact (owned.operands position entry old value used).grown grown
    · exact (supplied value used).grown grown
  kinds := by
    intro entry member
    rw [pushed, Array.toList_push, List.mem_append, List.mem_singleton] at member
    rcases member with old | rfl
    · exact owned.kinds entry old
    · exact kind
  body := body
  performed := performed
  ordered := by
    rw [pushed, Array.toList_push, List.pairwise_append]
    refine ⟨owned.ordered, List.pairwise_singleton _ _, ?_⟩
    intro entry member last same
    rw [List.mem_singleton] at same
    exact same ▸ late entry member

theorem body_lt (owned : routine.Owned) {position : Nat}
    (member : position ∈ routine.body.toList) : position < routine.arena.size := by
  obtain ⟨entry, found, _⟩ := (owned.performed position).mp member
  exact (Array.getElem?_eq_some_iff.mp found).1

theorem allocate (owned : routine.Owned) (computes : statement.action.isExpression = true)
    (supplied : ∀ value ∈ statement.action.operands, routine.Supplies routine.arena.size value)
    (late : ∀ entry ∈ routine.arena.toList, entry.address ≤ statement.address) :
    (routine.allocate statement).Owned := by
  have unperformed : statement.action.kind? = none := by
    cases same : statement.action <;> simp_all [Action.isExpression, Action.kind?]
  refine owned.grow (routine.extends_allocate statement) rfl (by simp [computes, unperformed])
    supplied late owned.body fun position => ?_
  rw [show (routine.allocate statement).body = routine.body from rfl, owned.performed]
  constructor
  · rintro ⟨entry, found, performs⟩
    exact ⟨entry, (routine.extends_allocate statement).arena _ _ found, performs⟩
  · rintro ⟨entry, found, performs⟩
    rcases getElem?_push_cases found with old | ⟨_, rfl⟩
    · exact ⟨entry, old, performs⟩
    · simp [unperformed] at performs

theorem append (owned : routine.Owned) (performs : statement.action.kind?.isSome = true)
    (supplied : ∀ value ∈ statement.action.operands, routine.Supplies routine.arena.size value)
    (late : ∀ entry ∈ routine.arena.toList, entry.address ≤ statement.address) :
    (routine.append statement).Owned := by
  have computesNothing : statement.action.isExpression = false := by
    cases same : statement.action <;> simp_all [Action.isExpression, Action.kind?]
  have listed : (routine.append statement).body.toList =
      routine.body.toList ++ [routine.arena.size] := by
    simp [Routine.append]
  refine owned.grow (routine.extends_append statement) rfl ?_ supplied late ?_ fun position => ?_
  · rw [Option.isSome_iff_ne_none] at performs
    simp [computesNothing, performs]
  · rw [listed, List.pairwise_append]
    refine ⟨owned.body, List.pairwise_singleton _ _, fun position member last same => ?_⟩
    rw [List.mem_singleton] at same
    exact same ▸ owned.body_lt member
  · rw [listed, List.mem_append, List.mem_singleton, owned.performed]
    constructor
    · rintro (⟨entry, found, kind⟩ | rfl)
      · exact ⟨entry, (routine.extends_append statement).arena _ _ found, kind⟩
      · exact ⟨statement, by simp [Routine.append], performs⟩
    · rintro ⟨entry, found, kind⟩
      rcases getElem?_push_cases found with old | ⟨last, _⟩
      · exact .inl ⟨entry, old, kind⟩
      · exact .inr last

end Owned

theorem owned_reset (routine : Routine) : routine.reset.Owned := by
  constructor <;> simp [reset]

end Routine

/-! ## The record of the past -/

/-- The decoder stands at an address in the routine that starts at `owner`. -/
def Decoder.StandsAt (decoder : Decoder) (owner address : Int) : Prop :=
  decoder.cursor = address ∧ decoder.frame.map Frame.address = some owner

/-- Every entry of the routine at `owner` comes from an instruction that was met in it, and its
expressions come from different ones. -/
structure Routine.Recorded (routine : Routine) (passed : List Decoder) (owner : Int) : Prop where
  met : ∀ statement ∈ routine.arena.toList, ∃ before ∈ passed,
    before.StandsAt owner statement.address
  distinct : routine.arena.toList.Pairwise fun first second =>
    first.action.isExpression = true → second.action.isExpression = true →
      first.address < second.address

/-- The arena is in order, and the values in the charge of the routine can be used in it. -/
structure Routine.Owns (passed : List Decoder) (owner : Int) (routine : Routine)
    (values : List Value) : Prop where
  owned : routine.Owned
  recorded : routine.Recorded passed owner
  supplied : ∀ value ∈ values, routine.Supplies routine.arena.size value

namespace Routine

theorem custody_owns (passed : List Decoder) : Custody (Routine.Owns passed) where
  perm same kept := ⟨kept.owned, kept.recorded, fun value member =>
    kept.supplied value (same.mem_iff.mp member)⟩
  drop kept := ⟨kept.owned, kept.recorded, fun value member =>
    kept.supplied value (List.mem_cons_of_mem _ member)⟩
  plain plain kept := ⟨kept.owned, kept.recorded,
    List.forall_mem_cons.mpr ⟨supplies_plain plain, kept.supplied⟩⟩

variable {routine : Routine} {passed : List Decoder} {before : Decoder} {owner : Int}
  {values : List Value} {action : Action}

theorem Recorded.grown (recorded : routine.Recorded passed owner) (before : Decoder) :
    routine.Recorded (passed ++ [before]) owner where
  met := fun statement member => by
    obtain ⟨earlier, visited, stands⟩ := recorded.met statement member
    exact ⟨earlier, List.mem_append_left _ visited, stands⟩
  distinct := recorded.distinct

theorem Recorded.address_lt (recorded : routine.Recorded passed owner)
    (earlier : ∀ state ∈ passed, state.cursor < before.cursor) :
    ∀ statement ∈ routine.arena.toList, statement.address < before.cursor := by
  intro statement member
  obtain ⟨state, visited, stands, _⟩ := recorded.met statement member
  exact stands ▸ earlier state visited

theorem Recorded.address_le (recorded : routine.Recorded (passed ++ [before]) owner)
    (earlier : ∀ state ∈ passed, state.cursor < before.cursor) :
    ∀ statement ∈ routine.arena.toList, statement.address ≤ before.cursor := by
  intro statement member
  obtain ⟨state, visited, stands, _⟩ := recorded.met statement member
  rw [List.mem_append, List.mem_singleton] at visited
  rcases visited with visited | rfl
  · exact stands ▸ Int.le_of_lt (earlier state visited)
  · exact stands ▸ Int.le_refl _

theorem Owns.grown (owns : routine.Owns passed owner values) (before : Decoder) :
    routine.Owns (passed ++ [before]) owner values :=
  ⟨owns.owned, owns.recorded.grown before, owns.supplied⟩

/-- A copy of a value can be used where the value can. -/
theorem Owns.copy {value : Value} (owns : routine.Owns passed owner values)
    (among : value ∈ values ∨ value.Plain) : routine.Owns passed owner (value :: values) :=
  ⟨owns.owned, owns.recorded, List.forall_mem_cons.mpr
    ⟨among.elim (owns.supplied value) supplies_plain, owns.supplied⟩⟩

/-- The new entry comes from the instruction at which the decoder stands. -/
theorem Recorded.met_push (met : ∀ statement ∈ routine.arena.toList,
      ∃ state ∈ passed ++ [before], state.StandsAt owner statement.address)
    (owns : before.frame.map Frame.address = some owner) :
    ∀ statement ∈ (routine.arena.push ⟨before.cursor, action⟩).toList,
      ∃ state ∈ passed ++ [before], state.StandsAt owner statement.address := by
  intro statement member
  rw [Array.toList_push, List.mem_append, List.mem_singleton] at member
  rcases member with old | rfl
  · exact met statement old
  · exact ⟨before, by simp, rfl, owns⟩

/-- What an instruction stores keeps the arena in order. -/
theorem transfer_owns (earlier : ∀ state ∈ passed, state.cursor < before.cursor) :
    Transfer before.cursor (before.frame.map Frame.address) (Routine.Owns passed)
      (Routine.Owns (passed ++ [before])) where
  custodyBefore := custody_owns passed
  custodyAfter := custody_owns _
  weaken := fun _ _ _ kept => kept.grown before
  allocate := by
    intro owner routine action values owns computes kept
    obtain ⟨used, others⟩ := List.forall_mem_append.mp kept.supplied
    have early := kept.recorded.address_lt earlier
    refine ⟨?_, ⟨?_, ?_⟩, List.forall_mem_cons.mpr ⟨supplies_allocate computes, ?_⟩⟩
    · exact kept.owned.allocate computes used fun entry member => Int.le_of_lt (early entry member)
    · exact Recorded.met_push (kept.recorded.grown before).met owns
    · rw [Routine.allocate, Array.toList_push, List.pairwise_append]
      refine ⟨kept.recorded.distinct, List.pairwise_singleton _ _, ?_⟩
      intro entry member last listed _ _
      rw [List.mem_singleton.mp listed]
      exact early entry member
    · intro value member
      exact ((others value member).grown (routine.extends_allocate _)).mono
        (routine.extends_allocate _).size
  append := by
    intro owner routine action values owns performs kept
    obtain ⟨used, others⟩ := List.forall_mem_append.mp kept.supplied
    have early := kept.recorded.address_le earlier
    refine ⟨kept.owned.append performs used early, ⟨?_, ?_⟩, ?_⟩
    · exact Recorded.met_push kept.recorded.met owns
    · have computesNothing : action.isExpression = false := by
        cases same : action <;> simp_all [Action.isExpression, Action.kind?]
      rw [Routine.append, Array.toList_push, List.pairwise_append]
      refine ⟨kept.recorded.distinct, List.pairwise_singleton _ _, ?_⟩
      intro entry member last listed _ computes
      rw [List.mem_singleton.mp listed] at computes
      cases computesNothing.symm.trans computes
    · intro value member
      exact ((others value member).grown (routine.extends_append _)).mono
        (routine.extends_append _).size

theorem owns_reset (routine : Routine) (owner : Int) : routine.reset.Owns [] owner [] :=
  ⟨routine.owned_reset, ⟨by simp [reset], by simp [reset]⟩, by simp⟩

end Routine

/-! ## Interpretation -/

/-- Every routine of the table has its arena in order, and every slot of the routine that is being
decoded holds a value that can be used in it. -/
structure Decoder.Owned (decoder : Decoder) : Prop where
  routines : ∀ address routine, decoder.routines.find? address = some routine → routine.Owned
  slots : ∀ frame, decoder.frame = some frame → ∃ routine,
    decoder.active? = some (frame.address, routine) ∧
    decoder.routines.find? frame.address = some routine ∧
    ∀ value ∈ frame.stack.slots.toList, routine.Supplies routine.arena.size value

theorem Decoder.Carries.owned {decoder : Decoder} {passed : List Decoder} {owner : Option Int}
    (carries : decoder.Carries (Routine.Owns passed) owner []) : decoder.Owned where
  routines := fun address routine found => (carries.table address routine found).owned
  slots := by
    intro frame framed
    obtain ⟨attached, routine, operands, found, bears, kept⟩ := carries.active frame framed
    refine ⟨routine, by simp [Decoder.active?, framed, attached, found], found, ?_⟩
    intro value member
    rcases bears.of_mem_slots member with live | plain
    · exact kept.supplied value (List.mem_append_left _ live)
    · exact Routine.supplies_plain plain

/-- Interpretation starts with blank routines and outside of all of them. -/
theorem Decoder.carries_beforeInterpretation
    {keeps : Int → Routine → List Value → Prop}
    (blank : ∀ address (routine : Routine), keeps address routine.reset []) (start : Decoder) :
    start.beforeInterpretation.Carries keeps none [] where
  table := by
    intro address routine found
    have reset : (start.routines.find? address).map Routine.reset = some routine :=
      (OrderedMap.find?_mapValues _ _ _).symm.trans found
    obtain ⟨former, _, rfl⟩ := Option.map_eq_some_iff.mp reset
    exact blank address former
  owner_eq := rfl
  active := nofun

/-- One step keeps the arenas in order, whether it succeeds or fails. -/
theorem Decoder.Carries.owns_interpretStep {scenario : Scenario} {passed : List Decoder}
    {before : Decoder} {owner : Option Int}
    (earlier : ∀ state ∈ passed, state.cursor < before.cursor)
    (carries : before.Carries (Routine.Owns passed) owner []) :
    ∃ entered, (settled ((Decode.interpretStep scenario).run before)).Carries
      (Routine.Owns (passed ++ [before])) entered [] := by
  obtain rfl := carries.owner_eq
  refine carries.interpretStep (Routine.transfer_owns earlier) ?_
  intro _ _ frame routine values value _ _ among kept
  exact (kept.grown before).copy among

theorem Decoder.exists_carries_of_walk {scenario : Scenario} {start : Decoder}
    {visited : List Decoder} {result : EStateM.Result Fault Decoder Unit}
    (walk : Walk scenario.streamEnd (Decode.interpretStep scenario) start.beforeInterpretation
      visited result) :
    ∀ passed state rest, visited ++ [settled result] = passed ++ state :: rest →
      ∃ owner, state.Carries (Routine.Owns passed) owner [] := by
  have blank : ∀ address (routine : Routine), routine.reset.Owns [] address [] :=
    fun address routine => routine.owns_reset address
  refine walk.history (fun passed state => ∃ owner, state.Carries (Routine.Owns passed) owner [])
    ⟨none, carries_beforeInterpretation blank start⟩ ?_
  rintro passed before rest split ⟨owner, carries⟩
  exact carries.owns_interpretStep
    (walk.cursor_lt_of_split (Decode.moves_interpretStep scenario) split)

/-- In every state that interpretation comes to, and in the one it ends in or that a fault leaves,
for every scenario and every table of routines to start from: in each routine a reference of an
entry leads to an expression further ahead, the body lists exactly the entries that are statements,
in ascending order, every other entry is an expression, and addresses do not decrease; and every
slot of the current routine that holds a reference refers to an expression of that routine. -/
theorem arena_owned (scenario : Scenario) (start : Decoder) :
    ∃ visited, Walk scenario.streamEnd (Decode.interpretStep scenario) start.beforeInterpretation
        visited ((Decode.interpret scenario).run start) ∧
      ∀ state ∈ visited ++ [settled ((Decode.interpret scenario).run start)], state.Owned := by
  obtain ⟨visited, walk⟩ := walk_of_interpret scenario start
  refine ⟨visited, walk, fun state member => ?_⟩
  obtain ⟨passed, rest, split⟩ := List.append_of_mem member
  obtain ⟨owner, carries⟩ := Decoder.exists_carries_of_walk walk passed state rest split
  exact carries.owned

end SceneCode
