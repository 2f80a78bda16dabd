import SceneCode.Disassembly

/-!
# Walks over the stream

A pass repeats a step while the cursor is before the end of the stream.  `Walk` is that loop with no
bound on its length: it relates the decoder at the start to the decoders at which a step is taken
and to the result.  `exists_walk` says that the bounded loop of the decoder is this loop whenever
every step moves the cursor, so the bound is never what ends a pass.

`Walk.invariant` is the one induction over a pass: what every step keeps holds at every decoder
that is visited and at the end.
-/

set_option autoImplicit false

namespace SceneCode

open EStateM (Result)

/-- The loop that repeats `step` while the cursor is before `stop`: where it starts, the decoders at
which it takes a step, and how it ends. -/
inductive Walk (stop : Int) (step : Decode Unit) :
    Decoder → List Decoder → Result Fault Decoder Unit → Prop where
  | finish {decoder : Decoder} (reached : stop ≤ decoder.cursor) :
      Walk stop step decoder [] (.ok () decoder)
  | fault {decoder after : Decoder} {fault : Fault} (inside : decoder.cursor < stop)
      (failed : step.run decoder = .error fault after) :
      Walk stop step decoder [decoder] (.error fault after)
  | next {decoder after : Decoder} {visited : List Decoder} {result : Result Fault Decoder Unit}
      (inside : decoder.cursor < stop) (stepped : step.run decoder = .ok () after)
      (rest : Walk stop step after visited result) :
      Walk stop step decoder (decoder :: visited) result

/-- A step that never succeeds without moving the cursor forward. -/
def Moves (step : Decode Unit) : Prop :=
  ∀ before after, step.run before = .ok () after → before.cursor < after.cursor

namespace Walk

variable {stop : Int} {step : Decode Unit} {decoder : Decoder} {visited : List Decoder}
  {result : Result Fault Decoder Unit}

theorem cursor_lt (walk : Walk stop step decoder visited result) :
    ∀ state ∈ visited, state.cursor < stop := by
  induction walk with
  | finish reached => simp
  | fault inside failed => simpa using inside
  | next inside stepped rest ih =>
      intro state member
      rcases List.mem_cons.mp member with same | later
      · exact same ▸ inside
      · exact ih state later

/-- What every successful step keeps holds wherever a step is taken, and at the end. -/
theorem invariant_of_mem (Holds : Decoder → Prop)
    (walk : Walk stop step decoder visited result)
    (kept : ∀ before ∈ visited, ∀ after, Holds before → step.run before = .ok () after →
      Holds after) (initially : Holds decoder) :
    (∀ state ∈ visited, Holds state) ∧ ∀ final, result = .ok () final → Holds final := by
  induction walk with
  | finish reached =>
      refine ⟨by simp, ?_⟩
      intro final same
      cases same
      exact initially
  | fault inside failed =>
      refine ⟨?_, by simp⟩
      intro state member
      rw [List.mem_singleton] at member
      exact member ▸ initially
  | next inside stepped rest ih =>
      obtain ⟨here, later⟩ := List.forall_mem_cons.mp kept
      obtain ⟨visitedHold, finalHolds⟩ := ih later (here _ initially stepped)
      exact ⟨List.forall_mem_cons.mpr ⟨initially, visitedHold⟩, finalHolds⟩

theorem invariant (Holds : Decoder → Prop)
    (kept : ∀ before after, Holds before → before.cursor < stop →
      step.run before = .ok () after → Holds after)
    (walk : Walk stop step decoder visited result) (initially : Holds decoder) :
    (∀ state ∈ visited, Holds state) ∧ ∀ final, result = .ok () final → Holds final :=
  walk.invariant_of_mem Holds
    (fun before member after holds stepped =>
      kept before after holds (walk.cursor_lt before member) stepped) initially

theorem le_cursor (walk : Walk stop step decoder visited result) :
    ∀ final, result = .ok () final → stop ≤ final.cursor := by
  induction walk with
  | finish reached =>
      intro final same
      cases same
      exact reached
  | fault inside failed => simp
  | next inside stepped rest ih => exact ih

theorem succeeds (walk : Walk stop step decoder visited result) :
    ∀ final, result = .ok () final →
      ∀ state ∈ visited, ∃ after, step.run state = .ok () after := by
  induction walk with
  | finish reached => simp
  | fault inside failed => simp
  | @next decoder after visited result inside stepped rest ih =>
      intro final ended state member
      rcases List.mem_cons.mp member with same | later
      · exact ⟨after, same ▸ stepped⟩
      · exact ih final ended state later

/-- A walk can be taken up wherever it takes a step. -/
theorem resume (walk : Walk stop step decoder visited result) :
    ∀ state ∈ visited, ∃ later, Walk stop step state later result := by
  induction walk with
  | finish reached => simp
  | @fault decoder after fault inside failed =>
      intro state member
      obtain rfl := List.mem_singleton.mp member
      exact ⟨[state], .fault inside failed⟩
  | @next decoder after visited result inside stepped rest ih =>
      intro state member
      rcases List.mem_cons.mp member with rfl | later
      · exact ⟨state :: visited, .next inside stepped rest⟩
      · exact ih state later

theorem behind_start (moves : Moves step) (walk : Walk stop step decoder visited result) :
    (∀ state ∈ visited, decoder.cursor ≤ state.cursor) ∧
      ∀ final, result = .ok () final → decoder.cursor ≤ final.cursor :=
  walk.invariant (fun state => decoder.cursor ≤ state.cursor)
    (fun before after behind _ stepped =>
      Int.le_trans behind (Int.le_of_lt (moves before after stepped)))
    (Int.le_refl _)

/-- Between two decoders that follow each other no step is taken. -/
theorem cursor_le_of_lt_next (moves : Moves step) (walk : Walk stop step decoder visited result) :
    ∀ before ∈ visited, ∀ after, step.run before = .ok () after →
      ∀ state ∈ visited, state.cursor < after.cursor → state.cursor ≤ before.cursor := by
  induction walk with
  | finish reached => simp
  | fault inside failed =>
      intro before member after stepped state alone _
      rw [List.mem_singleton] at member alone
      exact Int.le_of_eq (by rw [member, alone])
  | next inside stepped rest ih =>
      intro before member after succeeded state passed earlier
      have behind := (rest.behind_start moves).1
      rcases List.mem_cons.mp member with rfl | later
      · rw [stepped] at succeeded
        cases succeeded
        rcases List.mem_cons.mp passed with rfl | ahead
        · exact Int.le_refl _
        · have := behind state ahead
          omega
      · rcases List.mem_cons.mp passed with rfl | ahead
        · have := behind before later
          have := moves _ _ stepped
          omega
        · exact ih before later after succeeded state ahead earlier

theorem cursor_le (moves : Moves step) {final : Decoder}
    (walk : Walk stop step decoder visited (.ok () final)) : decoder.cursor ≤ final.cursor :=
  (walk.behind_start moves).2 final rfl

theorem failed (walk : Walk stop step decoder visited result) :
    ∀ fault after, result = .error fault after →
      ∃ state ∈ visited, step.run state = .error fault after := by
  induction walk with
  | finish reached => simp
  | @fault decoder after fault inside failed =>
      intro other last same
      cases same
      exact ⟨decoder, by simp, failed⟩
  | next inside stepped rest ih =>
      intro fault after same
      obtain ⟨state, member, failed⟩ := ih fault after same
      exact ⟨state, List.mem_cons_of_mem _ member, failed⟩

/-- A loop has one course. -/
theorem unique {others : List Decoder} {ending : Result Fault Decoder Unit}
    (walk : Walk stop step decoder visited result)
    (also : Walk stop step decoder others ending) : others = visited ∧ ending = result := by
  induction walk generalizing others with
  | finish reached =>
      cases also with
      | finish _ => exact ⟨rfl, rfl⟩
      | fault inside _ => omega
      | next inside _ _ => omega
  | fault inside failed =>
      cases also with
      | finish reached => omega
      | fault _ alsoFailed =>
          rw [failed] at alsoFailed
          cases alsoFailed
          exact ⟨rfl, rfl⟩
      | next _ stepped _ =>
          rw [failed] at stepped
          cases stepped
  | next inside stepped rest ih =>
      cases also with
      | finish reached => omega
      | fault _ failed =>
          rw [stepped] at failed
          cases failed
      | next _ alsoStepped alsoRest =>
          rw [stepped] at alsoStepped
          cases alsoStepped
          obtain ⟨sameOthers, sameEnding⟩ := ih alsoRest
          exact ⟨by rw [sameOthers], sameEnding⟩

end Walk

/-- The bounded loop is the loop: a bound of the distance to the end is never used up. -/
theorem exists_walk {stop : Int} {step : Decode Unit} (moves : Moves step) (fuel : Nat) :
    ∀ decoder : Decoder, stop - decoder.cursor ≤ fuel →
      ∃ visited, Walk stop step decoder visited ((Decode.walk stop step fuel).run decoder) := by
  induction fuel with
  | zero =>
      intro decoder enough
      exact ⟨[], .finish (by omega)⟩
  | succ fuel ih =>
      intro decoder enough
      by_cases inside : decoder.cursor < stop
      · cases stepped : step.run decoder with
        | ok _ after =>
            have forward := moves decoder after stepped
            obtain ⟨visited, rest⟩ := ih after (by omega)
            refine ⟨decoder :: visited, .next inside stepped ?_⟩
            simpa [Decode.walk, Decode.cursor, inside, stepped] using rest
        | error fault after =>
            refine ⟨[decoder], ?_⟩
            have failed : (Decode.walk stop step (fuel + 1)).run decoder = .error fault after := by
              simp [Decode.walk, Decode.cursor, inside, stepped]
            rw [failed]
            exact .fault inside stepped
      · refine ⟨[], ?_⟩
        have stopped : (Decode.walk stop step (fuel + 1)).run decoder = .ok () decoder := by
          simp [Decode.walk, Decode.cursor, inside]
        rw [stopped]
        exact .finish (by omega)

def settled {α : Type} : Result Fault Decoder α → Decoder
  | .ok _ decoder => decoder
  | .error _ decoder => decoder

def succeeded {α : Type} : Result Fault Decoder α → Bool
  | .ok _ _ => true
  | .error _ _ => false

theorem eq_ok_of_succeeded {result : Result Fault Decoder Unit}
    (success : succeeded result = true) : result = .ok () (settled result) := by
  cases result with
  | ok _ decoder => rfl
  | error fault decoder => cases success

/-- Where a number of steps leads. -/
def Decode.after (step : Decode Unit) : Nat → Decoder → Decoder
  | 0, decoder => decoder
  | count + 1, decoder => after step count (settled (step.run decoder))

namespace Walk

variable {stop : Int} {step : Decode Unit} {decoder : Decoder} {visited : List Decoder}
  {result : Result Fault Decoder Unit}

/-- Before the end a loop takes a step and goes on behind it. -/
theorem uncons {after : Decoder} (walk : Walk stop step decoder visited result)
    (inside : decoder.cursor < stop) (stepped : step.run decoder = .ok () after) :
    ∃ later, visited = decoder :: later ∧ Walk stop step after later result := by
  cases walk with
  | finish reached => omega
  | fault _ failed =>
      rw [stepped] at failed
      cases failed
  | next _ also rest =>
      rw [stepped] at also
      cases also
      exact ⟨_, rfl, rest⟩

/-- The decoder that steps lead to is visited, if each of them succeeds before the end. -/
theorem mem_of_steps (walk : Walk stop step decoder visited result) {count : Nat}
    (inside : (Decode.after step count decoder).cursor < stop)
    (stepped : ∀ passed < count, (Decode.after step passed decoder).cursor < stop ∧
      succeeded (step.run (Decode.after step passed decoder)) = true) :
    Decode.after step count decoder ∈ visited := by
  induction count generalizing decoder visited with
  | zero =>
      cases walk with
      | finish reached => exact absurd inside (Int.not_lt.mpr reached)
      | fault _ _ => exact List.mem_singleton_self _
      | next _ _ _ => exact List.mem_cons_self
  | succ count ih =>
      obtain ⟨here, success⟩ := stepped 0 (Nat.zero_lt_succ count)
      obtain ⟨later, rfl, rest⟩ := walk.uncons here (eq_ok_of_succeeded success)
      refine List.mem_cons_of_mem _ (ih rest inside fun passed before => ?_)
      exact stepped (passed + 1) (Nat.succ_lt_succ before)

theorem ascending (moves : Moves step) (walk : Walk stop step decoder visited result) :
    visited.Pairwise fun earlier later => earlier.cursor < later.cursor := by
  induction walk with
  | finish reached => exact .nil
  | fault inside failed => exact List.pairwise_singleton _ _
  | @next decoder after visited result inside stepped rest ih =>
      refine List.pairwise_cons.mpr ⟨fun state member => ?_, ih⟩
      have forward := moves decoder after stepped
      have behind := (rest.behind_start moves).1 state member
      omega

/-- The decoders before one that is visited stand before it in the stream. -/
theorem cursor_lt_of_split {before : Decoder} {passed rest : List Decoder} (moves : Moves step)
    (walk : Walk stop step decoder visited result) (split : visited = passed ++ before :: rest) :
    ∀ state ∈ passed, state.cursor < before.cursor := by
  have ascending := walk.ascending moves
  rw [split, List.pairwise_append] at ascending
  exact fun state member => ascending.2.2 state member before List.mem_cons_self

/-- What every step keeps, also one that fails, holds wherever the loop comes to, with the decoders
at which it took the steps before. -/
theorem history (walk : Walk stop step decoder visited result) :
    ∀ Holds : List Decoder → Decoder → Prop, Holds [] decoder →
      (∀ passed before rest, visited = passed ++ before :: rest → Holds passed before →
        Holds (passed ++ [before]) (settled (step.run before))) →
      ∀ passed state rest, visited ++ [settled result] = passed ++ state :: rest →
        Holds passed state := by
  induction walk with
  | finish reached =>
      intro Holds initially kept passed state rest split
      obtain ⟨rfl, rfl⟩ : passed = [] ∧ state = _ := by
        cases passed with
        | nil => exact ⟨rfl, (List.cons.inj split).1.symm⟩
        | cons => simp at split
      exact initially
  | @fault decoder after fault inside failed =>
      intro Holds initially kept passed state rest split
      have last := kept [] decoder [] rfl initially
      rw [failed] at last
      match passed, split with
      | [], split =>
          obtain rfl := (List.cons.inj split).1
          exact initially
      | [first], split =>
          simp only [List.cons_append, List.nil_append, List.cons.injEq] at split
          obtain ⟨rfl, rfl, _⟩ := split
          exact last
      | _ :: _ :: _, split => simp at split
  | @next decoder after visited result inside stepped rest ih =>
      intro Holds initially kept passed state others split
      cases passed with
      | nil =>
          obtain rfl := (List.cons.inj split).1
          exact initially
      | cons first passed =>
          obtain ⟨rfl, later⟩ := List.cons.inj split
          refine ih (fun passed => Holds (decoder :: passed)) ?_ ?_ passed state others later
          · have stood := kept [] decoder visited rfl initially
            rwa [stepped] at stood
          · intro passed before rest same
            exact kept (decoder :: passed) before rest (congrArg (decoder :: ·) same)

end Walk

namespace Decoder

def beforeDiscovery (decoder : Decoder) : Decoder :=
  { decoder.rewind with routines := OrderedMap.empty }

def afterDiscovery (decoder : Decoder) : Decoder :=
  { decoder with
    discoveryEnd := some decoder.cursor
    log := decoder.log.push (.routinesFound decoder.routines.size) }

def beforeInterpretation (decoder : Decoder) : Decoder :=
  { decoder.rewind with routines := decoder.routines.resetAll }

end Decoder

theorem run_discover (scenario : Scenario) (decoder : Decoder) :
    (Decode.discover scenario).run decoder =
      match (Decode.walk scenario.streamEnd (Decode.discoverStep scenario)
          scenario.streamEnd).run decoder.beforeDiscovery with
      | .ok _ after => .ok () after.afterDiscovery
      | .error fault after => .error fault after := by
  cases walked : (Decode.walk scenario.streamEnd (Decode.discoverStep scenario)
      scenario.streamEnd).run decoder.beforeDiscovery <;>
    simp_all [Decode.discover, Decode.rewind, Decode.report, Decoder.beforeDiscovery,
      Decoder.afterDiscovery]

theorem run_interpret (scenario : Scenario) (decoder : Decoder) :
    (Decode.interpret scenario).run decoder =
      (Decode.walk scenario.streamEnd (Decode.interpretStep scenario)
        scenario.streamEnd).run decoder.beforeInterpretation := rfl

theorem disassemble_of_parse {blob : Blob} {encoding : Encoding} {scenario : Scenario}
    (parsed : Scenario.parse blob encoding = .ok scenario) :
    disassemble blob encoding =
      match (Decode.discover scenario).run {} with
      | .error fault _ => .error fault
      | .ok _ found =>
        match (Decode.interpret scenario).run found with
        | .error fault _ => .error fault
        | .ok _ final => .ok {
            entryPoint := scenario.entryPoint
            title := scenario.title
            routines := final.routines
            endOffset := final.cursor } := by
  simp only [disassemble, disassembleLogged, parsed, Scenario.disassemble, Decode.disassemble,
    EStateM.run_bind]
  cases discovered : (Decode.discover scenario).run {} with
  | error fault found => rfl
  | ok _ found =>
      dsimp only
      cases interpreted : (Decode.interpret scenario).run found with
      | error fault final => rfl
      | ok _ final => rfl

/-- A program that was disassembled is what the two passes left. -/
theorem passes_of_disassemble {blob : Blob} {encoding : Encoding} {program : Program}
    (decoded : disassemble blob encoding = .ok program) :
    ∃ scenario found final, Scenario.parse blob encoding = .ok scenario ∧
      (Decode.discover scenario).run {} = .ok () found ∧
      (Decode.interpret scenario).run found = .ok () final ∧
      program = {
        entryPoint := scenario.entryPoint
        title := scenario.title
        routines := final.routines
        endOffset := final.cursor } := by
  cases parsed : Scenario.parse blob encoding with
  | error fault => simp [disassemble, disassembleLogged, parsed] at decoded
  | ok scenario =>
      rw [disassemble_of_parse parsed] at decoded
      cases discovered : (Decode.discover scenario).run {} with
      | error fault found => simp [discovered] at decoded
      | ok _ found =>
          cases interpreted : (Decode.interpret scenario).run found with
          | error fault final => simp [discovered, interpreted] at decoded
          | ok _ final =>
              simp only [discovered, interpreted, Except.ok.injEq] at decoded
              exact ⟨scenario, found, final, rfl, discovered, interpreted, decoded.symm⟩

theorem disassemble_of_unreadable {blob : Blob} {encoding : Encoding} {fault : ContainerFault}
    (unreadable : Scenario.parse blob encoding = .error fault) :
    disassemble blob encoding = .error (.container fault) := by
  simp only [disassemble, disassembleLogged, unreadable]

end SceneCode
