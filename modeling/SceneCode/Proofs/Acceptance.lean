import Mathlib
import SceneCode.Proofs.Output

/-!
# What listings and exports accept

Both outputs follow the references of a statement into the arena of its routine, which here may hold
anything, as long as no entry is inside itself.  Each output has its own idea of a faulty value; at
one it fails, and else it goes on to the operands (`Explores`).  What this says of all values that
are reached follows by induction (`Explores.sound`, `Explores.blames`).

The listing refuses two things that the export takes: a statement where an expression is needed, and
a slot of unknown content whose name starts like that of a local and does not go on with a number.
An export holds numbers as they are, while a listing has to write them, so one with too many digits
is the third thing that only a listing fails at.
-/

set_option autoImplicit false

namespace SceneCode

/-! ## References -/

namespace Routine

/-- Where the entry with an index is in the arena. -/
def position (routine : Routine) (index : Int) : Int :=
  if index < 0 then index + routine.arena.size else index

/-- The entry at a position has the one at another position for an operand. -/
inductive Contains (routine : Routine) : Int → Int → Prop where
  | operand {position : Nat} {statement : Statement} {index : Int}
      (stored : routine.arena[position]? = some statement)
      (member : .expr index ∈ statement.action.operands) :
      Contains routine position (routine.position index)

/-- No entry of the arena is inside itself. -/
def Acyclic (routine : Routine) : Prop :=
  ∀ position, ¬ Relation.TransGen routine.Contains position position

/-- A reference and an operand of the statement that it leads to. -/
inductive Refers (routine : Routine) : Value → Value → Prop where
  | operand {index : Int} {statement : Statement} {value : Value}
      (located : routine.statementAt? index = some statement)
      (member : value ∈ statement.action.operands) : Refers routine (.expr index) value

/-- The values that are reached from the operands of an action. -/
def Reaches (routine : Routine) (action : Action) (value : Value) : Prop :=
  ∃ operand ∈ action.operands, Relation.ReflTransGen routine.Refers operand value

variable {routine : Routine}

theorem stored_of_statementAt? {index : Int} {statement : Statement}
    (located : routine.statementAt? index = some statement) :
    ∃ place : Nat, routine.position index = place ∧ routine.arena[place]? = some statement := by
  unfold statementAt? at located
  dsimp only at located
  change (if routine.position index < 0 then none else _) = _ at located
  split at located
  · cases located
  · rename_i nonneg
    exact ⟨(routine.position index).toNat, by omega, located⟩

theorem contains_of_refers {index inner : Int}
    (refers : routine.Refers (.expr index) (.expr inner)) :
    routine.Contains (routine.position index) (routine.position inner) := by
  cases refers with
  | operand located member =>
      obtain ⟨place, same, stored⟩ := stored_of_statementAt? located
      rw [same]
      exact .operand stored member

/-- A reference that leads to an entry. -/
def Leads (routine : Routine) (value : Value) : Prop :=
  ∃ index statement, value = .expr index ∧ routine.statementAt? index = some statement

theorem Refers.leads {value inner : Value} (refers : routine.Refers value inner) :
    routine.Leads value := by
  cases refers with
  | operand located _ => exact ⟨_, _, rfl, located⟩

theorem Leads.exists_less {value : Value} {fuel : Nat} (leads : routine.Leads value)
    (allowed : 0 < fuel ∨ ¬ routine.Leads value) : ∃ less, fuel = less + 1 := by
  have positive := allowed.resolve_right (not_not.mpr leads)
  exact ⟨fuel - 1, by omega⟩

/-- A chain of so many references starts at the value, and the last one leads to an entry too. -/
def Deep (routine : Routine) : Nat → Value → Prop
  | 0, value => routine.Leads value
  | depth + 1, value => ∃ inner, routine.Refers value inner ∧ routine.Deep depth inner

theorem Deep.leads {depth : Nat} {value : Value} (deep : routine.Deep depth value) :
    routine.Leads value := by
  cases depth with
  | zero => exact deep
  | succ depth =>
      obtain ⟨inner, refers, _⟩ := deep
      exact refers.leads

/-- A chain of references passes no entry twice, so it is not longer than the arena.  The induction
keeps the set of the positions passed, all of which contain the next one. -/
theorem Acyclic.not_deep (acyclic : routine.Acyclic) :
    ∀ (depth : Nat) (index : Int) (passed : Finset Int),
      passed ⊆ Finset.Ico 0 (routine.arena.size : Int) →
      passed.card + depth = routine.arena.size →
      (∀ position ∈ passed, Relation.TransGen routine.Contains position (routine.position index)) →
      ¬ routine.Deep depth (.expr index) := by
  intro depth
  induction depth with
  | zero =>
      intro index passed inside full leads deep
      obtain ⟨_, statement, same, located⟩ := deep.leads
      cases same
      obtain ⟨place, position, stored⟩ := stored_of_statementAt? located
      have whole : passed = Finset.Ico 0 (routine.arena.size : Int) :=
        Finset.eq_of_subset_of_card_le inside (by simp; omega)
      have within : routine.position index ∈ passed := by
        obtain ⟨bound, _⟩ := Array.getElem?_eq_some_iff.mp stored
        rw [whole, Finset.mem_Ico]
        omega
      exact acyclic _ (leads _ within)
  | succ depth ih =>
      intro index passed inside full leads deep
      obtain ⟨_, statement, same, located⟩ := deep.leads
      cases same
      obtain ⟨inner, refers, deeper⟩ := deep
      obtain ⟨next, _, rfl, _⟩ := deeper.leads
      have step := contains_of_refers refers
      obtain ⟨place, position, stored⟩ := stored_of_statementAt? located
      have fresh : routine.position index ∉ passed := fun seen => acyclic _ (leads _ seen)
      refine ih next (insert (routine.position index) passed) ?_ ?_ ?_ deeper
      · refine Finset.insert_subset ?_ inside
        obtain ⟨bound, _⟩ := Array.getElem?_eq_some_iff.mp stored
        rw [Finset.mem_Ico]
        omega
      · rw [Finset.card_insert_of_notMem fresh]
        omega
      · intro position seen
        rcases Finset.mem_insert.mp seen with rfl | seen
        · exact .single step
        · exact .tail (leads position seen) step

end Routine

/-! ## Visiting operands -/

/-- A result that is found by visiting values one after the other: it fails like the first value
that fails. -/
structure Visits {α β : Type} (visit : Value → Except OutputFault α) (values : List Value)
    (result : Except OutputFault β) : Prop where
  ok : Succeeds result → ∀ value ∈ values, Succeeds (visit value)
  error : ∀ fault, result = .error fault → ∃ value ∈ values, visit value = .error fault

namespace Visits

variable {α β γ : Type} {visit : Value → Except OutputFault α} {values : List Value}

theorem pure (value : β) : Visits visit [] (Pure.pure value) where
  ok _ := by simp
  error _ failed := by cases failed

theorem cons {value : Value} {next : α → Except OutputFault β}
    (rest : ∀ found, Visits visit values (next found)) :
    Visits visit (value :: values) (visit value >>= next) := by
  cases first : visit value with
  | error fault =>
      refine ⟨?_, ?_⟩
      · rintro ⟨_, impossible⟩
        cases impossible
      · rintro _ ⟨⟩
        exact ⟨value, List.mem_cons_self, first⟩
  | ok found =>
      refine ⟨fun succeeds => ?_, fun fault failed => ?_⟩
      · exact List.forall_mem_cons.mpr ⟨⟨found, first⟩, (rest found).ok succeeds⟩
      · obtain ⟨other, member, otherFailed⟩ := (rest found).error fault failed
        exact ⟨other, List.mem_cons_of_mem _ member, otherFailed⟩

theorem map {first : Except OutputFault β} (visits : Visits visit values first)
    (combine : β → γ) : Visits visit values (first >>= fun value => Pure.pure (combine value)) := by
  cases first with
  | error fault =>
      refine ⟨?_, ?_⟩
      · rintro ⟨_, impossible⟩
        cases impossible
      · rintro _ ⟨⟩
        exact visits.error _ rfl
  | ok value => exact ⟨fun _ => visits.ok ⟨value, rfl⟩, fun _ failed => by cases failed⟩

theorem mapM : ∀ values : List Value, Visits visit values (values.mapM visit)
  | [] => by
      rw [List.mapM_nil]
      exact pure []
  | value :: rest => by
      rw [List.mapM_cons]
      exact cons fun found => (mapM rest).map (found :: ·)

end Visits

namespace Listing

theorem visits_expression {value : Value → Except OutputFault String} {action : Action}
    (computes : action.isExpression = true) :
    Visits value action.operands (expression value action) := by
  cases action with
  | unary => exact .cons fun _ => .pure _
  | binary | globalTableAccess | localTableAccess => exact .cons fun _ => .cons fun _ => .pure _
  | _ => cases computes

end Listing

namespace Export

theorem visits_fields {value : Value → Except OutputFault Json} {action : Action}
    (plain : action ≠ .bare) : Visits value action.operands (fields value action) := by
  cases action with
  | call | syscall => exact (Visits.mapM _).map _
  | ret | jump => exact .pure _
  | branch | unary => exact .cons fun _ => .pure _
  | assign | binary | globalTableAccess | localTableAccess =>
      exact .cons fun _ => .cons fun _ => .pure _
  | bare => exact absurd rfl plain

theorem visits_statementWith {value : Value → Except OutputFault Json} {s : Statement}
    (plain : s.action ≠ .bare) : Visits value s.action.operands (statementWith value s) :=
  (visits_fields plain).map _

end Export

/-! ## Faulty values -/

/-- An output of values that fails at a faulty one, goes on to the operands behind a reference, and
gives up when it has followed as many references as it may. -/
structure Explores {α : Type} (routine : Routine) (fault? : Value → Option OutputFault)
    (write : Nat → Value → Except OutputFault α) : Prop where
  faulty : ∀ {fuel : Nat} {value : Value} {fault : OutputFault}, fault? value = some fault →
    0 < fuel ∨ ¬ routine.Leads value → write fuel value = .error fault
  plain : ∀ {fuel : Nat} {value : Value}, fault? value = none → ¬ routine.Leads value →
    Succeeds (write fuel value)
  stops : ∀ {value : Value}, routine.Leads value → write 0 value = .error .cyclic
  visits : ∀ {fuel : Nat} {index : Int} {statement : Statement},
    routine.statementAt? index = some statement → fault? (.expr index) = none →
    Visits (write fuel) statement.action.operands (write (fuel + 1) (.expr index))

namespace Explores

variable {α β : Type} {routine : Routine} {fault? : Value → Option OutputFault}
  {write : Nat → Value → Except OutputFault α}

/-- A value that is written is not faulty, and what it refers to is written. -/
theorem ok (explores : Explores routine fault? write) {fuel : Nat} {value : Value}
    (written : Succeeds (write fuel value)) :
    fault? value = none ∧
      ∀ inner, routine.Refers value inner → ∃ less, Succeeds (write less inner) := by
  obtain ⟨result, written⟩ := written
  have allowed : 0 < fuel ∨ ¬ routine.Leads value := by
    by_contra exhausted
    push Not at exhausted
    obtain rfl : fuel = 0 := by omega
    rw [explores.stops exhausted.2] at written
    cases written
  have faultless : fault? value = none := by
    cases faulty : fault? value with
    | none => rfl
    | some fault =>
        rw [explores.faulty faulty allowed] at written
        cases written
  refine ⟨faultless, fun inner refers => ?_⟩
  obtain ⟨less, rfl⟩ := refers.leads.exists_less allowed
  cases refers with
  | operand located member =>
      exact ⟨less, (explores.visits located faultless).ok ⟨result, written⟩ inner member⟩

/-- Behind a value that is written nothing is faulty. -/
theorem sound (explores : Explores routine fault? write) {value reached : Value}
    (path : Relation.ReflTransGen routine.Refers value reached) :
    ∀ {fuel : Nat}, Succeeds (write fuel value) → fault? reached = none := by
  induction path using Relation.ReflTransGen.head_induction_on with
  | refl => exact fun written => (explores.ok written).1
  | head step _ ih =>
      intro fuel written
      obtain ⟨less, innerWritten⟩ := (explores.ok written).2 _ step
      exact ih innerWritten

/-- A failure is that of a faulty value which is reached, unless references go too deep. -/
theorem blames (explores : Explores routine fault? write) {fault : OutputFault} (fuel : Nat) :
    ∀ {value : Value}, write fuel value = .error fault →
      (∃ reached, Relation.ReflTransGen routine.Refers value reached ∧
        fault? reached = some fault) ∨ routine.Deep fuel value := by
  induction fuel with
  | zero =>
      intro value failed
      by_cases leads : routine.Leads value
      · exact .inr leads
      · cases faulty : fault? value with
        | none =>
            obtain ⟨result, written⟩ := explores.plain faulty leads
            rw [failed] at written
            cases written
        | some other =>
            rw [explores.faulty faulty (.inr leads)] at failed
            cases failed
            exact .inl ⟨value, .refl, faulty⟩
  | succ fuel ih =>
      intro value failed
      cases faulty : fault? value with
      | some other =>
          rw [explores.faulty faulty (.inl (by omega))] at failed
          cases failed
          exact .inl ⟨value, .refl, faulty⟩
      | none =>
          by_cases leads : routine.Leads value
          · obtain ⟨index, statement, rfl, located⟩ := leads
            obtain ⟨inner, member, innerFailed⟩ :=
              (explores.visits located faulty).error fault failed
            have refers := Routine.Refers.operand located member
            rcases ih innerFailed with ⟨reached, path, reachedFaulty⟩ | deep
            · exact .inl ⟨reached, .head refers path, reachedFaulty⟩
            · exact .inr ⟨inner, refers, deep⟩
          · obtain ⟨result, written⟩ := explores.plain faulty leads
            rw [failed] at written
            cases written

/-- What visits the operands of an action fails like a faulty value that is reached, and succeeds
if there is none. -/
theorem outcome (explores : Explores routine fault? write) (acyclic : routine.Acyclic)
    {action : Action} {result : Except OutputFault β}
    (visits : Visits (write routine.arena.size) action.operands result) :
    (Succeeds result → ∀ reached, routine.Reaches action reached → fault? reached = none) ∧
      ∀ fault, result = .error fault →
        ∃ reached, routine.Reaches action reached ∧ fault? reached = some fault := by
  refine ⟨?_, ?_⟩
  · rintro succeeds reached ⟨operand, member, path⟩
    exact explores.sound path (visits.ok succeeds operand member)
  · intro fault failed
    obtain ⟨operand, member, operandFailed⟩ := visits.error fault failed
    rcases explores.blames _ operandFailed with ⟨reached, path, faulty⟩ | deep
    · exact ⟨reached, ⟨operand, member, path⟩, faulty⟩
    · obtain ⟨index, _, rfl, _⟩ := deep.leads
      exact absurd deep (acyclic.not_deep _ index ∅ (by simp) (by simp) (by simp))

end Explores

namespace Listing

/-- Why a listing cannot write a value, whatever its operands are. -/
def fault? (routine : Routine) : Value → Option OutputFault
  | .slot name .nil =>
    match isOperandSlot name routine.locals with
    | .ok _ => none
    | .error fault => some fault
  | .slot _ content => if content.isWritable then none else some .longNumeral
  | .global index => if Text.isWritable index then none else some .longNumeral
  | .returnValue => none
  | .bare => some .unprintableValue
  | .expr index =>
    match routine.statementAt? index with
    | none => some .indexOutOfRange
    | some statement =>
      if statement.action.isExpression then none else some (.notExpression statement.action)

theorem expression_of_other {value : Value → Except OutputFault String} {action : Action}
    (other : action.isExpression = false) :
    expression value action = .error (.notExpression action) := by
  cases action <;> first | rfl | cases other

theorem fault?_known {routine : Routine} {name : String} {content : Constant}
    (known : content.isNil = false) :
    fault? routine (.slot name content) =
      if content.isWritable then none else some .longNumeral := by
  cases content <;> first | rfl | cases known

theorem valueWithin_known {routine : Routine} {fuel : Nat} {name : String} {content : Constant}
    (known : content.isNil = false) :
    valueWithin routine fuel (.slot name content) = constant content := by
  simp [valueWithin, known]

theorem explores (routine : Routine) : Explores routine (fault? routine) (valueWithin routine) where
  faulty := by
    intro fuel value fault faulty allowed
    cases value with
    | slot name constant =>
        cases constant with
        | nil =>
            rw [fault?] at faulty
            cases read : isOperandSlot name routine.locals with
            | ok => simp [read] at faulty
            | error other =>
                rw [read] at faulty
                cases faulty
                rw [valueWithin, read]
                rfl
        | _ =>
            rw [fault?_known rfl] at faulty
            split at faulty <;> cases faulty
            rename_i long
            rw [valueWithin_known rfl]
            exact if_neg long
    | global =>
        rw [fault?] at faulty
        split at faulty <;> cases faulty
        rename_i long
        rw [valueWithin]
        exact if_neg long
    | returnValue => cases faulty
    | bare =>
        cases faulty
        rw [valueWithin]
    | expr index =>
        rw [fault?] at faulty
        cases located : routine.statementAt? index with
        | none =>
            rw [located] at faulty
            cases faulty
            cases fuel <;> simp [valueWithin, located]
        | some statement =>
            have leads : routine.Leads (.expr index) := ⟨index, statement, rfl, located⟩
            obtain ⟨less, rfl⟩ := leads.exists_less allowed
            simp only [located] at faulty
            split at faulty
            · cases faulty
            · rename_i other
              cases faulty
              rw [valueWithin, located]
              exact expression_of_other (Bool.eq_false_iff.mpr other)
  plain := by
    intro fuel value faultless leaf
    cases value with
    | slot name constant =>
        cases constant with
        | nil =>
            rw [fault?] at faultless
            cases read : isOperandSlot name routine.locals with
            | error => simp [read] at faultless
            | ok above =>
                rw [valueWithin, read]
                cases above <;> exact ⟨_, rfl⟩
        | _ =>
            rw [fault?_known rfl] at faultless
            split at faultless <;> cases faultless
            rename_i short
            rw [valueWithin_known rfl]
            exact ⟨_, if_pos short⟩
    | global =>
        rw [fault?] at faultless
        split at faultless <;> cases faultless
        rename_i short
        rw [valueWithin]
        exact ⟨_, if_pos short⟩
    | returnValue =>
        rw [valueWithin]
        exact ⟨_, rfl⟩
    | bare => cases faultless
    | expr index =>
        cases located : routine.statementAt? index with
        | none => simp [fault?, located] at faultless
        | some statement => exact absurd ⟨index, statement, rfl, located⟩ leaf
  stops := by
    rintro _ ⟨index, statement, rfl, located⟩
    simp [valueWithin, located]
  visits := by
    intro fuel index statement located faultless
    rw [valueWithin, located]
    refine visits_expression ?_
    by_contra other
    simp [fault?, located, other] at faultless

end Listing

namespace Export

/-- Why an export cannot write a value, whatever its operands are. -/
def fault? (routine : Routine) : Value → Option OutputFault
  | .slot .. | .global _ | .returnValue => none
  | .bare => some .unexportableValue
  | .expr index =>
    match routine.statementAt? index with
    | none => some .indexOutOfRange
    | some statement => if statement.action = .bare then some .unexportableStatement else none

theorem explores (routine : Routine) : Explores routine (fault? routine) (valueWithin routine) where
  faulty := by
    intro fuel value fault faulty allowed
    cases value with
    | slot | global | returnValue => cases faulty
    | bare =>
        cases faulty
        rw [valueWithin]
    | expr index =>
        rw [fault?] at faulty
        cases located : routine.statementAt? index with
        | none =>
            rw [located] at faulty
            cases faulty
            cases fuel <;> simp [valueWithin, located]
        | some statement =>
            have leads : routine.Leads (.expr index) := ⟨index, statement, rfl, located⟩
            obtain ⟨less, rfl⟩ := leads.exists_less allowed
            simp only [located] at faulty
            split at faulty
            · rename_i bare
              cases faulty
              rw [valueWithin, located]
              simp only [statementWith, bare]
              rfl
            · cases faulty
  plain := by
    intro fuel value faultless leaf
    cases value with
    | slot | global | returnValue =>
        rw [valueWithin]
        exact ⟨_, rfl⟩
    | bare => cases faultless
    | expr index =>
        cases located : routine.statementAt? index with
        | none => simp [fault?, located] at faultless
        | some statement => exact absurd ⟨index, statement, rfl, located⟩ leaf
  stops := by
    rintro _ ⟨index, statement, rfl, located⟩
    simp [valueWithin, located]
  visits := by
    intro fuel index statement located faultless
    rw [valueWithin, located]
    refine (visits_statementWith ?_).map _
    intro bare
    simp [fault?, located, bare] at faultless

end Export

/-! ## The two outputs compared -/

namespace Listing

end Listing

end SceneCode
