import Mathlib.Data.List.Forall2
import SceneCode.Proofs.Execution
import SceneCode.Proofs.Numeral

/-!
# Routines as trees

The operands of a statement refer to expressions by their index in the arena.  A tree has no
references: every expression stands where it is used, with the address of the instruction that
computed it.  `Routine.tree?` reads an operand as a tree and `Routine.routineTree?` a whole routine;
both fail if a reference leads nowhere, in a circle, or to a statement that is no expression.

A slot that is known to hold a constant is that constant.  A slot of unknown content is the local or
the argument that its name says, except that a local above the declared ones is a pushed nil.

What can be read stays readable, with the same tree, while the arena grows.
-/

set_option autoImplicit false

namespace SceneCode

inductive ValueTree where
  | constant (value : Constant)
  | localSlot (index : Int)
  | argSlot (index : Int)
  | global (index : Int)
  | returnValue
  | unary (address : Int) (operator : String) (operand : ValueTree)
  | binary (address : Int) (operator : String) (left right : ValueTree)
  | globalEntry (address : Int) (table key : ValueTree)
  | localEntry (address : Int) (table key : ValueTree)
  deriving DecidableEq, Repr

inductive ActionTree where
  | call (target : Int) (args : List ValueTree)
  | syscall (name : String) (args : List ValueTree)
  | ret (hasValue : Bool)
  | jump (target : Int)
  | branch (target : Int) (condition : ValueTree)
  | assign (target value : ValueTree)
  deriving DecidableEq, Repr

structure StatementTree where
  address : Int
  action : ActionTree
  deriving DecidableEq, Repr

structure RoutineTree where
  address : Int
  args : Int
  locals : Int
  statements : List StatementTree
  deriving DecidableEq, Repr

/-! ## Reading -/

namespace Routine

/-- What a slot of unknown content is, by its name. -/
def slotTree? (routine : Routine) (name : String) : Option ValueTree :=
  match name.toList with
  | 'l' :: 'o' :: 'c' :: 'a' :: 'l' :: digits =>
    match Text.readInteger .decimal (String.ofList digits) with
    | .ok index =>
      some (if routine.locals ≤ index then .constant .nil else .localSlot index)
    | .error _ => none
  | 'a' :: 'r' :: 'g' :: digits =>
    match Text.readInteger .decimal (String.ofList digits) with
    | .ok index => some (.argSlot index)
    | .error _ => none
  | _ => none

def expressionTree? (value : Value → Option ValueTree) (statement : Statement) :
    Option ValueTree :=
  match statement.action with
  | .unary operator operand => do
    let operand ← value operand
    pure (.unary statement.address operator operand)
  | .binary operator left right => do
    let left ← value left
    let right ← value right
    pure (.binary statement.address operator left right)
  | .globalTableAccess table key => do
    let table ← value table
    let key ← value key
    pure (.globalEntry statement.address table key)
  | .localTableAccess table key => do
    let table ← value table
    let key ← value key
    pure (.localEntry statement.address table key)
  | _ => none

/-- The tree of a value, passing through at most `fuel` expressions inside each other. -/
def treeWithin (routine : Routine) : Nat → Value → Option ValueTree
  | _, .slot name constant =>
    if constant.isNil then routine.slotTree? name else some (.constant constant)
  | _, .global index => some (.global index)
  | _, .returnValue => some .returnValue
  | _, .bare => none
  | 0, .expr _ => none
  | fuel + 1, .expr index =>
    if index < 0 then none
    else match routine.arena[index.toNat]? with
      | some statement => expressionTree? (routine.treeWithin fuel) statement
      | none => none

/-- The tree of a value.  No tree is deeper than the arena has entries. -/
def tree? (routine : Routine) (value : Value) : Option ValueTree :=
  routine.treeWithin routine.arena.size value

def actionTree? (routine : Routine) : Action → Option ActionTree
  | .call target args => do
    let args ← args.mapM routine.tree?
    pure (.call target args)
  | .syscall name args => do
    let args ← args.mapM routine.tree?
    pure (.syscall name args)
  | .ret hasValue => some (.ret hasValue)
  | .jump target => some (.jump target)
  | .branch target condition => do
    let condition ← routine.tree? condition
    pure (.branch target condition)
  | .assign target value => do
    let target ← routine.tree? target
    let value ← routine.tree? value
    pure (.assign target value)
  | _ => none

def statementTree? (routine : Routine) (statement : Statement) : Option StatementTree := do
  let action ← routine.actionTree? statement.action
  pure ⟨statement.address, action⟩

def statementTrees? (routine : Routine) : Option (List StatementTree) := do
  let statements ← routine.statements?
  statements.mapM routine.statementTree?

def routineTree? (routine : Routine) (address : Int) : Option RoutineTree := do
  let statements ← routine.statementTrees?
  pure { address, args := routine.args, locals := routine.locals, statements }

end Routine

def Program.routineTrees? (program : Program) : Option (List RoutineTree) :=
  program.routines.entries.mapM fun entry => entry.2.routineTree? entry.1

/-! ## Growing arenas -/

theorem mapM_eq_some_iff {α β : Type} {read : α → Option β} {items : List α} {results : List β} :
    items.mapM read = some results ↔
      List.Forall₂ (fun item result => read item = some result) items results := by
  induction items generalizing results with
  | nil => simp [eq_comm]
  | cons item rest ih =>
      rw [List.mapM_cons]
      constructor
      · intro read
        simp only [Option.bind_eq_bind, Option.bind_eq_some_iff, Option.pure_def,
          Option.some.injEq] at read
        obtain ⟨first, firstRead, others, othersRead, rfl⟩ := read
        exact .cons firstRead (ih.mp othersRead)
      · intro read
        cases read with
        | cons firstRead othersRead => simp [firstRead, ih.mpr othersRead]

theorem mapM_mono {α β : Type} {read again : α → Option β} {items : List α} {results : List β}
    (more : ∀ item result, read item = some result → again item = some result)
    (found : items.mapM read = some results) : items.mapM again = some results :=
  mapM_eq_some_iff.mpr ((mapM_eq_some_iff.mp found).imp more)

theorem mapM_mem {α β : Type} {read : α → Option β} {items : List α} {results : List β}
    (found : items.mapM read = some results) {item : α} (member : item ∈ items) :
    ∃ result, read item = some result := by
  have each := mapM_eq_some_iff.mp found
  clear found
  induction each with
  | nil => cases member
  | cons here _ ih =>
      rcases List.mem_cons.mp member with rfl | later
      · exact ⟨_, here⟩
      · exact ih later

namespace Routine

theorem mem_of_statementAt? {routine : Routine} {index : Int} {statement : Statement}
    (located : routine.statementAt? index = some statement) :
    statement ∈ routine.arena.toList := by
  unfold statementAt? at located
  dsimp only at located
  generalize (if index < 0 then index + routine.arena.size else index) = position at located
  split at located
  · cases located
  · exact Array.mem_toList_iff.mpr (Array.mem_of_getElem? located)

theorem mem_of_statements? {routine : Routine} {statements : List Statement}
    (located : routine.statements? = some statements) :
    ∀ statement ∈ statements, statement ∈ routine.arena.toList := by
  have each := mapM_eq_some_iff.mp located
  clear located
  generalize routine.body.toList = indices at each
  induction each with
  | nil => simp
  | cons here _ ih =>
      refine List.forall_mem_cons.mpr ⟨?_, ih⟩
      exact Array.mem_toList_iff.mpr (Array.mem_of_getElem? here)

/-- A routine whose arena goes on where that of another one ends. -/
structure Extends (longer shorter : Routine) : Prop where
  locals : longer.locals = shorter.locals
  size : shorter.arena.size ≤ longer.arena.size
  arena : ∀ (index : Nat) statement, shorter.arena[index]? = some statement →
    longer.arena[index]? = some statement

theorem extends_allocate (routine : Routine) (statement : Statement) :
    (routine.allocate statement).Extends routine where
  locals := rfl
  size := by simp [allocate]
  arena := by
    intro index found located
    obtain ⟨inside, _⟩ := Array.getElem?_eq_some_iff.mp located
    simpa [allocate, Array.getElem?_push, Nat.ne_of_lt inside] using located

theorem extends_append (routine : Routine) (statement : Statement) :
    (routine.append statement).Extends routine where
  locals := rfl
  size := (extends_allocate routine statement).size
  arena := (extends_allocate routine statement).arena

theorem expressionTree?_mono {value again : Value → Option ValueTree} {statement : Statement}
    {tree : ValueTree}
    (more : ∀ operand found, value operand = some found → again operand = some found)
    (read : expressionTree? value statement = some tree) :
    expressionTree? again statement = some tree := by
  obtain ⟨address, action⟩ := statement
  cases action with
  | unary operator operand =>
      simp only [expressionTree?, Option.bind_eq_bind, Option.bind_eq_some_iff] at read ⊢
      obtain ⟨operandTree, operandRead, made⟩ := read
      exact ⟨operandTree, more _ _ operandRead, made⟩
  | binary _ first second | globalTableAccess first second | localTableAccess first second =>
      simp only [expressionTree?, Option.bind_eq_bind, Option.bind_eq_some_iff] at read ⊢
      obtain ⟨firstTree, firstRead, secondTree, secondRead, made⟩ := read
      exact ⟨firstTree, more _ _ firstRead, secondTree, more _ _ secondRead, made⟩
  | _ => cases read

section

variable {longer shorter : Routine} (grown : longer.Extends shorter)

include grown

theorem slotTree?_extends (name : String) : longer.slotTree? name = shorter.slotTree? name := by
  unfold slotTree?
  rw [grown.locals]

theorem treeWithin_mono {fuel : Nat} :
    ∀ {more : Nat} {value : Value} {tree : ValueTree}, fuel ≤ more →
      shorter.treeWithin fuel value = some tree → longer.treeWithin more value = some tree := by
  induction fuel with
  | zero =>
      intro more value tree _ read
      cases value <;> simp_all [treeWithin, slotTree?_extends grown]
  | succ fuel ih =>
      intro more value tree enough read
      cases value with
      | expr index =>
          obtain ⟨more, rfl⟩ : ∃ less, more = less + 1 := ⟨more - 1, by omega⟩
          unfold treeWithin at read ⊢
          split at read
          · cases read
          · rename_i nonneg
            rw [if_neg nonneg]
            cases located : shorter.arena[index.toNat]? with
            | none => simp [located] at read
            | some statement =>
                rw [located] at read
                rw [grown.arena _ _ located]
                exact expressionTree?_mono (fun _ _ found => ih (by omega) found) read
      | _ => simp_all [treeWithin, slotTree?_extends grown]

theorem tree?_mono {value : Value} {tree : ValueTree} (read : shorter.tree? value = some tree) :
    longer.tree? value = some tree :=
  treeWithin_mono grown grown.size read

theorem statementTree?_mono {statement : Statement} {tree : StatementTree}
    (read : shorter.statementTree? statement = some tree) :
    longer.statementTree? statement = some tree := by
  obtain ⟨address, action⟩ := statement
  simp only [statementTree?, Option.bind_eq_bind, Option.bind_eq_some_iff] at read ⊢
  obtain ⟨actionTree, actionRead, made⟩ := read
  refine ⟨actionTree, ?_, made⟩
  cases action with
  | call _ args | syscall _ args =>
      simp only [actionTree?, Option.bind_eq_bind, Option.bind_eq_some_iff] at actionRead ⊢
      obtain ⟨trees, argsRead, argsMade⟩ := actionRead
      exact ⟨trees, mapM_mono (fun _ _ => tree?_mono grown) argsRead, argsMade⟩
  | branch _ condition =>
      simp only [actionTree?, Option.bind_eq_bind, Option.bind_eq_some_iff] at actionRead ⊢
      obtain ⟨conditionTree, conditionRead, conditionMade⟩ := actionRead
      exact ⟨conditionTree, tree?_mono grown conditionRead, conditionMade⟩
  | assign target value =>
      simp only [actionTree?, Option.bind_eq_bind, Option.bind_eq_some_iff] at actionRead ⊢
      obtain ⟨targetTree, targetRead, valueTree, valueRead, assignMade⟩ := actionRead
      exact ⟨targetTree, tree?_mono grown targetRead, valueTree, tree?_mono grown valueRead,
        assignMade⟩
  | ret | jump => exact actionRead
  | _ => cases actionRead

theorem statements?_mono (sameBody : longer.body = shorter.body) {listed : List Statement}
    (found : shorter.statements? = some listed) : longer.statements? = some listed := by
  rw [statements?, sameBody]
  exact mapM_mono (fun index statement => grown.arena index statement) found

theorem statementTrees?_mono (sameBody : longer.body = shorter.body) {trees : List StatementTree}
    (read : shorter.statementTrees? = some trees) : longer.statementTrees? = some trees := by
  simp only [statementTrees?, Option.bind_eq_bind, Option.bind_eq_some_iff] at read ⊢
  obtain ⟨statements, located, statementsRead⟩ := read
  exact ⟨statements, statements?_mono grown sameBody located,
    mapM_mono (fun _ _ => statementTree?_mono grown) statementsRead⟩

end

theorem routineTree?_eq_some_iff {routine : Routine} {address : Int} {tree : RoutineTree} :
    routine.routineTree? address = some tree ↔
      ∃ statements, routine.statementTrees? = some statements ∧
        tree = ⟨address, routine.args, routine.locals, statements⟩ := by
  simp only [routineTree?, Option.bind_eq_bind, Option.bind_eq_some_iff, Option.pure_def,
    Option.some.injEq]
  exact exists_congr fun statements => and_congr_right fun _ => eq_comm

theorem address_of_routineTree? {routine : Routine} {address : Int} {tree : RoutineTree}
    (read : routine.routineTree? address = some tree) : tree.address = address := by
  obtain ⟨_, _, rfl⟩ := routineTree?_eq_some_iff.mp read
  rfl

theorem routineTree?_allocate {routine : Routine} {address : Int} {tree : RoutineTree}
    (statement : Statement) (read : routine.routineTree? address = some tree) :
    (routine.allocate statement).routineTree? address = some tree := by
  obtain ⟨statements, statementsRead, rfl⟩ := routineTree?_eq_some_iff.mp read
  refine routineTree?_eq_some_iff.mpr ⟨statements, ?_, rfl⟩
  exact statementTrees?_mono (extends_allocate routine statement) rfl statementsRead

theorem statements?_append {routine : Routine} {listed : List Statement} (statement : Statement)
    (found : routine.statements? = some listed) :
    (routine.append statement).statements? = some (listed ++ [statement]) := by
  have grown := extends_append routine statement
  have old := mapM_mono (fun index entry => grown.arena index entry) found
  have new : (routine.append statement).arena[routine.arena.size]? = some statement := by
    simp [append]
  have bodyEnds : (routine.append statement).body.toList =
      routine.body.toList ++ [routine.arena.size] := by
    simp [append]
  rw [statements?, bodyEnds, List.mapM_append, old]
  simp [new]

theorem routineTree?_append {routine : Routine} {address : Int} {tree : RoutineTree}
    {statement : Statement} {statementTree : StatementTree}
    (read : routine.routineTree? address = some tree)
    (statementRead : routine.statementTree? statement = some statementTree) :
    (routine.append statement).routineTree? address =
      some { tree with statements := tree.statements ++ [statementTree] } := by
  have grown := extends_append routine statement
  obtain ⟨statements, statementsRead, rfl⟩ := routineTree?_eq_some_iff.mp read
  refine routineTree?_eq_some_iff.mpr ⟨statements ++ [statementTree], ?_, rfl⟩
  simp only [statementTrees?, Option.bind_eq_bind, Option.bind_eq_some_iff] at statementsRead ⊢
  obtain ⟨listed, located, listedRead⟩ := statementsRead
  refine ⟨listed ++ [statement], statements?_append statement located, ?_⟩
  have old := mapM_mono (fun _ _ => statementTree?_mono grown) listedRead
  rw [List.mapM_append, old]
  simp [statementTree?_mono grown statementRead]

theorem tree?_allocate {routine : Routine} {statement : Statement} {tree : ValueTree}
    (read : expressionTree? routine.tree? statement = some tree) :
    (routine.allocate statement).tree? (.expr routine.arena.size) = some tree := by
  have grown := extends_allocate routine statement
  have size : (routine.allocate statement).arena.size = routine.arena.size + 1 := by
    simp [allocate]
  have located : (routine.allocate statement).arena[routine.arena.size]? = some statement := by
    simp [allocate]
  rw [tree?, size, treeWithin, if_neg (by omega), Int.toNat_natCast, located]
  exact expressionTree?_mono (fun _ _ found => treeWithin_mono grown (Nat.le_refl _) found) read

/-! ## The names of slots -/

theorem slotTree?_localName (routine : Routine) {index : Int} (nonneg : 0 ≤ index)
    (small : index < 10000000000) :
    routine.slotTree? (Value.localName index) =
      some (if routine.locals ≤ index then .constant .nil else .localSlot index) := by
  obtain ⟨index, rfl⟩ := Int.eq_ofNat_of_zero_le nonneg
  have number := Text.readInteger_decimal (Text.length_toDigits_le (by omega : index < 10000000000))
  have name : (Value.localName index).toList =
      'l' :: 'o' :: 'c' :: 'a' :: 'l' :: (Text.decimal index).toList := by
    simp [Value.localName]
  unfold slotTree?
  rw [name]
  simp only [String.ofList_toList, number]

theorem slotTree?_argName (routine : Routine) {index : Int} (below : index < -1)
    (small : -10000000000 ≤ index) :
    routine.slotTree? (Value.argName index) = some (.argSlot (-index - 2)) := by
  obtain ⟨number, position⟩ := Int.eq_ofNat_of_zero_le (by omega : 0 ≤ -index - 2)
  have read := Text.readInteger_decimal
    (Text.length_toDigits_le (by omega : number < 10000000000))
  have name : (Value.argName index).toList =
      'a' :: 'r' :: 'g' :: (Text.decimal number).toList := by
    simp [Value.argName, position]
  unfold slotTree?
  rw [name]
  simp only [String.ofList_toList, read, position]

end Routine

end SceneCode
