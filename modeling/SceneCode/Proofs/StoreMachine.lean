import SceneCode.Proofs.Simulation

/-!
# Straight-line code on a store

`Machine.step` is what straight-line code does when it runs: a read pushes a copy of what a slot or
a global holds at that moment, operators are arbitrary functions, and a store pops a value.
`Machine.perform` executes the assignments of a routine instead; their operands are evaluated when
the assignment is executed.

The two differ.  An operand that was read stays on the stack as a reference, so an assignment sees
what the place holds by then.  `Provenance` follows the places that each operand was read from: an
operand is stale once one of them has been overwritten, and a place is `lost` while it holds what
was stored from a stale operand.  Assignments leave in every place that is not lost what the
instructions leave there (`Tracks`).
-/

set_option autoImplicit false

namespace SceneCode

variable {V : Type}

/-! ## Stores -/

inductive Place where
  | localSlot (index : Int)
  | argSlot (index : Int)
  | global (index : Int)
  deriving DecidableEq, Repr

namespace Place

/-- The place of a slot index: a local from 0 on, an argument from -2 downwards. -/
def ofSlot (index : Int) : Place :=
  if 0 ≤ index then .localSlot index else .argSlot (-index - 2)

def tree : Place → ValueTree
  | localSlot index => .localSlot index
  | argSlot index => .argSlot index
  | global index => .global index

end Place

abbrev Store (V : Type) := Place → V

def Store.set (store : Store V) (place : Place) (value : V) : Store V :=
  fun other => if other = place then value else store other

namespace Store

@[simp] theorem set_same (store : Store V) (place : Place) (value : V) :
    store.set place value place = value := if_pos rfl

theorem set_of_ne (store : Store V) {place other : Place} (value : V) (apart : other ≠ place) :
    store.set place value other = store other := if_neg apart

end Store

/-! ## Instructions and assignments -/

/-- What constants and operators mean. -/
structure Machine (V : Type) where
  constant : Constant → V
  unary : UnaryOperator → V → V
  binary : BinaryOperator → V → V → V

structure Memory (V : Type) where
  store : Store V
  stack : List V

def UnaryOperator.ofSymbol? (symbol : String) : Option UnaryOperator :=
  all.find? (·.symbol = symbol)

def BinaryOperator.ofSymbol? (symbol : String) : Option BinaryOperator :=
  all.find? (·.symbol = symbol)

theorem UnaryOperator.ofSymbol?_symbol (operator : UnaryOperator) :
    ofSymbol? operator.symbol = some operator := by
  cases operator
  decide

theorem BinaryOperator.ofSymbol?_symbol (operator : BinaryOperator) :
    ofSymbol? operator.symbol = some operator := by
  cases operator <;> decide

/-- Constants, reads, operators and stores. -/
def Operation.straight : Operation → Bool
  | .push _ | .pushGlobal _ | .pushSlot _ | .unary _ | .binary _ | .popGlobal _ | .popSlot _ => true
  | _ => false

def ValueTree.place? : ValueTree → Option Place
  | .localSlot index => some (.localSlot index)
  | .argSlot index => some (.argSlot index)
  | .global index => some (.global index)
  | _ => none

namespace Machine

variable (machine : Machine V)

def step (memory : Memory V) : Operation → Option (Memory V)
  | .push constant => some { memory with stack := machine.constant constant :: memory.stack }
  | .pushGlobal index =>
    some { memory with stack := memory.store (.global index) :: memory.stack }
  | .pushSlot index =>
    some { memory with stack := memory.store (.ofSlot index) :: memory.stack }
  | .unary operator =>
    match memory.stack with
    | operand :: rest => some { memory with stack := machine.unary operator operand :: rest }
    | [] => none
  | .binary operator =>
    match memory.stack with
    | right :: left :: rest =>
      some { memory with stack := machine.binary operator left right :: rest }
    | _ => none
  | .popGlobal index =>
    match memory.stack with
    | value :: rest => some ⟨memory.store.set (.global index) value, rest⟩
    | [] => none
  | .popSlot index =>
    match memory.stack with
    | value :: rest => some ⟨memory.store.set (.ofSlot index) value, rest⟩
    | [] => none
  | _ => none

/-- Runs instructions from an empty stack. -/
def run (initial : Store V) (operations : List Operation) : Option (Memory V) :=
  operations.foldlM machine.step ⟨initial, []⟩

/-- The value of an operand in a store, unless it depends on more than the store. -/
def eval (store : Store V) : ValueTree → Option V
  | .constant value => some (machine.constant value)
  | .localSlot index => some (store (.localSlot index))
  | .argSlot index => some (store (.argSlot index))
  | .global index => some (store (.global index))
  | .unary _ symbol operand => do
    let operator ← UnaryOperator.ofSymbol? symbol
    let operand ← eval store operand
    pure (machine.unary operator operand)
  | .binary _ symbol left right => do
    let operator ← BinaryOperator.ofSymbol? symbol
    let left ← eval store left
    let right ← eval store right
    pure (machine.binary operator left right)
  | _ => none

def assign (store : Store V) (statement : StatementTree) : Option (Store V) :=
  match statement.action with
  | .assign target value => do
    let place ← target.place?
    let value ← machine.eval store value
    pure (store.set place value)
  | _ => none

/-- Executes assignments one after the other. -/
def perform (initial : Store V) (statements : List StatementTree) : Option (Store V) :=
  statements.foldlM machine.assign initial

end Machine

/-! ## Operands and what they read -/

/-- The places that an operand reads. -/
def ValueTree.reads : ValueTree → List Place
  | .localSlot index => [.localSlot index]
  | .argSlot index => [.argSlot index]
  | .global index => [.global index]
  | .unary _ _ operand => operand.reads
  | .binary _ _ left right => left.reads ++ right.reads
  | _ => []

namespace Place

@[simp] theorem place?_tree (place : Place) : place.tree.place? = some place := by
  cases place <;> rfl

@[simp] theorem reads_tree (place : Place) : place.tree.reads = [place] := by
  cases place <;> rfl

@[simp] theorem eval_tree (machine : Machine V) (store : Store V) (place : Place) :
    machine.eval store place.tree = some (store place) := by
  cases place <;> rfl

end Place

/-- A store to a place that an operand does not read leaves its value. -/
theorem Machine.eval_set (machine : Machine V) (store : Store V) {place : Place} (value : V)
    {tree : ValueTree} (apart : place ∉ tree.reads) :
    machine.eval (store.set place value) tree = machine.eval store tree := by
  induction tree with
  | localSlot index | argSlot index | global index =>
      rw [ValueTree.reads, List.mem_singleton] at apart
      simp only [eval, store.set_of_ne value (Ne.symm apart)]
  | unary _ symbol operand ih => simp only [eval, ih apart]
  | binary _ symbol left right leftIh rightIh =>
      rw [ValueTree.reads, List.mem_append, not_or] at apart
      simp only [eval, leftIh apart.1, rightIh apart.2]
  | _ => rfl

/-! ## Provenance -/

/-- For every operand the places it was read from, or nothing if it is stale; and the places that
hold what was stored from a stale operand. -/
structure Provenance where
  operands : List (Option (List Place)) := []
  lost : List Place := []
  deriving DecidableEq, Repr

namespace Provenance

/-- An operand that was read from a place becomes stale when the place is overwritten. -/
def overwrite (place : Place) : Option (List Place) → Option (List Place)
  | some places => if place ∈ places then none else some places
  | none => none

def push (provenance : Provenance) (operand : Option (List Place)) : Provenance :=
  { provenance with operands := operand :: provenance.operands }

/-- A read of a place; what a lost place holds is stale from the start. -/
def read (provenance : Provenance) (place : Place) : Provenance :=
  provenance.push (if place ∈ provenance.lost then none else some [place])

/-- Takes the topmost operand and stores it. -/
def store? (provenance : Provenance) (place : Place) : Option Provenance :=
  match provenance.operands with
  | operand :: rest =>
    some {
      operands := rest.map (overwrite place)
      lost := if operand.isNone then place :: provenance.lost
        else provenance.lost.filter (· ≠ place) }
  | [] => none

def step (provenance : Provenance) : Operation → Option Provenance
  | .push _ => some (provenance.push (some []))
  | .pushGlobal index => some (provenance.read (.global index))
  | .pushSlot index => some (provenance.read (.ofSlot index))
  | .unary _ =>
    match provenance.operands with
    | _ :: _ => some provenance
    | [] => none
  | .binary _ =>
    match provenance.operands with
    | right :: left :: rest =>
      some { provenance with operands := (do pure ((← left) ++ (← right))) :: rest }
    | _ => none
  | .popGlobal index => provenance.store? (.global index)
  | .popSlot index => provenance.store? (.ofSlot index)
  | _ => none

def run (operations : List Operation) : Option Provenance := operations.foldlM step {}

end Provenance

/-! ## Assignments follow the instructions -/

/-- An operand as a tree, the value that the instructions have for it, and where it was read from:
unless it is stale, the tree has that value in the store that the assignments have made. -/
structure Tracked (machine : Machine V) (emitted : Store V) (value : V) (tree : ValueTree)
    (places : Option (List Place)) : Prop where
  evaluates : ∀ store : Store V, ∃ found, machine.eval store tree = some found
  fresh : ∀ found, places = some found →
    tree.reads = found ∧ machine.eval emitted tree = some value

inductive TrackedAll (machine : Machine V) (emitted : Store V) :
    List V → List ValueTree → List (Option (List Place)) → Prop where
  | nil : TrackedAll machine emitted [] [] []
  | cons {value : V} {values : List V} {tree : ValueTree} {trees : List ValueTree}
      {places : Option (List Place)} {others : List (Option (List Place))}
      (first : Tracked machine emitted value tree places)
      (rest : TrackedAll machine emitted values trees others) :
      TrackedAll machine emitted (value :: values) (tree :: trees) (places :: others)

/-- The store that the assignments so far have made from `initial` agrees with the memory of the
machine in every place that is not lost, and the operands are tracked. -/
structure Tracks (machine : Machine V) (initial emitted : Store V) (memory : Memory V)
    (state : ActivationTree) (provenance : Provenance) : Prop where
  performed : machine.perform initial state.routine.statements = some emitted
  agrees : ∀ place, place ∉ provenance.lost → emitted place = memory.store place
  operands : TrackedAll machine emitted memory.stack state.operands provenance.operands

section

variable {machine : Machine V} {initial emitted : Store V} {memory : Memory V}
  {state : ActivationTree} {provenance : Provenance}

theorem Tracked.overwrite {value stored : V} {tree : ValueTree} {places : Option (List Place)}
    (tracked : Tracked machine emitted value tree places) (place : Place) :
    Tracked machine (emitted.set place stored) value tree (Provenance.overwrite place places) where
  evaluates := tracked.evaluates
  fresh := by
    intro found same
    cases places with
    | none => cases same
    | some known =>
        rw [Provenance.overwrite] at same
        split at same
        · cases same
        · rename_i apart
          cases same
          obtain ⟨reads, valued⟩ := tracked.fresh found rfl
          rw [← reads] at apart
          exact ⟨reads, (machine.eval_set emitted stored apart).trans valued⟩

theorem Tracked.unary {value : V} {tree : ValueTree} {places : Option (List Place)}
    {position : Int} (operator : UnaryOperator)
    (tracked : Tracked machine emitted value tree places) :
    Tracked machine emitted (machine.unary operator value) (.unary position operator.symbol tree)
      places where
  evaluates := by
    intro store
    obtain ⟨found, evaluated⟩ := tracked.evaluates store
    exact ⟨machine.unary operator found, by
      simp [Machine.eval, operator.ofSymbol?_symbol, evaluated]⟩
  fresh := by
    intro found same
    obtain ⟨reads, valued⟩ := tracked.fresh found same
    exact ⟨reads, by simp [Machine.eval, operator.ofSymbol?_symbol, valued]⟩

theorem Tracked.binary {value other : V} {tree otherTree : ValueTree}
    {places others : Option (List Place)} {position : Int} (operator : BinaryOperator)
    (left : Tracked machine emitted value tree places)
    (right : Tracked machine emitted other otherTree others) :
    Tracked machine emitted (machine.binary operator value other)
      (.binary position operator.symbol tree otherTree)
      (do pure ((← places) ++ (← others))) where
  evaluates := by
    intro store
    obtain ⟨first, firstEvaluated⟩ := left.evaluates store
    obtain ⟨second, secondEvaluated⟩ := right.evaluates store
    exact ⟨machine.binary operator first second, by
      simp [Machine.eval, operator.ofSymbol?_symbol, firstEvaluated, secondEvaluated]⟩
  fresh := by
    intro found same
    simp only [Option.bind_eq_bind, Option.bind_eq_some_iff, Option.pure_def,
      Option.some.injEq] at same
    obtain ⟨first, firstFresh, second, secondFresh, rfl⟩ := same
    obtain ⟨firstReads, firstValued⟩ := left.fresh first firstFresh
    obtain ⟨secondReads, secondValued⟩ := right.fresh second secondFresh
    refine ⟨by rw [ValueTree.reads, firstReads, secondReads], ?_⟩
    simp [Machine.eval, operator.ofSymbol?_symbol, firstValued, secondValued]

theorem TrackedAll.overwrite {values : List V} {stored : V} {trees : List ValueTree}
    {others : List (Option (List Place))}
    (tracked : TrackedAll machine emitted values trees others) (place : Place) :
    TrackedAll machine (emitted.set place stored) values trees
      (others.map (Provenance.overwrite place)) := by
  induction tracked with
  | nil => exact .nil
  | cons first rest ih => exact .cons (first.overwrite place) ih

theorem Tracks.push (tracks : Tracks machine initial emitted memory state provenance)
    {value : V} {tree : ValueTree} {places : Option (List Place)}
    (tracked : Tracked machine emitted value tree places) :
    Tracks machine initial emitted { memory with stack := value :: memory.stack }
      { state with operands := tree :: state.operands } (provenance.push places) where
  performed := tracks.performed
  agrees := tracks.agrees
  operands := .cons tracked tracks.operands

theorem Tracks.read (tracks : Tracks machine initial emitted memory state provenance)
    (place : Place) :
    Tracks machine initial emitted { memory with stack := memory.store place :: memory.stack }
      { state with operands := place.tree :: state.operands } (provenance.read place) := by
  refine tracks.push ⟨fun store => ⟨_, place.eval_tree machine store⟩, ?_⟩
  intro found same
  split at same
  · cases same
  · rename_i kept
    cases same
    exact ⟨place.reads_tree, by rw [place.eval_tree, tracks.agrees place kept]⟩

/-- An assignment does to the one store what the instruction does to the other; where the operand
was stale, the place is lost. -/
theorem Tracks.store (tracks : Tracks machine initial emitted memory state provenance)
    {tree : ValueTree} {rest : List ValueTree} (place : Place) (position : Int)
    (topmost : state.operands = tree :: rest) :
    ∃ value values provenance' emitted', memory.stack = value :: values ∧
      provenance.store? place = some provenance' ∧
      Tracks machine initial emitted' ⟨memory.store.set place value, values⟩
        (state.perform position (.assign place.tree tree) rest) provenance' := by
  obtain ⟨store, stack⟩ := memory
  obtain ⟨operands, lost⟩ := provenance
  obtain ⟨trees, routine⟩ := state
  obtain ⟨performed, agrees, tracked⟩ := tracks
  dsimp only at topmost performed agrees tracked
  subst topmost
  cases tracked with
  | @cons value values _ _ places others first below =>
      obtain ⟨stored, evaluated⟩ := first.evaluates emitted
      refine ⟨value, values, _, emitted.set place stored, rfl, rfl, ?_, ?_, below.overwrite place⟩
      · rw [ActivationTree.perform, Machine.perform, List.foldlM_append]
        rw [Machine.perform] at performed
        rw [performed]
        simp [Machine.assign, evaluated]
      · intro other kept
        dsimp only at kept ⊢
        by_cases same : other = place
        · subst same
          cases places with
          | none => simp at kept
          | some known =>
              obtain ⟨_, valued⟩ := first.fresh known rfl
              rw [evaluated, Option.some.injEq] at valued
              rw [Store.set_same, Store.set_same, valued]
        · rw [Store.set_of_ne _ _ same, Store.set_of_ne _ _ same]
          refine agrees other fun member => kept ?_
          cases places with
          | none => exact List.mem_cons_of_mem _ member
          | some known => simpa [same] using member

end

theorem ActivationTree.slot?_eq_some {state : ActivationTree} {index : Int} {tree : ValueTree}
    (found : state.slot? index = some tree) : tree = (Place.ofSlot index).tree := by
  unfold slot? at found
  unfold Place.ofSlot
  split at found
  · rename_i declared
    rw [if_pos declared.1]
    exact (Option.some.inj found).symm
  · split at found
    · rw [if_neg (by omega)]
      exact (Option.some.inj found).symm
    · cases found

/-- A straight-line instruction that runs on trees runs on values too, and the assignments keep
following it. -/
theorem tracks_step {machine : Machine V} {initial emitted : Store V} {memory : Memory V}
    {state next : ActivationTree} {provenance : Provenance} {syscalls : Array Syscall}
    {arity : Int → Option Int} {position : Int} {operation : Operation}
    (tracks : Tracks machine initial emitted memory state provenance)
    (straight : operation.straight = true)
    (ran : state.run syscalls arity position operation = some next) :
    ∃ memory' provenance' emitted', machine.step memory operation = some memory' ∧
      provenance.step operation = some provenance' ∧
      Tracks machine initial emitted' memory' next provenance' := by
  cases operation with
  | push constant =>
      cases ran
      refine ⟨_, _, emitted, rfl, rfl, tracks.push ⟨fun store => ⟨_, rfl⟩, ?_⟩⟩
      intro found same
      cases same
      exact ⟨rfl, rfl⟩
  | pushGlobal index =>
      cases ran
      exact ⟨_, _, emitted, rfl, rfl, tracks.read (.global index)⟩
  | pushSlot index =>
      simp only [ActivationTree.run] at ran
      cases resolved : state.slot? index with
      | none => simp [resolved] at ran
      | some tree =>
          rw [resolved] at ran
          cases ran
          cases ActivationTree.slot?_eq_some resolved
          exact ⟨_, _, emitted, rfl, rfl, tracks.read (.ofSlot index)⟩
  | unary operator =>
      obtain ⟨performed, agrees, tracked⟩ := tracks
      obtain ⟨trees, routine⟩ := state
      obtain ⟨store, stack⟩ := memory
      obtain ⟨operands, lost⟩ := provenance
      dsimp only at performed agrees tracked
      cases tracked with
      | nil => cases ran
      | cons first below =>
          cases ran
          exact ⟨_, _, emitted, rfl, rfl, performed, agrees, .cons (first.unary operator) below⟩
  | binary operator =>
      obtain ⟨performed, agrees, tracked⟩ := tracks
      obtain ⟨trees, routine⟩ := state
      obtain ⟨store, stack⟩ := memory
      obtain ⟨operands, lost⟩ := provenance
      dsimp only at performed agrees tracked
      cases tracked with
      | nil => cases ran
      | cons right rest =>
          cases rest with
          | nil => cases ran
          | cons left below =>
              cases ran
              exact ⟨_, _, emitted, rfl, rfl, performed, agrees,
                .cons (left.binary operator right) below⟩
  | popGlobal index =>
      cases topmost : state.operands with
      | nil => simp [ActivationTree.run, topmost] at ran
      | cons tree rest =>
          simp only [ActivationTree.run, topmost, Option.some.injEq] at ran
          subst ran
          obtain ⟨value, values, provenance', emitted', stacked, stored, after⟩ :=
            tracks.store (.global index) position topmost
          refine ⟨_, provenance', emitted', ?_, stored, after⟩
          simp [Machine.step, stacked]
  | popSlot index =>
      simp only [ActivationTree.run] at ran
      cases resolved : state.slot? index with
      | none => simp [resolved] at ran
      | some target =>
          cases topmost : state.operands with
          | nil => simp [resolved, topmost] at ran
          | cons tree rest =>
              simp only [resolved, topmost, Option.some.injEq] at ran
              subst ran
              cases ActivationTree.slot?_eq_some resolved
              obtain ⟨value, values, provenance', emitted', stacked, stored, after⟩ :=
                tracks.store (.ofSlot index) position topmost
              refine ⟨_, provenance', emitted', ?_, stored, after⟩
              simp [Machine.step, stacked]
  | _ => cases straight

/-- Runs instructions one after the other, each at its address. -/
def ActivationTree.runAll (syscalls : Array Syscall) (arity : Int → Option Int)
    (state : ActivationTree) : List (Int × Operation) → Option ActivationTree
  | [] => some state
  | (address, operation) :: rest => do
    let next ← state.run syscalls arity address operation
    next.runAll syscalls arity rest

/-- A run of straight-line instructions on trees is one on values, and the assignments follow it to
its end. -/
theorem tracks_runAll {machine : Machine V} {initial : Store V} {syscalls : Array Syscall}
    {arity : Int → Option Int} (code : List (Int × Operation)) :
    ∀ {emitted : Store V} {memory : Memory V} {state last : ActivationTree}
      {provenance : Provenance},
      Tracks machine initial emitted memory state provenance →
      (∀ line ∈ code, line.2.straight = true) →
      state.runAll syscalls arity code = some last →
      ∃ after final emitted', (code.map Prod.snd).foldlM machine.step memory = some after ∧
        (code.map Prod.snd).foldlM Provenance.step provenance = some final ∧
        Tracks machine initial emitted' after last final := by
  induction code with
  | nil =>
      intro emitted memory state last provenance tracks _ ran
      cases ran
      exact ⟨memory, provenance, emitted, rfl, rfl, tracks⟩
  | cons line rest ih =>
      intro emitted memory state last provenance tracks straight ran
      obtain ⟨hereStraight, restStraight⟩ := List.forall_mem_cons.mp straight
      obtain ⟨next, stepped, restRan⟩ := Option.bind_eq_some_iff.mp ran
      obtain ⟨memory', provenance', emitted', moved, known, after⟩ :=
        tracks_step tracks hereStraight stepped
      obtain ⟨final, lastKnown, lastEmitted, ends, knownEnds, tracked⟩ :=
        ih after restStraight restRan
      refine ⟨final, lastKnown, lastEmitted, ?_, ?_, tracked⟩
      · simp [List.foldlM_cons, moved, ends]
      · simp [List.foldlM_cons, known, knownEnds]

end SceneCode
