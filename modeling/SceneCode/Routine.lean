import SceneCode.OrderedMap
import SceneCode.Statement

/-!
# Routines

A routine owns an arena of statements.  Its body lists the indices of the statements that are
executed one after the other; the other entries are expressions inside them.  A negative index
counts from the end of the arena.

A routine table maps addresses to routines and remembers the order in which they were entered.  The
address of a routine is its key in the table and nothing else: a routine is entered under the
address at which it starts, and whatever shows that address takes it from the table.
-/

set_option autoImplicit false

namespace SceneCode

structure Routine where
  args : Int
  locals : Int
  arena : Array Statement := #[]
  /-- Indices of the arena, none of them from its end: a body grows with the arena only. -/
  body : Array Nat := #[]
  deriving DecidableEq, Repr

namespace Routine

/-- The arena entry with an index; a negative index counts from the end. -/
def statementAt? (routine : Routine) (index : Int) : Option Statement :=
  let position := if index < 0 then index + routine.arena.size else index
  if position < 0 then none else routine.arena[position.toNat]?

/-- Stores an expression; its index is the former size of the arena. -/
def allocate (routine : Routine) (statement : Statement) : Routine :=
  { routine with arena := routine.arena.push statement }

def append (routine : Routine) (statement : Statement) : Routine :=
  { routine with
    arena := routine.arena.push statement
    body := routine.body.push routine.arena.size }

def reset (routine : Routine) : Routine :=
  { routine with arena := #[], body := #[] }

/-- The statements of the body, unless an index of it lies outside the arena. -/
def statements? (routine : Routine) : Option (List Statement) :=
  routine.body.toList.mapM fun index => routine.arena[index]?

end Routine

/-- Routines by address, in the order of their entry. -/
abbrev RoutineTable := OrderedMap Int Routine

namespace RoutineTable

def resetAll (table : RoutineTable) : RoutineTable := table.mapValues Routine.reset

/-- Puts a routine before the first one with a higher address. -/
def place (entry : Int × Routine) : List (Int × Routine) → List (Int × Routine)
  | [] => [entry]
  | next :: rest =>
    if entry.1 ≤ next.1 then entry :: next :: rest else next :: place entry rest

def sorted (table : RoutineTable) : List (Int × Routine) :=
  table.entries.foldr place []

theorem place_perm (entry : Int × Routine) (entries : List (Int × Routine)) :
    (place entry entries).Perm (entry :: entries) := by
  induction entries with
  | nil => exact List.Perm.refl _
  | cons next rest ih =>
      unfold place
      split
      · exact List.Perm.refl _
      · exact (ih.cons next).trans (List.Perm.swap entry next rest)

theorem pairwise_place {entry : Int × Routine} {entries : List (Int × Routine)}
    (ordered : entries.Pairwise fun a b => a.1 ≤ b.1) :
    (place entry entries).Pairwise fun a b => a.1 ≤ b.1 := by
  induction entries with
  | nil => simp [place]
  | cons next rest ih =>
      obtain ⟨least, restOrdered⟩ := List.pairwise_cons.mp ordered
      unfold place
      split
      · rename_i below
        refine List.pairwise_cons.mpr ⟨?_, ordered⟩
        intro other member
        rcases List.mem_cons.mp member with same | later
        · exact same ▸ below
        · exact Int.le_trans below (least other later)
      · rename_i above
        refine List.pairwise_cons.mpr ⟨?_, ih restOrdered⟩
        intro other member
        rcases List.mem_cons.mp ((place_perm entry rest).mem_iff.mp member) with same | later
        · rw [same]
          omega
        · exact least other later

theorem sorted_perm (table : RoutineTable) : table.sorted.Perm table.entries := by
  unfold sorted
  induction table.entries with
  | nil => exact List.Perm.refl _
  | cons entry rest ih => exact (place_perm entry _).trans (ih.cons entry)

theorem pairwise_sorted (table : RoutineTable) :
    table.sorted.Pairwise fun a b => a.1 ≤ b.1 := by
  unfold sorted
  induction table.entries with
  | nil => exact List.Pairwise.nil
  | cons entry rest ih => exact pairwise_place ih

end RoutineTable

end SceneCode
