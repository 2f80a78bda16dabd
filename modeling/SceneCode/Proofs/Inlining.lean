import Mathlib
import SceneCode.Proofs.Ownership
import SceneCode.Proofs.Representation

/-!
# Expressions written out

A listing and an exported document have no references: an expression stands in full wherever an
operand refers to it.  `Routine.inlined` names the entries of the arena that are written out for the
statements of a routine, with repetitions.  If no entry is referred to twice, none is written twice
(`Routine.nodup_inlined`): the occurrences of an entry are at most those of the entries that refer
to it, and references only go back, so the count goes down from the end of the arena.

The trees of a program and its document show exactly these entries, each with its address.
-/

set_option autoImplicit false

namespace SceneCode

/-! ## Occurrences -/

namespace Routine

def operandsAt (routine : Routine) (position : Nat) : List Value :=
  routine.arena[position]?.elim [] (·.action.operands)

/-- The entries that are written out for a value, passing through at most `fuel` of them inside each
other. -/
def inlinedWithin (routine : Routine) : Nat → Value → List Nat
  | fuel + 1, .expr index =>
    index.toNat :: (routine.operandsAt index.toNat).flatMap (routine.inlinedWithin fuel)
  | _, _ => []

def bodyOperands (routine : Routine) : List Value :=
  routine.body.toList.flatMap routine.operandsAt

/-- The entries that are written out for the statements of a routine. -/
def inlined (routine : Routine) : List Nat :=
  routine.bodyOperands.flatMap (routine.inlinedWithin routine.arena.size)

/-- How often the entries of the arena refer to one of them. -/
def references (routine : Routine) (index : Nat) : Nat :=
  (routine.arena.toList.flatMap (·.action.operands)).count (.expr index)

/-- How often one entry refers to another. -/
def refersFrom (routine : Routine) (index position : Nat) : Nat :=
  (routine.operandsAt position).count (.expr index)

variable {routine : Routine}

theorem inlinedWithin_plain {value : Value} (plain : value.Plain) (fuel : Nat) :
    routine.inlinedWithin fuel value = [] := by
  cases value with
  | expr index => exact absurd rfl (plain index)
  | _ => cases fuel <;> rfl

theorem references_eq_sum (routine : Routine) (index : Nat) :
    routine.references index =
      ∑ position ∈ Finset.range routine.arena.size, routine.refersFrom index position := by
  rw [references, List.count_flatMap, ← List.ofFn_getElem_eq_map, List.sum_ofFn,
    ← Array.length_toList, Finset.sum_range]
  refine Finset.sum_congr rfl fun position _ => ?_
  simp [refersFrom, operandsAt]

namespace Owned

theorem supplies_operandsAt (owned : routine.Owned) {position : Nat} {value : Value}
    (used : value ∈ routine.operandsAt position) : routine.Supplies position value := by
  unfold operandsAt at used
  cases found : routine.arena[position]? with
  | none => simp [found] at used
  | some statement =>
      rw [found] at used
      exact owned.operands position statement found value used

theorem supplies_bodyOperands (owned : routine.Owned) {value : Value}
    (used : value ∈ routine.bodyOperands) : routine.Supplies routine.arena.size value := by
  obtain ⟨position, listed, used⟩ := List.mem_flatMap.mp used
  exact (owned.supplies_operandsAt used).mono (Nat.le_of_lt (owned.body_lt listed))

/-- Only an expression is referred to, from behind it. -/
theorem of_refersFrom (owned : routine.Owned) {index position : Nat}
    (refers : routine.refersFrom index position ≠ 0) :
    index < position ∧ ∃ statement, routine.arena[index]? = some statement ∧
      statement.action.isExpression = true := by
  have used := List.count_pos_iff.mp (Nat.pos_of_ne_zero refers)
  obtain ⟨_, below, found⟩ := owned.supplies_operandsAt used index rfl
  exact ⟨by omega, found⟩

/-- An entry of the body is no expression. -/
theorem not_mem_body (owned : routine.Owned) {position : Nat} {statement : Statement}
    (found : routine.arena[position]? = some statement)
    (computes : statement.action.isExpression = true) : position ∉ routine.body.toList := by
  intro listed
  obtain ⟨other, same, performs⟩ := (owned.performed position).mp listed
  obtain rfl : statement = other := Option.some.inj (found.symm.trans same)
  have stored := Array.mem_toList_iff.mpr (Array.mem_of_getElem? found)
  rw [(owned.kinds statement stored).mp computes] at performs
  cases performs

end Owned

/-- What is written out for values is referred to by one of them or by something that is written
out. -/
theorem count_inlinedWithin_le (owned : routine.Owned) (index fuel : Nat) :
    ∀ values : List Value, (∀ value ∈ values, routine.Supplies routine.arena.size value) →
      (values.flatMap (routine.inlinedWithin fuel)).count index ≤ values.count (.expr index) +
        ∑ position ∈ Finset.range routine.arena.size,
          (values.flatMap (routine.inlinedWithin fuel)).count position *
            routine.refersFrom index position := by
  induction fuel with
  | zero =>
      intro values _
      have none : values.flatMap (routine.inlinedWithin 0) = [] := by
        rw [List.flatMap_eq_nil_iff]
        intro value _
        cases value <;> rfl
      simp [none]
  | succ fuel ih =>
      intro values
      induction values with
      | nil => simp
      | cons value rest restBound =>
          intro supplied
          obtain ⟨here, others⟩ := List.forall_mem_cons.mp supplied
          have bound := restBound others
          have single : (routine.inlinedWithin (fuel + 1) value).count index ≤
              [value].count (.expr index) +
                ∑ position ∈ Finset.range routine.arena.size,
                  (routine.inlinedWithin (fuel + 1) value).count position *
                    routine.refersFrom index position := by
            cases value with
            | expr reference =>
                obtain ⟨nonneg, below, _⟩ := here reference rfl
                obtain ⟨target, rfl⟩ := Int.eq_ofNat_of_zero_le nonneg
                have inside : target ∈ Finset.range routine.arena.size := by
                  rw [Finset.mem_range]
                  omega
                have inner := ih (routine.operandsAt target) fun operand used =>
                  (owned.supplies_operandsAt used).mono (by omega)
                have own : ∑ position ∈ Finset.range routine.arena.size,
                    (if (target == position) = true then 1 else 0) *
                      routine.refersFrom index position = routine.refersFrom index target := by
                  simp [inside]
                simp only [inlinedWithin, Int.toNat_natCast, List.count_cons, add_mul,
                  Finset.sum_add_distrib, List.count_nil, own]
                simp only [beq_iff_eq, Value.expr.injEq, Nat.cast_inj] at inner ⊢
                unfold refersFrom at *
                omega
            | _ => simp [inlinedWithin]
          rw [List.flatMap_cons]
          simp only [List.count_append, add_mul, Finset.sum_add_distrib]
          rw [List.count_cons, ← List.count_singleton]
          omega

theorem count_bodyOperands (owned : routine.Owned) (index : Nat) :
    routine.bodyOperands.count (.expr index) =
      ∑ position ∈ Finset.range routine.arena.size,
        if position ∈ routine.body.toList then routine.refersFrom index position else 0 := by
  have distinct : routine.body.toList.Nodup := owned.body.imp fun below => Nat.ne_of_lt below
  have inside : routine.body.toList.toFinset ⊆ Finset.range routine.arena.size := by
    intro position listed
    exact Finset.mem_range.mpr (owned.body_lt (List.mem_toFinset.mp listed))
  calc routine.bodyOperands.count (.expr index)
      = (routine.body.toList.map (routine.refersFrom index)).sum := List.count_flatMap
    _ = ∑ position ∈ routine.body.toList.toFinset, routine.refersFrom index position :=
        (List.sum_toFinset _ distinct).symm
    _ = ∑ position ∈ Finset.range routine.arena.size ∩ routine.body.toList.toFinset,
          routine.refersFrom index position := by rw [Finset.inter_eq_right.mpr inside]
    _ = _ := by simp only [← Finset.sum_ite_mem, List.mem_toFinset]

/-- The occurrences of an entry, weighed by those of the entries that refer to it. -/
theorem count_inlined_le (owned : routine.Owned) (index : Nat) :
    routine.inlined.count index ≤ ∑ position ∈ Finset.range routine.arena.size,
      ((if position ∈ routine.body.toList then 1 else 0) + routine.inlined.count position) *
        routine.refersFrom index position := by
  have bound := count_inlinedWithin_le owned index routine.arena.size routine.bodyOperands
    fun value => owned.supplies_bodyOperands
  rw [count_bodyOperands owned] at bound
  simp only [add_mul, Finset.sum_add_distrib, ite_mul, one_mul, zero_mul]
  exact bound

theorem count_inlined_of_mem_body (owned : routine.Owned) {position : Nat}
    (listed : position ∈ routine.body.toList) : routine.inlined.count position = 0 := by
  have unused : ∀ other, routine.refersFrom position other = 0 := by
    intro other
    by_contra refers
    obtain ⟨_, statement, found, computes⟩ := owned.of_refersFrom refers
    exact owned.not_mem_body found computes listed
  have bound := count_inlined_le owned position
  simpa [unused] using bound

/-- If no entry is referred to twice, none is written out twice. -/
theorem nodup_inlined (owned : routine.Owned) (single : ∀ index, routine.references index ≤ 1) :
    routine.inlined.Nodup := by
  suffices counted : ∀ distance index, routine.arena.size ≤ index + distance →
      routine.inlined.count index ≤ 1 from
    List.nodup_iff_count_le_one.mpr fun index => counted routine.arena.size index (by omega)
  intro distance
  -- The count of an entry rests on those of later ones, so the induction is on what is behind it.
  induction distance with
  | zero =>
      intro index behind
      have bound := count_inlined_le owned index
      rw [Finset.sum_eq_zero] at bound
      · omega
      · intro position inside
        rw [Finset.mem_range] at inside
        have unused : routine.refersFrom index position = 0 := by
          by_contra refers
          have below := (owned.of_refersFrom refers).1
          omega
        rw [unused, Nat.mul_zero]
  | succ distance ih =>
      intro index behind
      calc routine.inlined.count index
          ≤ ∑ position ∈ Finset.range routine.arena.size,
              ((if position ∈ routine.body.toList then 1 else 0) +
                routine.inlined.count position) * routine.refersFrom index position :=
            count_inlined_le owned index
        _ ≤ ∑ position ∈ Finset.range routine.arena.size, routine.refersFrom index position := by
            refine Finset.sum_le_sum fun position _ => ?_
            by_cases unused : routine.refersFrom index position = 0
            · simp [unused]
            · have below := (owned.of_refersFrom unused).1
              have once : (if position ∈ routine.body.toList then 1 else 0) +
                  routine.inlined.count position ≤ 1 := by
                split
                · rename_i listed
                  simp [count_inlined_of_mem_body owned listed]
                · simpa using ih position (by omega)
              exact Nat.le_trans (Nat.mul_le_mul_right _ once) (by simp)
        _ = routine.references index := (references_eq_sum routine index).symm
        _ ≤ 1 := single index

/-- Only expressions are written out. -/
theorem expression_of_mem_inlined (owned : routine.Owned) {index : Nat}
    (member : index ∈ routine.inlined) : ∃ statement, routine.arena[index]? = some statement ∧
      statement.action.isExpression = true := by
  by_contra none
  have unused : ∀ position, routine.refersFrom index position = 0 := by
    intro position
    by_contra refers
    exact none (owned.of_refersFrom refers).2
  have bound := count_inlined_le owned index
  simp only [unused, Nat.mul_zero, Finset.sum_const_zero] at bound
  have positive := List.count_pos_iff.mpr member
  omega

def addressAt (routine : Routine) (position : Nat) : Int :=
  routine.arena[position]?.elim 0 Statement.address

/-- The addresses of the expressions that are written out for the statements of a routine. -/
def sites (routine : Routine) : List Int := routine.inlined.map routine.addressAt

end Routine

/-! ## Trees -/

namespace ValueTree

/-- The addresses of the expressions in a tree. -/
def sites : ValueTree → List Int
  | unary address _ operand => address :: operand.sites
  | binary address _ left right => address :: (left.sites ++ right.sites)
  | globalEntry address table key | localEntry address table key =>
    address :: (table.sites ++ key.sites)
  | _ => []

end ValueTree

def ActionTree.sites : ActionTree → List Int
  | call _ args | syscall _ args => args.flatMap ValueTree.sites
  | ret _ | jump _ => []
  | branch _ condition => condition.sites
  | assign target value => target.sites ++ value.sites

def RoutineTree.sites (tree : RoutineTree) : List Int :=
  tree.statements.flatMap (·.action.sites)

namespace Routine

variable {routine : Routine}

theorem sites_of_expressionTree? {read : Value → Option ValueTree} {shown : Value → List Int}
    (each : ∀ value tree, read value = some tree → tree.sites = shown value)
    {statement : Statement} {tree : ValueTree}
    (found : expressionTree? read statement = some tree) :
    tree.sites = statement.address :: statement.action.operands.flatMap shown := by
  obtain ⟨address, action⟩ := statement
  cases action with
  | unary operator operand =>
      simp only [expressionTree?, Option.bind_eq_bind, Option.bind_eq_some_iff] at found
      obtain ⟨operandTree, operandRead, made⟩ := found
      cases made
      simp [ValueTree.sites, Action.operands, each _ _ operandRead]
  | binary _ first second | globalTableAccess first second | localTableAccess first second =>
      simp only [expressionTree?, Option.bind_eq_bind, Option.bind_eq_some_iff] at found
      obtain ⟨firstTree, firstRead, secondTree, secondRead, made⟩ := found
      cases made
      simp [ValueTree.sites, Action.operands, each _ _ firstRead, each _ _ secondRead]
  | _ => cases found

theorem sites_of_slotTree? {name : String} {tree : ValueTree}
    (read : routine.slotTree? name = some tree) : tree.sites = [] := by
  unfold slotTree? at read
  split at read
  · split at read <;> cases read
    split <;> rfl
  · split at read <;> cases read
    rfl
  · cases read

theorem sites_of_plain {fuel : Nat} {value : Value} {tree : ValueTree} (plain : value.Plain)
    (read : routine.treeWithin fuel value = some tree) : tree.sites = [] := by
  cases value with
  | expr index => exact absurd rfl (plain index)
  | slot name constant =>
      rw [treeWithin] at read
      split at read
      · exact sites_of_slotTree? read
      · cases read
        rfl
  | bare =>
      rw [treeWithin] at read
      cases read
  | global | returnValue =>
      rw [treeWithin] at read
      cases read
      rfl

/-- A tree has the expressions that are written out for its value. -/
theorem sites_of_treeWithin (fuel : Nat) :
    ∀ value tree, routine.treeWithin fuel value = some tree →
      tree.sites = (routine.inlinedWithin fuel value).map routine.addressAt := by
  induction fuel with
  | zero =>
      intro value tree read
      rcases value.plain_or_expr with plain | ⟨index, rfl⟩
      · rw [sites_of_plain plain read, inlinedWithin_plain plain, List.map_nil]
      · cases read
  | succ fuel ih =>
      intro value tree read
      rcases value.plain_or_expr with plain | ⟨index, rfl⟩
      · rw [sites_of_plain plain read, inlinedWithin_plain plain, List.map_nil]
      · rw [treeWithin] at read
        split at read
        · cases read
        · cases found : routine.arena[index.toNat]? with
          | none => simp [found] at read
          | some statement =>
              rw [found] at read
              rw [sites_of_expressionTree? ih read]
              simp [inlinedWithin, addressAt, operandsAt, found, List.map_flatMap]

theorem sites_of_mapM {values : List Value} {trees : List ValueTree}
    (read : values.mapM routine.tree? = some trees) :
    trees.flatMap ValueTree.sites =
      (values.flatMap (routine.inlinedWithin routine.arena.size)).map routine.addressAt := by
  have each := mapM_eq_some_iff.mp read
  clear read
  induction each with
  | nil => rfl
  | cons here _ ih => simp [sites_of_treeWithin _ _ _ here, ih]

theorem sites_of_actionTree? {action : Action} {tree : ActionTree}
    (read : routine.actionTree? action = some tree) :
    tree.sites = (action.operands.flatMap
      (routine.inlinedWithin routine.arena.size)).map routine.addressAt := by
  have each : ∀ value tree, routine.tree? value = some tree → tree.sites =
      (routine.inlinedWithin routine.arena.size value).map routine.addressAt :=
    sites_of_treeWithin _
  cases action with
  | call _ args | syscall _ args =>
      simp only [actionTree?, Option.bind_eq_bind, Option.bind_eq_some_iff] at read
      obtain ⟨trees, argsRead, made⟩ := read
      cases made
      exact sites_of_mapM argsRead
  | branch _ condition =>
      simp only [actionTree?, Option.bind_eq_bind, Option.bind_eq_some_iff] at read
      obtain ⟨conditionTree, conditionRead, made⟩ := read
      cases made
      simp [ActionTree.sites, Action.operands, each _ _ conditionRead]
  | assign target value =>
      simp only [actionTree?, Option.bind_eq_bind, Option.bind_eq_some_iff] at read
      obtain ⟨targetTree, targetRead, valueTree, valueRead, made⟩ := read
      cases made
      simp [ActionTree.sites, Action.operands, each _ _ targetRead, each _ _ valueRead]
  | ret | jump =>
      cases read
      rfl
  | _ => cases read

/-- The operands of the statements of a routine, in their order. -/
theorem bodyOperands_eq {statements : List Statement}
    (listed : routine.statements? = some statements) :
    routine.bodyOperands = statements.flatMap (·.action.operands) := by
  have each := mapM_eq_some_iff.mp listed
  unfold bodyOperands
  clear listed
  generalize routine.body.toList = positions at each ⊢
  induction each with
  | nil => rfl
  | cons here _ ih => simp [operandsAt, here, ih]

/-- The tree of a routine shows the expressions that are written out for its statements. -/
theorem sites_of_routineTree? {address : Int} {tree : RoutineTree}
    (read : routine.routineTree? address = some tree) : tree.sites = routine.sites := by
  obtain ⟨statements, located, statementsRead⟩ := statements_of_routineTree? read
  rw [sites, inlined, bodyOperands_eq located, RoutineTree.sites]
  have each := mapM_eq_some_iff.mp statementsRead
  clear statementsRead located read
  generalize tree.statements = trees at each
  induction each with
  | nil => rfl
  | @cons statement statementTree _ _ here _ ih =>
      simp only [statementTree?, Option.bind_eq_bind, Option.bind_eq_some_iff] at here
      obtain ⟨actionTree, actionRead, made⟩ := here
      cases made
      simp [sites_of_actionTree? actionRead, ih]

end Routine

/-! ## Documents -/

namespace Json

/-- The address of a statement in a document. -/
def address? : Json → Option Int
  | obj members =>
    match members.lookup "address" with
    | some (int address) => some address
    | _ => none
  | _ => none

mutual

/-- The addresses of the statements that stand in a document as expressions. -/
def sites : Json → List Int
  | arr items => sitesOfItems items
  | obj members => sitesOfMembers members
  | _ => []

def sitesOfItems : List Json → List Int
  | [] => []
  | item :: rest => sites item ++ sitesOfItems rest

def sitesOfMembers : List (String × Json) → List Int
  | [] => []
  | (key, value) :: rest =>
    (if key = "expr" then value.address?.toList else []) ++ sites value ++ sitesOfMembers rest

end

end Json

namespace Export

variable {routine : Routine} {value : Value → Except OutputFault Json}
  {shown : Value → List Int}

theorem sites_constant (content : Constant) : (constant content).sites = [] := by
  cases content <;> simp [constant, Json.sites, Json.sitesOfMembers]

theorem yields_sitesOfItems {α : Type} {items : List α} {read : α → Except OutputFault Json}
    {shown : α → List Int}
    (each : ∀ item ∈ items, Yields (fun document => document.sites = shown item) (read item)) :
    Yields (fun documents => Json.sitesOfItems documents = items.flatMap shown)
      (items.mapM read) := by
  induction items with
  | nil => exact .pure rfl
  | cons first rest ih =>
      obtain ⟨here, others⟩ := List.forall_mem_cons.mp each
      rw [List.mapM_cons]
      refine here.bind fun document same => (ih others).bind fun documents sameRest => .pure ?_
      simp [Json.sitesOfItems, same, sameRest]

theorem yields_sitesOfFields {action : Action}
    (each : ∀ operand ∈ action.operands, Yields (fun document => document.sites = shown operand)
      (value operand)) :
    Yields (fun members => Json.sitesOfMembers members = action.operands.flatMap shown)
      (fields value action) := by
  cases action with
  | call target args | syscall name args =>
      refine (yields_sitesOfItems each).bind fun documents same => .pure ?_
      simp [Json.sitesOfMembers, Json.sites, same, Action.operands]
  | ret hasValue | jump target =>
      refine .pure ?_
      simp [Json.sitesOfMembers, Json.sites, Action.operands]
  | branch target operand | unary operator operand =>
      refine (each operand (by simp [Action.operands])).bind fun document same => .pure ?_
      simp [Json.sitesOfMembers, Json.sites, same, Action.operands]
  | globalTableAccess first second | localTableAccess first second | binary _ first second
  | assign first second =>
      refine (each first (by simp [Action.operands])).bind fun document same =>
        (each second (by simp [Action.operands])).bind fun other sameOther => .pure ?_
      simp [Json.sitesOfMembers, Json.sites, same, sameOther, Action.operands]
  | bare => rintro _ ⟨⟩

theorem yields_sitesOfStatement {s : Statement}
    (each : ∀ operand ∈ s.action.operands, Yields (fun document => document.sites = shown operand)
      (value operand)) :
    Yields (fun document => document.address? = some s.address ∧
      document.sites = s.action.operands.flatMap shown) (statementWith value s) := by
  refine (yields_sitesOfFields each).bind fun members same => .pure ⟨by simp [Json.address?], ?_⟩
  simp [Json.sites, Json.sitesOfMembers, same]

theorem yields_sites_plain {v : Value} (plain : v.Plain) (fuel : Nat) :
    Yields (fun document => document.sites = []) (valueWithin routine fuel v) := by
  cases v with
  | expr index => exact absurd rfl (plain index)
  | slot name content =>
      rw [valueWithin]
      exact .pure (by simp [Json.sites, Json.sitesOfMembers, sites_constant])
  | bare =>
      rw [valueWithin]
      rintro _ ⟨⟩
  | global | returnValue =>
      rw [valueWithin]
      exact .pure (by simp [Json.sites, Json.sitesOfMembers])

/-- The document of a value has the expressions that are written out for it. -/
theorem yields_sites (owned : routine.Owned) (fuel : Nat) :
    ∀ v : Value, routine.Supplies routine.arena.size v →
      Yields (fun document => document.sites =
        (routine.inlinedWithin fuel v).map routine.addressAt) (valueWithin routine fuel v) := by
  induction fuel with
  | zero =>
      intro v _
      rcases v.plain_or_expr with plain | ⟨index, rfl⟩
      · rw [Routine.inlinedWithin_plain plain]
        exact yields_sites_plain plain 0
      · intro document written
        unfold valueWithin at written
        split at written <;> cases written
  | succ fuel ih =>
      intro v supplies
      rcases v.plain_or_expr with plain | ⟨index, rfl⟩
      · rw [Routine.inlinedWithin_plain plain]
        exact yields_sites_plain plain _
      · obtain ⟨nonneg, _, s, found, _⟩ := supplies index rfl
        have located : routine.statementAt? index = some s := by
          simp [Routine.statementAt?, Int.not_lt.mpr nonneg, found]
        have each : ∀ operand ∈ s.action.operands, Yields (fun document => document.sites =
            (routine.inlinedWithin fuel operand).map routine.addressAt)
            (valueWithin routine fuel operand) := fun operand used =>
          ih operand ((owned.operands _ s found operand used).mono (by omega))
        rw [valueWithin, located]
        refine (yields_sitesOfStatement each).bind fun inner written => .pure ?_
        obtain ⟨address, same⟩ := written
        simp [Json.sites, Json.sitesOfMembers, address, same, Routine.inlinedWithin,
          Routine.addressAt, Routine.operandsAt, found, List.map_flatMap]

theorem yields_sitesOfRoutine (owned : routine.Owned) (address : Int) :
    Yields (fun document => document.sites = routine.sites) (Export.routine address routine) := by
  unfold Export.routine
  split
  · rintro _ ⟨⟩
  · rename_i statements listed
    have each : ∀ s ∈ statements, Yields (fun document => document.sites =
        s.action.operands.flatMap fun operand =>
          (routine.inlinedWithin routine.arena.size operand).map routine.addressAt)
        (statement routine s) := by
      intro s member document written
      have stored := Routine.mem_of_statements? listed s member
      obtain ⟨position, found⟩ := List.mem_iff_getElem?.mp stored
      rw [Array.getElem?_toList] at found
      have inside := (Array.getElem?_eq_some_iff.mp found).1
      refine (yields_sitesOfStatement (fun operand used => ?_) document written).2
      exact yields_sites owned _ operand
        ((owned.operands position s found operand used).mono (Nat.le_of_lt inside))
    refine (yields_sitesOfItems each).bind fun items same => .pure ?_
    simp [Json.sites, Json.sitesOfMembers, same, Routine.sites, Routine.inlined,
      Routine.bodyOperands_eq listed, List.map_flatMap, List.flatMap_assoc]

/-- The document of a program has the expressions of its routines. -/
theorem yields_sitesOfProgram {program : Program}
    (owned : ∀ entry ∈ program.routines.entries, entry.2.Owned) :
    Yields (fun document => document.sites = program.routines.sorted.flatMap (·.2.sites))
      (Export.program program) := by
  have each : ∀ entry ∈ program.routines.sorted, Yields
      (fun document => document.sites = entry.2.sites) (Export.routine entry.1 entry.2) :=
    fun entry member => yields_sitesOfRoutine
      (owned entry (program.routines.sorted_perm.mem_iff.mp member)) entry.1
  refine (yields_sitesOfItems each).bind fun items same => .pure ?_
  simp [Json.sites, Json.sitesOfMembers, same]

end Export

end SceneCode
