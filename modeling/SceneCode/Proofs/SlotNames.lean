import SceneCode.Proofs.Literal

/-!
# The names of slots

A value that denotes a slot keeps the name of the slot and not its index, so two values are compared
by their names, and a listing reads the number of a local back from its name.  Both are sound: a
slot has a name of its own (`Value.slotName_inj`), and the number that is read is the index, as long
as a numeral may have so many digits (`Listing.isOperandSlot_slotName`).
-/

set_option autoImplicit false

namespace SceneCode

namespace Value

variable {index other : Int} {constant : Constant} {value : Value}

/-- The values that are made for the slot with an index: a local at the frame pointer or above it,
or an argument below the saved frame. -/
inductive Built (index : Int) (constant : Constant) (value : Value) : Prop where
  | ofLocal (made : ofLocal index constant = .ok value)
  | ofArg (made : ofArg index constant = .ok value)

/-- The name of the slot with an index. -/
def slotName (index : Int) : String := if 0 ≤ index then localName index else argName index

theorem slotName_of_nonneg (nonneg : 0 ≤ index) : slotName index = localName index :=
  if_pos nonneg

theorem slotName_of_neg (negative : index < 0) : slotName index = argName index :=
  if_neg (Int.not_le.mpr negative)

theorem slotNumber_of_nonneg (nonneg : 0 ≤ index) : slotNumber index = index :=
  if_neg (by omega)

/-- The value of a slot is made exactly if the number in its name can be written. -/
theorem ofLocal_of_nonneg (nonneg : 0 ≤ index) (constant : Constant) :
    ofLocal index constant =
      if Text.isWritable (slotNumber index) then .ok (.slot (slotName index) constant)
      else .error .longNumeral := by
  rw [slotNumber_of_nonneg nonneg, slotName_of_nonneg nonneg, ofLocal,
    if_neg (Int.not_lt.mpr nonneg)]
  cases Text.isWritable index <;> rfl

theorem ofArg_of_le (low : index ≤ -2) (constant : Constant) :
    ofArg index constant =
      if Text.isWritable (slotNumber index) then .ok (.slot (slotName index) constant)
      else .error .longNumeral := by
  rw [slotName_of_neg (by omega), ofArg, if_neg (by omega : ¬ -1 ≤ index)]
  cases Text.isWritable (slotNumber index) <;> rfl

theorem nonneg_of_ofLocal (made : ofLocal index constant = .ok value) : 0 ≤ index := by
  by_contra negative
  rw [ofLocal, if_pos (Int.not_le.mp negative)] at made
  split at made <;> cases made

theorem le_of_ofArg (made : ofArg index constant = .ok value) : index ≤ -2 := by
  by_contra high
  rw [ofArg, if_pos (by omega : -1 ≤ index)] at made
  split at made <;> cases made

theorem ok_of_ite_iff {written : Bool} {name : String} :
    (if written then .ok (.slot name constant) else .error .longNumeral : Except Fault Value) =
      .ok value ↔ written = true ∧ value = .slot name constant := by
  cases written <;> simp [eq_comm]

/-- An index that is valid belongs to one slot, with one name. -/
theorem built_iff :
    Built index constant value ↔
      (0 ≤ index ∨ index ≤ -2) ∧ Text.isWritable (slotNumber index) = true ∧
        value = .slot (slotName index) constant := by
  constructor
  · rintro (made | made)
    · have nonneg := nonneg_of_ofLocal made
      rw [ofLocal_of_nonneg nonneg, ok_of_ite_iff] at made
      exact ⟨.inl nonneg, made⟩
    · have low := le_of_ofArg made
      rw [ofArg_of_le low, ok_of_ite_iff] at made
      exact ⟨.inr low, made⟩
  · rintro ⟨nonneg | low, made⟩
    · exact .ofLocal (by rw [ofLocal_of_nonneg nonneg, ok_of_ite_iff]; exact made)
    · exact .ofArg (by rw [ofArg_of_le low, ok_of_ite_iff]; exact made)

/-- Different slots have different names. -/
theorem slotName_inj (valid : 0 ≤ index ∨ index ≤ -2) (otherValid : 0 ≤ other ∨ other ≤ -2) :
    slotName index = slotName other ↔ index = other := by
  rcases valid with nonneg | low <;> rcases otherValid with otherNonneg | otherLow
  · rw [slotName_of_nonneg nonneg, slotName_of_nonneg otherNonneg]
    exact localName_inj nonneg otherNonneg
  · rw [slotName_of_nonneg nonneg, slotName_of_neg (by omega)]
    exact iff_of_false (localName_ne_argName index other) (by omega)
  · rw [slotName_of_neg (by omega), slotName_of_nonneg otherNonneg]
    exact iff_of_false (localName_ne_argName other index).symm (by omega)
  · rw [slotName_of_neg (by omega), slotName_of_neg (by omega)]
    exact argName_inj low otherLow

end Value

namespace Listing

/-- What a listing finds out from the name of a slot. -/
theorem isOperandSlot_slotName (index locals : Int) :
    isOperandSlot (Value.slotName index) locals =
      if index < 0 then .ok false
      else if Text.isWritable index then .ok (locals ≤ index)
      else .error (.longSlotNumber (Nat.toDigits 10 index.toNat).length) := by
  by_cases negative : index < 0
  · rw [if_pos negative, Value.slotName_of_neg negative, isOperandSlot_argName]
  · obtain ⟨number, rfl⟩ := Int.eq_ofNat_of_zero_le (Int.not_lt.mp negative)
    rw [if_neg negative, Value.slotName_of_nonneg (Int.not_lt.mp negative), isOperandSlot_numbered,
      Text.isWritable, Int.natAbs_natCast, Int.toNat_natCast]
    by_cases long : Text.digitLimit < (Nat.toDigits 10 number).length
    · simp [long]
    · simp [long, Nat.not_lt.mp long]

end Listing

/-- Slots are identified by their names.  A valid index makes one value, whatever constant the slot
holds, if the number in the name of the slot can be written, and else none.  Two such values denote
the same slot exactly if their indices are equal; and a listing takes a slot for an operand above
the locals exactly if it is one.  What cannot be written could not be read back from a name
either. -/
theorem slot_names_identify {index other : Int} (valid : 0 ≤ index ∨ index ≤ -2)
    (otherValid : 0 ≤ other ∨ other ≤ -2) (constant otherConstant : Constant) (locals : Int) :
    ∃ name otherName,
      (∀ value, Value.Built index constant value ↔
        Text.isWritable (Value.slotNumber index) = true ∧ value = .slot name constant) ∧
      (∀ value, Value.Built other otherConstant value ↔
        Text.isWritable (Value.slotNumber other) = true ∧
          value = .slot otherName otherConstant) ∧
      (Text.isWritable (Value.slotNumber index) = false →
        (0 ≤ index → Value.ofLocal index constant = .error .longNumeral) ∧
        (index ≤ -2 → Value.ofArg index constant = .error .longNumeral)) ∧
      Value.sameSlot? (.slot name constant) (.slot otherName otherConstant) =
        some (decide (index = other)) ∧
      Listing.isOperandSlot name locals =
        if index < 0 then .ok false
        else if Text.isWritable index then .ok (decide (locals ≤ index))
        else .error (.longSlotNumber (Nat.toDigits 10 index.toNat).length) := by
  refine ⟨Value.slotName index, Value.slotName other, ?_, ?_, ?_, ?_,
    Listing.isOperandSlot_slotName index locals⟩
  · intro value
    rw [Value.built_iff, and_iff_right valid]
  · intro value
    rw [Value.built_iff, and_iff_right otherValid]
  · intro long
    constructor
    · intro nonneg
      rw [Value.ofLocal_of_nonneg nonneg, long]
      rfl
    · intro low
      rw [Value.ofArg_of_le low, long]
      rfl
  · rw [Value.sameSlot?]
    exact congrArg some (decide_eq_decide.mpr (Value.slotName_inj valid otherValid))

/-- A local and an argument with the same number in their names. -/
theorem slot_names_identify_three :
    Value.Built 3 (.int 7) (.slot "local3" (.int 7)) ∧
      Value.Built (-5) .nil (.slot "arg3" .nil) ∧
      Value.sameSlot? (.slot "local3" (.int 7)) (.slot "arg3" .nil) = some false ∧
      Listing.isOperandSlot "local3" 2 = .ok true := by
  have localBuilt : Value.Built 3 (.int 7) (.slot "local3" (.int 7)) := .ofLocal rfl
  have argBuilt : Value.Built (-5) .nil (.slot "arg3" .nil) := .ofArg rfl
  obtain ⟨name, otherName, built, otherBuilt, _, same, operand⟩ :=
    slot_names_identify (.inl (by decide) : (0 : Int) ≤ 3 ∨ (3 : Int) ≤ -2)
      (.inr (by decide) : (0 : Int) ≤ -5 ∨ (-5 : Int) ≤ -2) (.int 7) .nil 2
  obtain ⟨rfl, -⟩ := Value.slot.inj ((built _).mp localBuilt).2
  obtain ⟨rfl, -⟩ := Value.slot.inj ((otherBuilt _).mp argBuilt).2
  exact ⟨localBuilt, argBuilt, same, operand⟩

/-- The least number with more digits than can be written is an index of no local that can be made,
since its name cannot be written; nor can its number be read from such a name, not even to see that
it is zero at least. -/
theorem long_slot_number_refused :
    Value.ofLocal (Nat.pow 10 Text.digitLimit : Nat) .nil = .error .longNumeral ∧
      Listing.isOperandSlot (Value.localName (Nat.pow 10 Text.digitLimit : Nat)) 0 =
        .error (.longSlotNumber 4301) := by
  have digits := Text.length_toDigits_pow Text.digitLimit_pos
  have long : Text.isWritable (Nat.pow 10 Text.digitLimit : Nat) = false := by
    rw [Text.isWritable, Int.natAbs_natCast, digits]
    decide
  have nonneg := Int.natCast_nonneg (Nat.pow 10 Text.digitLimit)
  constructor
  · rw [Value.ofLocal_of_nonneg nonneg, Value.slotNumber_of_nonneg nonneg, long]
    rfl
  · rw [Listing.isOperandSlot_numbered, digits]
    rfl

end SceneCode
