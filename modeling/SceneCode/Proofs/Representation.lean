import Mathlib
import SceneCode.Proofs.Acceptance
import SceneCode.Proofs.Document
import SceneCode.Proofs.Layout
import SceneCode.Proofs.Lines

/-!
# Exported programs as JSON

The document of a program that was disassembled has every key of an object once, and its integers
are operands, addresses and counts, so they are short.  Its numbers are those that the program
pushes.  It is standard JSON exactly if they are finite, and then it is read back from its text
(`export_representable`).
-/

set_option autoImplicit false

namespace SceneCode

open Number (Binary64)

/-! ## Results -/

/-- If there is a result, it satisfies the condition. -/
def Yields {ε α : Type} (holds : α → Prop) (result : Except ε α) : Prop :=
  ∀ value, result = .ok value → holds value

namespace Yields

variable {ε α β : Type} {holds : α → Prop} {holdsNext : β → Prop}

theorem pure {value : α} (here : holds value) : Yields holds (Pure.pure value : Except ε α) := by
  rintro _ ⟨⟩
  exact here

theorem bind {first : Except ε α} {next : α → Except ε β} (yields : Yields holds first)
    (nextYields : ∀ value, holds value → Yields holdsNext (next value)) :
    Yields holdsNext (first >>= next) := by
  cases first with
  | error fault =>
      rintro _ ⟨⟩
  | ok value => exact nextYields value (yields value rfl)

theorem mapM {step : α → Except ε β} {items : List α}
    (each : ∀ item ∈ items, Yields holdsNext (step item)) :
    Yields (fun results => ∀ result ∈ results, holdsNext result) (items.mapM step) := by
  induction items with
  | nil => exact .pure (by simp)
  | cons item rest ih =>
      obtain ⟨here, others⟩ := List.forall_mem_cons.mp each
      rw [List.mapM_cons]
      exact here.bind fun first holdsFirst => (ih others).bind fun results holdsRest =>
        .pure (List.forall_mem_cons.mpr ⟨holdsFirst, holdsRest⟩)

end Yields

/-! ## Values -/

namespace Export

open Json (Formed)

theorem formed_int {number : Binary64 → Prop} {value : Int} (small : value.natAbs < 10000000000) :
    Formed number (.int value) :=
  .int (Text.length_toDigits_le small)

/-- Members of an object with the keys and the values that are listed. -/
theorem formed_obj {number : Binary64 → Prop} {members : List (String × Json)}
    (distinct : (members.map Prod.fst).Nodup)
    (each : (members.map Prod.snd).Forall (Formed number)) : Formed number (.obj members) :=
  .obj distinct fun member listed =>
    List.forall_iff_forall_mem.mp each member.2 (List.mem_map_of_mem listed)

variable {scenario : Scenario} {given : Instruction → Prop}

/-- The number is pushed by one of the instructions. -/
def Pushed (scenario : Scenario) (given : Instruction → Prop) (value : Binary64) : Prop :=
  (Constant.float value).Pushed scenario given

theorem formed_constant {value : Constant} (pushed : value = .nil ∨ value.Pushed scenario given) :
    Formed (Pushed scenario given) (constant value) := by
  cases value with
  | nil => exact formed_obj (by simp) ⟨.str _, .null⟩
  | truth => exact formed_obj (by simp) ⟨.str _, .bool _⟩
  | text value => exact formed_obj (by simp) ⟨.str _, .str _⟩
  | float value => exact formed_obj (by simp) ⟨.str _, .float (pushed.resolve_left (by simp))⟩
  | int value =>
      refine formed_obj (by simp) ⟨.str _, formed_int ?_⟩
      obtain ⟨instruction, _, pushes⟩ := pushed.resolve_left (by simp)
      cases instruction with
      | pushI32 operand | pushI16 operand | pushI8 operand =>
          cases pushes
          have low := operand.le_toInt
          have high := operand.toInt_lt
          omega
      | _ => cases pushes

variable {locals : Int} {value : Value → Except OutputFault Json}

/-- The fields of an action have keys of their own, besides that of the address. -/
theorem yields_fields {action : Action} (made : action.Made scenario given locals)
    (each : ∀ operand : Value, operand.Made scenario given locals →
      Yields (Formed (Pushed scenario given)) (value operand)) :
    Yields (fun members => ("address" :: members.map Prod.fst).Nodup ∧
      (members.map Prod.snd).Forall (Formed (Pushed scenario given))) (fields value action) := by
  cases made with
  | call target args =>
      refine (Yields.mapM fun operand used => each operand (args operand used)).bind
        fun documents formed => .pure ⟨by simp, .str _, formed_int ?_, .arr formed⟩
      have := target.toNat_lt
      omega
  | syscall listed args =>
      refine (Yields.mapM fun operand used => each operand (args operand used)).bind
        fun documents formed => .pure ⟨by simp, .str _, .str _, .arr formed⟩
  | ret hasValue => exact .pure ⟨by simp, .str _, .bool _⟩
  | jump target =>
      refine .pure ⟨by simp, .str _, formed_int ?_⟩
      have := target.toNat_lt
      omega
  | branch target condition =>
      refine (each _ condition).bind fun document formed =>
        .pure ⟨by simp, .str _, formed_int ?_, formed⟩
      have := target.toNat_lt
      omega
  | globalEntry table key =>
      exact (each _ (.global table)).bind fun _ tableFormed => (each _ key).bind fun _ keyFormed =>
        .pure ⟨by simp, .str _, tableFormed, keyFormed⟩
  | localEntry table key =>
      exact (each _ (.slot table)).bind fun _ tableFormed => (each _ key).bind fun _ keyFormed =>
        .pure ⟨by simp, .str _, tableFormed, keyFormed⟩
  | unary operator operand =>
      exact (each _ operand).bind fun _ formed => .pure ⟨by simp, .str _, .str _, formed⟩
  | binary operator left right =>
      exact (each _ left).bind fun _ leftFormed => (each _ right).bind fun _ rightFormed =>
        .pure ⟨by simp, .str _, .str _, leftFormed, rightFormed⟩
  | assign target source =>
      exact (each _ target).bind fun _ targetFormed => (each _ source).bind fun _ sourceFormed =>
        .pure ⟨by simp, .str _, targetFormed, sourceFormed⟩

theorem yields_statementWith {s : Statement} (made : s.Made scenario given locals)
    (early : scenario.streamEnd < 10000000000)
    (each : ∀ operand : Value, operand.Made scenario given locals →
      Yields (Formed (Pushed scenario given)) (value operand)) :
    Yields (Formed (Pushed scenario given)) (statementWith value s) := by
  obtain ⟨nonneg, before, action⟩ := made
  refine (yields_fields action each).bind fun members ⟨distinct, formed⟩ => .pure ?_
  exact formed_obj distinct ((List.forall_cons _ _ _).mpr ⟨formed_int (by omega), formed⟩)

variable {routine : Routine}

theorem yields_slot (fuel : Nat) (name : String) {content : Constant}
    (pushed : content = .nil ∨ content.Pushed scenario given) :
    Yields (Formed (Pushed scenario given)) (valueWithin routine fuel (.slot name content)) := by
  rw [valueWithin]
  exact .pure (formed_obj (by simp) ⟨.str _, .str _, formed_constant pushed⟩)

theorem yields_leaf (fuel : Nat) {v : Value} (made : v.Made scenario given routine.locals)
    (leaf : ∀ index, v ≠ .expr index) :
    Yields (Formed (Pushed scenario given)) (valueWithin routine fuel v) := by
  cases made with
  | constant _ _ _ pushed => exact yields_slot fuel _ (.inr pushed)
  | slot named => cases named <;> exact yields_slot fuel _ (.inl rfl)
  | global index =>
      rw [valueWithin]
      refine .pure (formed_obj (by simp) ⟨.str _, formed_int ?_⟩)
      have := index.toNat_lt
      omega
  | result =>
      rw [valueWithin]
      exact .pure (formed_obj (by simp) (Formed.str _))
  | expression index => exact absurd rfl (leaf index)

/-- The document of a value, by induction on the number of expressions that are passed through. -/
theorem yields_valueWithin (early : scenario.streamEnd < 10000000000)
    (arena : ∀ s ∈ routine.arena.toList, s.Made scenario given routine.locals) (fuel : Nat) :
    ∀ v : Value, v.Made scenario given routine.locals →
      Yields (Formed (Pushed scenario given)) (valueWithin routine fuel v) := by
  induction fuel with
  | zero =>
      intro v made
      cases v with
      | expr index =>
          intro document written
          unfold valueWithin at written
          split at written <;> cases written
      | _ => exact yields_leaf 0 made (by simp)
  | succ fuel ih =>
      intro v made
      cases v with
      | expr index =>
          rw [valueWithin]
          split
          · rintro _ ⟨⟩
          · rename_i s located
            obtain ⟨_, _, there⟩ := Routine.stored_of_statementAt? located
            have stored := Array.mem_toList_iff.mpr (Array.mem_of_getElem? there)
            exact (yields_statementWith (arena s stored) early ih).bind fun inner formed =>
              .pure (formed_obj (by simp) ⟨.str _, formed⟩)
      | _ => exact yields_leaf _ made (by simp)

/-! ## Routines and programs -/

theorem yields_routine (early : scenario.streamEnd < 10000000000) {address : Int}
    (placed : 0 ≤ address ∧ address < scenario.streamEnd) {args locals : UInt8}
    (argsSame : routine.args = args.toNat) (localsSame : routine.locals = locals.toNat)
    (arena : ∀ s ∈ routine.arena.toList, s.Made scenario given routine.locals) :
    Yields (Formed (Pushed scenario given)) (Export.routine address routine) := by
  unfold Export.routine
  split
  · rintro _ ⟨⟩
  · rename_i statements listed
    have argsByte := args.toNat_lt
    have localsByte := locals.toNat_lt
    refine (Yields.mapM fun s member => ?_).bind fun items formed =>
      .pure (formed_obj (by simp) ⟨formed_int (by omega), formed_int (by omega),
        formed_int (by omega), .arr formed⟩)
    have stored := Routine.mem_of_statements? listed s member
    exact yields_statementWith (arena s stored) early (yields_valueWithin early arena _)

end Export

/-- A routine of the program pushes the single-precision number with these bits. -/
def Program.Pushes (program : Program) (blob : Blob) (bits : UInt32) : Prop :=
  ∃ owner ∈ program.routines.keys, ∃ args locals body,
    program.HasBody blob owner args locals body ∧ .pushF32 bits ∈ body

theorem pushes_of_pushed {scenario : Scenario} {program : Program} {owner : Int}
    {args locals : UInt8} {body : List Instruction} {value : Binary64}
    (known : owner ∈ program.routines.keys)
    (hasBody : program.HasBody scenario.blob owner args locals body)
    (pushed : Export.Pushed scenario (· ∈ body) value) :
    ∃ bits, program.Pushes scenario.blob bits ∧ value = Binary64.ofBinary32 bits.toNat := by
  obtain ⟨instruction, listed, pushes⟩ := pushed
  cases instruction with
  | pushF32 bits =>
      cases pushes
      exact ⟨bits, ⟨owner, known, args, locals, body, hasBody, listed⟩, rfl⟩
  | _ => cases pushes

/-- The last instruction starts inside the stream and is not long. -/
theorem Decoding.endOffset_lt {scenario : Scenario} {program : Program} {found final : Decoder}
    {visited : List Decoder} (decoding : Decoding scenario program found visited final) :
    0 ≤ program.endOffset ∧ program.endOffset < 10000000000 := by
  have early : scenario.streamEnd < 4294967296 := decoding.early
  have start := decoding.tiles.le
  refine ⟨by simp only [streamStart] at start; omega, ?_⟩
  by_cases empty : visited = []
  · have tiles := decoding.tiles
    subst empty
    have same : (streamStart : Int) = program.endOffset := tiles
    simp only [streamStart] at same
    omega
  · obtain ⟨address, member, length, found, ends⟩ := decoding.tiles.exists_last (by simpa)
    obtain ⟨decoder, visits, rfl⟩ := List.mem_map.mp member
    have before := decoding.walk.cursor_lt decoder visits
    have short := Scenario.lengthAt?_le found
    omega

theorem Scenario.entryPoint_lt {blob : Blob} {encoding : Encoding} {scenario : Scenario}
    (parsed : Scenario.parse blob encoding = .ok scenario) :
    scenario.entryPoint < Nat.pow 256 4 := by
  rw [Scenario.parse_eq_map] at parsed
  cases read : Scenario.parseRaw blob with
  | error fault => simp [read, Except.map] at parsed
  | ok raw =>
      rw [read] at parsed
      cases parsed
      obtain ⟨layout, _, _, described⟩ := Scenario.parseRaw_eq_ok_iff.mp read
      have fits := layout.preambleFits.entryPoint
      have same : layout.preamble = raw.2.preamble := congrArg RawDescription.preamble described
      rw [same] at fits
      exact fits

theorem Export.yields_program {scenario : Scenario} {program : Program} {found final : Decoder}
    {visited : List Decoder} (decoding : Decoding scenario program found visited final)
    (entry : 0 ≤ program.entryPoint ∧ program.entryPoint < 10000000000) :
    Yields (Json.Formed fun value =>
        ∃ bits, program.Pushes scenario.blob bits ∧ value = Binary64.ofBinary32 bits.toNat)
      (Export.program program) := by
  have early : scenario.streamEnd < 4294967296 := decoding.early
  obtain ⟨nonneg, small⟩ := decoding.endOffset_lt
  refine (Yields.mapM fun routine member => ?_).bind fun routines formed =>
    .pure (formed_obj (by simp) ⟨.str _, formed_int (by omega), formed_int (by omega),
      .arr formed⟩)
  have known : program.routine? routine.1 = some routine.2 :=
    OrderedMap.find?_of_mem (program.routines.sorted_perm.mem_iff.mp member)
  have listed : routine.1 ∈ program.routines.keys :=
    List.mem_map_of_mem (OrderedMap.mem_of_find? known)
  obtain ⟨args, locals, body, hasBody, argsSame, localsSame, placed, made⟩ := decoding.made known
  intro document written
  refine (yields_routine (by omega) placed argsSame localsSame made document written).mono ?_
  exact fun value pushed => pushes_of_pushed listed hasBody pushed

/-! ## Numbers that are not finite -/

namespace Number.Binary64

theorem biasedExponent_assemble (negative : Bool) {exponent fraction : Nat}
    (small : exponent < 2048) (below : fraction < leadingBit) :
    (assemble negative exponent fraction).biasedExponent = exponent := by
  have whole : (assemble negative exponent fraction).bits.toNat =
      (if negative then signBit else 0) + exponent * leadingBit + fraction := by
    simp only [assemble, Nat.toUInt64_eq, UInt64.toNat_ofNat']
    refine Nat.mod_eq_of_lt ?_
    simp only [leadingBit, signBit] at below ⊢
    split <;> omega
  unfold biasedExponent
  rw [whole]
  simp only [leadingBit, signBit] at below ⊢
  split <;> omega

/-- The leading bit of a subnormal fraction becomes the one that is not stored. -/
theorem widened_lt {fraction : Nat} (nonzero : fraction ≠ 0) (small : fraction < 0x800000) :
    fraction.log2 < 23 ∧
      fraction * Nat.pow 2 (52 - fraction.log2) - leadingBit < leadingBit := by
  have top : fraction.log2 < 23 := (Nat.log2_lt nonzero).mpr small
  refine ⟨top, ?_⟩
  have bound : fraction * 2 ^ (52 - fraction.log2) < 2 * leadingBit :=
    calc fraction * 2 ^ (52 - fraction.log2)
        < 2 ^ (fraction.log2 + 1) * 2 ^ (52 - fraction.log2) :=
          Nat.mul_lt_mul_of_pos_right Nat.lt_log2_self (Nat.pow_pos (by decide))
      _ = 2 ^ 53 := by
          rw [← Nat.pow_add]
          congr 1
          omega
      _ = 2 * leadingBit := by decide
  have same : Nat.pow 2 (52 - fraction.log2) = 2 ^ (52 - fraction.log2) := rfl
  rw [same]
  omega

/-- A single-precision number stays finite when it is widened, and no other becomes finite. -/
theorem finite_ofBinary32_iff (word : Nat) :
    (ofBinary32 word).Finite ↔ word / 0x800000 % 256 ≠ 255 := by
  have fraction : word % 0x800000 < 0x800000 := Nat.mod_lt _ (by decide)
  have exponent : word / 0x800000 % 256 < 256 := Nat.mod_lt _ (by decide)
  have wide : word % 0x800000 * 0x20000000 < leadingBit := by
    simp only [leadingBit]
    omega
  unfold Finite ofBinary32
  dsimp only
  generalize word / 0x800000 % 256 = exponent at *
  generalize word % 0x800000 = fraction at *
  split_ifs with special normal zero
  · rw [biasedExponent_assemble _ (by decide) wide]
    simp [special]
  · rw [biasedExponent_assemble _ (by omega) wide]
    simp only [specialExponent]
    omega
  · rw [biasedExponent_assemble _ (by decide) (by decide)]
    simpa using special
  · obtain ⟨top, below⟩ := widened_lt zero (by assumption)
    rw [biasedExponent_assemble _ (by omega) below]
    simp only [specialExponent]
    omega

end Number.Binary64

/-! ## The document -/

/-- What the exported document of a program that was disassembled holds.  There always is one.  Its
floating-point numbers are those that the program pushes, widened, and one of them is not finite
exactly if its bits are those of an infinity or a NaN.  The document is standard JSON exactly if all
of them are finite, and then a reader that goes deep enough reads it back from its text. -/
theorem export_representable (blob : Blob) (encoding : Encoding) (program : Program)
    (decoded : disassemble blob encoding = .ok program) :
    ∃ document, Export.program program = .ok document ∧
      (∀ value ∈ document.floats, ∃ bits : UInt32, program.Pushes blob bits ∧
        value = Binary64.ofBinary32 bits.toNat ∧
        (value.Finite ↔ bits.toNat / 0x800000 % 256 ≠ 255)) ∧
      (document.Standard ↔ ∀ value ∈ document.floats, value.Finite) ∧
      (document.Standard → ∀ depth, document.depth ≤ depth →
        Json.parseWithin depth document.text = .ok document) := by
  obtain ⟨scenario, found, visited, final, parsed, decoding⟩ := exists_decoding decoded
  obtain ⟨other, _, _, otherParsed, _, _, same⟩ := passes_of_disassemble decoded
  have blobSame := (Scenario.facts_of_parse parsed).1
  have entry : 0 ≤ program.entryPoint ∧ program.entryPoint < 10000000000 := by
    have bound : other.entryPoint < 4294967296 := Scenario.entryPoint_lt otherParsed
    rw [same]
    dsimp only
    omega
  obtain ⟨document, written⟩ : Succeeds (Export.program program) := by
    refine Succeeds.bind (Succeeds.mapM fun entry member => ?_) fun routines => .pure _
    obtain ⟨tree, read⟩ := (readable_of_disassemble decoded).sorted member
    exact Export.succeeds_routine read
  have formed := Export.yields_program decoding entry document written
  rw [blobSame] at formed
  refine ⟨document, written, fun value inside => ?_, formed.standard_iff,
    fun standard depth deep => standard.parseWithin_text deep⟩
  obtain ⟨bits, pushes, rfl⟩ := formed.floats value inside
  exact ⟨bits, pushes, rfl, Binary64.finite_ofBinary32_iff _⟩

/-- A file with one routine, which stores in global 0 the single-precision number with these
bytes. -/
def numberFile (first second third fourth : UInt8) : Blob :=
  #[0x0F, 0, 0, 0,
    0x01, 0, 0,  0x0D, first, second, third, fourth,  0x15, 0, 0,
    4, 0, 0, 0,  0, 0,  0, 0,  0, 0,  0,  0, 0]

/-- The numbers and the depth of the document of a file. -/
def exported (blob : Blob) : Option (List Binary64 × Nat) :=
  (disassemble blob .utf8).toOption.bind fun program =>
    (Export.program program).toOption.map fun document => (document.floats, document.depth)

theorem exists_document {blob : Blob} {floats : List Binary64} {depth : Nat}
    (shown : exported blob = some (floats, depth)) :
    ∃ program document, disassemble blob .utf8 = .ok program ∧
      Export.program program = .ok document ∧ document.floats = floats ∧
      document.depth = depth := by
  obtain ⟨program, decoded, shown⟩ := Option.bind_eq_some_iff.mp shown
  obtain ⟨document, written, same⟩ := Option.map_eq_some_iff.mp shown
  exact ⟨program, document, eq_ok_of_toOption decoded, eq_ok_of_toOption written,
    congrArg Prod.fst same, congrArg Prod.snd same⟩

/-- The number nearest to a tenth is read back. -/
theorem export_representable_tenth :
    ∃ program document, disassemble (numberFile 0xCD 0xCC 0xCC 0x3D) .utf8 = .ok program ∧
      Export.program program = .ok document ∧ document.Standard ∧
      Json.parse document.text = .ok document := by
  have shown : exported (numberFile 0xCD 0xCC 0xCC 0x3D) =
      some ([Binary64.ofBinary32 0x3DCCCCCD], 7) := by
    decide +kernel
  obtain ⟨program, document, decoded, written, floats, depth⟩ := exists_document shown
  obtain ⟨other, otherWritten, _, standardIff, readBack⟩ :=
    export_representable _ .utf8 program decoded
  obtain rfl : document = other := Except.ok.inj (written.symm.trans otherWritten)
  have standard : document.Standard := standardIff.mpr (by rw [floats]; decide +kernel)
  exact ⟨program, document, decoded, written, standard,
    readBack standard Json.depthLimit (by rw [depth]; decide)⟩

/-- A NaN goes into the document as it is, which is not standard JSON then and not equal to
itself. -/
theorem nan_exported :
    ∃ program document, disassemble (numberFile 0 0 0xC0 0x7F) .utf8 = .ok program ∧
      Export.program program = .ok document ∧
      (∃ value ∈ document.floats, ¬ value.Finite ∧ value.sameNumber value = false) ∧
      ¬ document.Standard := by
  have shown : exported (numberFile 0 0 0xC0 0x7F) = some ([Binary64.quietNaN], 7) := by
    decide +kernel
  obtain ⟨program, document, decoded, written, floats, _⟩ := exists_document shown
  have special : ¬ Binary64.quietNaN.Finite := by decide +kernel
  refine ⟨program, document, decoded, written,
    ⟨Binary64.quietNaN, by simp [floats], special, by decide +kernel⟩, fun standard => ?_⟩
  exact special (standard.floats _ (by simp [floats]))

end SceneCode
