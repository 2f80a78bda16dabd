import Mathlib.Data.List.Sort
import SceneCode.Proofs.Labels

/-!
# The order of the routines in the outputs

The table of a program remembers the order in which its routines were entered.  Neither output shows
it: both go through the routines by increasing address, and there is only one such order
(`Program.InOrder.unique`), so programs with the same routines are written alike.

After a disassembly this is the order in which the routines start in the stream.
-/

set_option autoImplicit false

namespace SceneCode

/-- The routines of a program by increasing address, each of them once. -/
structure Program.InOrder (program : Program) (order : List (Int × Routine)) : Prop where
  ascending : order.Pairwise fun first second => first.1 < second.1
  complete : ∀ address routine,
    (address, routine) ∈ order ↔ program.routine? address = some routine

/-- Programs that differ in the order of their tables at most. -/
structure Program.SameRoutines (first second : Program) : Prop where
  entryPoint : first.entryPoint = second.entryPoint
  title : first.title = second.title
  endOffset : first.endOffset = second.endOffset
  routines : ∀ address, first.routine? address = second.routine? address

namespace Program

theorem inOrder_sorted (program : Program) : program.InOrder program.routines.sorted where
  ascending := by
    have weakly := program.routines.pairwise_sorted
    have distinct : (program.routines.sorted.map Prod.fst).Nodup :=
      (program.routines.sorted_perm.map Prod.fst).nodup_iff.mpr program.routines.distinct
    refine weakly.imp₂ ?_ (List.pairwise_map.mp distinct)
    intro first second atMost different
    omega
  complete := by
    intro address routine
    rw [program.routines.sorted_perm.mem_iff]
    exact ⟨OrderedMap.find?_of_mem, OrderedMap.mem_of_find?⟩

/-- Programs that answer alike have one order. -/
theorem InOrder.unique {first second : Program} {order other : List (Int × Routine)}
    (same : ∀ address, first.routine? address = second.routine? address)
    (inOrder : first.InOrder order) (otherInOrder : second.InOrder other) : order = other := by
  apply List.Pairwise.eq_of_mem_iff (r := InvImage (· < ·) Prod.fst) inOrder.ascending
    otherInOrder.ascending
  rintro ⟨address, routine⟩
  rw [inOrder.complete, otherInOrder.complete, same]

theorem InOrder.mem_addresses {program : Program} {order : List (Int × Routine)}
    (inOrder : program.InOrder order) {address : Int} :
    address ∈ order.map Prod.fst ↔ address ∈ program.routines.keys := by
  constructor
  · intro member
    obtain ⟨⟨_, routine⟩, listed, rfl⟩ := List.mem_map.mp member
    have found := (inOrder.complete _ _).mp listed
    exact List.mem_map_of_mem (OrderedMap.mem_of_find? found)
  · intro member
    obtain ⟨⟨_, routine⟩, listed, rfl⟩ := List.mem_map.mp member
    have found := OrderedMap.find?_of_mem listed
    exact List.mem_map_of_mem ((inOrder.complete _ _).mpr found)

theorem SameRoutines.sorted {first second : Program} (same : first.SameRoutines second) :
    first.routines.sorted = second.routines.sorted :=
  first.inOrder_sorted.unique same.routines second.inOrder_sorted

theorem SameRoutines.size {first second : Program} (same : first.SameRoutines second) :
    first.size = second.size :=
  calc first.routines.entries.length
      = first.routines.sorted.length := first.routines.sorted_perm.length_eq.symm
    _ = second.routines.sorted.length := by rw [same.sorted]
    _ = second.routines.entries.length := second.routines.sorted_perm.length_eq

end Program

/-- Where every result of a step is what a part is written as, so are the results of a list. -/
theorem exists_parts {α β γ : Type} (source : γ → α) (written : γ → β) (holds : γ → Prop)
    {step : α → Except OutputFault β}
    (each : ∀ item result, step item = .ok result →
      ∃ part, source part = item ∧ written part = result ∧ holds part)
    {items : List α} {results : List β} (ran : items.mapM step = .ok results) :
    ∃ parts : List γ, parts.map source = items ∧ parts.map written = results ∧
      ∀ part ∈ parts, holds part := by
  obtain ⟨pairs, rfl, rfl, steps⟩ := Listing.exists_pairs_of_mapM ran
  clear ran
  induction pairs with
  | nil => exact ⟨[], rfl, rfl, by simp⟩
  | cons pair rest ih =>
      obtain ⟨here, later⟩ := List.forall_mem_cons.mp steps
      obtain ⟨part, item, result, holdsHere⟩ := each pair.1 pair.2 here
      obtain ⟨parts, items, results, holdsLater⟩ := ih later
      exact ⟨part :: parts, by simp [item, items], by simp [result, results],
        List.forall_mem_cons.mpr ⟨holdsHere, holdsLater⟩⟩

/-! ## Listings -/

namespace Listing

theorem render_of_sameRoutines {first second : Program} (same : first.SameRoutines second)
    (symbols : SymbolTable) : render symbols first = render symbols second := by
  have headers : header first = header second := by
    unfold header
    rw [same.title, same.entryPoint, same.endOffset, same.size]
  unfold render lines
  rw [headers, same.sorted, same.entryPoint]

/-- A listing shows these blocks one behind the other. -/
structure MadeInOrder (symbols : SymbolTable) (program : Program) (text : String)
    (order : List (Int × Routine)) (blocks : List Block) : Prop where
  routines : blocks.map (fun block => (block.address, block.routine)) = order
  shows : ∀ block ∈ blocks, block.Shows symbols program.entryPoint
  text : text = joined (header program ++ blocks.flatMap Block.text)

theorem exists_madeInOrder {symbols : SymbolTable} {program : Program} {text : String}
    (rendered : render symbols program = .ok text) :
    ∃ blocks, MadeInOrder symbols program text program.routines.sorted blocks := by
  obtain ⟨all, listed, ended⟩ := exists_of_bind rendered
  obtain ⟨texts, ran, made⟩ := exists_of_bind listed
  cases made
  cases ended
  have each : ∀ (entry : Int × Routine) text,
      routineLines symbols program.entryPoint entry.1 entry.2 = .ok text →
      ∃ block : Block, (block.address, block.routine) = entry ∧ block.text = text ∧
        block.Shows symbols program.entryPoint := by
    intro entry text written
    obtain ⟨block, same, address, routine, shows⟩ := exists_block written
    exact ⟨block, Prod.ext address routine, same, shows⟩
  obtain ⟨blocks, routines, rfl, shows⟩ := exists_parts _ _ _ each ran
  exact ⟨blocks, routines, shows, by rw [List.flatMap_def]; rfl⟩

end Listing

/-! ## Documents -/

namespace Export

theorem program_of_sameRoutines {first second : Program} (same : first.SameRoutines second) :
    program first = program second := by
  unfold program
  rw [same.sorted, same.entryPoint, same.title, same.endOffset]

/-- What a document holds of a routine: its counts, and for every statement its document. -/
structure Section where
  address : Int
  routine : Routine
  items : List (Statement × Json)

namespace Section

def document (part : Section) : Json :=
  .obj [("address", .int part.address), ("args_count", .int part.routine.args),
    ("locals_count", .int part.routine.locals), ("statements", .arr (part.items.map Prod.snd))]

/-- The items are those that the statements of the routine are exported as. -/
structure Shows (part : Section) : Prop where
  statements : part.routine.statements? = some (part.items.map Prod.fst)
  items : ∀ item ∈ part.items, statement part.routine item.1 = .ok item.2

end Section

theorem exists_section {address : Int} {r : Routine} {written : Json}
    (exported : routine address r = .ok written) :
    ∃ part : Section, (part.address, part.routine) = (address, r) ∧
      part.document = written ∧ part.Shows := by
  unfold routine at exported
  cases listed : r.statements? with
  | none =>
      rw [listed] at exported
      cases exported
  | some statements =>
      rw [listed] at exported
      obtain ⟨documents, ran, made⟩ := Listing.exists_of_bind exported
      cases made
      obtain ⟨items, rfl, rfl, each⟩ := Listing.exists_pairs_of_mapM ran
      exact ⟨⟨address, r, items⟩, rfl, rfl, listed, each⟩

/-- A document holds these sections one behind the other. -/
structure MadeInOrder (program : Program) (document : Json) (order : List (Int × Routine))
    (sections : List Section) : Prop where
  routines : sections.map (fun part => (part.address, part.routine)) = order
  shows : ∀ part ∈ sections, part.Shows
  document : document = .obj [("title", .str program.title),
    ("entry_point", .int program.entryPoint), ("end_offset", .int program.endOffset),
    ("routines", .arr (sections.map Section.document))]

theorem exists_madeInOrder {p : Program} {document : Json} (exported : program p = .ok document) :
    ∃ sections, MadeInOrder p document p.routines.sorted sections := by
  obtain ⟨documents, ran, made⟩ := Listing.exists_of_bind exported
  cases made
  obtain ⟨sections, routines, rfl, shows⟩ := exists_parts
    (fun part : Section => (part.address, part.routine)) Section.document Section.Shows
    (fun _ _ written => exists_section written) ran
  exact ⟨sections, routines, shows, rfl⟩

end Export

/-! ## The order of the stream -/

/-- The routines are those that start at the instructions of a file, one behind the other from the
start of the stream to the end of the program. -/
def Program.FollowsStream (program : Program) (blob : Blob) (encoding : Encoding)
    (order : List (Int × Routine)) : Prop :=
  ∃ scenario addresses, Scenario.parse blob encoding = .ok scenario ∧
    scenario.Tiles streamStart addresses program.endOffset ∧
    order.map Prod.fst =
      addresses.filter fun address => scenario.opcodeAt? address = some .initStack

theorem Program.InOrder.followsStream {blob : Blob} {encoding : Encoding} {program : Program}
    {order : List (Int × Routine)} (inOrder : program.InOrder order)
    (decoded : disassemble blob encoding = .ok program) :
    program.FollowsStream blob encoding order := by
  obtain ⟨scenario, passed, last, visited, final, parsed, discovered, discovery, walk, _, tiles,
    rfl⟩ := walks_of_disassemble decoded
  refine ⟨scenario, passed.map Decoder.cursor, parsed, tiles, ?_⟩
  apply List.Pairwise.eq_of_mem_iff (r := (· < ·)) (List.pairwise_map.mpr inOrder.ascending)
    (tiles.ascending.1.filter _)
  intro address
  rw [inOrder.mem_addresses, keys_of_interpretation discovered walk, List.mem_filter,
    decide_eq_true_iff]
  exact mem_keys_of_discovery discovery

/-- The outputs do not depend on the order in which routines were entered into the table of a
program.  Both show the routines by increasing address, each of them once, and of every routine the
statements in the order of its body.  If the program was disassembled, this is the order in which
the routines start in the stream. -/
theorem output_by_address (first second : Program) (same : first.SameRoutines second) :
    (∀ symbols, Listing.render symbols first = Listing.render symbols second) ∧
    Export.program first = Export.program second ∧
    ∃ order, first.InOrder order ∧
      (∀ symbols text, Listing.render symbols first = .ok text →
        ∃ blocks, Listing.MadeInOrder symbols first text order blocks) ∧
      (∀ document, Export.program first = .ok document →
        ∃ sections, Export.MadeInOrder first document order sections) ∧
      ∀ blob encoding, disassemble blob encoding = .ok first →
        first.FollowsStream blob encoding order := by
  refine ⟨Listing.render_of_sameRoutines same, Export.program_of_sameRoutines same,
    first.routines.sorted, first.inOrder_sorted, ?_, ?_, ?_⟩
  · exact fun symbols text rendered => Listing.exists_madeInOrder rendered
  · exact fun document exported => Export.exists_madeInOrder exported
  · exact fun blob encoding decoded => first.inOrder_sorted.followsStream decoded

/-- The table with its routines in the opposite order. -/
def RoutineTable.reversed (table : RoutineTable) : RoutineTable :=
  ⟨table.entries.reverse, by
    rw [List.map_reverse]
    exact List.nodup_reverse.mpr table.distinct⟩

theorem sameRoutines_reversed (program : Program) :
    program.SameRoutines { program with routines := program.routines.reversed } where
  entryPoint := rfl
  title := rfl
  endOffset := rfl
  routines address := by
    have entries : ∀ entry, entry ∈ program.routines.reversed.entries ↔
        entry ∈ program.routines.entries := fun entry => List.mem_reverse
    apply Option.ext
    intro routine
    constructor
    · intro found
      exact OrderedMap.find?_of_mem ((entries _).mpr (OrderedMap.mem_of_find? found))
    · intro found
      exact OrderedMap.find?_of_mem ((entries _).mp (OrderedMap.mem_of_find? found))

/-- A listing and a document of two routines, in the order of the stream whichever of them was
entered first. -/
theorem output_by_address_call :
    ∃ (first second : Program) (order : List (Int × Routine)) (text : String)
      (blocks : List Listing.Block) (document : Json) (sections : List Export.Section),
      disassemble callFile .utf8 = .ok first ∧
      first.routines.keys = [4, 15] ∧ second.routines.keys = [15, 4] ∧
      first.SameRoutines second ∧
      first.InOrder order ∧ first.FollowsStream callFile .utf8 order ∧
      Listing.render OrderedMap.empty first = .ok text ∧
      Listing.render OrderedMap.empty second = .ok text ∧
      Listing.MadeInOrder OrderedMap.empty first text order blocks ∧
      blocks.map Listing.Block.address = [4, 15] ∧
      Export.program first = .ok document ∧ Export.program second = .ok document ∧
      Export.MadeInOrder first document order sections ∧
      sections.map Export.Section.address = [4, 15] := by
  have decodes : (disassemble callFile .utf8).toOption.map (fun program =>
      (program.routines.keys, program.routines.reversed.keys)) = some ([4, 15], [15, 4]) := by
    decide +kernel
  obtain ⟨first, decoded, keys⟩ := Option.map_eq_some_iff.mp decodes
  obtain ⟨ahead, back⟩ := Prod.mk.inj keys
  have success := eq_ok_of_toOption decoded
  have readable := readable_of_disassemble success
  obtain ⟨text, rendered⟩ :=
    Listing.succeeds_render readable (writable_of_disassemble success) OrderedMap.empty
  obtain ⟨document, exported⟩ := Export.succeeds_program readable
  obtain ⟨alike, alsoAlike, order, inOrder, shown, held, stream⟩ :=
    output_by_address first _ (sameRoutines_reversed first)
  obtain ⟨blocks, made⟩ := shown OrderedMap.empty text rendered
  obtain ⟨sections, alsoMade⟩ := held document exported
  have addresses : order.map Prod.fst = [4, 15] := by
    apply List.Pairwise.eq_of_mem_iff (r := (· < ·)) (List.pairwise_map.mpr inOrder.ascending)
      (by decide)
    intro address
    rw [inOrder.mem_addresses, ahead]
  refine ⟨first, _, order, text, blocks, document, sections, success, ahead, back,
    sameRoutines_reversed first, inOrder, stream callFile .utf8 success, rendered,
    (alike OrderedMap.empty).symm.trans rendered, made, ?_, exported, alsoAlike.symm.trans exported,
    alsoMade, ?_⟩
  · rw [← addresses, ← made.routines, List.map_map]
    rfl
  · rw [← addresses, ← alsoMade.routines, List.map_map]
    rfl

end SceneCode
