import Mathlib
import SceneCode.Proofs.Document
import SceneCode.Proofs.Spelling
import SceneCode.Proofs.Utf8
import SceneCode.SymbolTable

/-!
# What a symbol file says

A member of a symbol file names a routine if its key denotes an address and its value is a string
(`NamesRoutine`).  One member either enters a name, or is refused with a warning, or does nothing
(`addMember_cases`); by induction on the members the table holds, for every address, the name that
the last member for this address gives (`Reflects`).

The members are those of the object: a key that is written several times counts once, at its first
place and with its last value.
-/

set_option autoImplicit false

namespace SceneCode

/-! ## The last of several -/

/-- The last item of a list for which something holds. -/
def LastOf {α : Type} (holds : α → Prop) (items : List α) (item : α) : Prop :=
  ∃ front back, items = front ++ item :: back ∧ holds item ∧ ∀ later ∈ back, ¬ holds later

theorem LastOf.mem {α : Type} {holds : α → Prop} {items : List α} {item : α}
    (last : LastOf holds items item) : item ∈ items ∧ holds item := by
  obtain ⟨front, back, rfl, here, _⟩ := last
  exact ⟨by simp, here⟩

theorem lastOf_concat_iff {α : Type} {holds : α → Prop} {items : List α} {added item : α} :
    LastOf holds (items ++ [added]) item ↔
      (item = added ∧ holds added) ∨ (¬ holds added ∧ LastOf holds items item) := by
  constructor
  · intro last
    obtain ⟨front, back, split, here, none⟩ := last
    rcases back.eq_nil_or_concat with rfl | ⟨back, final, rfl⟩
    · obtain ⟨rfl, same⟩ := List.append_inj' split rfl
      obtain ⟨rfl, _⟩ := List.cons.inj same
      exact .inl ⟨rfl, here⟩
    · rw [List.concat_eq_append, ← List.cons_append, ← List.append_assoc] at split
      obtain ⟨rfl, same⟩ := List.append_inj' split rfl
      obtain ⟨rfl, _⟩ := List.cons.inj same
      exact .inr ⟨none added (by simp), front, back, rfl, here, fun later member =>
        none later (by simp [member])⟩
  · intro last
    rcases last with ⟨rfl, here⟩ | ⟨notAdded, front, back, rfl, here, none⟩
    · exact ⟨items, [], rfl, here, by simp⟩
    · refine ⟨front, back ++ [added], by simp, here, fun later member => ?_⟩
      rcases List.mem_append.mp member with inside | final
      · exact none later inside
      · rw [List.mem_singleton.mp final]
        exact notAdded

theorem exists_lastOf_iff {α : Type} {holds : α → Prop} {items : List α} :
    (∃ item, LastOf holds items item) ↔ ∃ item ∈ items, holds item := by
  constructor
  · intro last
    obtain ⟨item, last⟩ := last
    exact ⟨item, last.mem⟩
  · induction items using List.reverseRecOn with
    | nil => simp
    | append_singleton items added ih =>
        intro some
        obtain ⟨item, member, here⟩ := some
        by_cases last : holds added
        · exact ⟨added, lastOf_concat_iff.mpr (.inl ⟨rfl, last⟩)⟩
        · have inside : item ∈ items := by
            rcases List.mem_append.mp member with inside | final
            · exact inside
            · rw [List.mem_singleton.mp final] at here
              exact absurd here last
          obtain ⟨before, found⟩ := ih ⟨item, inside, here⟩
          exact ⟨before, lastOf_concat_iff.mpr (.inr ⟨last, found⟩)⟩

namespace OrderedMap

variable {κ α : Type} [DecidableEq κ]

theorem ofList_concat (pairs : List (κ × α)) (pair : κ × α) :
    ofList (pairs ++ [pair]) = (ofList pairs).insert pair.1 pair.2 := by
  rw [ofList, List.foldl_append]
  rfl

theorem keys_ofList (pairs : List (κ × α)) :
    (ofList pairs).keys = (pairs.map Prod.fst).eraseDups := by
  induction pairs using List.reverseRecOn with
  | nil => rfl
  | append_singleton pairs pair ih =>
      rw [ofList_concat, keys_insert, ih, List.map_append, List.eraseDups_append]
      by_cases known : pair.1 ∈ pairs.map Prod.fst
      · simp [known, List.removeAll]
      · simp [known, List.removeAll, List.eraseDups_cons]

theorem find?_ofList (pairs : List (κ × α)) (key : κ) (value : α) :
    (ofList pairs).find? key = some value ↔
      LastOf (fun pair => pair.1 = key) pairs (key, value) := by
  induction pairs using List.reverseRecOn with
  | nil => simp [ofList, LastOf]
  | append_singleton pairs pair ih =>
      rw [ofList_concat, find?_insert, lastOf_concat_iff, ← ih]
      by_cases same : key = pair.1
      · subst same
        simp [Prod.ext_iff, eq_comm]
      · simp [same, Ne.symm same]

theorem mem_keys_iff {map : OrderedMap κ α} {key : κ} :
    key ∈ map.keys ↔ ∃ value, map.find? key = some value := by
  constructor
  · intro member
    obtain ⟨entry, listed, rfl⟩ := List.mem_map.mp member
    exact ⟨entry.2, find?_of_mem listed⟩
  · intro found
    obtain ⟨value, found⟩ := found
    exact List.mem_map_of_mem (mem_of_find? found)

theorem size_eq_card (map : OrderedMap κ α) : map.size = map.keys.toFinset.card := by
  rw [keys, List.toFinset_card_of_nodup map.distinct, List.length_map, size]

end OrderedMap

/-! ## One member -/

namespace SymbolTable

/-- The member names the routine at the address. -/
def NamesRoutine (address : Int) (member : String × Json) : Prop :=
  Text.Denotes member.1 address ∧ ∃ name, member.2 = .str name

/-- The member has a name but no address. -/
def Refused (member : String × Json) : Prop :=
  (∃ name, member.2 = .str name) ∧ ¬ ∃ address, Text.Denotes member.1 address

instance (value : Json) : Decidable (∃ name, value = .str name) :=
  match value with
  | .str name => .isTrue ⟨name, rfl⟩
  | .null | .bool _ | .int _ | .float _ | .arr _ | .obj _ => .isFalse (by simp)

instance : DecidablePred Refused := fun member =>
  inferInstanceAs (Decidable ((∃ name, member.2 = .str name) ∧ ¬ _))

/-- A member enters a name, is refused, or has no name. -/
theorem addMember_cases (state : SymbolTable × Array Diagnostic) (member : String × Json) :
    (∃ address name, Text.Denotes member.1 address ∧ member.2 = .str name ∧
      addMember state member = (state.1.insert address name, state.2)) ∨
    (Refused member ∧
      addMember state member = (state.1, state.2.push (.invalidSymbol member.1))) ∨
    ((¬ ∃ name, member.2 = .str name) ∧ addMember state member = state) := by
  obtain ⟨key, value⟩ := member
  cases value with
  | str name =>
      cases read : Text.readInteger .marked key with
      | ok address =>
          refine .inl ⟨address, name, Text.readInteger_eq_ok_iff.mp read, rfl, ?_⟩
          rw [addMember, read]
      | error fault =>
          refine .inr (.inl ⟨⟨⟨name, rfl⟩, ?_⟩, ?_⟩)
          · intro denotes
            obtain ⟨address, denotes⟩ := denotes
            rw [Text.readInteger_eq_ok_iff.mpr denotes] at read
            cases read
          · rw [addMember, read]
  | null => exact .inr (.inr ⟨by simp, rfl⟩)
  | bool _ => exact .inr (.inr ⟨by simp, rfl⟩)
  | int _ => exact .inr (.inr ⟨by simp, rfl⟩)
  | float _ => exact .inr (.inr ⟨by simp, rfl⟩)
  | arr _ => exact .inr (.inr ⟨by simp, rfl⟩)
  | obj _ => exact .inr (.inr ⟨by simp, rfl⟩)

theorem namesRoutine_iff {member : String × Json} {address other : Int} {name : String}
    (denotes : Text.Denotes member.1 address) (string : member.2 = .str name) :
    NamesRoutine other member ↔ other = address := by
  constructor
  · intro names
    exact names.1.unique denotes
  · intro same
    rw [same]
    exact ⟨denotes, name, string⟩

theorem Refused.not_namesRoutine {member : String × Json} (refused : Refused member)
    (address : Int) : ¬ NamesRoutine address member := fun names =>
  refused.2 ⟨address, names.1⟩

/-! ## All members -/

theorem ofMembers_concat (members : List (String × Json)) (member : String × Json) :
    ofMembers (members ++ [member]) = addMember (ofMembers members) member := by
  rw [ofMembers, List.foldl_append]
  rfl

/-- The table holds the name that the last member for an address gives. -/
theorem find?_ofMembers (members : List (String × Json)) (address : Int) (name : String) :
    (ofMembers members).1.find? address = some name ↔
      ∃ member, LastOf (NamesRoutine address) members member ∧ member.2 = .str name := by
  induction members using List.reverseRecOn with
  | nil => simp [ofMembers, LastOf]
  | append_singleton members member ih =>
      simp only [ofMembers_concat, lastOf_concat_iff]
      obtain ⟨here, given, denotes, string, added⟩ | ⟨refused, added⟩ | ⟨nameless, added⟩ :=
        addMember_cases (ofMembers members) member
      · rw [added, OrderedMap.find?_insert, namesRoutine_iff denotes string]
        by_cases same : address = here
        · simp [same, string, eq_comm]
        · simp [same, ih]
      · rw [added, ih]
        simp [refused.not_namesRoutine address]
      · rw [added, ih]
        have unnamed : ¬ NamesRoutine address member := fun names => nameless names.2
        simp [unnamed]

theorem exists_find?_ofMembers (members : List (String × Json)) (address : Int) :
    (∃ name, (ofMembers members).1.find? address = some name) ↔
      ∃ member ∈ members, NamesRoutine address member := by
  simp only [find?_ofMembers, ← exists_lastOf_iff]
  constructor
  · intro found
    obtain ⟨name, member, last, _⟩ := found
    exact ⟨member, last⟩
  · intro found
    obtain ⟨member, last⟩ := found
    obtain ⟨_, name, string⟩ := last.mem.2
    exact ⟨name, member, last, string⟩

/-- Every refused member is reported, in the order of the members. -/
theorem warnings_ofMembers (members : List (String × Json)) :
    (ofMembers members).2.toList =
      (members.filter fun member => Refused member).map fun member =>
        .invalidSymbol member.1 := by
  induction members using List.reverseRecOn with
  | nil => rfl
  | append_singleton members member ih =>
      rw [ofMembers_concat, List.filter_append, List.map_append, ← ih]
      obtain ⟨here, given, denotes, string, added⟩ | ⟨refused, added⟩ | ⟨nameless, added⟩ :=
        addMember_cases (ofMembers members) member
      · have accepted : ¬ Refused member := fun refused => refused.2 ⟨here, denotes⟩
        simp [added, accepted]
      · simp [added, refused]
      · have unnamed : ¬ Refused member := fun refused => nameless refused.1
        simp [added, unnamed]

/-- A table depends on the table it was begun with, not on what had been reported. -/
theorem table_foldl_congr (members : List (String × Json)) :
    ∀ {state other : SymbolTable × Array Diagnostic}, state.1 = other.1 →
      (members.foldl addMember state).1 = (members.foldl addMember other).1 := by
  induction members with
  | nil => exact fun same => same
  | cons member rest ih =>
      intro state other same
      rw [List.foldl_cons, List.foldl_cons]
      apply ih
      obtain ⟨key, value⟩ := member
      cases value with
      | str name =>
          simp only [addMember]
          split <;> simp [same]
      | _ => exact same

theorem table_of_skipped {front back : List (String × Json)} {member : String × Json}
    (skipped : ∀ address, ¬ NamesRoutine address member) :
    (ofMembers (front ++ member :: back)).1 = (ofMembers (front ++ back)).1 := by
  rw [ofMembers, ofMembers, List.foldl_append, List.foldl_append, List.foldl_cons]
  apply table_foldl_congr
  obtain ⟨address, name, denotes, string, _⟩ | ⟨_, added⟩ | ⟨_, added⟩ :=
    addMember_cases (front.foldl addMember (OrderedMap.empty, #[])) member
  · exact absurd ⟨denotes, name, string⟩ (skipped address)
  · rw [added]
  · rw [added]

/-- What a table and the warnings say about the members they were made from. -/
structure Reflects (members : List (String × Json)) (loaded : SymbolTable × Array Diagnostic) :
    Prop where
  /-- The name of an address is the value of the last member for it. -/
  lookup : ∀ address name, loaded.1.find? address = some name ↔
    ∃ member, LastOf (NamesRoutine address) members member ∧ member.2 = .str name
  absent : ∀ address, loaded.1.find? address = none ↔
    ∀ member ∈ members, ¬ NamesRoutine address member
  size : ∃ addresses : Finset Int,
    (∀ address, address ∈ addresses ↔ ∃ member ∈ members, NamesRoutine address member) ∧
      loaded.1.size = addresses.card
  /-- Every refused member is reported once, in the order of the members. -/
  warnings : loaded.2.toList =
    (members.filter fun member => Refused member).map fun member => .invalidSymbol member.1
  /-- A member that names no routine could as well be absent. -/
  skipped : ∀ front member back, members = front ++ member :: back →
    (∀ address, ¬ NamesRoutine address member) → loaded.1 = (ofMembers (front ++ back)).1

theorem reflects_ofMembers (members : List (String × Json)) :
    Reflects members (ofMembers members) where
  lookup := find?_ofMembers members
  absent address := by
    rw [← not_iff_not, Option.eq_none_iff_forall_ne_some]
    push Not
    exact exists_find?_ofMembers members address
  size := by
    refine ⟨(ofMembers members).1.keys.toFinset, fun address => ?_, OrderedMap.size_eq_card _⟩
    rw [List.mem_toFinset, OrderedMap.mem_keys_iff, exists_find?_ofMembers]
  warnings := warnings_ofMembers members
  skipped front member back split unnamed := by
    rw [split]
    exact table_of_skipped unnamed

theorem ofMembers_of_denotes {text : String} {n : Int} (denotes : Text.Denotes text n)
    (name : String) : ofMembers [(text, .str name)] = (OrderedMap.ofList [(n, name)], #[]) := by
  rw [ofMembers, List.foldl_cons, addMember, Text.readInteger_eq_ok_iff.mpr denotes]
  rfl

/-- Two spellings of one address are one entry. -/
theorem ofMembers_of_denotes_both {first second : String} {n : Int}
    (one : Text.Denotes first n) (two : Text.Denotes second n) (early late : String) :
    ofMembers [(first, .str early), (second, .str late)] =
      (OrderedMap.ofList [(n, late)], #[]) := by
  have begun := ofMembers_of_denotes one early
  have continued := ofMembers_concat [(first, .str early)] (second, .str late)
  rw [begun, addMember, Text.readInteger_eq_ok_iff.mpr two] at continued
  exact continued.trans (by simp [OrderedMap.ofList, OrderedMap.insert, OrderedMap.insertEntry,
    OrderedMap.empty])

theorem ofMembers_of_refused {member : String × Json} (refused : Refused member) :
    ofMembers [member] = (OrderedMap.empty, #[.invalidSymbol member.1]) := by
  obtain ⟨address, _, denotes, _⟩ | ⟨_, added⟩ | ⟨nameless, _⟩ :=
    addMember_cases (OrderedMap.empty, #[]) member
  · exact absurd ⟨address, denotes⟩ refused.2
  · exact added
  · exact absurd refused.1 nameless

theorem refused_of_long {text : String} {digits : List Nat} {n : Int}
    (spelled : Text.Spelled text.toList 10 digits n) (long : Text.digitLimit < digits.length)
    (name : String) : Refused (text, .str name) := by
  refine ⟨⟨name, rfl⟩, ?_⟩
  intro denotes
  obtain ⟨address, denotes⟩ := denotes
  exact Text.not_denotes_of_long spelled long address denotes

/-! ## Files -/

theorem load_of_parse {bytes : List UInt8} {text : List Char} {members : List (String × Json)}
    (decoded : Charset.Utf8.decodeStrict? bytes = some text)
    (parsed : Json.parse (String.ofList text) = .ok (.obj members)) :
    load bytes = .ok (ofMembers members) := by
  rw [load, decoded]
  simp only [pure_bind, parsed]
  rfl

/-- The file with the given members. -/
def file (given : List (String × Json)) : List UInt8 :=
  Charset.Utf8.encode (Json.obj given).text.toList

theorem load_file {given : List (String × Json)}
    (standard : ∀ member ∈ given, member.2.Standard)
    (shallow : ∀ member ∈ given, member.2.depth < Json.depthLimit) :
    load (file given) = .ok (ofMembers (OrderedMap.ofList given).entries) := by
  refine load_of_parse (Charset.Utf8.decodeStrict?_encode _) ?_
  rw [String.ofList_toList]
  exact Json.parseWithin_members standard fun member listed =>
    Nat.le_of_lt_succ (shallow member listed)

end SymbolTable

/-- What is loaded for an object with the given members.  The keys are integer literals of any base;
a decimal literal with more than `Text.digitLimit` digits is refused like a malformed one. -/
theorem symbol_file_loaded (given : List (String × Json)) :
    let members := (OrderedMap.ofList given).entries
    let loaded := SymbolTable.ofMembers members
    -- a key counts once, at its first place and with its last value
    (members.map Prod.fst = (given.map Prod.fst).eraseDups ∧
      ∀ member ∈ members, LastOf (fun other => other.1 = member.1) given member) ∧
    SymbolTable.Reflects members loaded ∧
    -- the members may be written in any way that is read as this object
    (∀ bytes text, Charset.Utf8.decodeStrict? bytes = some text →
      Json.parse (String.ofList text) = .ok (.obj members) →
      SymbolTable.load bytes = .ok loaded) ∧
    ((∀ member ∈ given, member.2.Standard) →
      (∀ member ∈ given, member.2.depth < Json.depthLimit) →
      SymbolTable.load (SymbolTable.file given) = .ok loaded) ∧
    -- a spelling denotes its integer, unless it is too long, and two of an integer are one entry
    (∀ text base digits n, Text.Spelled text.toList base digits n →
      (base = 10 → digits.length ≤ Text.digitLimit) → ∀ name,
      SymbolTable.ofMembers [(text, .str name)] = (OrderedMap.ofList [(n, name)], #[])) ∧
    (∀ first second n, Text.Denotes first n → Text.Denotes second n → ∀ early late,
      SymbolTable.ofMembers [(first, .str early), (second, .str late)] =
        (OrderedMap.ofList [(n, late)], #[])) ∧
    ∀ text digits n, Text.Spelled text.toList 10 digits n → Text.digitLimit < digits.length →
      ∀ name, SymbolTable.Refused (text, .str name) := by
  refine ⟨⟨OrderedMap.keys_ofList given, ?_⟩, SymbolTable.reflects_ofMembers _, ?_, ?_, ?_, ?_, ?_⟩
  · intro member listed
    exact (OrderedMap.find?_ofList given member.1 member.2).mp (OrderedMap.find?_of_mem listed)
  · intro bytes text decoded parsed
    exact SymbolTable.load_of_parse decoded parsed
  · intro standard shallow
    exact SymbolTable.load_file standard shallow
  · intro text base digits n spelled short name
    exact SymbolTable.ofMembers_of_denotes ⟨base, digits, spelled, short⟩ name
  · intro first second n one two early late
    exact SymbolTable.ofMembers_of_denotes_both one two early late
  · intro text digits n spelled long name
    exact SymbolTable.refused_of_long spelled long name

/-- Two spellings of one address, a key that is no literal and a key that is written twice. -/
def spelledTwice : List (String × Json) :=
  [("0x20", .str "start"), ("thirty", .str "lost"), (" 3_2 ", .str "loop"), ("7", .str "end"),
    ("7", .null)]

theorem symbol_file_loaded_twice :
    (∀ member ∈ spelledTwice, member.2.Standard) ∧
    (∀ member ∈ spelledTwice, member.2.depth < Json.depthLimit) ∧
    SymbolTable.load (SymbolTable.file spelledTwice) =
      .ok (OrderedMap.ofList [(32, "loop")], #[.invalidSymbol "thirty"]) ∧
    Text.Spelled "-0B1_0".toList 2 [1, 0] (-2) ∧
    SymbolTable.ofMembers [("-0B1_0", .str "start")] =
      (OrderedMap.ofList [(-2, "start")], #[]) := by
  have standard : ∀ member ∈ spelledTwice, member.2.Standard := by
    simp [spelledTwice, Json.Standard, Json.Formed.str, Json.Formed.null]
  have shallow : ∀ member ∈ spelledTwice, member.2.depth < Json.depthLimit := by
    simp [spelledTwice, Json.depth, Json.depthLimit]
  have table : SymbolTable.ofMembers (OrderedMap.ofList spelledTwice).entries =
      (OrderedMap.ofList [(32, "loop")], #[.invalidSymbol "thirty"]) := by
    decide +kernel
  have spelled : Text.Spelled "-0B1_0".toList 2 [1, 0] (-2) := by
    have run : Text.Grouped 2 "1_0".toList [1, 0] :=
      .apart (by decide) (by decide) (.last (by decide) (by decide))
    exact ⟨[], _, [], rfl, by simp, by simp, .minus (.marked (by decide) rfl run)⟩
  obtain ⟨_, _, _, written, spellings, _⟩ := symbol_file_loaded spelledTwice
  refine ⟨standard, shallow, ?_, spelled, ?_⟩
  · rw [written standard shallow, table]
  · exact spellings _ 2 [1, 0] (-2) spelled (by decide) "start"

/-- A decimal key with one digit more than a literal may have spells an integer, but is refused. -/
theorem long_decimal_key_refused :
    let key := String.ofList (List.replicate 4301 '1')
    Text.Spelled key.toList 10 (List.replicate 4301 1)
        (Text.magnitude 10 (List.replicate 4301 1)) ∧
      SymbolTable.load (SymbolTable.file [(key, .str "start")]) =
        .ok (OrderedMap.empty, #[.invalidSymbol key]) := by
  intro key
  have run : Text.Grouped 10 (List.replicate 4301 '1') (List.replicate 4301 1) :=
    Text.grouped_replicate (by decide) (by decide) 4300
  have spelled : Text.Spelled key.toList 10 (List.replicate 4301 1)
      (Text.magnitude 10 (List.replicate 4301 1)) := by
    rw [String.toList_ofList]
    exact ⟨[], _, [], (List.append_nil _).symm, by simp, by simp,
      .plain (.decimal run Nat.one_ne_zero)⟩
  have long : Text.digitLimit < (List.replicate 4301 1).length := by
    rw [List.length_replicate, Text.digitLimit]
    decide
  refine ⟨spelled, ?_⟩
  rw [SymbolTable.load_file (by simp [Json.Standard, Json.Formed.str])
    (by simp [Json.depth, Json.depthLimit])]
  exact congrArg Except.ok
    (SymbolTable.ofMembers_of_refused (SymbolTable.refused_of_long spelled long "start"))

end SceneCode
