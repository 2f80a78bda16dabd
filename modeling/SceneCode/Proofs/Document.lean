import SceneCode.Json.Printer
import SceneCode.Proofs.NumberText
import SceneCode.Proofs.OrderedMap

/-!
# Documents are read back

A document whose numbers are finite is standard (`Standard`), and it is read back from its text
(`parseWithin_text`).  The reader is run on a text with something behind it, so that the parts of a
container can be read one after the other.
-/

set_option autoImplicit false

namespace SceneCode.Json

open Number (Binary64)

/-! ## Documents -/

/-- A document in which every key of an object occurs once, every integer is short enough to be read
and every floating-point number satisfies `number`. -/
inductive Formed (number : Binary64 → Prop) : Json → Prop where
  | null : Formed number .null
  | bool (value : Bool) : Formed number (.bool value)
  | int {value : Int} (short : (Nat.toDigits 10 value.natAbs).length ≤ Text.digitLimit) :
      Formed number (.int value)
  | float {value : Binary64} (holds : number value) : Formed number (.float value)
  | str (value : String) : Formed number (.str value)
  | arr {items : List Json} (each : ∀ item ∈ items, Formed number item) : Formed number (.arr items)
  | obj {members : List (String × Json)} (distinct : (members.map Prod.fst).Nodup)
      (each : ∀ member ∈ members, Formed number member.2) : Formed number (.obj members)

/-- A document of standard JSON, which knows finite numbers only. -/
def Standard (document : Json) : Prop := document.Formed Binary64.Finite

mutual

/-- How many containers are inside each other. -/
def depth : Json → Nat
  | arr items => depthOfItems items + 1
  | obj members => depthOfMembers members + 1
  | _ => 0

def depthOfItems : List Json → Nat
  | [] => 0
  | item :: rest => max (depth item) (depthOfItems rest)

def depthOfMembers : List (String × Json) → Nat
  | [] => 0
  | (_, value) :: rest => max (depth value) (depthOfMembers rest)

end

mutual

/-- The floating-point numbers of a document. -/
def floats : Json → List Binary64
  | float value => [value]
  | arr items => floatsOfItems items
  | obj members => floatsOfMembers members
  | _ => []

def floatsOfItems : List Json → List Binary64
  | [] => []
  | item :: rest => floats item ++ floatsOfItems rest

def floatsOfMembers : List (String × Json) → List Binary64
  | [] => []
  | (_, value) :: rest => floats value ++ floatsOfMembers rest

end

theorem depth_le_of_item {items : List Json} {item : Json} (listed : item ∈ items) :
    item.depth ≤ depthOfItems items := by
  induction items with
  | nil => cases listed
  | cons first rest ih =>
      rw [depthOfItems]
      rcases List.mem_cons.mp listed with rfl | later
      · exact Nat.le_max_left _ _
      · exact (ih later).trans (Nat.le_max_right _ _)

theorem depth_le_of_member {members : List (String × Json)} {member : String × Json}
    (listed : member ∈ members) : member.2.depth ≤ depthOfMembers members := by
  induction members with
  | nil => cases listed
  | cons first rest ih =>
      rw [depthOfMembers]
      rcases List.mem_cons.mp listed with rfl | later
      · exact Nat.le_max_left _ _
      · exact (ih later).trans (Nat.le_max_right _ _)

theorem mem_floatsOfItems {items : List Json} {value : Binary64} :
    value ∈ floatsOfItems items ↔ ∃ item ∈ items, value ∈ item.floats := by
  induction items with
  | nil => simp [floatsOfItems]
  | cons first rest ih => simp [floatsOfItems, ih]

theorem mem_floatsOfMembers {members : List (String × Json)} {value : Binary64} :
    value ∈ floatsOfMembers members ↔ ∃ member ∈ members, value ∈ member.2.floats := by
  induction members with
  | nil => simp [floatsOfMembers]
  | cons first rest ih => simp [floatsOfMembers, ih]

variable {number : Binary64 → Prop} {document : Json}

theorem Formed.of_floats {other : Binary64 → Prop} (formed : document.Formed number)
    (leaves : ∀ value ∈ document.floats, other value) : document.Formed other := by
  induction formed with
  | null => exact .null
  | bool value => exact .bool value
  | int short => exact .int short
  | float _ => exact .float (leaves _ (by simp [floats]))
  | str value => exact .str value
  | arr _ ih =>
      rw [floats] at leaves
      exact .arr fun item listed => ih item listed fun value inside =>
        leaves value (mem_floatsOfItems.mpr ⟨item, listed, inside⟩)
  | obj distinct _ ih =>
      rw [floats] at leaves
      exact .obj distinct fun member listed => ih member listed fun value inside =>
        leaves value (mem_floatsOfMembers.mpr ⟨member, listed, inside⟩)

theorem Formed.floats (formed : document.Formed number) :
    ∀ value ∈ document.floats, number value := by
  induction formed with
  | float holds => simpa [Json.floats] using holds
  | arr _ ih =>
      intro value inside
      rw [Json.floats, mem_floatsOfItems] at inside
      obtain ⟨item, listed, inside⟩ := inside
      exact ih item listed value inside
  | obj _ _ ih =>
      intro value inside
      rw [Json.floats, mem_floatsOfMembers] at inside
      obtain ⟨member, listed, inside⟩ := inside
      exact ih member listed value inside
  | _ => simp [Json.floats]

theorem Formed.mono {other : Binary64 → Prop} (formed : document.Formed number)
    (weaker : ∀ value, number value → other value) : document.Formed other :=
  formed.of_floats fun value inside => weaker value (formed.floats value inside)

/-- A document is standard exactly if its numbers are finite. -/
theorem Formed.standard_iff (formed : document.Formed number) :
    document.Standard ↔ ∀ value ∈ document.floats, value.Finite :=
  ⟨fun standard => standard.floats, formed.of_floats⟩

/-! ## Strings -/

theorem readEscape_lowerHex {n : Nat} (small : n < 0x20) (rest : List Char) :
    readEscape ('u' :: ((Text.lowerHex 4 n).toList ++ rest)) = .ok (Char.ofNat n, rest) := by
  have digits : ∀ n < 0x20, (Text.lowerHex 4 n).toList =
      ['0', '0', Nat.digitChar (n / 16), Nat.digitChar (n % 16)] := by
    decide +kernel
  have unit : ∀ n < 0x20, codeUnit? '0' '0' (Nat.digitChar (n / 16)) (Nat.digitChar (n % 16)) =
      some n ∧ isHighSurrogate n = false ∧ unitChar n = Char.ofNat n := by
    decide +kernel
  obtain ⟨found, notHigh, same⟩ := unit n small
  rw [digits n small]
  simp only [List.cons_append, List.nil_append, readEscape, found, notHigh, same]

/-- A character is read back from its escape. -/
theorem readChars_escaped (fuel : Nat) (done : List Char) (c : Char) (rest : List Char) :
    readChars (fuel + 1) done (escaped c ++ rest) = readChars fuel (c :: done) rest := by
  have same : ∀ n, c.toNat = n → c = Char.ofNat n := by
    rintro n rfl
    exact c.ofNat_toNat.symm
  unfold escaped
  split_ifs with quote backslash feed return_ tab form back control
  · subst quote
    rfl
  · subst backslash
    rfl
  · subst feed
    rfl
  · subst return_
    rfl
  · subst tab
    rfl
  · rw [same _ form]
    rfl
  · rw [same _ back]
    rfl
  · have read := readEscape_lowerHex control rest
    rw [c.ofNat_toNat] at read
    simp only [List.cons_append, List.nil_append, readChars]
    rw [read]
    rfl
  · rw [List.singleton_append, readChars, if_neg control]
    · exact quote
    · exact backslash

theorem readChars_text (cs : List Char) :
    ∀ {fuel : Nat} (done rest : List Char), cs.length < fuel →
    readChars fuel done (cs.flatMap escaped ++ '"' :: rest) = .ok (done.reverse ++ cs, rest) := by
  induction cs with
  | nil =>
      intro fuel done rest enough
      obtain ⟨fuel, rfl⟩ := Nat.exists_eq_succ_of_ne_zero enough.ne'
      simp [readChars]
  | cons c cs ih =>
      intro fuel done rest enough
      obtain ⟨fuel, rfl⟩ := Nat.exists_eq_succ_of_ne_zero (Nat.ne_zero_of_lt enough)
      rw [List.flatMap_cons, List.append_assoc, readChars_escaped,
        ih (c :: done) rest (Nat.lt_of_succ_lt_succ enough)]
      simp

theorem readString_text (text : String) (rest : List Char) :
    readString (text.toList.flatMap escaped ++ '"' :: rest) = .ok (text, rest) := by
  have enough : ∀ cs : List Char, cs.length ≤ (cs.flatMap escaped).length := by
    intro cs
    induction cs with
    | nil => exact Nat.le_refl 0
    | cons c cs ih =>
        have one : 0 < (escaped c).length := by
          unfold escaped
          split_ifs <;> simp
        rw [List.flatMap_cons, List.length_append, List.length_cons]
        omega
  have bound := enough text.toList
  unfold readString
  rw [readChars_text _ _ _ (by rw [List.length_append]; omega)]
  simp [bind, Except.bind, pure, Except.pure]

theorem toList_stringText (text : String) :
    (stringText text).toList = '"' :: (text.toList.flatMap escaped ++ ['"']) := by
  simp [stringText]

/-! ## Blanks -/

theorem skipSpace_cons {c : Char} (notBlank : isSpace c = false) (rest : List Char) :
    skipSpace (c :: rest) = c :: rest := by
  simp [skipSpace, notBlank]

theorem toList_newLine (level : Nat) :
    (newLine level).toList = '\n' :: List.replicate (2 * level) ' ' := by
  simp [newLine]

theorem skipSpace_newLine (level : Nat) (rest : List Char) :
    skipSpace ((newLine level).toList ++ rest) = skipSpace rest := by
  have blanks : ∀ c ∈ (newLine level).toList, isSpace c = true := by
    intro c member
    rw [toList_newLine] at member
    rcases List.mem_cons.mp member with rfl | blank
    · rfl
    · rw [List.eq_of_mem_replicate blank]
      rfl
  exact List.dropWhile_append_of_pos blanks

theorem ended_newLine (level : Nat) (rest : List Char) :
    Ended ((newLine level).toList ++ rest) := by
  rw [toList_newLine]
  exact .line _

/-- A text that is read as a value begins neither with a blank nor with a closing bracket. -/
theorem exists_cons_of_readValue {depth fuel : Nat} {cs : List Char} {result : Json × List Char}
    (read : readValue depth fuel cs = .ok result) :
    ∃ c rest, cs = c :: rest ∧ isSpace c = false ∧ c ≠ ']' := by
  cases fuel with
  | zero => cases read
  | succ fuel =>
      cases cs with
      | nil => cases read
      | cons c rest =>
          refine ⟨c, rest, rfl, ?_⟩
          by_contra blank
          have cases : c = ' ' ∨ c = '\t' ∨ c = '\n' ∨ c = '\r' ∨ c = ']' := by
            simp [isSpace] at blank
            tauto
          rcases cases with rfl | rfl | rfl | rfl | rfl <;> cases read

/-! ## Containers -/

/-- What is written for a value is read back, whatever ends it. -/
def ReadBack (depth level : Nat) (document : Json) : Prop :=
  ∀ {fuel : Nat} {rest : List Char}, (textAt level document).toList.length ≤ fuel → Ended rest →
    readValue depth (fuel + 1) ((textAt level document).toList ++ rest) = .ok (document, rest)

/-- The texts of the parts of a container, with commas between them. -/
def joined (level : Nat) (parts : List String) : List Char :=
  (String.intercalate ("," ++ newLine level) parts).toList

theorem joined_singleton (level : Nat) (part : String) : joined level [part] = part.toList := by
  simp [joined]

theorem joined_cons_cons (level : Nat) (part next : String) (parts : List String) :
    joined level (part :: next :: parts) =
      part.toList ++ ',' :: ((newLine level).toList ++ joined level (next :: parts)) := by
  simp [joined, String.intercalate_cons_cons]

theorem exists_joined (level : Nat) {part : String} {c : Char} {cs : List Char}
    (text : part.toList = c :: cs) (parts : List String) :
    ∃ more, joined level (part :: parts) = c :: more := by
  cases parts with
  | nil => exact ⟨cs, (joined_singleton level part).trans text⟩
  | cons next parts =>
      rw [joined_cons_cons, text]
      exact ⟨_, rfl⟩

variable {depth level : Nat} {rest : List Char}

theorem ReadBack.exists_cons {document : Json} (readBack : ReadBack depth level document) :
    ∃ c cs, (textAt level document).toList = c :: cs ∧ isSpace c = false ∧ c ≠ ']' := by
  have read := readBack (Nat.le_refl _) .done
  rw [List.append_nil] at read
  exact exists_cons_of_readValue read

/-- The first item of a container begins neither with a blank nor with a closing bracket. -/
theorem exists_joined_items {item : Json} (readBack : ReadBack depth level item)
    (others : List Json) :
    ∃ c more, joined level (itemTexts level (item :: others)) = c :: more ∧
      isSpace c = false ∧ c ≠ ']' := by
  obtain ⟨c, cs, text, notBlank, notClosing⟩ := readBack.exists_cons
  obtain ⟨more, same⟩ := exists_joined level text (itemTexts level others)
  exact ⟨c, more, same, notBlank, notClosing⟩

theorem readItems_texts (items : List Json) (nonempty : items ≠ [])
    (each : ∀ item ∈ items, ReadBack depth level item) (closing : Nat) :
    ∀ {fuel : Nat} (done : List Json), (joined level (itemTexts level items)).length ≤ fuel →
      readItems depth (fuel + 2) done (joined level (itemTexts level items) ++
        ((newLine closing).toList ++ ']' :: rest)) = .ok (.arr (done.reverse ++ items), rest) := by
  induction items with
  | nil => exact absurd rfl nonempty
  | cons item others ih =>
      intro fuel done enough
      obtain ⟨here, later⟩ := List.forall_mem_cons.mp each
      cases others with
      | nil =>
          rw [itemTexts, itemTexts, joined_singleton] at enough ⊢
          rw [readItems, here enough (ended_newLine closing _)]
          simp only [bind, Except.bind, skipSpace_newLine]
          rw [skipSpace_cons (by decide), List.reverse_cons]
          rfl
      | cons next others =>
          obtain ⟨c, more, begins, notBlank, _⟩ :=
            exists_joined_items (List.forall_mem_cons.mp later).1 others
          rw [itemTexts, itemTexts, joined_cons_cons, ← itemTexts] at enough ⊢
          rw [List.length_append, List.length_cons, List.length_append] at enough
          obtain ⟨fuel, rfl⟩ := Nat.exists_eq_succ_of_ne_zero (by omega : fuel ≠ 0)
          rw [List.append_assoc, List.cons_append, List.append_assoc, readItems,
            here (by omega) (.comma _)]
          simp only [bind, Except.bind]
          rw [skipSpace_cons (by decide)]
          simp only [skipSpace_newLine]
          rw [begins, List.cons_append, skipSpace_cons notBlank, ← List.cons_append, ← begins,
            ih (List.cons_ne_nil _ _) later (item :: done) (by omega), List.reverse_cons,
            List.append_assoc, List.singleton_append]

theorem toList_memberText (level : Nat) (key : String) (value : Json) :
    (stringText key ++ ": " ++ textAt level value).toList =
      '"' :: (key.toList.flatMap escaped ++ '"' :: ':' :: ' ' :: (textAt level value).toList) := by
  simp [toList_stringText]

theorem length_lt_memberText (level : Nat) (key : String) (value : Json) :
    (textAt level value).toList.length <
      (stringText key ++ ": " ++ textAt level value).toList.length := by
  rw [toList_memberText]
  simp only [List.length_cons, List.length_append]
  omega

/-- One member is read and entered behind those before it. -/
theorem readMembers_step {fuel : Nat} {key : String} {value : Json} {behind : List Char}
    (readBack : ReadBack depth level value)
    (enough : (stringText key ++ ": " ++ textAt level value).toList.length ≤ fuel)
    (done : OrderedMap String Json) (ended : Ended rest) :
    (skipSpace rest = '\x7d' :: behind →
      readMembers depth (fuel + 2) done
          ((stringText key ++ ": " ++ textAt level value).toList ++ rest) =
        .ok (.obj (done.insert key value).entries, behind)) ∧
    (skipSpace rest = ',' :: behind →
      readMembers depth (fuel + 2) done
          ((stringText key ++ ": " ++ textAt level value).toList ++ rest) =
        readMembers depth (fuel + 1) (done.insert key value) (skipSpace behind)) := by
  obtain ⟨c, cs, text, notBlank, _⟩ := readBack.exists_cons
  have read := readBack ((length_lt_memberText level key value).le.trans enough) ended
  have blank : skipSpace (' ' :: ((textAt level value).toList ++ rest)) =
      (textAt level value).toList ++ rest := by
    rw [text, List.cons_append]
    exact skipSpace_cons notBlank _
  rw [toList_memberText, List.cons_append, List.append_assoc, readMembers, List.cons_append,
    readString_text]
  simp only [bind, Except.bind, List.cons_append, skipSpace_cons (by decide : isSpace ':' = false),
    blank, read]
  exact ⟨fun last => by simp only [last], fun next => by simp only [next]⟩

theorem readMembers_texts (members : List (String × Json)) (nonempty : members ≠ [])
    (each : ∀ member ∈ members, ReadBack depth level member.2) (closing : Nat) :
    ∀ {fuel : Nat} (done : OrderedMap String Json),
      (joined level (memberTexts level members)).length ≤ fuel →
      readMembers depth (fuel + 2) done (joined level (memberTexts level members) ++
        ((newLine closing).toList ++ '\x7d' :: rest)) =
          .ok (.obj (members.foldl (fun map member => map.insert member.1 member.2) done).entries,
            rest) := by
  induction members with
  | nil => exact absurd rfl nonempty
  | cons member others ih =>
      intro fuel done enough
      obtain ⟨key, value⟩ := member
      obtain ⟨here, later⟩ := List.forall_mem_cons.mp each
      dsimp only at here
      cases others with
      | nil =>
          rw [memberTexts, memberTexts, joined_singleton] at enough ⊢
          rw [(readMembers_step here enough done (ended_newLine closing _)).1
            (by rw [skipSpace_newLine, skipSpace_cons (by decide)])]
          rfl
      | cons next others =>
          obtain ⟨nextKey, nextValue⟩ := next
          have continued := @ih (List.cons_ne_nil _ _) later (fuel - 1) (done.insert key value)
          rw [memberTexts] at continued
          obtain ⟨more, begins⟩ := exists_joined level
            (toList_memberText level nextKey nextValue) (memberTexts level others)
          rw [memberTexts, memberTexts, joined_cons_cons] at enough ⊢
          rw [List.length_append, List.length_cons, List.length_append] at enough
          obtain ⟨fuel, rfl⟩ := Nat.exists_eq_succ_of_ne_zero (by omega : fuel ≠ 0)
          rw [List.append_assoc, List.cons_append, List.append_assoc,
            (readMembers_step here (by omega) done (.comma _)).2 (skipSpace_cons (by decide) _),
            skipSpace_newLine, begins, List.cons_append, skipSpace_cons (by decide),
            ← List.cons_append, ← begins]
          exact continued (by omega)

/-! ## Values -/

theorem readName?_of_opening {c : Char} (opening : c = '"' ∨ c = '[' ∨ c = '\x7b')
    (cs : List Char) : readName? (c :: cs) = none := by
  rcases opening with rfl | rfl | rfl <;> simp [readName?]

theorem readValue_of_name {cs : List Char} {found : Json × List Char}
    (named : readName? cs = some found) (depth fuel : Nat) :
    readValue depth (fuel + 1) cs = .ok found := by
  unfold readValue
  rw [named]

/-- The reader of an array or an object skips the line end in front of the first part. -/
theorem skipSpace_joined (level : Nat) {parts : List String} {c : Char} {more : List Char}
    (begins : joined level parts = c :: more) (notBlank : isSpace c = false) (behind : List Char) :
    skipSpace ((newLine level).toList ++ (joined level parts ++ behind)) =
      c :: (more ++ behind) := by
  rw [skipSpace_newLine, begins, List.cons_append, skipSpace_cons notBlank]

theorem toList_enclosed (level : Nat) (opening closing : String) (part : String)
    (parts : List String) (rest : List Char) :
    (enclosed level opening closing (part :: parts)).toList ++ rest =
      opening.toList ++ ((newLine (level + 1)).toList ++ (joined (level + 1) (part :: parts) ++
        ((newLine level).toList ++ (closing.toList ++ rest)))) := by
  simp [enclosed, joined]

theorem readValue_items {cs inside : List Char} {c : Char} (begins : skipSpace cs = c :: inside)
    (notClosing : c ≠ ']') (depth fuel : Nat) :
    readValue (depth + 1) (fuel + 1) ('[' :: cs) = readItems depth fuel [] (c :: inside) := by
  have notEmpty : ∀ behind, skipSpace cs ≠ ']' :: behind := fun behind closed =>
    notClosing (List.cons.inj (begins.symm.trans closed)).1
  rw [readValue.eq_5 _ _ _ notEmpty, readName?_of_opening (.inr (.inl rfl)), begins]

theorem readValue_members {cs inside : List Char} {c : Char} (begins : skipSpace cs = c :: inside)
    (notClosing : c ≠ '\x7d') (depth fuel : Nat) :
    readValue (depth + 1) (fuel + 1) ('\x7b' :: cs) =
      readMembers depth fuel OrderedMap.empty (c :: inside) := by
  have notEmpty : ∀ behind, skipSpace cs ≠ '\x7d' :: behind := fun behind closed =>
    notClosing (List.cons.inj (begins.symm.trans closed)).1
  rw [readValue.eq_8 _ _ _ notEmpty, readName?_of_opening (.inr (.inr rfl)), begins]

/-- A container with parts takes so much fuel that each part has enough of it. -/
theorem exists_fuel {level fuel : Nat} {opening closing part : String} {parts : List String}
    (enough : (enclosed level opening closing (part :: parts)).toList.length ≤ fuel) :
    ∃ less, fuel = less + 2 ∧ (joined (level + 1) (part :: parts)).length ≤ less := by
  have size := congrArg List.length (toList_enclosed level opening closing part parts [])
  simp only [List.append_nil, List.length_append, toList_newLine, List.length_cons] at size
  exact ⟨fuel - 2, by omega, by omega⟩

theorem readBack_arr {items : List Json} {depth level : Nat}
    (each : ∀ item ∈ items, ReadBack depth (level + 1) item) :
    ReadBack (depth + 1) level (.arr items) := by
  intro fuel rest enough _
  cases items with
  | nil =>
      have text : (textAt level (.arr [])).toList = ['[', ']'] := by
        simp [textAt, itemTexts, enclosed]
      rw [text, List.cons_append, List.singleton_append]
      unfold readValue
      rw [readName?_of_opening (.inr (.inl rfl))]
      rfl
  | cons item others =>
      obtain ⟨c, more, begins, notBlank, notClosing⟩ :=
        exists_joined_items (List.forall_mem_cons.mp each).1 others
      have read := @readItems_texts depth (level + 1) rest _ (List.cons_ne_nil _ _) each level
      rw [itemTexts] at begins read
      rw [textAt, itemTexts] at enough ⊢
      obtain ⟨less, rfl, small⟩ := exists_fuel enough
      rw [toList_enclosed]
      refine (readValue_items (skipSpace_joined _ begins notBlank _) notClosing depth _).trans ?_
      rw [← List.cons_append, ← begins]
      exact read [] small

/-- Of members with the same key the last value is kept, at the place of the first. -/
theorem readValue_obj {members : List (String × Json)} {depth level fuel : Nat}
    (each : ∀ member ∈ members, ReadBack depth (level + 1) member.2)
    (enough : (textAt level (.obj members)).toList.length ≤ fuel) (rest : List Char) :
    readValue (depth + 1) (fuel + 1) ((textAt level (.obj members)).toList ++ rest) =
      .ok (.obj (OrderedMap.ofList members).entries, rest) := by
  cases members with
  | nil =>
      have text : (textAt level (.obj [])).toList = ['\x7b', '\x7d'] := by
        simp [textAt, memberTexts, enclosed]
      rw [text, List.cons_append, List.singleton_append]
      unfold readValue
      rw [readName?_of_opening (.inr (.inr rfl))]
      rfl
  | cons member others =>
      obtain ⟨key, value⟩ := member
      obtain ⟨more, begins⟩ := exists_joined (level + 1)
        (toList_memberText (level + 1) key value) (memberTexts (level + 1) others)
      have read := @readMembers_texts depth (level + 1) rest _ (List.cons_ne_nil _ _) each level
      rw [memberTexts] at read
      rw [textAt, memberTexts] at enough ⊢
      obtain ⟨less, rfl, small⟩ := exists_fuel enough
      rw [toList_enclosed]
      refine (readValue_members (skipSpace_joined _ begins (by decide) _) (by decide) depth
        _).trans ?_
      rw [← List.cons_append, ← begins]
      exact read OrderedMap.empty small

theorem readBack_obj {members : List (String × Json)} {depth level : Nat}
    (distinct : (members.map Prod.fst).Nodup)
    (each : ∀ member ∈ members, ReadBack depth (level + 1) member.2) :
    ReadBack (depth + 1) level (.obj members) := by
  intro fuel rest enough _
  rw [readValue_obj each enough, OrderedMap.entries_ofList distinct]

/-- A document with finite numbers is read back by a reader that goes deep enough. -/
theorem Standard.readBack (standard : document.Standard) :
    ∀ {depth level : Nat}, document.depth ≤ depth → ReadBack depth level document := by
  induction standard with
  | null =>
      intro depth level _ fuel rest _ _
      refine readValue_of_name ?_ depth fuel
      simp [textAt, readName?]
      rfl
  | bool value =>
      intro depth level _ fuel rest _ _
      refine readValue_of_name ?_ depth fuel
      cases value <;> simp [textAt, readName?] <;> rfl
  | int short =>
      intro depth level _ fuel rest _ ended
      exact readValue_decimal depth fuel short ended
  | float finite =>
      intro depth level _ fuel rest _ ended
      exact readValue_write depth fuel finite ended
  | str value =>
      intro depth level _ fuel rest _ _
      rw [textAt, toList_stringText, List.cons_append, List.append_assoc, readValue,
        readName?_of_opening (.inl rfl), List.singleton_append, readString_text]
      rfl
  | arr each ih =>
      intro depth level deep
      rw [Json.depth] at deep
      obtain ⟨less, rfl⟩ := Nat.exists_eq_succ_of_ne_zero (by omega : depth ≠ 0)
      refine readBack_arr fun item listed => ih item listed ?_
      exact (depth_le_of_item listed).trans (Nat.le_of_succ_le_succ deep)
  | obj distinct each ih =>
      intro depth level deep
      rw [Json.depth] at deep
      obtain ⟨less, rfl⟩ := Nat.exists_eq_succ_of_ne_zero (by omega : depth ≠ 0)
      refine readBack_obj distinct fun member listed => ih member listed ?_
      exact (depth_le_of_member listed).trans (Nat.le_of_succ_le_succ deep)

theorem parseWithin_of_read {depth : Nat} {text : String} {document : Json}
    (read : readValue depth (text.toList.length + 1) text.toList = .ok (document, [])) :
    parseWithin depth text = .ok document := by
  obtain ⟨c, cs, begins, notBlank, _⟩ := exists_cons_of_readValue read
  unfold parseWithin
  dsimp only
  rw [begins] at read ⊢
  rw [skipSpace_cons notBlank, read]
  rfl

/-- A standard document is read back from its text by a reader that goes deep enough. -/
theorem Standard.parseWithin_text (standard : document.Standard) {depth : Nat}
    (deep : document.depth ≤ depth) : parseWithin depth document.text = .ok document := by
  have readBack : ReadBack depth 0 document := standard.readBack deep
  have read := readBack (Nat.le_refl _) .done
  rw [List.append_nil] at read
  exact parseWithin_of_read read

/-- An object that is written member by member is read with every key once: with its last value, at
its first place. -/
theorem parseWithin_members {members : List (String × Json)} {depth : Nat}
    (standard : ∀ member ∈ members, member.2.Standard)
    (deep : ∀ member ∈ members, member.2.depth ≤ depth) :
    parseWithin (depth + 1) (Json.obj members).text =
      .ok (.obj (OrderedMap.ofList members).entries) := by
  have each : ∀ member ∈ members, ReadBack depth 1 member.2 := fun member listed =>
    (standard member listed).readBack (deep member listed)
  have read := readValue_obj each (Nat.le_refl _) []
  rw [List.append_nil] at read
  exact parseWithin_of_read read

end SceneCode.Json
