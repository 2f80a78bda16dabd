import SceneCode.OrderedMap

/-!
# Entries of insertion-ordered maps

Where an operation on a map leaves its entries, and how looking up a key relates to them.
-/

set_option autoImplicit false

namespace SceneCode

universe u v

namespace OrderedMap

variable {κ : Type u} {α : Type v} [DecidableEq κ]

omit [DecidableEq κ] in
theorem ext_entries {first second : OrderedMap κ α} (same : first.entries = second.entries) :
    first = second := by
  cases first
  cases second
  cases same
  rfl

theorem modifyEntry_append {key : κ} {change : α → α} {value : α} {front back : List (κ × α)}
    (absent : key ∉ front.map Prod.fst) :
    modifyEntry key change (front ++ (key, value) :: back) =
      front ++ (key, change value) :: back := by
  induction front with
  | nil => simp [modifyEntry]
  | cons head rest ih =>
      obtain ⟨k, v⟩ := head
      rw [List.map_cons, List.mem_cons, not_or] at absent
      rw [List.cons_append, modifyEntry, if_neg (Ne.symm absent.1), ih absent.2,
        List.cons_append]

theorem insertEntry_of_absent {key : κ} {value : α} {entries : List (κ × α)}
    (absent : key ∉ entries.map Prod.fst) :
    insertEntry key value entries = entries ++ [(key, value)] := by
  induction entries with
  | nil => rfl
  | cons head rest ih =>
      obtain ⟨k, v⟩ := head
      rw [List.map_cons, List.mem_cons, not_or] at absent
      rw [insertEntry, if_neg (Ne.symm absent.1), ih absent.2, List.cons_append]

theorem mem_of_valueOf? {key : κ} {value : α} {entries : List (κ × α)}
    (found : valueOf? key entries = some value) : (key, value) ∈ entries := by
  induction entries with
  | nil => cases found
  | cons head rest ih =>
      obtain ⟨k, v⟩ := head
      by_cases same : k = key
      · simp_all [valueOf?]
      · rw [valueOf?, if_neg same] at found
        exact List.mem_cons_of_mem _ (ih found)

theorem mem_of_find? {map : OrderedMap κ α} {key : κ} {value : α}
    (found : map.find? key = some value) : (key, value) ∈ map.entries :=
  mem_of_valueOf? found

theorem find?_of_entries {map : OrderedMap κ α} {key : κ} {value : α} {front back : List (κ × α)}
    (split : map.entries = front ++ (key, value) :: back) :
    key ∉ front.map Prod.fst ∧ map.find? key = some value := by
  have distinct := map.distinct
  rw [split, List.map_append, List.map_cons, List.nodup_append] at distinct
  have absent : key ∉ front.map Prod.fst := fun inside =>
    distinct.2.2 key inside key List.mem_cons_self rfl
  refine ⟨absent, ?_⟩
  rw [find?, split]
  clear distinct split
  induction front with
  | nil => simp [valueOf?]
  | cons head rest ih =>
      obtain ⟨k, v⟩ := head
      rw [List.map_cons, List.mem_cons, not_or] at absent
      rw [List.cons_append, valueOf?, if_neg (Ne.symm absent.1), ih absent.2]

theorem find?_of_mem {map : OrderedMap κ α} {key : κ} {value : α}
    (member : (key, value) ∈ map.entries) : map.find? key = some value := by
  obtain ⟨front, back, split⟩ := List.append_of_mem member
  exact (find?_of_entries split).2

/-- A map is determined by the order of its keys and by what they find. -/
theorem ext_find? {first second : OrderedMap κ α} (keys : first.keys = second.keys)
    (same : ∀ key, first.find? key = second.find? key) : first = second := by
  apply ext_entries
  apply List.ext_getElem?
  intro index
  have place : first.entries[index]?.map Prod.fst = second.entries[index]?.map Prod.fst := by
    rw [← List.getElem?_map, ← List.getElem?_map]
    exact congrArg (fun listed => listed[index]?) keys
  cases here : first.entries[index]? with
  | none =>
      rw [here, Option.map_none, eq_comm, Option.map_eq_none_iff] at place
      exact place.symm
  | some entry =>
      rw [here, Option.map_some, eq_comm, Option.map_eq_some_iff] at place
      obtain ⟨other, there, key⟩ := place
      have value := same entry.1
      have found : first.find? entry.1 = some entry.2 := find?_of_mem (List.mem_of_getElem? here)
      have alsoFound : second.find? other.1 = some other.2 :=
        find?_of_mem (List.mem_of_getElem? there)
      rw [found, ← key, alsoFound, Option.some.injEq] at value
      rw [there, ← Prod.ext key value.symm]

theorem entries_modify {map : OrderedMap κ α} {key : κ} {value : α} {front back : List (κ × α)}
    (split : map.entries = front ++ (key, value) :: back) (change : α → α) :
    (map.modify key change).entries = front ++ (key, change value) :: back := by
  have changed : (map.modify key change).entries = modifyEntry key change map.entries := rfl
  rw [changed, split, modifyEntry_append (find?_of_entries split).1]

theorem modify_self {map : OrderedMap κ α} {key : κ} {value : α}
    (found : map.find? key = some value) : map.modify key (fun _ => value) = map := by
  obtain ⟨front, back, split⟩ := List.append_of_mem (mem_of_find? found)
  exact ext_entries ((entries_modify split _).trans split.symm)

theorem modifyEntry_modifyEntry (key : κ) (first second : α → α) (entries : List (κ × α)) :
    modifyEntry key second (modifyEntry key first entries) =
      modifyEntry key (second ∘ first) entries := by
  induction entries with
  | nil => rfl
  | cons head rest ih =>
      obtain ⟨k, v⟩ := head
      by_cases same : k = key <;> simp [modifyEntry, same, ih]

theorem modify_modify (map : OrderedMap κ α) (key : κ) (first second : α → α) :
    (map.modify key first).modify key second = map.modify key (second ∘ first) :=
  ext_entries (modifyEntry_modifyEntry key first second map.entries)

theorem entries_insert_of_absent {map : OrderedMap κ α} {key : κ} {value : α}
    (absent : key ∉ map.keys) : (map.insert key value).entries = map.entries ++ [(key, value)] :=
  insertEntry_of_absent absent

/-- Entries with new keys are added at the end, in their order. -/
theorem entries_foldl_insert {pairs : List (κ × α)} :
    ∀ {map : OrderedMap κ α}, ((map.entries ++ pairs).map Prod.fst).Nodup →
      (pairs.foldl (fun map pair => map.insert pair.1 pair.2) map).entries =
        map.entries ++ pairs := by
  induction pairs with
  | nil => simp
  | cons pair rest ih =>
      intro map distinct
      have absent : pair.1 ∉ map.keys := by
        rw [List.map_append, List.nodup_append] at distinct
        exact fun inside => distinct.2.2 pair.1 inside pair.1 (by simp) rfl
      have entered : (map.insert pair.1 pair.2).entries = map.entries ++ [pair] :=
        entries_insert_of_absent absent
      rw [List.foldl_cons, ih, entered, List.append_assoc, List.singleton_append]
      rw [entered, List.append_assoc, List.singleton_append]
      exact distinct

theorem entries_ofList {pairs : List (κ × α)} (distinct : (pairs.map Prod.fst).Nodup) :
    (ofList pairs).entries = pairs :=
  entries_foldl_insert distinct

/-- A change of all values goes through the change of one. -/
theorem modify_mapValues (map : OrderedMap κ α) (key : κ) {each change changed : α → α}
    (commutes : ∀ value, each (change value) = changed (each value)) :
    (map.modify key change).mapValues each = (map.mapValues each).modify key changed := by
  apply ext_entries
  unfold modify mapValues
  dsimp only
  induction map.entries with
  | nil => rfl
  | cons entry rest ih =>
      obtain ⟨other, value⟩ := entry
      by_cases same : other = key
      · simp [modifyEntry, same, commutes]
      · simp [modifyEntry, same, ih]

end OrderedMap

end SceneCode
