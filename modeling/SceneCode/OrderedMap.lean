/-!
# Insertion-ordered maps

A finite map that remembers the order in which its keys were entered.  Entering a key again
replaces its value and keeps its place.  Every key occurs once, and a map carries the proof.

`find?` is the view of a map: `find?_insert`, `find?_modify` and `find?_mapValues` say what the
operations do to it, and `keys_insert`, `keys_modify` and `keys_mapValues` what they do to the
order.
-/

set_option autoImplicit false

namespace SceneCode

universe u v

structure OrderedMap (κ : Type u) (α : Type v) where
  entries : List (κ × α)
  distinct : (entries.map Prod.fst).Nodup
  deriving DecidableEq, Repr

namespace OrderedMap

variable {κ : Type u} {α : Type v}

def empty : OrderedMap κ α := ⟨[], by simp⟩

def size (map : OrderedMap κ α) : Nat := map.entries.length

def keys (map : OrderedMap κ α) : List κ := map.entries.map Prod.fst

variable [DecidableEq κ]

def valueOf? (key : κ) : List (κ × α) → Option α
  | [] => none
  | (k, v) :: rest => if k = key then some v else valueOf? key rest

def find? (map : OrderedMap κ α) (key : κ) : Option α := valueOf? key map.entries

/-- Replaces the value of a key in its place, or adds it at the end. -/
def insertEntry (key : κ) (value : α) : List (κ × α) → List (κ × α)
  | [] => [(key, value)]
  | (k, v) :: rest =>
    if k = key then (k, value) :: rest else (k, v) :: insertEntry key value rest

def modifyEntry (key : κ) (change : α → α) : List (κ × α) → List (κ × α)
  | [] => []
  | (k, v) :: rest =>
    if k = key then (k, change v) :: rest else (k, v) :: modifyEntry key change rest

theorem map_fst_modifyEntry (key : κ) (change : α → α) (entries : List (κ × α)) :
    (modifyEntry key change entries).map Prod.fst = entries.map Prod.fst := by
  induction entries with
  | nil => rfl
  | cons head rest ih =>
      obtain ⟨k, v⟩ := head
      by_cases same : k = key <;> simp [modifyEntry, same, ih]

theorem map_fst_insertEntry (key : κ) (value : α) (entries : List (κ × α)) :
    (insertEntry key value entries).map Prod.fst =
      if key ∈ entries.map Prod.fst then entries.map Prod.fst
      else entries.map Prod.fst ++ [key] := by
  induction entries with
  | nil => rfl
  | cons head rest ih =>
      obtain ⟨k, v⟩ := head
      by_cases same : k = key
      · subst same
        rw [insertEntry, if_pos rfl, List.map_cons, List.map_cons, if_pos List.mem_cons_self]
      · rw [insertEntry, if_neg same, List.map_cons, ih, List.map_cons]
        have other : key ∈ k :: rest.map Prod.fst ↔ key ∈ rest.map Prod.fst := by
          rw [List.mem_cons]
          exact ⟨fun h => h.resolve_left (Ne.symm same), Or.inr⟩
        by_cases member : key ∈ rest.map Prod.fst
        · rw [if_pos member, if_pos (other.mpr member)]
        · rw [if_neg member, if_neg (fun h => member (other.mp h)), List.cons_append]

theorem nodup_insertEntry (key : κ) (value : α) {entries : List (κ × α)}
    (distinct : (entries.map Prod.fst).Nodup) :
    ((insertEntry key value entries).map Prod.fst).Nodup := by
  rw [map_fst_insertEntry]
  split
  · exact distinct
  · rename_i absent
    rw [List.nodup_append]
    refine ⟨distinct, by simp, ?_⟩
    intro a inside b isKey
    rw [List.mem_singleton] at isKey
    exact fun same => absent (isKey ▸ same ▸ inside)

def insert (map : OrderedMap κ α) (key : κ) (value : α) : OrderedMap κ α :=
  ⟨insertEntry key value map.entries, nodup_insertEntry key value map.distinct⟩

def modify (map : OrderedMap κ α) (key : κ) (change : α → α) : OrderedMap κ α :=
  ⟨modifyEntry key change map.entries, by
    rw [map_fst_modifyEntry]; exact map.distinct⟩

omit [DecidableEq κ] in
def mapValues (map : OrderedMap κ α) (change : α → α) : OrderedMap κ α :=
  ⟨map.entries.map fun entry => (entry.1, change entry.2), by
    rw [List.map_map]; exact map.distinct⟩

/-- The map of a list in which later pairs win. -/
def ofList (pairs : List (κ × α)) : OrderedMap κ α :=
  pairs.foldl (fun map pair => map.insert pair.1 pair.2) empty

theorem valueOf?_insertEntry (key other : κ) (value : α) (entries : List (κ × α)) :
    valueOf? other (insertEntry key value entries) =
      if other = key then some value else valueOf? other entries := by
  induction entries with
  | nil => simp [insertEntry, valueOf?, eq_comm]
  | cons head rest ih =>
      obtain ⟨k, v⟩ := head
      by_cases found : k = key
      · subst found
        by_cases same : k = other
        · simp [insertEntry, valueOf?, same]
        · simp [insertEntry, valueOf?, same, Ne.symm same]
      · by_cases same : k = other
        · subst same
          simp [insertEntry, valueOf?, found]
        · simp [insertEntry, valueOf?, found, same, ih]

theorem valueOf?_modifyEntry (key other : κ) (change : α → α) (entries : List (κ × α)) :
    valueOf? other (modifyEntry key change entries) =
      if other = key then (valueOf? other entries).map change
      else valueOf? other entries := by
  induction entries with
  | nil => simp [modifyEntry, valueOf?]
  | cons head rest ih =>
      obtain ⟨k, v⟩ := head
      by_cases found : k = key
      · subst found
        by_cases same : k = other
        · simp [modifyEntry, valueOf?, same]
        · simp [modifyEntry, valueOf?, same, Ne.symm same]
      · by_cases same : k = other
        · subst same
          simp [modifyEntry, valueOf?, found]
        · simp [modifyEntry, valueOf?, found, same, ih]

theorem valueOf?_map (change : α → α) (key : κ) (entries : List (κ × α)) :
    valueOf? key (entries.map fun entry => (entry.1, change entry.2)) =
      (valueOf? key entries).map change := by
  induction entries with
  | nil => rfl
  | cons head rest ih =>
      obtain ⟨k, v⟩ := head
      by_cases same : k = key <;> simp [valueOf?, same, ih]

@[simp] theorem find?_empty (key : κ) : (empty : OrderedMap κ α).find? key = none := rfl

@[simp] theorem find?_insert (map : OrderedMap κ α) (key other : κ) (value : α) :
    (map.insert key value).find? other =
      if other = key then some value else map.find? other :=
  valueOf?_insertEntry key other value map.entries

@[simp] theorem find?_modify (map : OrderedMap κ α) (key other : κ) (change : α → α) :
    (map.modify key change).find? other =
      if other = key then (map.find? other).map change else map.find? other :=
  valueOf?_modifyEntry key other change map.entries

@[simp] theorem find?_mapValues (map : OrderedMap κ α) (change : α → α) (key : κ) :
    (map.mapValues change).find? key = (map.find? key).map change :=
  valueOf?_map change key map.entries

@[simp] theorem keys_insert (map : OrderedMap κ α) (key : κ) (value : α) :
    (map.insert key value).keys =
      if key ∈ map.keys then map.keys else map.keys ++ [key] :=
  map_fst_insertEntry key value map.entries

@[simp] theorem keys_modify (map : OrderedMap κ α) (key : κ) (change : α → α) :
    (map.modify key change).keys = map.keys :=
  map_fst_modifyEntry key change map.entries

omit [DecidableEq κ] in
@[simp] theorem keys_mapValues (map : OrderedMap κ α) (change : α → α) :
    (map.mapValues change).keys = map.keys := by
  unfold keys mapValues
  rw [List.map_map]
  rfl

end OrderedMap

end SceneCode
