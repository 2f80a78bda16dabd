import Mathlib.Data.List.TakeWhile
import SceneCode.CommandLine.Host

/-!
# Writing into a file tree

A write that succeeds changes one file.  No directory comes or goes with it: the directory of the
written file was there before, and so were those on the way to it.  A path that led somewhere
leads to the same location afterwards, so writes that the tree accepts one by one it also accepts
one after the other.
-/

set_option autoImplicit false

namespace SceneCode.CommandLine

/-! ## Suffixes -/

namespace Path

/-- A name is its stem and at most one dot with what is behind it. -/
theorem exists_stem_append (name : List Char) :
    ∃ rest, name = stem name ++ rest ∧ '.' ∉ rest.tail := by
  have parts := List.takeWhile_append_dropWhile (p := (· ≠ '.')) (l := name.reverse)
  simp only [stem]
  split
  · rename_i dot before behind
    rw [behind] at parts
    split
    · exact ⟨[], (List.append_nil name).symm, List.not_mem_nil⟩
    · refine ⟨dot :: (name.reverse.takeWhile (· ≠ '.')).reverse, ?_, ?_⟩
      · simpa using (congrArg List.reverse parts).symm
      · rw [List.tail_cons, List.mem_reverse]
        intro member
        simpa using List.mem_takeWhile_imp member
  · exact ⟨[], (List.append_nil name).symm, List.not_mem_nil⟩

theorem stem_append_ne {name suffix : List Char} (dotted : '.' ∈ suffix.tail) :
    stem name ++ suffix ≠ name := by
  intro same
  obtain ⟨rest, parts, clear⟩ := exists_stem_append name
  have equal : suffix = rest := List.append_cancel_left (same.trans parts)
  exact clear (equal ▸ dotted)

theorem withSuffix_of_names {path : Path} {front : List String} {name : String}
    (parts : path.names = front ++ [name]) (suffix : String) :
    path.withSuffix suffix =
      { path with names := front ++ [String.ofList (stem name.toList) ++ suffix] } := by
  simp [withSuffix, parts]

end Path

namespace FileTree

variable {tree after : FileTree} {path : Path} {text : String}

/-! ## Directories -/

theorem isDirectory_iff {location : Location} :
    tree.isDirectory location = true ↔
      location <+: tree.workingDirectory ∨
        (∃ directory ∈ tree.directories, location <+: directory) ∨
        ∃ file ∈ tree.files.keys, location <+: file ∧ location.length < file.length := by
  simp [isDirectory, or_assoc]

/-- What is on the way to a directory is one. -/
theorem isDirectory_of_isPrefix {front location : Location} (onWay : front <+: location)
    (holds : tree.isDirectory location = true) : tree.isDirectory front = true := by
  rw [isDirectory_iff] at holds ⊢
  obtain working | ⟨directory, member, below⟩ | ⟨file, member, below, longer⟩ := holds
  · exact .inl (onWay.trans working)
  · exact .inr (.inl ⟨directory, member, onWay.trans below⟩)
  · exact .inr (.inr ⟨file, member, onWay.trans below, lt_of_le_of_lt onWay.length_le longer⟩)

theorem isDirectory_start (path : Path) : tree.isDirectory (tree.start path) = true := by
  refine isDirectory_iff.mpr (.inl ?_)
  unfold start
  split
  · exact List.prefix_rfl
  · exact List.nil_prefix

/-- The last name of a path is looked up in one directory, whichever name it is. -/
theorem exists_parent_of_follow {here location : Location} {front : List String} {name : String}
    (start : tree.isDirectory here = true)
    (reached : tree.follow here (front ++ [name]) = .ok location) :
    ∃ parent, tree.isDirectory parent = true ∧
      ∀ other found, tree.follow here (front ++ [other]) = .ok found →
        found = child other parent := by
  induction front generalizing here with
  | nil =>
      refine ⟨here, start, fun other found followed => ?_⟩
      simp only [List.nil_append, follow, List.isEmpty_nil, Bool.true_or, if_true] at followed
      split at followed
      · cases followed
      · exact (Except.ok.inj followed).symm
  | cons step rest ih =>
      have more : ∀ other : String, (rest ++ [other]).isEmpty = false := by simp
      simp only [List.cons_append, follow, more, Bool.false_or] at reached ⊢
      split at reached
      · cases reached
      · rename_i short
        split at reached
        · rename_i inner
          simpa only [if_neg short, if_pos inner] using ih inner reached
        · split at reached <;> cases reached

theorem follow_of_locate {location : Location} (located : tree.locate path = .ok location) :
    tree.follow (tree.start path) path.names = .ok location := by
  unfold locate at located
  split at located
  · cases located
  · exact located

/-- A location that is no directory is below one. -/
theorem exists_parent_of_locate {location : Location}
    (located : tree.locate path = .ok location) (plain : tree.isDirectory location = false) :
    ∃ front name parent, path.names = front ++ [name] ∧ location = parent ++ [name] ∧
      tree.isDirectory parent = true ∧
      ∀ other found, tree.locate { path with names := front ++ [other] } = .ok found →
        found = child other parent := by
  have reached := follow_of_locate located
  have start := tree.isDirectory_start path
  obtain none | ⟨front, name, parts⟩ := List.eq_nil_or_concat path.names
  · rw [none] at reached
    rw [Except.ok.inj reached, plain] at start
    cases start
  · rw [List.concat_eq_append] at parts
    rw [parts] at reached
    obtain ⟨parent, holds, childOf⟩ := exists_parent_of_follow start reached
    have last := childOf name _ reached
    unfold child at last
    split at last
    · rw [last, isDirectory_of_isPrefix (List.dropLast_prefix parent) holds] at plain
      cases plain
    · exact ⟨front, name, parent, parts, last, holds,
        fun other found also => childOf other found (follow_of_locate also)⟩

theorem exists_location_of_read {blob : Blob} (read : tree.read path = .ok blob) :
    ∃ location, tree.locate path = .ok location ∧ tree.isDirectory location = false := by
  unfold FileTree.read at read
  cases located : tree.locate path with
  | error fault =>
      rw [located] at read
      cases read
  | ok location =>
      rw [located] at read
      simp only [bind, Except.bind] at read
      split at read
      · cases read
      · rename_i plain
        exact ⟨location, rfl, by simpa using plain⟩

theorem child_ne {parent : Location} {name other : String} (different : other ≠ name) :
    child other parent ≠ parent ++ [name] := by
  unfold child
  split
  · intro same
    have lengths := congrArg List.length same
    simp only [List.length_dropLast, List.length_append, List.length_singleton] at lengths
    omega
  · simpa using different

/-- A suffix with a dot inside leads from a file to another location. -/
theorem locate_withSuffix_ne {location : Location} {suffix : String}
    (located : tree.locate path = .ok location) (plain : tree.isDirectory location = false)
    (dotted : '.' ∈ suffix.toList.tail) :
    tree.locate (path.withSuffix suffix) ≠ .ok location := by
  obtain ⟨front, name, parent, parts, rfl, _, childOf⟩ := exists_parent_of_locate located plain
  have different : String.ofList (Path.stem name.toList) ++ suffix ≠ name := by
    intro same
    have equal : Path.stem name.toList ++ suffix.toList = name.toList := by
      simpa using congrArg String.toList same
    exact Path.stem_append_ne dotted equal
  rw [Path.withSuffix_of_names parts]
  intro also
  exact child_ne different (childOf _ _ also).symm

/-! ## Writing -/

@[simp] theorem find?_put (tree : FileTree) (location other : Location) (text : String) :
    (tree.put location text).files.find? other =
      if other = location then some text.toUTF8.data else tree.files.find? other :=
  OrderedMap.find?_insert _ _ _ _

theorem mem_keys_put {location file : Location} :
    file ∈ (tree.put location text).files.keys ↔ file = location ∨ file ∈ tree.files.keys := by
  simp only [put, OrderedMap.keys_insert]
  split
  · rename_i known
    exact ⟨.inr, fun either => either.elim (fun same => same ▸ known) id⟩
  · rw [List.mem_append, List.mem_singleton, or_comm]

/-- Whether a file can be written at a path: the path leads somewhere, and to no directory. -/
def Accepts (tree : FileTree) (path : Path) : Prop :=
  path.hasNull = false ∧
    ∃ location, tree.locate path = .ok location ∧ tree.isDirectory location = false

/-- The one file at `path` holds `text` and can be read again, and all else is as it was. -/
def Receives (tree : FileTree) (path : Path) (text : String) (after : FileTree) : Prop :=
  ∃ location, tree.locate path = .ok location ∧ after.directories = tree.directories ∧
    after.workingDirectory = tree.workingDirectory ∧
    (∀ other, after.files.find? other =
      if other = location then some text.toUTF8.data else tree.files.find? other) ∧
    after.read path = .ok text.toUTF8.data

theorem write_of_locate {location : Location} (located : tree.locate path = .ok location)
    (plain : tree.isDirectory location = false) (text : String) :
    tree.write path text = .ok (tree.put location text) := by
  unfold write
  rw [located]
  simp only [bind, Except.bind, plain]
  rfl

/-- The directories on the way to a file that is written are there already. -/
theorem isDirectory_put {location : Location} (located : tree.locate path = .ok location)
    (plain : tree.isDirectory location = false) (text : String) (other : Location) :
    (tree.put location text).isDirectory other = tree.isDirectory other := by
  obtain ⟨_, name, parent, _, rfl, parentHolds, _⟩ := exists_parent_of_locate located plain
  rw [Bool.eq_iff_iff]
  constructor
  · intro holds
    obtain working | directory | ⟨file, member, below, longer⟩ := isDirectory_iff.mp holds
    · exact isDirectory_iff.mpr (.inl working)
    · exact isDirectory_iff.mpr (.inr (.inl directory))
    · obtain rfl | known := mem_keys_put.mp member
      · obtain whole | onWay := List.prefix_concat_iff.mp below
        · exact absurd longer (whole ▸ lt_irrefl _)
        · exact isDirectory_of_isPrefix onWay parentHolds
      · exact isDirectory_iff.mpr (.inr (.inr ⟨file, known, below, longer⟩))
  · intro holds
    obtain working | directory | ⟨file, member, further⟩ := isDirectory_iff.mp holds
    · exact isDirectory_iff.mpr (.inl working)
    · exact isDirectory_iff.mpr (.inr (.inl directory))
    · exact isDirectory_iff.mpr (.inr (.inr ⟨file, mem_keys_put.mpr (.inr member), further⟩))

theorem follow_of_isDirectory
    (same : ∀ location, after.isDirectory location = tree.isDirectory location)
    {here location : Location} {names : List String}
    (reached : tree.follow here names = .ok location) : after.follow here names = .ok location := by
  induction names generalizing here with
  | nil => exact reached
  | cons name rest ih =>
      simp only [follow, same] at reached ⊢
      split at reached
      · cases reached
      · rename_i short
        split at reached
        · rename_i onward
          rw [if_neg short, if_pos onward, ih reached]
        · split at reached <;> cases reached

/-- Writing a file leads no path to another location. -/
theorem locate_put {location target : Location} (located : tree.locate path = .ok location)
    (plain : tree.isDirectory location = false) (text : String) {other : Path}
    (otherLocated : tree.locate other = .ok target) :
    (tree.put location text).locate other = .ok target := by
  have reached := follow_of_isDirectory (isDirectory_put located plain text)
    (follow_of_locate otherLocated)
  have sameStart : (tree.put location text).start other = tree.start other := rfl
  unfold locate at otherLocated ⊢
  split at otherLocated
  · cases otherLocated
  · rename_i short
    rw [if_neg short, sameStart, reached]

theorem receives_put {location : Location} (located : tree.locate path = .ok location)
    (plain : tree.isDirectory location = false) (text : String) :
    tree.Receives path text (tree.put location text) := by
  refine ⟨location, located, rfl, rfl, fun other => find?_put tree location other text, ?_⟩
  unfold read
  rw [locate_put located plain text located]
  simp only [bind, Except.bind, isDirectory_put located plain, plain, find?_put, if_true]
  rfl

/-- A tree that accepts a file still does so after another one was written. -/
theorem Accepts.put {location : Location} (located : tree.locate path = .ok location)
    (plain : tree.isDirectory location = false) (text : String) {other : Path}
    (accepts : tree.Accepts other) : (tree.put location text).Accepts other := by
  obtain ⟨clear, target, targetLocated, targetPlain⟩ := accepts
  exact ⟨clear, target, locate_put located plain text targetLocated,
    (isDirectory_put located plain text target).trans targetPlain⟩

end FileTree

end SceneCode.CommandLine
