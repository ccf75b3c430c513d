import Mathlib.Data.List.Basic
import Winnow.FileTree

/-! # Writing files

What is written stands at its path, and at every other path stands what stood there before. So
directories that have no entry of their own neither come nor go when a file is written.
-/

namespace Winnow

namespace FileTree

variable {tree after : FileTree} {path other : FilePath} {entry : FileEntry} {contents : String}

theorem lookup_cons_eq_ite {entries : List (FilePath × FileEntry)} :
    ((path, entry) :: entries).lookup other =
      if other = path then some entry else entries.lookup other := by
  by_cases same : other = path
  · subst same
    rw [List.lookup_cons_self, if_pos rfl]
  · rw [List.lookup_cons, beq_eq_false_iff_ne.mpr same, if_neg same]

theorem lookup_setEntry {entries : List (FilePath × FileEntry)} :
    (setEntry path entry entries).lookup other =
      if other = path then some entry else entries.lookup other := by
  induction entries with
  | nil => exact lookup_cons_eq_ite
  | cons first rest ih =>
      obtain ⟨place, old⟩ := first
      rw [setEntry]
      split
      · next here =>
        subst here
        rw [lookup_cons_eq_ite, lookup_cons_eq_ite]
        by_cases same : other = place <;> simp [same]
      · next apart =>
        rw [lookup_cons_eq_ite, lookup_cons_eq_ite, ih]
        by_cases same : other = place
        · subst same
          simp [apart]
        · simp [same]

theorem any_setEntry {holds : FilePath → Bool} {entries : List (FilePath × FileEntry)} :
    ((setEntry path entry entries).any fun (place, _) => holds place) =
      (holds path || entries.any fun (place, _) => holds place) := by
  induction entries with
  | nil => rfl
  | cons first rest ih =>
      obtain ⟨place, old⟩ := first
      rw [setEntry]
      split
      · next here => simp [here]
      · simp only [List.any_cons, ih, Bool.or_left_comm]

/-- Whether a path leads to another one by way of at least one name. -/
def isBelow (upper path : FilePath) : Bool :=
  path.fromRoot == upper.fromRoot && upper.names.isPrefixOf path.names
    && path.names.length != upper.names.length

theorem isBelow_iff {upper : FilePath} :
    isBelow upper path = true ↔
      path.fromRoot = upper.fromRoot ∧ upper.names <+: path.names ∧
        path.names.length ≠ upper.names.length := by
  simp [isBelow, and_assoc]

theorem hasBelow_eq (tree : FileTree) (upper : FilePath) :
    tree.hasBelow upper = tree.entries.any fun (place, _) => isBelow upper place :=
  rfl

theorem isBelow_trans {upper middle : FilePath} (above : isBelow upper middle = true)
    (below : isBelow middle path = true) : isBelow upper path = true := by
  rw [isBelow_iff] at *
  obtain ⟨sameRoot, start, longer⟩ := above
  obtain ⟨sameRoot', start', longer'⟩ := below
  refine ⟨sameRoot'.trans sameRoot, start.trans start', ?_⟩
  have := start.length_le
  have := start'.length_le
  omega

theorem isBelow_parent {upper : FilePath} (above : isBelow upper path = true) :
    upper = path.parent ∨ isBelow upper path.parent = true := by
  rw [isBelow_iff] at above
  obtain ⟨sameRoot, start, longer⟩ := above
  have shorter := start.length_le
  have within : upper.names <+: path.names.dropLast := by
    rw [List.dropLast_eq_take, List.prefix_take_iff]
    exact ⟨start, by omega⟩
  by_cases whole : upper.names.length = path.names.dropLast.length
  · refine .inl ?_
    obtain ⟨fromRoot, names⟩ := upper
    rw [FilePath.parent, ← within.eq_of_length whole]
    exact congrArg (FilePath.mk · names) sameRoot.symm
  · exact .inr (isBelow_iff.mpr ⟨sameRoot, within, fun same => whole same.symm⟩)

/-- Something stands below whatever is above a path whose directory is there. -/
theorem hasBelow_of_isBelow {upper : FilePath}
    (directory : tree.entry? path.parent = some .directory) (above : isBelow upper path = true) :
    tree.entry? upper = some .directory ∨ tree.hasBelow upper = true := by
  rcases isBelow_parent above with same | inside
  · exact .inl (same ▸ directory)
  · refine .inr ?_
    rw [hasBelow_eq, List.any_eq_true]
    unfold entry? at directory
    split at directory
    · next entry found =>
      obtain ⟨front, rest, split, _⟩ := List.lookup_eq_some_iff.mp found
      refine ⟨(path.parent, entry), ?_, inside⟩
      rw [split]
      exact List.mem_append_right _ List.mem_cons_self
    · split at directory
      · next something =>
        rcases Bool.or_eq_true_iff.mp something with empty | below
        · -- Nothing is above a path without names.
          have none := (isBelow_iff.mp inside).2
          rw [List.isEmpty_iff.mp empty] at none
          exact absurd (congrArg List.length (List.prefix_nil.mp none.1)).symm none.2
        · obtain ⟨member, among, beyond⟩ := List.any_eq_true.mp below
          exact ⟨member, among, isBelow_trans inside beyond⟩
      · cases directory

theorem write_eq_ok_iff :
    tree.write path contents = (.ok (), after) ↔
      tree.entry? path ≠ some .directory ∧ tree.entry? path ≠ some .closed ∧
        tree.entry? path.parent = some .directory ∧
        after = ⟨setEntry path (.text contents) tree.entries⟩ := by
  rw [write]
  cases target : tree.entry? path with
  | none =>
      cases tree.entry? path.parent with
      | none => simp
      | some above => cases above <;> simp [eq_comm]
  | some old =>
      cases old with
      | directory | closed => simp
      | text | binary =>
          cases tree.entry? path.parent with
          | none => simp
          | some above => cases above <;> simp [eq_comm]

theorem write_refused {error : FileError} (refused : (tree.write path contents).1 = .error error) :
    (tree.write path contents).2 = tree := by
  rw [write] at refused ⊢
  split
  · rfl
  · rfl
  · next opens =>
    split
    · simp_all
    · rfl
    · rfl

/-- What is written stands at its path, and nothing else changes. -/
theorem entry?_write (written : tree.write path contents = (.ok (), after)) :
    after.entry? other = if other = path then some (.text contents) else tree.entry? other := by
  obtain ⟨_, _, directory, rfl⟩ := write_eq_ok_iff.mp written
  have below : hasBelow ⟨setEntry path (.text contents) tree.entries⟩ other =
      (isBelow other path || tree.hasBelow other) := by
    rw [hasBelow_eq, any_setEntry, ← hasBelow_eq]
  have above := @hasBelow_of_isBelow tree path other directory
  unfold entry? at above ⊢
  rw [lookup_setEntry, below]
  by_cases same : other = path
  · rw [if_pos same, if_pos same]
  rw [if_neg same, if_neg same]
  cases found : tree.entries.lookup other with
  | some entry => rfl
  | none =>
      -- A path above the written one is a directory already.
      cases onTheWay : isBelow other path with
      | false => rw [Bool.false_or]
      | true =>
          rw [found] at above
          rcases above onTheWay with stands | something
          · rw [Bool.true_or, Bool.or_true, if_pos rfl]
            exact stands.symm
          · rw [something, Bool.or_true]

end FileTree

end Winnow
