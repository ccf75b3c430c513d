import Mathlib.Data.List.DropRight
import Mathlib.Data.List.Infix
import Winnow.FileTree
import Winnow.Proofs.Splitting

/-! # Written paths

A path can be written in many ways, but its written directory always stands for the directory
above it. So the written directories of an absolute path, one above the other, stand for its
ancestors, each of them once.
-/

namespace Winnow

namespace FilePath

/-- Whether a piece of a written path names no step. -/
def isIdle (piece : List Char) : Bool :=
  piece == [] || piece == ['.']

/-- The pieces of a written path that name a step. -/
def steps (pieces : List (List Char)) : List (List Char) :=
  pieces.filter (!isIdle ·)

theorem steps_append (pieces others : List (List Char)) :
    steps (pieces ++ others) = steps pieces ++ steps others :=
  List.filter_append _ _

theorem dropIdle_eq (pieces : List (List Char)) : dropIdle pieces = pieces.rdropWhile isIdle :=
  rfl

@[simp] theorem dropIdle_append_idle {pieces : List (List Char)} {piece : List Char}
    (idle : isIdle piece = true) : dropIdle (pieces ++ [piece]) = dropIdle pieces := by
  rw [dropIdle_eq, List.rdropWhile_concat_pos _ _ _ idle, dropIdle_eq]

@[simp] theorem dropIdle_append_step {pieces : List (List Char)} {piece : List Char}
    (step : isIdle piece = false) : dropIdle (pieces ++ [piece]) = pieces ++ [piece] := by
  rw [dropIdle_eq, List.rdropWhile_concat_neg _ _ _ (by simp [step])]

theorem dropIdle_isPrefixOf (pieces : List (List Char)) : dropIdle pieces <+: pieces :=
  List.rdropWhile_prefix _ _

theorem steps_dropIdle (pieces : List (List Char)) : steps (dropIdle pieces) = steps pieces := by
  induction pieces using List.reverseRecOn with
  | nil => rfl
  | append_singleton pieces piece ih =>
      cases idle : isIdle piece with
      | true => rw [dropIdle_append_idle idle, ih]; simp [steps, idle]
      | false => rw [dropIdle_append_step idle]

theorem dropIdle_cases (pieces : List (List Char)) :
    (dropIdle pieces = [] ∧ steps pieces = []) ∨
      ∃ before last, dropIdle pieces = before ++ [last] ∧
        steps pieces = steps before ++ [last] := by
  induction pieces using List.reverseRecOn with
  | nil => exact .inl ⟨rfl, rfl⟩
  | append_singleton pieces piece ih =>
      cases idle : isIdle piece with
      | true =>
          have same : steps (pieces ++ [piece]) = steps pieces := by simp [steps, idle]
          rw [dropIdle_append_idle idle, same]
          exact ih
      | false =>
          refine .inr ⟨pieces, piece, dropIdle_append_step idle, ?_⟩
          simp [steps, idle]

theorem names_ofText (written : String) :
    (ofText written).names =
      (steps (Text.pieces (· == '/') written.toList)).map String.ofList := by
  rw [ofText, parts, List.filter_map, steps]
  refine congrArg _ (List.filter_congr fun piece _ => ?_)
  rw [Bool.eq_iff_iff]
  simp [isIdle, ← String.toList_inj]

theorem names_ofText_absolute {rest : List Char} :
    (ofText (String.ofList ('/' :: rest))).names =
      (steps (Text.pieces (· == '/') rest)).map String.ofList := by
  rw [names_ofText, String.toList_ofList, Text.pieces]
  rfl

/-- Whether a written path starts at the root. -/
def IsAbsolute (written : String) : Prop :=
  written.toList.head? = some '/'

instance (written : String) : Decidable (IsAbsolute written) :=
  inferInstanceAs (Decidable (_ = _))

theorem IsAbsolute.exists_rest {written : String} (absolute : IsAbsolute written) :
    ∃ rest, written = String.ofList ('/' :: rest) := by
  obtain ⟨rest, chars⟩ := List.head?_eq_some_iff.mp absolute
  exact ⟨rest, by rw [← chars, String.ofList_toList]⟩

theorem isAbsolute_ofList (rest : List Char) : IsAbsolute (String.ofList ('/' :: rest)) := by
  rw [IsAbsolute, String.toList_ofList, List.head?_cons]

theorem fromRoot_ofText {written : String} :
    (ofText written).fromRoot = true ↔ IsAbsolute written :=
  beq_iff_eq

theorem IsAbsolute.fromRoot {written : String} (absolute : IsAbsolute written) :
    (ofText written).fromRoot = true :=
  fromRoot_ofText.mpr absolute

theorem steps_pieces_join {pieces : List (List Char)} (unmarked : ∀ piece ∈ pieces, '/' ∉ piece) :
    steps (Text.pieces (· == '/') (Text.join ['/'] pieces)) = steps pieces := by
  by_cases empty : pieces = []
  · rw [empty]
    rfl
  · rw [Text.pieces_join empty unmarked]

/-- The written directory of an absolute path is absolute and stands for the directory above
    what the path stands for. Only the root has none. -/
theorem directoryText?_absolute {written : String} (absolute : IsAbsolute written) :
    (directoryText? written = none ∧ (ofText written).names = []) ∨
      ∃ directory, directoryText? written = some directory ∧ IsAbsolute directory ∧
        (ofText written).names ≠ [] ∧ ofText directory = (ofText written).parent := by
  obtain ⟨rest, rfl⟩ := absolute.exists_rest
  obtain ⟨first, others, cut⟩ :=
    List.exists_cons_of_ne_nil (Text.pieces_ne_nil '/' rest)
  have pieces : Text.pieces (· == '/') (String.ofList ('/' :: rest)).toList =
      [] :: first :: others := by
    rw [String.toList_ofList, Text.pieces, cut]
    rfl
  have directory : directoryText? (String.ofList ('/' :: rest)) =
      if dropIdle (first :: others) = [] then none
      else some (String.ofList
        ('/' :: Text.join ['/'] (dropIdle (dropIdle (first :: others)).dropLast))) := by
    rw [directoryText?, pieces]
    cases left : dropIdle (first :: others) <;> simp only [left] <;> rfl
  rw [directory, names_ofText_absolute, cut]
  rcases dropIdle_cases (first :: others) with ⟨idle, none⟩ | ⟨before, last, left, stepped⟩
  · exact .inl ⟨if_pos idle, by rw [none, List.map_nil]⟩
  · have unmarked : ∀ piece ∈ dropIdle before, '/' ∉ piece := by
      intro piece member
      have inside : piece ∈ first :: others :=
        (dropIdle_isPrefixOf _).mem
          (left ▸ List.mem_append_left _ ((dropIdle_isPrefixOf _).mem member))
      exact Text.not_mem_of_mem_pieces (cut ▸ inside)
    have above : directoryText? (String.ofList ('/' :: rest)) =
        some (String.ofList ('/' :: Text.join ['/'] (dropIdle before))) := by
      rw [directory, left, List.dropLast_concat, if_neg (List.concat_ne_nil _ _)]
    refine .inr ⟨_, directory ▸ above, isAbsolute_ofList _, by simp [stepped], ?_⟩
    have names : (ofText (String.ofList ('/' :: Text.join ['/'] (dropIdle before)))).names =
        (ofText (String.ofList ('/' :: rest))).names.dropLast := by
      rw [names_ofText_absolute, names_ofText_absolute, cut, stepped, steps_pieces_join unmarked,
        steps_dropIdle, List.map_append, List.map_singleton, List.dropLast_concat]
    rw [parent, ← names, absolute.fromRoot, ← (isAbsolute_ofList _).fromRoot]

theorem head?_join_of_isPrefixOf {c : Char} {piece : List Char} {pieces others : List (List Char)}
    (start : pieces <+: (c :: piece) :: others) :
    (Text.join ['/'] pieces).head? = none ∨ (Text.join ['/'] pieces).head? = some c := by
  cases pieces with
  | nil => exact .inl rfl
  | cons first rest =>
      obtain ⟨rfl, _⟩ := List.cons_prefix_cons.mp start
      cases rest <;> exact .inr rfl

theorem isAbsolute_of_directoryText? {written directory : String}
    (found : directoryText? written = some directory) (absolute : IsAbsolute directory) :
    IsAbsolute written := by
  cases chars : written.toList with
  | nil =>
      rw [directoryText?, chars] at found
      contradiction
  | cons c rest =>
      by_cases slash : c = '/'
      · rw [IsAbsolute, chars, slash, List.head?_cons]
      obtain ⟨first, others, cut⟩ :=
        List.exists_cons_of_ne_nil (Text.pieces_ne_nil '/' rest)
      have pieces : Text.pieces (· == '/') (c :: rest) = (c :: first) :: others := by
        rw [Text.pieces, cut]
        simp [slash]
      -- What is joined from the first pieces starts as the path does.
      have relative : ∀ pieces, pieces <+: (c :: first) :: others →
          ¬ IsAbsolute (String.ofList (Text.join ['/'] pieces)) := by
        intro pieces start root
        rw [IsAbsolute, String.toList_ofList] at root
        rcases head?_join_of_isPrefixOf start with none | head
        · simp [none] at root
        · simp [head, slash] at root
      have shorter : ∀ pieces, dropIdle (dropIdle pieces).dropLast <+: pieces := fun pieces =>
        (dropIdle_isPrefixOf _).trans
          ((List.dropLast_prefix _).trans (dropIdle_isPrefixOf pieces))
      rw [directoryText?, chars, pieces] at found
      split at found
      · rename_i empty
        exact absurd (List.cons.inj empty).1 (List.cons_ne_nil _ _)
      · rename_i parts dot
        split at found
        · rw [← Option.some.inj found] at absolute
          contradiction
        · rw [← Option.some.inj found] at absolute
          refine absurd absolute (relative _ ?_)
          rw [dot, List.cons_prefix_cons]
          exact ⟨rfl, shorter parts⟩
      · split at found
        · contradiction
        · rw [← Option.some.inj found] at absolute
          exact absurd absolute (relative _ (shorter _))

theorem isAbsolute_iff_of_directoryText? {written directory : String}
    (found : directoryText? written = some directory) :
    IsAbsolute directory ↔ IsAbsolute written := by
  refine ⟨isAbsolute_of_directoryText? found, fun absolute => ?_⟩
  rcases directoryText?_absolute absolute with ⟨none, _⟩ | ⟨_, same, above, _⟩
  · simp [none] at found
  · rwa [← Option.some.inj (same.symm.trans found)]

/-! ## Ancestors -/

/-- A path and every directory above it, nearest first. -/
def upward (path : FilePath) : List FilePath :=
  path.names.inits.reverse.map (⟨path.fromRoot, ·⟩)

theorem upward_of_names_nil {path : FilePath} (empty : path.names = []) : path.upward = [path] := by
  obtain ⟨fromRoot, names⟩ := path
  cases empty
  rfl

theorem upward_eq_cons {path : FilePath} (nonempty : path.names ≠ []) :
    path.upward = path :: path.parent.upward := by
  have split := List.dropLast_append_getLast nonempty
  have inits : path.names.inits = path.names.dropLast.inits ++ [path.names] := by
    conv_lhs => rw [← split, List.inits_append]
    simp [split]
  simp [upward, inits, parent]

theorem mem_upward {path other : FilePath} :
    other ∈ path.upward ↔ other.fromRoot = path.fromRoot ∧ other.names <+: path.names := by
  obtain ⟨fromRoot, names⟩ := other
  simp [upward, eq_comm, and_comm]

/-- The directories above a path, nearest first. -/
def above (path : FilePath) : List FilePath :=
  path.upward.tail

theorem length_lt_of_mem_above {path other : FilePath} (member : other ∈ path.above) :
    other.names.length < path.names.length := by
  by_cases empty : path.names = []
  · simp [above, upward_of_names_nil empty] at member
  · rw [above, upward_eq_cons empty, List.tail_cons, mem_upward, parent,
      List.dropLast_eq_take] at member
    have shorter := member.2.length_le
    have positive := List.length_pos_of_ne_nil empty
    rw [List.length_take] at shorter
    omega

theorem upward_pairwise (path : FilePath) :
    path.upward.Pairwise fun near far => far ∈ near.above := by
  induction size : path.names.length generalizing path with
  | zero => simp [upward_of_names_nil (List.length_eq_zero_iff.mp size)]
  | succ count ih =>
      have nonempty : path.names ≠ [] := List.ne_nil_of_length_eq_add_one size
      have fewer : path.parent.names.length = count := by simp [parent, size]
      rw [upward_eq_cons nonempty, List.pairwise_cons]
      refine ⟨fun far member => ?_, ih _ fewer⟩
      rwa [above, upward_eq_cons nonempty]

theorem upward_nodup (path : FilePath) : path.upward.Nodup := by
  refine path.upward_pairwise.imp fun member same => ?_
  exact absurd (length_lt_of_mem_above member) (same ▸ Nat.lt_irrefl _)

/-- The written directories upwards of an absolute path stand for its ancestors. -/
theorem map_ofText_writtenAncestors {count : Nat} {written : String} (absolute : IsAbsolute written)
    (enough : (ofText written).names.length ≤ count) :
    (writtenAncestors count written).map ofText = (ofText written).upward := by
  induction count generalizing written with
  | zero =>
      rw [upward_of_names_nil (List.length_eq_zero_iff.mp (Nat.le_zero.mp enough))]
      rfl
  | succ count ih =>
      rw [writtenAncestors]
      rcases directoryText?_absolute absolute with
        ⟨none, empty⟩ | ⟨directory, found, above, nonempty, same⟩
      · rw [none, upward_of_names_nil empty]
        rfl
      · have fewer : (ofText directory).names.length ≤ count := by
          rw [same, parent, List.length_dropLast]
          omega
        rw [found, upward_eq_cons nonempty, ← same, ← ih above fewer]
        rfl

theorem isAbsolute_iff_of_mem_writtenAncestors {count : Nat} {written other : String}
    (member : other ∈ writtenAncestors count written) : IsAbsolute other ↔ IsAbsolute written := by
  induction count generalizing written with
  | zero => rw [List.mem_singleton.mp member]
  | succ count ih =>
      rw [writtenAncestors] at member
      rcases List.mem_cons.mp member with rfl | later
      · rfl
      · cases found : directoryText? written with
        | none => simp [found] at later
        | some directory =>
            rw [found] at later
            exact (ih later).trans (isAbsolute_iff_of_directoryText? found)

theorem length_names_le {written : String} (absolute : IsAbsolute written) :
    (ofText written).names.length ≤ written.length := by
  obtain ⟨rest, rfl⟩ := absolute.exists_rest
  rw [names_ofText_absolute, List.length_map, String.length_ofList, List.length_cons]
  exact (List.length_filter_le _ _).trans (Text.length_pieces_le rest)

theorem parent_child (path : FilePath) (name : String) : (path.child name).parent = path := by
  simp [parent, child]

/-! ## Names -/

/-- A name that a path can have in its written form. -/
def IsName (name : String) : Prop :=
  isIdle name.toList = false ∧ '/' ∉ name.toList

instance (name : String) : Decidable (IsName name) :=
  inferInstanceAs (Decidable (_ ∧ _))

theorem isName_of_mem_ofText {written name : String} (member : name ∈ (ofText written).names) :
    IsName name := by
  rw [names_ofText] at member
  obtain ⟨piece, kept, rfl⟩ := List.mem_map.mp member
  obtain ⟨inside, step⟩ := List.mem_filter.mp kept
  rw [IsName, String.toList_ofList]
  exact ⟨by simpa using step, Text.not_mem_of_mem_pieces inside⟩

theorem ofText_text {path : FilePath} (named : ∀ name ∈ path.names, IsName name) :
    ofText path.text = path := by
  obtain ⟨fromRoot, names⟩ := path
  have unmarked : ∀ piece ∈ names.map String.toList, '/' ∉ piece := by
    intro piece member
    obtain ⟨name, inside, rfl⟩ := List.mem_map.mp member
    exact (named name inside).2
  have stepped : steps (names.map String.toList) = names.map String.toList := by
    refine List.filter_eq_self.mpr fun piece member => ?_
    obtain ⟨name, inside, rfl⟩ := List.mem_map.mp member
    simp [(named name inside).1]
  have chars : (text ⟨fromRoot, names⟩).toList =
      (if fromRoot then ['/'] else []) ++ Text.join ['/'] (names.map String.toList) := by
    rw [text, String.toList_append, String.toList_intercalate, Text.join_eq_intercalate]
    cases fromRoot <;> simp
  have back : (steps (Text.pieces (· == '/') (Text.join ['/'] (names.map String.toList)))).map
      String.ofList = names := by
    rw [steps_pieces_join unmarked, stepped, List.map_map]
    simp [Function.comp_def]
  have sameNames : (ofText (text ⟨fromRoot, names⟩)).names = names := by
    rw [names_ofText, chars]
    cases fromRoot <;> exact back
  have sameRoot : (ofText (text ⟨fromRoot, names⟩)).fromRoot = fromRoot := by
    rw [ofText, chars]
    cases fromRoot with
    | true => rfl
    | false =>
        cases names with
        | nil => rfl
        | cons name rest =>
            obtain ⟨step, slashless⟩ := named name List.mem_cons_self
            cases letters : name.toList with
            | nil => simp [letters, isIdle] at step
            | cons c cs =>
                rw [letters] at slashless
                have other : '/' ≠ c := fun here => slashless (here ▸ List.mem_cons_self)
                cases rest <;> simp [Text.join, letters, Ne.symm other]
  exact congrArg₂ FilePath.mk sameRoot sameNames

theorem isAbsolute_writtenChild_iff {directory name : String} (named : IsName name) :
    IsAbsolute (writtenChild directory name) ↔ IsAbsolute directory := by
  have relative : name.toList.head? ≠ some '/' := fun root => named.2 (List.mem_of_head? root)
  cases chars : directory.toList with
  | nil =>
      rw [IsAbsolute, IsAbsolute, writtenChild, String.toList_eq_nil_iff.mp chars]
      simpa using relative
  | cons c rest =>
      rw [IsAbsolute, IsAbsolute, writtenChild]
      split <;> simp [chars]

theorem ofText_writtenChild {directory name : String} (absolute : IsAbsolute directory)
    (named : IsName name) :
    ofText (writtenChild directory name) = (ofText directory).child name := by
  have alone : Text.pieces (· == '/') name.toList = [name.toList] :=
    Text.pieces_of_not_mem named.2
  have step : steps [name.toList] = [name.toList] := by simp [steps, named.1]
  obtain ⟨rest, rfl⟩ := absolute.exists_rest
  have sameNames : (ofText (writtenChild (String.ofList ('/' :: rest)) name)).names =
      (ofText (String.ofList ('/' :: rest))).names ++ [name] := by
    rw [names_ofText, names_ofText, writtenChild]
    split
    · rename_i ended
      have last : ('/' :: rest).getLast? = some '/' := by
        rw [← String.toList_ofList (l := '/' :: rest)]
        exact ended.resolve_left fun empty => by simp at empty
      -- The piece behind the last separator is empty, and the name takes its place.
      obtain ⟨front, cut⟩ := List.getLast?_eq_some_iff.mp last
      rw [String.toList_append, String.toList_ofList, cut, List.append_assoc,
        List.singleton_append, Text.pieces_append, Text.pieces_append, alone, steps_append,
        steps_append, step]
      simp [Text.pieces, steps, isIdle]
    · rw [String.toList_append, String.toList_append, String.toList_ofList]
      have cut : '/' :: rest ++ "/".toList ++ name.toList = '/' :: rest ++ '/' :: name.toList := by
        simp
      rw [cut, Text.pieces_append, alone, steps_append, step]
      simp
  have sameRoot : (ofText (writtenChild (String.ofList ('/' :: rest)) name)).fromRoot =
      (ofText (String.ofList ('/' :: rest))).fromRoot := by
    rw [(isAbsolute_ofList rest).fromRoot,
      ((isAbsolute_writtenChild_iff named).mpr (isAbsolute_ofList rest)).fromRoot]
  exact congrArg₂ FilePath.mk sameRoot sameNames

/-! ## Following written paths -/

theorem foldl_step_filter (place : FilePath) (parts : List String) :
    (parts.filter fun part => part != "" && part != ".").foldl step place =
      parts.foldl step place := by
  rw [List.foldl_filter]
  refine List.foldl_ext _ _ _ fun place part _ => ?_
  rw [step]
  by_cases idle : part = "" ∨ part = "."
  · rw [if_pos idle, if_neg]
    rcases idle with rfl | rfl <;> decide
  · obtain ⟨nonempty, undotted⟩ := not_or.mp idle
    rw [if_neg idle, if_pos]
    simp [nonempty, undotted]

theorem foldl_step (place : FilePath) {parts : List String} (forward : ".." ∉ parts) :
    parts.foldl step place =
      ⟨place.fromRoot, place.names ++ parts.filter fun part => part != "" && part != "."⟩ := by
  induction parts generalizing place with
  | nil => simp
  | cons part rest ih =>
      obtain ⟨other, later⟩ := not_or.mp (List.mem_cons.not.mp forward)
      rw [List.foldl_cons, ih _ later, step, if_neg (Ne.symm other), List.filter_cons]
      by_cases empty : part = ""
      · simp [empty]
      · by_cases dot : part = "."
        · simp [dot]
        · simp [empty, dot, child]

end FilePath

namespace FileTree

variable {tree : FileTree}

theorem follow_eq_ok {place target : FilePath} {parts : List String}
    (found : tree.follow place parts = .ok target) : target = parts.foldl FilePath.step place := by
  induction parts generalizing place with
  | nil => exact (Except.ok.inj found).symm
  | cons part rest ih =>
      rw [follow] at found
      split at found
      · contradiction
      · split at found
        · contradiction
        · exact ih found
      · contradiction

theorem resolve_eq_foldl {workingDirectory place : FilePath} {written : String}
    (found : tree.resolve workingDirectory written = .ok place) :
    place = (FilePath.parts written).foldl FilePath.step
      (FilePath.start workingDirectory written) := by
  rw [resolve] at found
  split at found
  · contradiction
  · split at found
    · contradiction
    · exact follow_eq_ok found

theorem resolve_eq_ok {workingDirectory target : FilePath} {written : String}
    (absolute : FilePath.IsAbsolute written) (forward : ".." ∉ (FilePath.ofText written).names)
    (found : tree.resolve workingDirectory written = .ok target) :
    target = FilePath.ofText written := by
  have start : FilePath.start workingDirectory written = ⟨true, []⟩ :=
    if_pos (beq_iff_eq.mpr absolute)
  have onward : ".." ∉ FilePath.parts written := fun back =>
    forward (List.mem_filter.mpr ⟨back, by decide⟩)
  rw [resolve_eq_foldl found, start, FilePath.foldl_step _ onward, ← absolute.fromRoot]
  rfl

/-- Written paths that stand for the same lead to the same place, if they lead anywhere. -/
theorem resolve_congr {workingDirectory place other : FilePath} {written otherWritten : String}
    (same : FilePath.ofText written = FilePath.ofText otherWritten)
    (found : tree.resolve workingDirectory written = .ok place)
    (otherFound : tree.resolve workingDirectory otherWritten = .ok other) : place = other := by
  have leads : ∀ {written place}, tree.resolve workingDirectory written = .ok place →
      place = (FilePath.ofText written).names.foldl FilePath.step
        (if (FilePath.ofText written).fromRoot then ⟨true, []⟩ else workingDirectory) := by
    intro written place found
    rw [resolve_eq_foldl found, FilePath.ofText, FilePath.foldl_step_filter, FilePath.start]
  rw [leads found, leads otherFound, same]

end FileTree

end Winnow
