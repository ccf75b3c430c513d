import Mathlib.Data.List.Forall2

/-! # When steps succeed

Running a step after another, or one for each entry of a list, succeeds when every step does.
A step whose success is known as a condition and a value can be run without looking into it.
If a step fails, the first that does gives the error. Runs of steps that fail alike, one by one,
fail alike.
-/

namespace Winnow

variable {α β ε : Type}

theorem map_eq_ok_iff {step : Except ε α} {g : α → β} {result : β} :
    step.map g = .ok result ↔ ∃ x, step = .ok x ∧ result = g x := by
  cases step with
  | error e => simp [Except.map]
  | ok x => simp [Except.map, eq_comm]

theorem map_eq_error_iff {step : Except ε α} {g : α → β} {error : ε} :
    step.map g = .error error ↔ step = .error error := by
  cases step with
  | error e => simp [Except.map]
  | ok x => simp [Except.map]

theorem exists_error_iff {step : Except ε α} :
    (∃ error, step = .error error) ↔ ¬ ∃ x, step = .ok x := by
  cases step <;> simp

theorem toOption_eq_some_iff {step : Except ε α} {result : α} :
    step.toOption = some result ↔ step = .ok result := by
  cases step <;> simp [Except.toOption]

theorem toOption_bind {first : Except ε α} {next : α → Except ε β} :
    (first >>= next).toOption = first.toOption.bind fun x => (next x).toOption := by
  cases first <;> rfl

theorem bind_eq_ok_iff {first : Except ε α} {next : α → Except ε β} {result : β} :
    (first >>= next) = .ok result ↔ ∃ x, first = .ok x ∧ next x = .ok result := by
  cases first with
  | error e => simp [bind, Except.bind]
  | ok x => simp [bind, Except.bind]

theorem bind_eq_error_iff {first : Except ε α} {next : α → Except ε β} {error : ε} :
    (first >>= next) = .error error ↔
      first = .error error ∨ ∃ x, first = .ok x ∧ next x = .error error := by
  cases first with
  | error e => simp [bind, Except.bind]
  | ok x => simp [bind, Except.bind]

theorem unless_eq_ok_iff {condition : Prop} [Decidable condition] {error : ε} {x y : α} :
    (if condition then .error error else .ok x : Except ε α) = .ok y ↔ ¬ condition ∧ y = x := by
  split <;> simp [*, eq_comm]

theorem mapError_eq_ok_iff {ε' : Type} {step : Except ε α} {f : ε → ε'} {result : α} :
    step.mapError f = .ok result ↔ step = .ok result := by
  cases step <;> simp [Except.mapError]

theorem mapError_eq_error_iff {ε' : Type} {step : Except ε α} {f : ε → ε'} {error : ε'} :
    step.mapError f = .error error ↔ ∃ cause, step = .error cause ∧ error = f cause := by
  cases step <;> simp [Except.mapError, eq_comm]

/-- A traversal whose steps succeed exactly under a condition, each with a value of its own,
    succeeds exactly if the condition holds of every entry. -/
theorem mapM_eq_ok_iff {step : α → Except ε β} {condition : α → Prop} {value : α → β}
    {xs : List α} (single : ∀ x ∈ xs, ∀ y, step x = .ok y ↔ condition x ∧ y = value x)
    {ys : List β} : xs.mapM step = .ok ys ↔ (∀ x ∈ xs, condition x) ∧ ys = xs.map value := by
  induction xs generalizing ys with
  | nil => simp [pure, Except.pure, eq_comm]
  | cons x xs ih =>
      have head := single x List.mem_cons_self
      have tail := @ih fun x member => single x (List.mem_cons_of_mem _ member)
      rw [List.mapM_cons, List.forall_mem_cons, List.map_cons, bind_eq_ok_iff]
      constructor
      · rintro ⟨y, first, rest⟩
        obtain ⟨holds, rfl⟩ := (head y).mp first
        obtain ⟨values, others, last⟩ := bind_eq_ok_iff.mp rest
        obtain ⟨all, rfl⟩ := tail.mp others
        exact ⟨⟨holds, all⟩, (Except.ok.inj last).symm⟩
      · rintro ⟨⟨holds, all⟩, rfl⟩
        have first := (head (value x)).mpr ⟨holds, rfl⟩
        have rest := tail.mpr ⟨all, rfl⟩
        exact ⟨value x, first, bind_eq_ok_iff.mpr ⟨xs.map value, rest, rfl⟩⟩

/-- A traversal whose steps fail exactly with given errors fails with the first of them. -/
theorem mapM_eq_error_iff {step : α → Except ε β} {failure : α → Option ε} {xs : List α}
    (single : ∀ x ∈ xs, ∀ error, step x = .error error ↔ failure x = some error) {error : ε} :
    xs.mapM step = .error error ↔ xs.findSome? failure = some error := by
  induction xs with
  | nil => simp [pure, Except.pure]
  | cons x xs ih =>
      have head := single x List.mem_cons_self
      have tail := ih fun x member => single x (List.mem_cons_of_mem _ member)
      rw [List.mapM_cons, List.findSome?_cons]
      cases first : step x with
      | error e =>
          rw [(head e).mp first]
          simp [bind, Except.bind]
      | ok y =>
          have none : failure x = none := by
            rw [Option.eq_none_iff_forall_ne_some]
            intro e fails
            simp [(head e).mpr fails] at first
          rw [none, ← tail]
          cases xs.mapM step with
          | error e => simp [bind, Except.bind]
          | ok ys => simp [bind, Except.bind, pure, Except.pure]

theorem mapM_eq_ok_iff_forall₂ {step : α → Except ε β} {xs : List α} {ys : List β} :
    xs.mapM step = .ok ys ↔ List.Forall₂ (fun x y => step x = .ok y) xs ys := by
  induction xs generalizing ys with
  | nil =>
      rw [List.mapM_nil, List.forall₂_nil_left_iff]
      exact ⟨fun same => (Except.ok.inj same).symm, fun same => by rw [same]; rfl⟩
  | cons x xs ih =>
      rw [List.mapM_cons, bind_eq_ok_iff, List.forall₂_cons_left_iff]
      constructor
      · rintro ⟨y, first, rest⟩
        obtain ⟨others, same, last⟩ := bind_eq_ok_iff.mp rest
        exact ⟨y, others, first, ih.mp same, (Except.ok.inj last).symm⟩
      · rintro ⟨y, others, first, rest, rfl⟩
        exact ⟨y, first, bind_eq_ok_iff.mpr ⟨others, ih.mpr rest, rfl⟩⟩

theorem exists_mapM_iff {step : α → Except ε β} {xs : List α} :
    (∃ ys, xs.mapM step = .ok ys) ↔ ∀ x ∈ xs, ∃ y, step x = .ok y := by
  simp only [mapM_eq_ok_iff_forall₂]
  induction xs with
  | nil => simp
  | cons x xs ih =>
      rw [List.forall_mem_cons, ← ih]
      simp only [List.forall₂_cons_left_iff]
      constructor
      · rintro ⟨_, y, ys, first, rest, rfl⟩
        exact ⟨⟨y, first⟩, ys, rest⟩
      · rintro ⟨⟨y, first⟩, ys, rest⟩
        exact ⟨_, y, ys, first, rest, rfl⟩

theorem mapM_eq_error_iff_split {step : α → Except ε β} {xs : List α} {error : ε} :
    xs.mapM step = .error error ↔
      ∃ before x after, xs = before ++ x :: after ∧ (∀ y ∈ before, ∃ z, step y = .ok z) ∧
        step x = .error error := by
  let failure (x : α) : Option ε :=
    match step x with
    | .error error => some error
    | .ok _ => none
  have fails : ∀ x error, step x = .error error ↔ failure x = some error := by
    intro x error
    cases result : step x <;> simp [failure, result]
  have succeeds : ∀ x, failure x = none ↔ ∃ y, step x = .ok y := by
    intro x
    cases result : step x <;> simp [failure, result]
  rw [mapM_eq_error_iff fun x _ => fails x, List.findSome?_eq_some_iff]
  simp only [succeeds, ← fails]
  exact exists₃_congr fun before x after => and_congr_right fun _ => and_comm

theorem exists_of_forall₂ {Result : α → β → Prop} {xs : List α} {ys : List β}
    (each : List.Forall₂ Result xs ys) {y : β} (member : y ∈ ys) : ∃ x ∈ xs, Result x y := by
  induction each with
  | nil => cases member
  | cons first _ ih =>
      rcases List.mem_cons.mp member with rfl | later
      · exact ⟨_, List.mem_cons_self, first⟩
      · obtain ⟨x, inside, result⟩ := ih later
        exact ⟨x, List.mem_cons_of_mem _ inside, result⟩

theorem foldlM_keeps {step : β → α → Except ε β} {Keeps : β → Prop}
    (single : ∀ y x next, Keeps y → step y x = .ok next → Keeps next) {xs : List α} {start last : β}
    (first : Keeps start) (folded : xs.foldlM step start = .ok last) : Keeps last := by
  induction xs generalizing start with
  | nil =>
      cases folded
      exact first
  | cons x xs ih =>
      rw [List.foldlM_cons] at folded
      obtain ⟨next, done, rest⟩ := bind_eq_ok_iff.mp folded
      exact ih (single start x next first done) rest

theorem mapM_congr {step other : α → Except ε β} {xs : List α}
    (same : ∀ x ∈ xs, step x = other x) : xs.mapM step = xs.mapM other := by
  induction xs with
  | nil => rfl
  | cons x xs ih =>
      rw [List.mapM_cons, List.mapM_cons, same x List.mem_cons_self,
        ih fun y member => same y (List.mem_cons_of_mem _ member)]

theorem findSome?_congr {f g : α → Option β} {xs : List α} (same : ∀ x ∈ xs, f x = g x) :
    xs.findSome? f = xs.findSome? g := by
  induction xs with
  | nil => rfl
  | cons x xs ih =>
      rw [List.findSome?_cons, List.findSome?_cons, same x List.mem_cons_self,
        ih fun y member => same y (List.mem_cons_of_mem _ member)]

theorem findSome?_flatMap {ι : Type} {f : α → Option β} {entries : ι → List α} {keys : List ι} :
    (keys.flatMap entries).findSome? f = keys.findSome? fun key => (entries key).findSome? f := by
  rw [← List.head?_filterMap, List.filterMap_flatMap, List.head?_flatMap]
  simp only [List.head?_filterMap]

/-! ## Steps that fail alike -/

/-- Two steps fail for the same reason, or neither of them fails. -/
def FailAlike {γ : Type} (step : Except ε α) (other : Except ε γ) : Prop :=
  ∀ error, step = .error error ↔ other = .error error

section FailAlike

variable {γ δ : Type} {step : Except ε α} {other : Except ε γ}

theorem FailAlike.succeed_iff (alike : FailAlike step other) :
    (∃ x, step = .ok x) ↔ ∃ y, other = .ok y := by
  rw [← not_iff_not, ← exists_error_iff, ← exists_error_iff]
  exact exists_congr alike

theorem FailAlike.refl (step : Except ε α) : FailAlike step step :=
  fun _ => Iff.rfl

theorem failAlike_map (step : Except ε α) (f : α → β) : FailAlike (step.map f) step :=
  fun _ => map_eq_error_iff

theorem failAlike_ok (x : α) (y : γ) : FailAlike (.ok x : Except ε α) (.ok y) :=
  fun _ => ⟨nofun, nofun⟩

theorem FailAlike.map (alike : FailAlike step other) (f : α → β) (g : γ → δ) :
    FailAlike (step.map f) (other.map g) := by
  intro error
  rw [map_eq_error_iff, map_eq_error_iff]
  exact alike error

theorem FailAlike.mapError {ε' : Type} (alike : FailAlike step other) (f : ε → ε') :
    FailAlike (step.mapError f) (other.mapError f) := by
  intro error
  rw [mapError_eq_error_iff, mapError_eq_error_iff]
  exact exists_congr fun cause => and_congr_left fun _ => alike cause

theorem FailAlike.bind (alike : FailAlike step other) {next : α → Except ε β}
    {otherNext : γ → Except ε δ}
    (later : ∀ x y, step = .ok x → other = .ok y → FailAlike (next x) (otherNext y)) :
    FailAlike (step >>= next) (other >>= otherNext) := by
  intro error
  rw [bind_eq_error_iff, bind_eq_error_iff, alike error]
  apply or_congr_right
  constructor
  · intro ⟨x, done, fails⟩
    obtain ⟨y, otherDone⟩ := alike.succeed_iff.mp ⟨x, done⟩
    exact ⟨y, otherDone, (later x y done otherDone error).mp fails⟩
  · intro ⟨y, otherDone, fails⟩
    obtain ⟨x, done⟩ := alike.succeed_iff.mpr ⟨y, otherDone⟩
    exact ⟨x, done, (later x y done otherDone error).mpr fails⟩

/-- Traversals fail alike if their steps do, entry by entry. -/
theorem failAlike_mapM {f : α → Except ε β} {g : γ → Except ε δ} {xs : List α} {ys : List γ}
    (each : List.Forall₂ (fun x y => FailAlike (f x) (g y)) xs ys) :
    FailAlike (xs.mapM f) (ys.mapM g) := by
  induction each with
  | nil => exact failAlike_ok [] []
  | cons first _ ih =>
      rw [List.mapM_cons, List.mapM_cons]
      apply first.bind
      intro x y _ _
      apply ih.bind
      intro xs ys _ _
      exact failAlike_ok (x :: xs) (y :: ys)

theorem failAlike_mapM_same {f : α → Except ε β} {g : α → Except ε δ} {xs : List α}
    (each : ∀ x ∈ xs, FailAlike (f x) (g x)) : FailAlike (xs.mapM f) (xs.mapM g) :=
  failAlike_mapM (List.forall₂_same.mpr each)

end FailAlike

end Winnow
