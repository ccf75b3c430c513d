import Mathlib.Data.List.Basic
import Mathlib.Data.List.Induction
import Winnow.Grouping

/-! # Laws of stable grouping

The groups of a list are its distinct keys in the order in which they first occur, each with
the entries that have it. Every law of reduction and of clauses per index is read off this
normal form, so nothing else has to follow the fold that computes it.
-/

namespace Winnow.Grouping

section FirstOccurrences

variable {κ : Type} [DecidableEq κ]

theorem eraseDups_snoc (keys : List κ) (key : κ) :
    (keys ++ [key]).eraseDups = keys.eraseDups ++ if key ∈ keys then [] else [key] := by
  rw [List.eraseDups_append]
  by_cases member : key ∈ keys <;> simp [List.removeAll, member, List.eraseDups_cons]

theorem eraseDups_nodup (keys : List κ) : keys.eraseDups.Nodup := by
  induction keys using List.reverseRecOn with
  | nil => simp
  | append_singleton keys key ih =>
      rw [eraseDups_snoc]
      by_cases member : key ∈ keys
      · simpa [member] using ih
      · rw [if_neg member, List.nodup_append]
        refine ⟨ih, by simp, ?_⟩
        intro other seen last isLast same
        rw [List.mem_singleton.mp isLast] at same
        exact member (same ▸ List.mem_eraseDups.mp seen)

theorem eraseDups_filter (p : κ → Bool) (keys : List κ) :
    (keys.filter p).eraseDups = keys.eraseDups.filter p := by
  induction keys using List.reverseRecOn with
  | nil => rfl
  | append_singleton keys key ih =>
      rw [eraseDups_snoc, List.filter_append, List.filter_append, ← ih]
      by_cases kept : p key
      · have same : key ∈ keys.filter p ↔ key ∈ keys := by simp [kept]
        rw [List.filter_cons_of_pos kept, List.filter_nil, eraseDups_snoc]
        by_cases member : key ∈ keys <;> simp [same, member, kept]
      · by_cases member : key ∈ keys <;> simp [member, kept]

theorem eraseDups_map_eraseDups {ι : Type} [DecidableEq ι] (f : κ → ι) (keys : List κ) :
    (keys.eraseDups.map f).eraseDups = (keys.map f).eraseDups := by
  induction keys using List.reverseRecOn with
  | nil => rfl
  | append_singleton keys key ih =>
      have images : (keys ++ [key]).map f = keys.map f ++ [f key] := by
        rw [List.map_append, List.map_singleton]
      rw [images, eraseDups_snoc keys, eraseDups_snoc (keys.map f), ← ih]
      by_cases member : key ∈ keys
      · have image : f key ∈ keys.map f := List.mem_map_of_mem member
        rw [if_pos member, if_pos image, List.append_nil, List.append_nil]
      · have same : f key ∈ keys.eraseDups.map f ↔ f key ∈ keys.map f := by simp
        rw [if_neg member, List.map_append, List.map_singleton, eraseDups_snoc]
        simp only [same]

theorem eraseDups_eraseDups (keys : List κ) : keys.eraseDups.eraseDups = keys.eraseDups := by
  simpa using eraseDups_map_eraseDups id keys

theorem eraseDups_append_congr {keys others after laters : List κ}
    (first : keys.eraseDups = others.eraseDups) (second : after.eraseDups = laters.eraseDups) :
    (keys ++ after).eraseDups = (others ++ laters).eraseDups := by
  have same : ∀ key, key ∈ keys ↔ key ∈ others := by
    intro key
    rw [← List.mem_eraseDups, first, List.mem_eraseDups]
  have removed : after.removeAll keys = after.removeAll others := by
    apply List.filter_congr
    intro key _
    simp [same key]
  rw [List.eraseDups_append, List.eraseDups_append, first, removed]
  congr 1
  simp only [List.removeAll, eraseDups_filter, second]

theorem eraseDups_pairwise_idxOf (keys : List κ) :
    keys.eraseDups.Pairwise fun first second => keys.idxOf first < keys.idxOf second := by
  induction keys using List.reverseRecOn with
  | nil => simp
  | append_singleton keys key ih =>
      have kept : (keys.eraseDups).Pairwise fun first second =>
          (keys ++ [key]).idxOf first < (keys ++ [key]).idxOf second := by
        refine ih.imp_of_mem fun first second before => ?_
        rw [List.idxOf_append_of_mem (List.mem_eraseDups.mp first),
          List.idxOf_append_of_mem (List.mem_eraseDups.mp second)]
        exact before
      rw [eraseDups_snoc]
      by_cases member : key ∈ keys
      · simpa [member] using kept
      · rw [if_neg member, List.pairwise_append]
        refine ⟨kept, List.pairwise_singleton _ _, ?_⟩
        intro other seen last isLast
        have inside := List.mem_eraseDups.mp seen
        rw [List.mem_singleton.mp isLast, List.idxOf_append_of_mem inside,
          List.idxOf_append_of_notMem member]
        exact Nat.lt_of_lt_of_le (List.idxOf_lt_length_of_mem inside) (Nat.le_add_right _ _)

end FirstOccurrences

variable {κ α : Type} [DecidableEq κ]

theorem add_present {keys : List κ} (distinct : keys.Nodup) {key : κ} (member : key ∈ keys)
    (entry : α) (group : κ → List α) :
    add key entry (keys.map fun k => (k, group k)) =
      keys.map fun k => (k, group k ++ if key = k then [entry] else []) := by
  induction keys with
  | nil => simp at member
  | cons head rest ih =>
      obtain ⟨absent, restDistinct⟩ := List.nodup_cons.mp distinct
      rw [List.map_cons, add]
      by_cases here : head = key
      · subst here
        have untouched : ∀ k ∈ rest, head ≠ k := fun k inRest same => absent (same ▸ inRest)
        rw [if_pos rfl, List.map_cons, if_pos rfl]
        refine congrArg _ (List.map_congr_left fun k inRest => ?_)
        rw [if_neg (untouched k inRest), List.append_nil]
      · have inRest : key ∈ rest := (List.mem_cons.mp member).resolve_left (Ne.symm here)
        rw [if_neg here, ih restDistinct inRest, List.map_cons, if_neg (Ne.symm here),
          List.append_nil]

theorem add_absent {groups : List (κ × List α)} {key : κ}
    (absent : ∀ group ∈ groups, group.1 ≠ key) (entry : α) :
    add key entry groups = groups ++ [(key, [entry])] := by
  induction groups with
  | nil => rfl
  | cons head rest ih =>
      rw [add, if_neg (absent head List.mem_cons_self),
        ih fun group member => absent group (List.mem_cons_of_mem _ member)]
      rfl

theorem ofList_snoc (key : α → κ) (entries : List α) (entry : α) :
    ofList key (entries ++ [entry]) = add (key entry) entry (ofList key entries) := by
  simp only [ofList, List.foldl_append, List.foldl_cons, List.foldl_nil]

/-- The normal form of a grouping. -/
theorem ofList_eq (key : α → κ) (entries : List α) :
    ofList key entries =
      (entries.map key).eraseDups.map fun k => (k, entries.filter fun e => key e = k) := by
  induction entries using List.reverseRecOn with
  | nil => rfl
  | append_singleton entries entry ih =>
      rw [ofList_snoc, ih, List.map_append, List.map_singleton, eraseDups_snoc]
      by_cases member : key entry ∈ entries.map key
      · rw [if_pos member, List.append_nil,
          add_present (eraseDups_nodup _) (List.mem_eraseDups.mpr member)]
        refine List.map_congr_left fun k _ => ?_
        rw [List.filter_append, List.filter_cons, List.filter_nil]
        simp only [decide_eq_true_eq]
      · have fresh : entries.filter (fun e => key e = key entry) = [] := by
          rw [List.filter_eq_nil_iff]
          intro e inside same
          exact member (List.mem_map.mpr ⟨e, inside, by simpa using same⟩)
        rw [if_neg member, add_absent]
        · rw [List.map_append, List.map_singleton, List.filter_append, fresh]
          refine congrArg₂ _ (List.map_congr_left fun k seen => ?_) (by simp)
          have other : key entry ≠ k := fun same => member (same ▸ List.mem_eraseDups.mp seen)
          simp [other]
        · intro group inside same
          obtain ⟨k, seen, rfl⟩ := List.mem_map.mp inside
          exact member (same ▸ List.mem_eraseDups.mp seen)

theorem add_perm (key : κ) (entry : α) (groups : List (κ × List α)) :
    ((add key entry groups).flatMap (·.2)).Perm (groups.flatMap (·.2) ++ [entry]) := by
  induction groups with
  | nil => simp [add]
  | cons group rest ih =>
      obtain ⟨other, entries⟩ := group
      rw [add]
      split
      · simp only [List.flatMap_cons, List.append_assoc]
        exact List.perm_append_comm.append_left entries
      · simp only [List.flatMap_cons, List.append_assoc]
        exact ih.append_left entries

theorem ofList_perm (key : α → κ) (entries : List α) :
    ((ofList key entries).flatMap (·.2)).Perm entries := by
  induction entries using List.reverseRecOn with
  | nil => simp [ofList]
  | append_singleton entries entry ih =>
      rw [ofList_snoc]
      exact (add_perm _ _ _).trans (ih.append_right [entry])

/-- Looking up a key finds exactly the entries that have it. -/
theorem lookup_ofList (key : α → κ) (entries : List α) (k : κ) :
    (ofList key entries).lookup k =
      if k ∈ entries.map key then some (entries.filter fun e => key e = k) else none := by
  rw [ofList_eq]
  simp only [← List.mem_eraseDups (l := entries.map key)]
  induction (entries.map key).eraseDups with
  | nil => rfl
  | cons head rest ih =>
      rw [List.map_cons, List.lookup_cons, ih]
      by_cases here : k = head
      · simp [here]
      · have other : (k == head) = false := beq_eq_false_iff_ne.mpr here
        simp [other, here]

theorem ofList_filter (key : α → κ) (p : κ → Bool) (entries : List α) :
    ofList key (entries.filter fun e => p (key e)) =
      (ofList key entries).filter fun group => p group.1 := by
  rw [ofList_eq, ofList_eq, List.filter_map, Function.comp_def]
  have keys : (entries.filter fun e => p (key e)).map key = (entries.map key).filter p := by
    rw [List.filter_map, Function.comp_def]
  rw [keys, eraseDups_filter]
  refine List.map_congr_left fun k inside => ?_
  have kept : p k := (List.mem_filter.mp inside).2
  rw [List.filter_filter]
  refine congrArg _ (List.filter_congr fun e _ => ?_)
  by_cases same : key e = k <;> simp [same, kept]

end Winnow.Grouping
