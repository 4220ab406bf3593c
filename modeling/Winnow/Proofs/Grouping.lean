import Winnow.Filter.Basic

set_option autoImplicit false

/-!
# Stable grouping

Elements grouped by a key: the keys in the order in which they first come, and under each key its
elements in the order in which they come. The groups of a filter are its criteria grouped by key,
since adding a criterion one at a time keeps that form.

## Main definitions

* `Winnow.groupsBy` — the groups of a list under a key.
* `Winnow.groupedBy` — the elements of a list in the order of its groups.

## Main results

* `Winnow.mem_groupedBy` — grouping keeps exactly the elements that were there.
* `Winnow.filter_groupedBy`, `Winnow.perm_groupedBy` — it keeps the order of the elements of each
  key, and each of them as often as it was there.
* `Winnow.Filter.insert_groupsBy` — adding a criterion to groups is grouping one criterion more.
-/

namespace Winnow

section Grouping

variable {α β : Type}

/-- The groups of a list: its keys in the order in which they first come, each with its elements. -/
def groupsBy (key : α → String) (xs : List α) : List (String × List α) :=
  (xs.map key).eraseDups.map fun k => (k, xs.filter (key · = k))

/-- The elements of a list, those with the key of the first element first. -/
def groupedBy (key : α → String) (xs : List α) : List α :=
  (groupsBy key xs).flatMap Prod.snd

/-- Grouping keeps exactly the elements that were there. -/
@[simp] theorem mem_groupedBy {key : α → String} {xs : List α} {x : α} :
    x ∈ groupedBy key xs ↔ x ∈ xs := by
  simp only [groupedBy, groupsBy, List.flatMap_map, List.mem_flatMap, List.mem_eraseDups,
    List.mem_map, List.mem_filter, decide_eq_true_eq]
  constructor
  · rintro ⟨k, -, hx, -⟩
    exact hx
  · intro hx
    exact ⟨key x, ⟨x, hx, rfl⟩, hx, rfl⟩

/-- A group has elements, all with its key. -/
theorem ne_nil_of_mem_groupsBy {key : α → String} {xs : List α} {g : String × List α}
    (h : g ∈ groupsBy key xs) : g.2 ≠ [] ∧ ∀ x ∈ g.2, key x = g.1 := by
  obtain ⟨k, hk, rfl⟩ := List.mem_map.mp h
  obtain ⟨x, hx, rfl⟩ := List.mem_map.mp (List.mem_eraseDups.mp hk)
  exact ⟨List.ne_nil_of_mem (List.mem_filter.mpr ⟨hx, by simp⟩),
    fun y hy => by simpa using (List.mem_filter.mp hy).2⟩

/-- Nothing is grouped only if there is nothing. -/
@[simp] theorem groupedBy_eq_nil {key : α → String} {xs : List α} :
    groupedBy key xs = [] ↔ xs = [] := by
  simp only [List.eq_nil_iff_forall_not_mem, mem_groupedBy]

/-- There are groups as soon as there are elements. -/
@[simp] theorem groupsBy_eq_nil {key : α → String} {xs : List α} :
    groupsBy key xs = [] ↔ xs = [] := by
  constructor
  · intro h
    have hx : groupedBy key xs = [] := by rw [groupedBy, h]; rfl
    exact groupedBy_eq_nil.mp hx
  · rintro rfl
    rfl

/-- Grouping commutes with a map that keeps the keys. -/
theorem groupedBy_map (key : β → String) (f : α → β) (xs : List α) :
    groupedBy key (xs.map f) = (groupedBy (fun x => key (f x)) xs).map f := by
  simp only [groupedBy, groupsBy, List.map_map, List.flatMap_map, List.map_flatMap,
    List.filter_map]
  rfl

/-- Keys without their repetitions are all different. -/
theorem nodup_eraseDups : ∀ ks : List String, ks.eraseDups.Nodup
  | [] => List.nodup_nil
  | k :: ks => by
    rw [List.eraseDups_cons, List.nodup_cons]
    exact ⟨by simp [List.mem_eraseDups], nodup_eraseDups _⟩
termination_by ks => ks.length
decreasing_by exact Nat.lt_succ_of_le (List.length_filter_le _ _)

/-- Grouping keeps the elements of each key, in their order.

**Proof sketch.** Of the groups, whose keys are all different, only that of the key is left. -/
theorem filter_groupedBy (key : α → String) (xs : List α) (k : String) :
    (groupedBy key xs).filter (key · = k) = xs.filter (key · = k) := by
  have hgroup : ∀ k', (xs.filter (key · = k')).filter (key · = k) =
      if k' = k then xs.filter (key · = k) else [] := by
    intro k'
    split
    · rename_i hk
      rw [hk, List.filter_filter]
      simp
    · rename_i hk
      rw [List.filter_eq_nil_iff]
      intro x hx
      have : key x = k' := by simpa using (List.mem_filter.mp hx).2
      simpa [this] using hk
  have hgroups : ∀ ks : List String, ks.Nodup →
      (ks.flatMap fun k' => xs.filter (key · = k')).filter (key · = k) =
        if k ∈ ks then xs.filter (key · = k) else [] := by
    intro ks hks
    induction ks with
    | nil => rfl
    | cons k' ks ih =>
      rw [List.nodup_cons] at hks
      rw [List.flatMap_cons, List.filter_append, hgroup, ih hks.2]
      by_cases hk : k' = k
      · subst hk
        simp [hks.1]
      · simp [hk, Ne.symm hk]
  rw [groupedBy, groupsBy, List.flatMap_map, hgroups _ (nodup_eraseDups _)]
  split
  · rfl
  · rename_i hk
    rw [eq_comm, List.filter_eq_nil_iff]
    intro x hx
    have : key x ≠ k := fun he => hk (List.mem_eraseDups.mpr (he ▸ List.mem_map_of_mem hx))
    simpa using this

/-- Grouping keeps each element as often as it was there.

**Proof sketch.** The groups of different keys make up the elements that have one of these keys. -/
theorem perm_groupedBy (key : α → String) (xs : List α) : (groupedBy key xs).Perm xs := by
  have hgroups : ∀ ks : List String, ks.Nodup →
      (ks.flatMap fun k => xs.filter (key · = k)).Perm (xs.filter (key · ∈ ks)) := by
    intro ks hks
    induction ks with
    | nil => simp
    | cons k ks ih =>
      rw [List.nodup_cons] at hks
      have hfirst : (xs.filter (key · ∈ k :: ks)).filter (key · = k) = xs.filter (key · = k) := by
        rw [List.filter_filter]
        refine List.filter_congr fun x _ => ?_
        by_cases hx : key x = k <;> simp [hx]
      have hrest : (xs.filter (key · ∈ k :: ks)).filter (fun x => !decide (key x = k)) =
          xs.filter (key · ∈ ks) := by
        rw [List.filter_filter]
        refine List.filter_congr fun x _ => ?_
        by_cases hx : key x = k
        · simp [hx, hks.1]
        · simp [hx]
      have hsplit :=
        List.filter_append_perm (fun x => decide (key x = k)) (xs.filter (key · ∈ k :: ks))
      rw [List.flatMap_cons]
      refine ((ih hks.2).append_left _).trans ?_
      rw [← hfirst, ← hrest]
      exact hsplit
  rw [groupedBy, groupsBy, List.flatMap_map]
  refine (hgroups _ (nodup_eraseDups _)).trans ?_
  rw [List.filter_eq_self.mpr]
  intro x hx
  simpa [List.mem_eraseDups] using ⟨x, hx, rfl⟩

/-- The groups after an element whose key is there: its group has grown. -/
theorem groupsBy_concat_of_mem {key : α → String} {xs : List α} {x : α}
    (h : key x ∈ xs.map key) :
    groupsBy key (xs ++ [x]) =
      (groupsBy key xs).map fun g => if g.1 = key x then (g.1, g.2 ++ [x]) else g := by
  have hkeys : ((xs ++ [x]).map key).eraseDups = (xs.map key).eraseDups := by
    have hgone : [key x].removeAll (xs.map key) = [] := by
      rw [List.removeAll, List.filter_eq_nil_iff]
      simpa using h
    rw [List.map_append, List.map_singleton, List.eraseDups_append, hgone]
    simp
  rw [groupsBy, hkeys, groupsBy, List.map_map]
  apply List.map_congr_left
  intro k _
  by_cases hk : k = key x
  · subst hk
    simp [List.filter_append]
  · simp [List.filter_append, hk, Ne.symm hk]

/-- The groups after an element whose key is new: it has a group of its own at the end. -/
theorem groupsBy_concat_of_not_mem {key : α → String} {xs : List α} {x : α}
    (h : key x ∉ xs.map key) :
    groupsBy key (xs ++ [x]) = groupsBy key xs ++ [(key x, [x])] := by
  have hkeys : ((xs ++ [x]).map key).eraseDups = (xs.map key).eraseDups ++ [key x] := by
    have hkept : [key x].removeAll (xs.map key) = [key x] := by
      rw [List.removeAll, List.filter_eq_self]
      simpa using h
    rw [List.map_append, List.map_singleton, List.eraseDups_append, hkept]
    rfl
  have hnone : xs.filter (key · = key x) = [] := by
    rw [List.filter_eq_nil_iff]
    intro y hy
    have : key y ≠ key x := fun he => h (he ▸ List.mem_map_of_mem hy)
    simpa using this
  rw [groupsBy, hkeys, List.map_append, groupsBy]
  congr 1
  · apply List.map_congr_left
    intro k hk
    have hne : key x ≠ k := fun he => h (he ▸ List.mem_eraseDups.mp hk)
    simp [List.filter_append, hne]
  · simp [List.filter_append, hnone]

end Grouping

/-! ## The groups of a filter -/

namespace Filter

/-- Adding a criterion leaves the groups of other keys alone and, if its key is there once, lets
that group grow. -/
theorem insert_eq_map {c : Criterion} {groups : List (String × List Criterion)}
    (hnodup : (groups.map Prod.fst).Nodup) (h : c.key ∈ groups.map Prod.fst) :
    insert c groups = groups.map fun g => if g.1 = c.key then (g.1, g.2 ++ [c]) else g := by
  induction groups with
  | nil => simp at h
  | cons g groups ih =>
    obtain ⟨k, cs⟩ := g
    rw [List.map_cons, List.nodup_cons] at hnodup
    by_cases hk : k = c.key
    · -- no later group has the key again
      have hrest : groups.map (fun g => if g.1 = c.key then (g.1, g.2 ++ [c]) else g) = groups := by
        refine (List.map_congr_left ?_).trans (List.map_id groups)
        intro g hg
        have : g.1 ≠ c.key := fun he =>
          hnodup.1 (List.mem_map.mpr ⟨g, hg, he.trans hk.symm⟩)
        simp [this]
      simp [insert, hk, hrest]
    · have hmem : c.key ∈ groups.map Prod.fst := by simpa [Ne.symm hk] using h
      simp [insert, hk, ih hnodup.2 hmem]

/-- Adding a criterion whose key is not there makes a group of its own at the end. -/
theorem insert_eq_append {c : Criterion} {groups : List (String × List Criterion)}
    (h : c.key ∉ groups.map Prod.fst) : insert c groups = groups ++ [(c.key, [c])] := by
  induction groups with
  | nil => rfl
  | cons g groups ih =>
    obtain ⟨k, cs⟩ := g
    simp only [List.map_cons, List.mem_cons, not_or] at h
    simp [insert, Ne.symm h.1, ih h.2]

/-- Adding a criterion to groups is grouping one criterion more. -/
theorem insert_groupsBy (c : Criterion) (cs : List Criterion) :
    insert c (groupsBy Criterion.key cs) = groupsBy Criterion.key (cs ++ [c]) := by
  have hkeys : (groupsBy Criterion.key cs).map Prod.fst = (cs.map Criterion.key).eraseDups := by
    simp [groupsBy, Function.comp_def]
  by_cases h : c.key ∈ cs.map Criterion.key
  · rw [groupsBy_concat_of_mem h, insert_eq_map]
    · rw [hkeys]
      exact nodup_eraseDups _
    · rwa [hkeys, List.mem_eraseDups]
  · rw [groupsBy_concat_of_not_mem h, insert_eq_append]
    rwa [hkeys, List.mem_eraseDups]

end Filter

end Winnow
