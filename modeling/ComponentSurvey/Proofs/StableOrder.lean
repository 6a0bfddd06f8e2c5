import Mathlib.Data.List.Nodup

/-!
# Orders by a position

Records come out in the order of the positions at which their names are bound, and records at one
position keep the order in which they were made. This module says what such an order is and that
there is only one, so that two ways of sorting are compared by what they produce.

* `Precedes` — one item comes before another: by position, or else by the order of the list.
* `pairwise_mergeSort_position` — sorting by position puts a list in this order.
* `eq_mergeSort_of_precedes` — a list in this order is the sorted list.
* `filterMap_mergeSort`, `mergeSort_eq_append` — sorting and then selecting, sorting by halves.
* `filter_append_filter_eq_mergeSort` — the selected first, then the others, is a stable order.
-/

namespace ComponentSurvey

variable {α β : Type} {position : α → Nat} {items sorted : List α}

/-- One item comes before another: it has the lower position, or the same one and stands before the
other in the list. -/
def Precedes (position : α → Nat) (items : List α) (a b : α) : Prop :=
  position a < position b ∨ position a = position b ∧ [a, b].Sublist items

/-! ### Pairs in a list without repetition -/

theorem not_sublist_swap {a b : α} (hnodup : items.Nodup) (hab : [a, b].Sublist items) :
    ¬ [b, a].Sublist items := by
  intro hba
  induction items with
  | nil => cases hab
  | cons item rest ih =>
    obtain ⟨hitem, hrest⟩ := List.nodup_cons.1 hnodup
    have hmem : ∀ {c d : α}, [c, d].Sublist rest → c ∈ rest ∧ d ∈ rest := by
      intro c d h
      exact ⟨h.subset (by simp), h.subset (by simp)⟩
    cases hab with
    | cons _ hab =>
      cases hba with
      | cons _ hba => exact ih hrest hab hba
      | cons_cons _ hba => exact hitem (hmem hab).2
    | cons_cons _ hb =>
      cases hba with
      | cons _ hba => exact hitem (hmem hba).2
      | cons_cons _ _ => exact hitem (hb.subset (by simp))

theorem sublist_or_swap {a b : α} (ha : a ∈ items) (hb : b ∈ items) (hne : a ≠ b) :
    [a, b].Sublist items ∨ [b, a].Sublist items := by
  induction items with
  | nil => cases ha
  | cons item rest ih =>
    rcases List.mem_cons.1 ha with rfl | hra
    · rcases List.mem_cons.1 hb with rfl | hrb
      · exact absurd rfl hne
      · exact .inl ((List.singleton_sublist.2 hrb).cons_cons a)
    · rcases List.mem_cons.1 hb with rfl | hrb
      · exact .inr ((List.singleton_sublist.2 hra).cons_cons b)
      · exact (ih hra hrb).imp (List.Sublist.cons item) (List.Sublist.cons item)

theorem Precedes.le {a b : α} (h : Precedes position items a b) : position a ≤ position b := by
  rcases h with hlt | ⟨heq, _⟩ <;> omega

/-- Of two items at most one precedes the other. -/
theorem Precedes.antisymm {a b : α} (hnodup : items.Nodup) (hab : Precedes position items a b)
    (hba : Precedes position items b a) : a = b := by
  rcases hab with hab | ⟨hpos, hab⟩
  · rcases hba with hba | ⟨hpos, _⟩ <;> omega
  · rcases hba with hba | ⟨_, hba⟩
    · omega
    · exact absurd hba (not_sublist_swap hnodup hab)

/-! ### Sorting by position -/

/-- Sorting by position puts a list in the order of positions and leaves ties as they are. -/
theorem pairwise_mergeSort_position (position : α → Nat) (hnodup : items.Nodup) :
    (items.mergeSort fun a b => position a ≤ position b).Pairwise (Precedes position items) := by
  have htrans : ∀ a b c : α, decide (position a ≤ position b) = true →
      decide (position b ≤ position c) = true → decide (position a ≤ position c) = true := by
    intro a b c hab hbc
    simp only [decide_eq_true_eq] at hab hbc ⊢
    omega
  have htotal : ∀ a b : α,
      (decide (position a ≤ position b) || decide (position b ≤ position a)) = true := by
    intro a b
    simp only [Bool.or_eq_true, decide_eq_true_eq]
    omega
  have hperm := List.mergeSort_perm items fun a b => decide (position a ≤ position b)
  have hsorted := List.pairwise_mergeSort htrans htotal items
  rw [List.pairwise_iff_forall_sublist] at hsorted ⊢
  intro a b hab
  have hle : position a ≤ position b := of_decide_eq_true (hsorted hab)
  have ha : a ∈ items := hperm.mem_iff.1 (hab.subset (by simp))
  have hb : b ∈ items := hperm.mem_iff.1 (hab.subset (by simp))
  have hne : a ≠ b := by
    rintro rfl
    exact not_sublist_swap (hperm.nodup_iff.2 hnodup) hab hab
  by_cases hlt : position a < position b
  · exact .inl hlt
  · refine .inr ⟨by omega, ?_⟩
    rcases sublist_or_swap ha hb hne with h | h
    · exact h
    · -- were the two the other way round in the list, stability would keep them so
      have hba := List.pair_sublist_mergeSort htrans htotal (decide_eq_true (by omega)) h
      exact absurd hba (not_sublist_swap (hperm.nodup_iff.2 hnodup) hab)

/-- A list in the order of positions, with ties left as they are, is the sorted list. -/
theorem eq_mergeSort_of_precedes (hnodup : items.Nodup) (hperm : sorted.Perm items)
    (hsorted : sorted.Pairwise (Precedes position items)) :
    sorted = items.mergeSort fun a b => position a ≤ position b := by
  refine List.Perm.eq_of_pairwise ?_ hsorted (pairwise_mergeSort_position position hnodup)
    (hperm.trans (List.mergeSort_perm items _).symm)
  intro a b _ _ hab hba
  exact hab.antisymm hnodup hba

/-- Sorting first and selecting then gives what sorting the selected gives. -/
theorem filterMap_mergeSort {select : α → Option β} {positionOf : β → Nat}
    (hnodup : items.Nodup) (hselect : (items.filterMap select).Nodup)
    (hposition : ∀ a ∈ items, ∀ b, select a = some b → positionOf b = position a) :
    (items.mergeSort fun a b => position a ≤ position b).filterMap select
      = (items.filterMap select).mergeSort fun a b => positionOf a ≤ positionOf b := by
  have hperm := List.mergeSort_perm items fun a b => decide (position a ≤ position b)
  refine eq_mergeSort_of_precedes hselect (hperm.filterMap select) ?_
  rw [List.pairwise_filterMap]
  refine (pairwise_mergeSort_position position hnodup).imp_of_mem ?_
  intro a b ha hb hab c hc d hd
  have hca := hposition a (hperm.mem_iff.1 ha) c hc
  have hdb := hposition b (hperm.mem_iff.1 hb) d hd
  rcases hab with hlt | ⟨heq, hsub⟩
  · exact .inl (by omega)
  · refine .inr ⟨by omega, ?_⟩
    simpa [hc, hd] using hsub.filterMap select

/-- If what is selected stands at lower positions than what is not, the two are sorted apart. -/
theorem mergeSort_eq_append (select : α → Bool) (hnodup : items.Nodup)
    (hlow : ∀ a ∈ items, ∀ b ∈ items, select a = true → select b = false →
      position a < position b) :
    (items.mergeSort fun a b => position a ≤ position b)
      = ((items.filter select).mergeSort fun a b => position a ≤ position b)
        ++ ((items.filter fun a => !select a).mergeSort fun a b => position a ≤ position b) := by
  symm
  have hperm := fun list : List α => List.mergeSort_perm list fun a b => position a ≤ position b
  have hhalf : ∀ keep : α → Bool,
      ((items.filter keep).mergeSort fun a b => position a ≤ position b).Pairwise
        (Precedes position items) := by
    intro keep
    refine (pairwise_mergeSort_position position (hnodup.filter keep)).imp ?_
    rintro a b (hlt | ⟨heq, hsub⟩)
    · exact .inl hlt
    · exact .inr ⟨heq, hsub.trans List.filter_sublist⟩
  refine eq_mergeSort_of_precedes hnodup ?_ ?_
  · exact ((hperm _).append (hperm _)).trans (List.filter_append_perm select items)
  · rw [List.pairwise_append]
    refine ⟨hhalf select, hhalf fun a => !select a, ?_⟩
    intro a ha b hb
    obtain ⟨ha, hsa⟩ := List.mem_filter.1 ((hperm _).mem_iff.1 ha)
    obtain ⟨hb, hsb⟩ := List.mem_filter.1 ((hperm _).mem_iff.1 hb)
    exact .inl (hlow a ha b hb hsa (by simpa using hsb))

/-! ### What is selected first -/

/-- In a list where nothing that is selected follows what is not, the selected stand first. -/
theorem filter_append_filter_of_pairwise {select : α → Bool}
    (h : items.Pairwise fun a b => (select a || !select b) = true) :
    items.filter select ++ items.filter (fun a => !select a) = items := by
  induction items with
  | nil => rfl
  | cons item rest ih =>
    obtain ⟨hitem, hrest⟩ := List.pairwise_cons.1 h
    cases hselect : select item with
    | true => simp [hselect, ih hrest]
    | false =>
      have hothers : ∀ other ∈ rest, select other = false := by
        intro other hother
        simpa [hselect] using hitem other hother
      have hnone : rest.filter select = [] := by simpa using hothers
      have hall : rest.filter (fun a => !select a) = rest := by simpa using hothers
      simp [hselect, hnone, hall]

/-- What is selected, then what is not, both in their order, is the list sorted stably by whether its
items are selected. -/
theorem filter_append_filter_eq_mergeSort (select : α → Bool) (items : List α) :
    items.filter select ++ items.filter (fun a => !select a)
      = items.mergeSort fun a b => select a || !select b := by
  have htrans : ∀ a b c : α, (select a || !select b) = true → (select b || !select c) = true →
      (select a || !select c) = true := by
    intro a b c
    cases select a <;> cases select b <;> simp
  have htotal : ∀ a b : α, ((select a || !select b) || (select b || !select a)) = true := by
    intro a b
    cases select a <;> simp
  have hperm := List.mergeSort_perm items fun a b => select a || !select b
  -- items of one kind are tied, so that sorting keeps them in their order
  have hhalf : ∀ keep : α → Bool,
      (∀ a b, keep a = true → keep b = true → (select a || !select b) = true) →
      items.filter keep = (items.mergeSort fun a b => select a || !select b).filter keep := by
    intro keep htied
    have hkept : (items.filter keep).Pairwise fun a b => (select a || !select b) = true :=
      List.pairwise_of_forall_mem_list fun a ha b hb =>
        htied a b (List.mem_filter.1 ha).2 (List.mem_filter.1 hb).2
    have hsub := (List.sublist_mergeSort htrans htotal hkept List.filter_sublist).filter keep
    simp only [List.filter_filter, Bool.and_self] at hsub
    exact hsub.eq_of_length (hperm.filter keep).length_eq.symm
  rw [hhalf select (by simp +contextual), hhalf (fun a => !select a) (by simp +contextual)]
  exact filter_append_filter_of_pairwise (List.pairwise_mergeSort htrans htotal items)

end ComponentSurvey
