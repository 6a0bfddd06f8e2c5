import Mathlib.Data.List.Induction
import Mathlib.Data.List.Nodup

/-!
# First occurrences

Names are gathered one after the other, and a name that was found before is not added again.

* `FirstOccurrences` — a list holds the items of another, each once, in the order in which they first
  occur there.
* `FirstOccurrences.concat`, `firstOccurrences_foldl` — what one more item leaves of this, and what
  gathering all items ends with.
* `eraseDups_eq_iff` — there is one list of first occurrences: that without later duplicates.
-/

namespace ComponentSurvey

variable {α : Type} [BEq α] [LawfulBEq α] {items firsts : List α}

/-- A list holds the items of another list, each once, in the order in which they first occur
there. -/
structure FirstOccurrences (items firsts : List α) : Prop where
  nodup : firsts.Nodup
  mem_iff : ∀ item, item ∈ firsts ↔ item ∈ items
  inOrder : firsts.Pairwise fun earlier later => items.idxOf earlier < items.idxOf later

/-- Adds an item to those found before, unless it is one of them. -/
def keepFirst (found : List α) (item : α) : List α :=
  if item ∈ found then found else found ++ [item]

/-- One more item leaves the order of those before it as it is. -/
theorem FirstOccurrences.inOrder_concat (h : FirstOccurrences items firsts) (item : α) :
    firsts.Pairwise fun earlier later =>
      (items ++ [item]).idxOf earlier < (items ++ [item]).idxOf later := by
  refine h.inOrder.imp_of_mem ?_
  intro earlier later hearlier hlater hlt
  rw [List.idxOf_append_of_mem ((h.mem_iff earlier).1 hearlier),
    List.idxOf_append_of_mem ((h.mem_iff later).1 hlater)]
  exact hlt

theorem FirstOccurrences.concat (h : FirstOccurrences items firsts) (item : α) :
    FirstOccurrences (items ++ [item]) (keepFirst firsts item) := by
  rw [keepFirst]
  by_cases hitem : item ∈ firsts
  · rw [if_pos hitem]
    refine ⟨h.nodup, ?_, h.inOrder_concat item⟩
    intro other
    rw [List.mem_append, List.mem_singleton, h.mem_iff]
    constructor
    · exact .inl
    · rintro (hother | rfl)
      · exact hother
      · exact (h.mem_iff other).1 hitem
  · rw [if_neg hitem]
    have hnew : item ∉ items := fun hmem => hitem ((h.mem_iff item).2 hmem)
    refine ⟨?_, ?_, ?_⟩
    · rw [← List.concat_eq_append, List.nodup_concat]
      exact ⟨hitem, h.nodup⟩
    · intro other
      rw [List.mem_append, List.mem_append, h.mem_iff]
    · rw [List.pairwise_append]
      refine ⟨h.inOrder_concat item, List.pairwise_singleton _ _, ?_⟩
      intro earlier hearlier later hlater
      -- what was there stands before the place of the new item
      have hbefore := (h.mem_iff earlier).1 hearlier
      rw [List.mem_singleton.1 hlater, List.idxOf_append_of_mem hbefore,
        List.idxOf_append_of_notMem hnew]
      exact Nat.lt_add_right _ (List.idxOf_lt_length_of_mem hbefore)

/-- Adding the items of a list one after the other leaves its first occurrences. -/
theorem firstOccurrences_foldl (items : List α) :
    FirstOccurrences items (items.foldl keepFirst []) := by
  induction items using List.reverseRecOn with
  | nil => exact ⟨List.nodup_nil, fun _ => Iff.rfl, List.Pairwise.nil⟩
  | append_singleton items item ih =>
    rw [List.foldl_append]
    exact ih.concat item

theorem eraseDups_eq_foldl (items : List α) : items.eraseDups = items.foldl keepFirst [] := by
  induction items using List.reverseRecOn with
  | nil => rfl
  | append_singleton items item ih =>
    rw [List.eraseDups_append, List.foldl_append, ← ih]
    show _ = keepFirst items.eraseDups item
    rw [keepFirst]
    by_cases hitem : item ∈ items
    · rw [if_pos (List.mem_eraseDups.2 hitem)]
      simp [List.removeAll, hitem]
    · rw [if_neg fun hmem => hitem (List.mem_eraseDups.1 hmem)]
      simp [List.removeAll, hitem, List.eraseDups_cons]

/-- There is one list of first occurrences. -/
theorem eraseDups_eq_iff : items.eraseDups = firsts ↔ FirstOccurrences items firsts := by
  have hdups : FirstOccurrences items items.eraseDups :=
    eraseDups_eq_foldl items ▸ firstOccurrences_foldl items
  constructor
  · rintro rfl
    exact hdups
  · intro h
    have hperm : items.eraseDups.Perm firsts :=
      (List.perm_ext_iff_of_nodup hdups.nodup h.nodup).2 fun item =>
        (hdups.mem_iff item).trans (h.mem_iff item).symm
    refine hperm.eq_of_pairwise ?_ hdups.inOrder h.inOrder
    intro first second _ _ hlt hgt
    exact absurd hgt (Nat.lt_asymm hlt)

end ComponentSurvey
