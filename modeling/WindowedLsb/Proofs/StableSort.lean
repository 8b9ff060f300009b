import Mathlib.Data.List.Basic

/-!
Stable sorting. A sorted list is determined by its parts of tied elements, and sorting leaves these
parts as they are.
-/

namespace WindowedLsb

open List

variable {α : Type} {le : α → α → Bool} {l l' : List α} {a : α}

/-- Neither element has to stand before the other. -/
def tied (le : α → α → Bool) (a b : α) : Bool := le a b && le b a

theorem tied_self (hrefl : ∀ a, le a a = true) (a : α) : tied le a a = true := by
  rw [tied, hrefl a, Bool.and_self]

/-! ## Sorted lists -/

theorem mem_iff_of_tied (hrefl : ∀ a, le a a = true)
    (ht : ∀ a, l.filter (tied le a) = l'.filter (tied le a)) (a : α) : a ∈ l ↔ a ∈ l' := by
  have hm : a ∈ l.filter (tied le a) ↔ a ∈ l'.filter (tied le a) := by rw [ht a]
  simpa [tied_self hrefl a] using hm

theorem eq_of_pairwise_of_tied (hl : l.Pairwise fun a b => le a b)
    (hl' : l'.Pairwise fun a b => le a b) (hrefl : ∀ a, le a a = true)
    (ht : ∀ a, l.filter (tied le a) = l'.filter (tied le a)) : l = l' := by
  induction l generalizing l' with
  | nil =>
      have hnone : ∀ a, a ∉ l' := fun a ha => not_mem_nil ((mem_iff_of_tied hrefl ht a).mpr ha)
      exact (eq_nil_iff_forall_not_mem.mpr hnone).symm
  | cons a l ih =>
      have hmem := mem_iff_of_tied hrefl ht
      cases l' with
      | nil => exact absurd ((hmem a).mp mem_cons_self) not_mem_nil
      | cons b l' =>
          rw [pairwise_cons] at hl hl'
          -- Each head stands somewhere in the other list, so that the heads are tied.
          have hab : le a b = true := by
            rcases mem_cons.mp ((hmem b).mpr mem_cons_self) with rfl | hb
            · exact hrefl _
            · exact hl.1 b hb
          have hba : le b a = true := by
            rcases mem_cons.mp ((hmem a).mp mem_cons_self) with rfl | ha
            · exact hrefl _
            · exact hl'.1 a ha
          have htied : tied le a b = true := by rw [tied, hab, hba, Bool.and_self]
          have hhead := ht a
          rw [filter_cons_of_pos (tied_self hrefl a), filter_cons_of_pos htied] at hhead
          obtain ⟨rfl, -⟩ := cons.inj hhead
          have hrest : ∀ c, l.filter (tied le c) = l'.filter (tied le c) := by
            intro c
            have hc := ht c
            by_cases hca : tied le c a = true
            · rw [filter_cons_of_pos hca, filter_cons_of_pos hca] at hc
              exact (cons.inj hc).2
            · rwa [filter_cons_of_neg hca, filter_cons_of_neg hca] at hc
          rw [ih hl.2 hl'.2 hrest]

/-! ## Sorting -/

section
variable (trans : ∀ a b c : α, le a b = true → le b c = true → le a c = true)
  (total : ∀ a b : α, (le a b || le b a) = true)
include trans total

theorem filter_tied_mergeSort (l : List α) (a : α) :
    (l.mergeSort le).filter (tied le a) = l.filter (tied le a) := by
  have hpair : (l.filter (tied le a)).Pairwise fun x y => le x y := by
    refine pairwise_of_forall_mem_list fun x hx y hy => ?_
    have hxa : le x a = true := (Bool.and_eq_true_iff.mp (mem_filter.mp hx).2).2
    have hay : le a y = true := (Bool.and_eq_true_iff.mp (mem_filter.mp hy).2).1
    exact trans x a y hxa hay
  have hsub : l.filter (tied le a) <+ l.mergeSort le :=
    sublist_mergeSort trans total hpair filter_sublist
  have hsub' := hsub.filter (tied le a)
  rw [filter_filter] at hsub'
  simp only [Bool.and_self] at hsub'
  have hlen := ((mergeSort_perm l le).filter (tied le a)).length_eq
  exact (hsub'.eq_of_length hlen.symm).symm

theorem mergeSort_eq_of_tied (ht : ∀ a, l.filter (tied le a) = l'.filter (tied le a)) :
    l.mergeSort le = l'.mergeSort le := by
  refine eq_of_pairwise_of_tied (pairwise_mergeSort trans total l)
    (pairwise_mergeSort trans total l') (fun a => by simpa using total a a) fun a => ?_
  rw [filter_tied_mergeSort trans total, filter_tied_mergeSort trans total, ht a]

theorem filter_mergeSort (p : α → Bool) (l : List α) :
    (l.mergeSort le).filter p = (l.filter p).mergeSort le := by
  refine eq_of_pairwise_of_tied ((pairwise_mergeSort trans total l).filter p)
    (pairwise_mergeSort trans total _) (fun a => by simpa using total a a) fun a => ?_
  have hcomm : ∀ m : List α, (m.filter p).filter (tied le a) = (m.filter (tied le a)).filter p := by
    intro m
    rw [filter_filter, filter_filter]
    exact filter_congr fun x _ => Bool.and_comm _ _
  rw [filter_tied_mergeSort trans total, hcomm, hcomm, filter_tied_mergeSort trans total]

end

end WindowedLsb
