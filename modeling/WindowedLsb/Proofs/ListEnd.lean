import Mathlib.Data.List.DropRight
import Mathlib.Data.List.Nodup

/-!
The end of a list: its last elements, its last run of elements of one kind, and what stands behind its
first element of a kind. A bounded queue is the end of what was put in it.
-/

namespace WindowedLsb

open List

variable {α β : Type*} {p q : α → Bool} {l before after : List α} {x : α} {c d : Nat}

/-! ## The last elements -/

theorem rtake_of_length_le (h : l.length ≤ c) : l.rtake c = l := by
  rw [rtake, Nat.sub_eq_zero_of_le h, drop_zero]

theorem length_rtake (l : List α) (c : Nat) : (l.rtake c).length = min c l.length := by
  rw [rtake, length_drop]
  omega

theorem rtake_suffix (l : List α) (c : Nat) : l.rtake c <:+ l := drop_suffix _ l

theorem map_rtake (f : α → β) (l : List α) (c : Nat) : (l.rtake c).map f = (l.map f).rtake c := by
  rw [rtake, rtake, map_drop, length_map]

theorem rtake_rtake_of_le (h : c ≤ d) (l : List α) : (l.rtake d).rtake c = l.rtake c := by
  rw [rtake, rtake, rtake, drop_drop, length_drop]
  congr 1
  omega

theorem rtake_rtake_concat (l : List α) (x : α) (c : Nat) :
    (l.rtake c ++ [x]).rtake c = (l ++ [x]).rtake c := by
  cases c with
  | zero => rw [rtake_zero, rtake_zero]
  | succ c => rw [rtake_concat_succ, rtake_concat_succ, rtake_rtake_of_le (Nat.le_succ c)]

theorem rtake_min_length (l : List α) (c : Nat) : l.rtake (min c l.length) = l.rtake c := by
  rw [rtake, rtake]
  congr 1
  omega

/-- One element more pushes the first out, if there is no room for it. -/
theorem rtake_concat (l : List α) (x : α) (c : Nat) : (l ++ [x]).rtake c =
    if (l.rtake c).length = c then (l.rtake c ++ [x]).tail else l.rtake c ++ [x] := by
  have hlen := length_rtake l c
  rw [← rtake_rtake_concat]
  generalize l.rtake c = m at hlen ⊢
  split
  · rename_i hm
    rw [rtake, length_append, hm, length_singleton, Nat.add_sub_cancel_left, drop_one]
  · exact rtake_of_length_le (by rw [length_append, length_singleton]; omega)

/-! ## The last run -/

theorem rtakeWhile_rtakeWhile (l : List α) :
    (l.rtakeWhile q).rtakeWhile p = l.rtakeWhile fun x => p x && q x := by
  simp only [rtakeWhile, reverse_reverse, takeWhile_takeWhile, Bool.decide_and, Bool.decide_eq_true]

theorem rtake_rtakeWhile (l : List α) (c : Nat) :
    (l.rtakeWhile p).rtake c = (l.rtake c).rtakeWhile p := by
  simp only [rtake_eq_reverse_take_reverse, rtakeWhile, reverse_reverse, take_takeWhile]

theorem rtakeWhile_append_cons (hx : p x = false) (ha : ∀ y ∈ after, p y = true) :
    (before ++ x :: after).rtakeWhile p = after := by
  have hrev : (before ++ x :: after).reverse = after.reverse ++ x :: before.reverse := by simp
  rw [rtakeWhile, hrev, takeWhile_append_of_pos (by simpa using ha),
    takeWhile_cons_of_neg (by simp [hx]), append_nil, reverse_reverse]

/-! ## Behind the first element of a kind -/

/-- What stands behind the first element that satisfies `p`. -/
def behindFirst (p : α → Bool) (l : List α) : List α := (l.dropWhile fun x => !p x).tail

theorem behindFirst_append (hb : ∀ y ∈ before, p y = false) (hx : p x = true) :
    behindFirst p (before ++ x :: after) = after := by
  rw [behindFirst, dropWhile_append_of_pos (by simpa using hb), dropWhile_cons_of_neg (by simp [hx]),
    tail_cons]

theorem behindFirst_suffix (p : α → Bool) (l : List α) : behindFirst p l <:+ l :=
  (tail_suffix _).trans (dropWhile_suffix _)

theorem behindFirst_map {p : β → Bool} (f : α → β) (l : List α) :
    behindFirst p (l.map f) = (behindFirst (p ∘ f) l).map f := by
  rw [behindFirst, behindFirst, dropWhile_map, map_tail]
  rfl

/-- Where elements have different keys, an element shares its key with none on either side. -/
theorem ne_of_nodup_map {f : α → β} (hd : ((before ++ x :: after).map f).Nodup) :
    (∀ y ∈ before, f y ≠ f x) ∧ ∀ y ∈ after, f y ≠ f x := by
  rw [map_append, map_cons, nodup_append, nodup_cons] at hd
  obtain ⟨-, ⟨hx, -⟩, hne⟩ := hd
  refine ⟨fun y hy => hne (f y) (mem_map_of_mem hy) (f x) mem_cons_self, ?_⟩
  intro y hy hyx
  exact hx (mem_map.mpr ⟨y, hy, hyx⟩)

/-! ## Elements and what stands before them -/

theorem forall_split_concat {r : List α → α → Prop} :
    (∀ before y after, l ++ [x] = before ++ y :: after → r before y) ↔
      (∀ before y after, l = before ++ y :: after → r before y) ∧ r l x := by
  constructor
  · intro h
    refine ⟨fun before y after he => h before y (after ++ [x]) ?_, h l x [] rfl⟩
    rw [he, append_assoc, cons_append]
  · rintro ⟨h, hx⟩ before y after he
    rcases eq_nil_or_concat after with rfl | ⟨after, z, rfl⟩
    · obtain ⟨rfl, hy⟩ := append_inj' he rfl
      exact (cons.inj hy).1 ▸ hx
    · rw [concat_eq_append, ← cons_append, ← append_assoc] at he
      exact h before y after (append_inj' he rfl).1

end WindowedLsb
