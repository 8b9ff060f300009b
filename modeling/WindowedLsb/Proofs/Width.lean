import WindowedLsb.Proofs.Interval
import WindowedLsb.Proofs.Reachable

/-!
The width search. Looking at the smallest and the largest reference only finds the least width at
which every reference covers the value, because those that cover it lie next to each other.
-/

namespace WindowedLsb

/-- `k` is the least width below `hi` that is enough, or `hi` if there is none. -/
structure IsFirstWidth (hi : UInt8) (enough : UInt8 → Prop) (k : UInt8) : Prop where
  le : k ≤ hi
  enough_of_lt : k < hi → enough k
  not_enough : ∀ j < k, ¬enough j

theorem IsFirstWidth.congr {hi k : UInt8} {p q : UInt8 → Prop} (h : IsFirstWidth hi p k)
    (he : ∀ j < hi, p j ↔ q j) : IsFirstWidth hi q k where
  le := h.le
  enough_of_lt hk := (he k hk).mp (h.enough_of_lt hk)
  not_enough j hj := (he j (UInt8.lt_of_lt_of_le hj h.le)).not.mp (h.not_enough j hj)

/-- What is enough more often is found no later. -/
theorem IsFirstWidth.le_of_imp {hi j k : UInt8} {p q : UInt8 → Prop} (h : IsFirstWidth hi p k)
    (h' : IsFirstWidth hi q j) (himp : ∀ i < hi, p i → q i) : j ≤ k := by
  refine UInt8.not_lt.mp fun hk => ?_
  have hkhi := UInt8.lt_of_lt_of_le hk h'.le
  exact h'.not_enough k hk (himp k hkhi (h.enough_of_lt hkhi))

theorem IsFirstWidth.unique {hi j k : UInt8} {p : UInt8 → Prop} (h : IsFirstWidth hi p k)
    (h' : IsFirstWidth hi p j) : j = k :=
  UInt8.le_antisymm (h.le_of_imp h' fun _ _ => id) (h'.le_of_imp h fun _ _ => id)

/-! ## The smallest and the largest reference -/

namespace Ring

/-- The values of the references held. -/
def values (r : Ring) : Set UInt32 := {v | ∃ s ∈ r.held, s.value = v}

variable {r : Ring} {a b : UInt32} {n : Nat}

theorem bounds?_eq (r : Ring) : r.bounds? =
    match (r.usedSlots.map Slot.value).min?, (r.usedSlots.map Slot.value).max? with
    | some a, some b => some (a, b)
    | _, _ => none := by
  rw [bounds?]
  cases r.usedSlots.map Slot.value with
  | nil => rfl
  | cons v vs => rw [List.min?_cons', List.max?_cons']

theorem bounds?_eq_none_iff : r.bounds? = none ↔ r.usedSlots = [] := by
  rw [bounds?_eq]
  cases h : r.usedSlots with
  | nil => simp
  | cons s rest => simp

/-- The bounds are values of references, and no reference lies outside them. -/
theorem bounds?_eq_some_iff : r.bounds? = some (a, b) ↔
    ((∃ s ∈ r.usedSlots, s.value = a) ∧ ∀ s ∈ r.usedSlots, a ≤ s.value) ∧
      (∃ s ∈ r.usedSlots, s.value = b) ∧ ∀ s ∈ r.usedSlots, s.value ≤ b := by
  have hmin : (r.usedSlots.map Slot.value).min? = some a ↔
      (∃ s ∈ r.usedSlots, s.value = a) ∧ ∀ s ∈ r.usedSlots, a ≤ s.value := by
    rw [List.min?_eq_some_iff]
    simp
  have hmax : (r.usedSlots.map Slot.value).max? = some b ↔
      (∃ s ∈ r.usedSlots, s.value = b) ∧ ∀ s ∈ r.usedSlots, s.value ≤ b := by
    rw [List.max?_eq_some_iff]
    simp
  rw [← hmin, ← hmax, bounds?_eq]
  split
  · rename_i x y hx hy
    simp [hx, hy]
  · rename_i hno
    simp only [reduceCtorEq, false_iff, not_and]
    intro hx hy
    exact hno a b hx hy

theorem Holds.isLeast_isGreatest (h : r.Holds n) (hab : r.bounds? = some (a, b)) :
    IsLeast r.values a ∧ IsGreatest r.values b := by
  obtain ⟨⟨⟨s, hs, rfl⟩, hmin⟩, ⟨t, ht, rfl⟩, hmax⟩ := bounds?_eq_some_iff.mp hab
  simp only [h.mem_usedSlots] at hs hmin ht hmax
  refine ⟨⟨⟨s, hs, rfl⟩, ?_⟩, ⟨t, ht, rfl⟩, ?_⟩
  · rintro _ ⟨x, hx, rfl⟩
    exact hmin x hx
  · rintro _ ⟨x, hx, rfl⟩
    exact hmax x hx

end Ring

namespace Window

variable {lo hi k : UInt8} {w : Window} {a b v : UInt32}

/-! ## Searching upwards -/

theorem lt_max_iff {i j : UInt8} : k < max i j ↔ k < i ∨ k < j := by
  simp only [max, UInt8.lt_iff_toNat_lt, UInt8.le_iff_toNat_le]
  split <;> omega

/-- A search that starts above widths that are not enough finds the first that is. -/
theorem isFirstWidth_firstWidth {enough : UInt8 → Bool} (hlo : lo ≤ hi)
    (hb : ∀ j < lo, enough j = false) :
    IsFirstWidth hi (fun j => enough j = true) (firstWidth lo hi enough) := by
  have hhi := hi.toNat_lt
  rw [UInt8.le_iff_toNat_le] at hlo
  rw [firstWidth, List.find?_map]
  cases hf : (List.range' lo.toNat (hi.toNat - lo.toNat)).find? (enough ∘ UInt8.ofNat) with
  | none =>
      rw [List.find?_eq_none] at hf
      refine ⟨UInt8.le_refl hi, fun h => absurd h (UInt8.lt_irrefl hi), ?_⟩
      intro j hj
      change j < hi at hj
      by_cases hjlo : j < lo
      · simp [hb j hjlo]
      · have hm : j.toNat ∈ List.range' lo.toNat (hi.toNat - lo.toNat) := by
          rw [UInt8.lt_iff_toNat_lt] at hj hjlo
          rw [List.mem_range'_1]
          omega
        simpa using hf _ hm
  | some n =>
      obtain ⟨hp, hm, hfirst⟩ := List.find?_range'_eq_some.mp hf
      rw [List.mem_range'_1] at hm
      have hn : (UInt8.ofNat n).toNat = n := by
        rw [UInt8.toNat_ofNat', Nat.mod_eq_of_lt (by omega)]
      refine ⟨?_, fun _ => hp, ?_⟩
      · rw [UInt8.le_iff_toNat_le]
        change (UInt8.ofNat n).toNat ≤ hi.toNat
        omega
      · intro j hj
        change j < UInt8.ofNat n at hj
        by_cases hjlo : j < lo
        · simp [hb j hjlo]
        · rw [UInt8.lt_iff_toNat_lt] at hj hjlo
          have hne := hfirst j.toNat (by omega) (by omega)
          simpa using hne

theorem isFirstWidth_widthFor (w : Window) (ref v : UInt32) :
    IsFirstWidth w.maxBits (fun k => w.covers ref k v = true) (w.widthFor ref v) :=
  isFirstWidth_firstWidth UInt8.zero_le fun _ hj => absurd hj UInt8.not_lt_zero

/-- Nothing below the start of the joint search does for both references, so it misses nothing. -/
theorem isFirstWidth_widthForBoth (w : Window) (a b v : UInt32) :
    IsFirstWidth w.maxBits (fun k => w.covers a k v = true ∧ w.covers b k v = true)
      (w.widthForBoth a b v) := by
  have ha := isFirstWidth_widthFor w a v
  have hb := isFirstWidth_widthFor w b v
  have hlo : max (w.widthFor a v) (w.widthFor b v) ≤ w.maxBits := by
    rw [← UInt8.not_lt, lt_max_iff, not_or, UInt8.not_lt, UInt8.not_lt]
    exact ⟨ha.le, hb.le⟩
  have hbelow : ∀ j < max (w.widthFor a v) (w.widthFor b v),
      (w.covers a j v && w.covers b j v) = false := by
    intro j hj
    rcases lt_max_iff.mp hj with h | h
    · simp [Bool.eq_false_iff.mpr (ha.not_enough j h)]
    · simp [Bool.eq_false_iff.mpr (hb.not_enough j h)]
  exact (isFirstWidth_firstWidth hlo hbelow).congr fun j _ => by simp

theorem Reachable.bounds?_eq_none_iff (h : w.Reachable) :
    w.ring.bounds? = none ↔ w.ring.held = [] :=
  Ring.bounds?_eq_none_iff.trans h.holds.usedSlots_eq_nil_iff

theorem Reachable.exists_bounds (h : w.Reachable) (hempty : w.ring.isEmpty = false) :
    ∃ a b, w.ring.bounds? = some (a, b) ∧ IsLeast w.ring.values a ∧ IsGreatest w.ring.values b := by
  cases hb : w.ring.bounds? with
  | none => exact absurd (h.bounds?_eq_none_iff.mp hb) (h.holds.isEmpty_eq_false_iff.mp hempty)
  | some ab => exact ⟨ab.1, ab.2, rfl, h.holds.isLeast_isGreatest hb⟩

/-- Whatever the intervals are like, and however they change with the width, a window that holds
references answers with the least width at which both the smallest and the largest of them cover the
value, or with the full width if there is none. -/
theorem width_eq_search_of_extremes (h : w.Reachable) (hempty : w.ring.isEmpty = false) (v : UInt32) :
    ∃ a b, IsLeast w.ring.values a ∧ IsGreatest w.ring.values b ∧
      w.width? v = .ok (w.requiredBits v) ∧
      IsFirstWidth w.maxBits
        (fun k => (w.interval a k w.shift).covers a v = true ∧
          (w.interval b k w.shift).covers b v = true) (w.requiredBits v) := by
  obtain ⟨a, b, hb, hleast, hgreatest⟩ := h.exists_bounds hempty
  refine ⟨a, b, hleast, hgreatest, ?_⟩
  simp only [width?, requiredBits, hb, true_and]
  exact isFirstWidth_widthForBoth w a b v

/-- No bit is needed for 150 from the reference 100 and one from 200, but the first width at which both
cover it is three: two bits do for neither, nor do more than three. -/
theorem width_eq_search_of_extremes_irregular : ∃ (w : Window) (a b : UInt32), w.Reachable ∧
    w.interval = tableInterval [(0, 60), (-60, 0), (500, 500), (-60, 60), (500, 500)] ∧
    w.ring.isEmpty = false ∧ IsLeast w.ring.values a ∧ IsGreatest w.ring.values b ∧
    w.widthFor 100 150 = 0 ∧ w.widthFor 200 150 = 1 ∧ w.width? 150 = .ok 3 ∧
    IsFirstWidth w.maxBits
      (fun k => (w.interval a k w.shift).covers a 150 = true ∧
        (w.interval b k w.shift).covers b 150 = true) 3 := by
  obtain ⟨w, h, hf, hne, ha, hb, h3⟩ : ∃ w : Window, w.Reachable ∧
      w.interval = tableInterval [(0, 60), (-60, 0), (500, 500), (-60, 60), (500, 500)] ∧
      w.ring.held ≠ [] ∧ w.widthFor 100 150 = 0 ∧ w.widthFor 200 150 = 1 ∧ w.width? 150 = .ok 3 := by
    have hw := create_ample 8 3 (.fixed 0)
      (tableInterval [(0, 60), (-60, 0), (500, 500), (-60, 60), (500, 500)]) (by decide) (by decide)
    exact ⟨_, (Reachable.start hw).run
      [.insert (.ofNat _ 1) 200, .insert (.ofNat _ 2) 140, .insert (.ofNat _ 3) 100],
      rfl, by decide, by decide, by decide, by decide⟩
  have he := h.holds.isEmpty_eq_false_iff.mpr hne
  obtain ⟨a, b, hleast, hgreatest, hok, hfirst⟩ := width_eq_search_of_extremes h he 150
  rw [h3] at hok
  rw [← Except.ok.inj hok] at hfirst
  exact ⟨w, a, b, h, hf, he, hleast, hgreatest, ha, hb, h3, hfirst⟩

/-! ## All references -/

/-- With intervals that move with the reference, what covers the value from both bounds covers it from
everywhere between them. -/
theorem covers_bounds_iff (hf : w.interval.UniformAt w.shift k) (hab : w.ring.bounds? = some (a, b)) :
    (w.covers a k v = true ∧ w.covers b k v = true) ↔
      ∀ s ∈ w.ring.usedSlots, w.covers s.value k v = true := by
  obtain ⟨⟨⟨s, hs, rfl⟩, hmin⟩, ⟨t, ht, rfl⟩, hmax⟩ := Ring.bounds?_eq_some_iff.mp hab
  constructor
  · rintro ⟨ha, hb⟩ x hx
    exact hf.covers_between ha hb (hmin x hx) (hmax x hx)
  · intro h
    exact ⟨h s hs, h t ht⟩

theorem isFirstWidth_all (hf : ∀ k < w.maxBits, w.interval.UniformAt w.shift k)
    (hab : w.ring.bounds? = some (a, b)) :
    IsFirstWidth w.maxBits (fun k => ∀ s ∈ w.ring.usedSlots, w.covers s.value k v = true)
      (w.widthForBoth a b v) :=
  (isFirstWidth_widthForBoth w a b v).congr fun k hk => covers_bounds_iff (hf k hk) hab

/-- A window that holds references answers with the first width at which all of them cover the
value. -/
theorem Reachable.width?_eq_ok (h : w.Reachable)
    (hf : ∀ k < w.maxBits, w.interval.UniformAt w.shift k) (hne : w.ring.held ≠ []) (v : UInt32) :
    w.width? v = .ok (w.requiredBits v) ∧
      IsFirstWidth w.maxBits (fun k => ∀ s ∈ w.ring.held, w.covers s.value k v = true)
        (w.requiredBits v) := by
  cases hb : w.ring.bounds? with
  | none => exact absurd (h.bounds?_eq_none_iff.mp hb) hne
  | some ab =>
      obtain ⟨a, b⟩ := ab
      simp only [width?, requiredBits, hb, true_and]
      exact (isFirstWidth_all hf hb).congr fun k _ => by simp only [h.holds.mem_usedSlots]

/-- The search between the smallest and the largest reference is the search over all references: it
fails only if there is none, and else gives the least width at which every reference covers the
value, or the full width. The standard interval is one of those it is meant for. -/
theorem width_eq_search_of_all_references : standardInterval.Equivariant ∧
    ∀ w : Window, w.Reachable → w.interval.Equivariant → ∀ v : UInt32,
      (w.width? v = .error .noReference ↔ w.ring.held = []) ∧
      (w.ring.held = [] → w.requiredBits v = w.maxBits) ∧
      (w.ring.held ≠ [] → w.width? v = .ok (w.requiredBits v) ∧
        IsFirstWidth w.maxBits
          (fun k => ∀ s ∈ w.ring.held, (w.interval s.value k w.shift).covers s.value v = true)
          (w.requiredBits v)) := by
  refine ⟨IntervalFunction.standardInterval_equivariant, fun w h hf v => ⟨?_, ?_, ?_⟩⟩
  · rw [← h.bounds?_eq_none_iff, width?]
    split
    · rename_i hb
      simp [hb]
    · rename_i hb
      simp [hb]
  · intro he
    rw [requiredBits, h.bounds?_eq_none_iff.mpr he]
  · intro hne
    exact h.width?_eq_ok (fun k _ => hf w.shift k) hne v

/-- Five bits cover 129 from the reference 100 and none at all from the reference 130, but at five bits
the sequence number rule allows no reordering, so that both need six. -/
theorem width_eq_search_of_two_references : ∃ w : Window, w.Reachable ∧
    w.interval.Equivariant ∧ w.ring.held ≠ [] ∧ w.width? 129 = .ok 6 ∧
      IsFirstWidth w.maxBits
        (fun k => ∀ s ∈ w.ring.held, (w.interval s.value k w.shift).covers s.value 129 = true) 6 := by
  have hw := create_ample 16 2 .rtpSequenceNumber standardInterval (by decide) (by decide)
  have h := (Reachable.start hw).run [.insert (.ofNat _ 1) 100, .insert (.ofNat _ 2) 130]
  have hf := IntervalFunction.standardInterval_equivariant
  have hs := (width_eq_search_of_all_references.2 _ h hf 129).2.2 (by decide)
  exact ⟨_, h, hf, by decide, by decide, hs.2⟩

end Window
end WindowedLsb
