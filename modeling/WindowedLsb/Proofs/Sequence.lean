import Mathlib.Data.List.Chain
import Mathlib.Data.List.Nodup
import Mathlib.Data.Nat.ModEq
import WindowedLsb.Counter

/-!
Readings in sequence. A counter that goes up by one and wraps to zero comes back to a reading after as
many steps as it has readings, and not before.
-/

namespace WindowedLsb.Counter.Reading

variable {c : Counter} {a b : Reading c} {l : List (Reading c)} {d i : Nat}

/-- The second reading is the one after the first. -/
def Precedes (a b : Reading c) : Prop := b = a + .ofNat c 1

instance : DecidableRel (@Precedes c) := fun a b => inferInstanceAs (Decidable (b = a + .ofNat c 1))

theorem Precedes.toNat_eq (h : a.Precedes b) : b.toNat = (a.toNat + 1) % twoPow c.bits := by
  have hone : (ofNat c 1).toNat = 1 := toNat_ofNat (by cases c <;> decide)
  rw [h, toNat_add, hone]

theorem toNat_getElem_add (h : l.IsChain Precedes) (hi : i + d < l.length) :
    l[i + d].toNat = (l[i].toNat + d) % twoPow c.bits := by
  induction d with
  | zero => exact (Nat.mod_eq_of_lt l[i].toNat_lt).symm
  | succ d ih =>
      have hstep := (h.getElem (i + d) hi).toNat_eq
      rw [ih (by omega), Nat.mod_add_mod] at hstep
      exact hstep

/-- The same reading comes back whenever the counter has gone all the way round. -/
theorem getElem_add_eq_iff (h : l.IsChain Precedes) (hi : i + d < l.length) :
    l[i + d] = l[i] ↔ twoPow c.bits ∣ d := by
  have hlt := l[i].toNat_lt
  rw [← toNat_inj, toNat_getElem_add h hi]
  constructor
  · intro he
    have hmod : l[i].toNat + d ≡ l[i].toNat + 0 [MOD twoPow c.bits] := by
      rw [Nat.ModEq, he, Nat.add_zero, Nat.mod_eq_of_lt hlt]
    exact Nat.modEq_zero_iff_dvd.mp (Nat.ModEq.add_left_cancel' _ hmod)
  · rintro ⟨m, rfl⟩
    rw [Nat.add_mul_mod_self_left, Nat.mod_eq_of_lt hlt]

/-- Readings in sequence are all different exactly as long as there are no more of them than the counter
can show. -/
theorem nodup_iff_length_le (h : l.IsChain Precedes) : l.Nodup ↔ l.length ≤ twoPow c.bits := by
  have hpos : 0 < twoPow c.bits := Nat.two_pow_pos _
  constructor
  · -- With one more, the last is the first again.
    intro hd
    by_contra hlong
    have hi : 0 + twoPow c.bits < l.length := by omega
    have hback := hd.getElem_inj_iff.mp ((getElem_add_eq_iff h hi).mpr (Nat.dvd_refl _))
    omega
  · intro hlen
    rw [List.Nodup, List.pairwise_iff_getElem]
    intro i j hi hj hij he
    obtain ⟨d, rfl⟩ := Nat.exists_eq_add_of_le (Nat.le_of_lt hij)
    have hle := Nat.le_of_dvd (by omega) ((getElem_add_eq_iff h hj).mp he.symm)
    omega

end WindowedLsb.Counter.Reading
