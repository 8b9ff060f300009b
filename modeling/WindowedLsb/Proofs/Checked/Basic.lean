import Mathlib.Data.Int.ModEq
import WindowedLsb.Proofs.Except

/-!
Numbers and storage as a machine has them. A result that does not fit its word, a remainder by zero and a
place outside the storage end the run here, where the library's own operations go on with some value.
-/

namespace WindowedLsb.Checked

/-- What ends a run. -/
inductive Trap where
  | overflow
  | zeroDivisor
  | outOfBounds
  | assertion
  deriving DecidableEq

/-! ## Numbers -/

/-- An unsigned number, if it fits 64 bits. -/
def unsigned (n : Nat) : Except Trap Nat := if n < 2 ^ 64 then .ok n else .error .overflow

/-- A signed number, if it fits 64 bits. -/
def signed (n : Int) : Except Trap Int :=
  if -2 ^ 63 ≤ n ∧ n < 2 ^ 63 then .ok n else .error .overflow

/-- The difference of unsigned numbers of any width. -/
def sub (a b : Nat) : Except Trap Nat := if b ≤ a then .ok (a - b) else .error .overflow

def rem (a b : Nat) : Except Trap Nat := if b = 0 then .error .zeroDivisor else .ok (a % b)

def div (a b : Nat) : Except Trap Nat := if b = 0 then .error .zeroDivisor else .ok (a / b)

/-- The word of `width` bits in which bit `n` alone is set. There has to be such a bit. -/
def bit (width n : Nat) : Except Trap Nat := if n < width then .ok (2 ^ n) else .error .overflow

def assert (p : Prop) [Decidable p] : Except Trap Unit := if p then .ok () else .error .assertion

variable {a b n width : Nat}

theorem unsigned_eq_ok (h : n < 2 ^ 64) : unsigned n = .ok n := if_pos h

theorem signed_eq_ok {n : Int} (hlo : -2 ^ 63 ≤ n) (hhi : n < 2 ^ 63) : signed n = .ok n :=
  if_pos ⟨hlo, hhi⟩

theorem sub_eq_ok (h : b ≤ a) : sub a b = .ok (a - b) := if_pos h

theorem rem_eq_ok (h : 0 < b) : rem a b = .ok (a % b) := if_neg (Nat.ne_of_gt h)

theorem div_eq_ok (h : 0 < b) : div a b = .ok (a / b) := if_neg (Nat.ne_of_gt h)

theorem bit_eq_ok (h : n < width) : bit width n = .ok (2 ^ n) := if_pos h

theorem assert_bind_eq {α : Type} (p : Prop) [Decidable p] (f : Unit → Except Trap α) :
    (assert p >>= f) = if p then f () else .error .assertion := by
  rw [assert]
  split <;> rfl

/-! ## Storage -/

variable {α β ε : Type} {xs : Array α} {p : Nat}

def read (xs : Array α) (p : Nat) : Except Trap α :=
  match xs[p]? with
  | some x => .ok x
  | none => .error .outOfBounds

def write (xs : Array α) (p : Nat) (x : α) : Except Trap (Array α) :=
  if p < xs.size then .ok (xs.setIfInBounds p x) else .error .outOfBounds

def modify (xs : Array α) (p : Nat) (f : α → α) : Except Trap (Array α) :=
  if p < xs.size then .ok (xs.modify p f) else .error .outOfBounds

theorem read_eq_ok (d : α) (h : p < xs.size) : read xs p = .ok (xs.getD p d) := by
  rw [read, Array.getElem?_eq_getElem h, Array.getD_eq_getD_getElem?, Array.getElem?_eq_getElem h]
  rfl

theorem write_eq_ok (x : α) (h : p < xs.size) : write xs p x = .ok (xs.setIfInBounds p x) := if_pos h

theorem modify_eq_ok (f : α → α) (h : p < xs.size) : modify xs p f = .ok (xs.modify p f) := if_pos h

/-! ## Loops -/

/-- A loop in which no round traps comes to the end. -/
theorem mapM_eq_ok {f : α → Except ε β} {g : α → β} {l : List α} (h : ∀ x ∈ l, f x = .ok (g x)) :
    l.mapM f = .ok (l.map g) := by
  induction l with
  | nil => rfl
  | cons x l ih =>
      rw [List.mapM_cons, h x List.mem_cons_self, ok_bind,
        ih fun y hy => h y (List.mem_cons_of_mem _ hy), ok_bind]
      rfl

theorem findM?_eq_ok {f : α → Except ε Bool} {g : α → Bool} {l : List α}
    (h : ∀ x ∈ l, f x = .ok (g x)) : l.findM? f = .ok (l.find? g) := by
  induction l with
  | nil => rfl
  | cons x l ih =>
      have hl := ih fun y hy => h y (List.mem_cons_of_mem _ hy)
      rw [List.findM?, h x List.mem_cons_self, ok_bind, List.find?_cons]
      split
      · rename_i hx
        rw [hx]
        rfl
      · rename_i hx
        rw [hx, hl]

/-- What keeps the rounds still to come from trapping may depend on them and on the state. -/
theorem foldlM_eq_ok {f : β → α → Except ε β} {g : β → α → β} (keeps : List α → β → Prop)
    (h : ∀ x l s, keeps (x :: l) s → f s x = .ok (g s x) ∧ keeps l (g s x)) {l : List α} {s : β}
    (hs : keeps l s) : l.foldlM f s = .ok (l.foldl g s) := by
  induction l generalizing s with
  | nil => rfl
  | cons x l ih =>
      obtain ⟨hx, hkeeps⟩ := h x l s hs
      rw [List.foldlM_cons, hx, ok_bind, List.foldl_cons]
      exact ih hkeeps

end WindowedLsb.Checked
