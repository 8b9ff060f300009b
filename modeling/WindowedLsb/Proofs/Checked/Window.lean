import WindowedLsb.Proofs.Checked.Coding
import WindowedLsb.Proofs.Checked.Ring
import WindowedLsb.Proofs.Context.Packets
import WindowedLsb.Proofs.Width

/-!
Windows and contexts with everything they compute checked. The interval function stands aside and may
trap where it is not to be asked, so that a search that comes to its end asks for small widths only.
-/

namespace WindowedLsb.Checked

namespace Window

variable {f : IntervalFunction} {w : Window} {ref v : UInt32}

/-! ## Width search -/

def firstWidth (lo hi : UInt8) (enough : UInt8 → Except Trap Bool) : Except Trap UInt8 := do
  let widths := (List.range' lo.toNat (hi.toNat - lo.toNat)).map UInt8.ofNat
  return (← widths.findM? enough).getD hi

def covers (f : IntervalFunction) (w : Window) (ref : UInt32) (k : UInt8) (v : UInt32) :
    Except Trap Bool := do
  Checked.covers (← f ref k w.shift) ref v

def widthFor (f : IntervalFunction) (w : Window) (ref v : UInt32) : Except Trap UInt8 :=
  firstWidth 0 w.maxBits fun k => covers f w ref k v

/-- The second reference is looked at only if the first covers the value. -/
def widthForBoth (f : IntervalFunction) (w : Window) (a b v : UInt32) : Except Trap UInt8 := do
  let forFirst ← widthFor f w a v
  let forSecond ← widthFor f w b v
  firstWidth (max forFirst forSecond) w.maxBits fun k => do
    if ← covers f w a k v then covers f w b k v else return false

def width? (f : IntervalFunction) (w : Window) (v : UInt32) :
    Except Trap (Except Error UInt8) := do
  match w.ring.bounds? with
  | none => return .error .noReference
  | some (a, b) => return .ok (← widthForBoth f w a b v)

def requiredBits (f : IntervalFunction) (w : Window) (v : UInt32) : Except Trap UInt8 :=
  match w.ring.bounds? with
  | none => .ok w.maxBits
  | some (a, b) => widthForBoth f w a b v

theorem mem_widths_lt {lo hi k : UInt8}
    (hk : k ∈ (List.range' lo.toNat (hi.toNat - lo.toNat)).map UInt8.ofNat) : k < hi := by
  obtain ⟨n, hn, rfl⟩ := List.mem_map.mp hk
  obtain ⟨hlo, hhi⟩ := List.mem_range'_1.mp hn
  have hle := hi.toNat_lt
  rw [UInt8.lt_iff_toNat_lt, UInt8.toNat_ofNat', Nat.mod_eq_of_lt (by omega)]
  omega

theorem firstWidth_eq_ok {lo hi : UInt8} {enough : UInt8 → Except Trap Bool} {g : UInt8 → Bool}
    (h : ∀ k < hi, enough k = .ok (g k)) :
    firstWidth lo hi enough = .ok (WindowedLsb.Window.firstWidth lo hi g) := by
  rw [firstWidth, findM?_eq_ok fun k hk => h k (mem_widths_lt hk), ok_bind]
  rfl

section

variable (hf : f.SoundOn w.interval {k | k < w.maxBits} w.shift)

include hf

theorem covers_eq_ok {k : UInt8} (hk : k < w.maxBits) : covers f w ref k v = .ok (w.covers ref k v) := by
  rw [covers, hf k hk ref, ok_bind, Checked.covers_eq_ok]
  rfl

theorem widthFor_eq_ok (ref v : UInt32) : widthFor f w ref v = .ok (w.widthFor ref v) :=
  firstWidth_eq_ok fun _ hk => covers_eq_ok hf hk

theorem widthForBoth_eq_ok (a b v : UInt32) : widthForBoth f w a b v = .ok (w.widthForBoth a b v) := by
  rw [widthForBoth, widthFor_eq_ok hf, ok_bind, widthFor_eq_ok hf, ok_bind]
  refine firstWidth_eq_ok fun k hk => ?_
  rw [covers_eq_ok hf hk, ok_bind, covers_eq_ok hf hk]
  cases w.covers a k v <;> rfl

theorem width?_eq_ok (v : UInt32) : width? f w v = .ok (w.width? v) := by
  rw [width?, WindowedLsb.Window.width?]
  cases w.ring.bounds? with
  | none => rfl
  | some ab =>
      change (widthForBoth f w ab.1 ab.2 v >>= _) = _
      rw [widthForBoth_eq_ok hf]
      rfl

theorem requiredBits_eq_ok (v : UInt32) : requiredBits f w v = .ok (w.requiredBits v) := by
  rw [requiredBits, WindowedLsb.Window.requiredBits]
  cases w.ring.bounds? with
  | none => rfl
  | some ab => exact widthForBoth_eq_ok hf ab.1 ab.2 v

end

/-! ## Runs -/

def act (w : Window) (a : Ring.Action) : Except Trap (Window × List Event) := do
  let (ring, events) ← Ring.act w.ring a
  return ({ w with ring }, events)

def run (w : Window) (actions : List Ring.Action) : Except Trap (Window × List Event) := do
  let (ring, events) ← Ring.run w.ring actions
  return ({ w with ring }, events)

theorem act_eq_ok (h : w.Reachable) (a : Ring.Action) :
    act w a = .ok (w.act a, w.ring.events a) := by
  rw [act, Ring.act_eq_ok h.holds h.capacity_lt]
  rfl

theorem run_eq_ok (h : w.Reachable) (actions : List Ring.Action) :
    run w actions = .ok (w.run actions, w.ring.runEvents actions) := by
  rw [run, Ring.run_eq_ok h.holds h.capacity_lt, WindowedLsb.Window.run_eq]
  rfl

/-- Whatever is asked of a window or done to it next comes to its end, and comes out as for the window
itself. Sums alone need the number of references bounded. -/
structure Answers (f : IntervalFunction) (w : Window) : Prop where
  act_eq : ∀ a, act w a = .ok (w.act a, w.ring.events a)
  held_eq : Ring.held w.ring = .ok w.ring.held
  validate_eq : Ring.validate w.ring = .ok ()
  width?_eq : ∀ v, width? f w v = .ok (w.width? v)
  requiredBits_eq : ∀ v, requiredBits f w v = .ok (w.requiredBits v)
  sum_eq : w.ring.size ≤ 2 ^ 32 → Ring.sum w.ring = .ok w.ring.sum.toNat
  mean_eq : w.ring.size ≤ 2 ^ 32 → Ring.mean w.ring = .ok w.ring.mean

theorem answers (h : w.Reachable) (hf : f.SoundOn w.interval {k | k < w.maxBits} w.shift) :
    Answers f w where
  act_eq := act_eq_ok h
  held_eq := Ring.held_eq_ok h.capacity_lt h.holds.oldest_lt
  validate_eq := Ring.validate_eq_ok h.holds h.capacity_lt
  width?_eq := width?_eq_ok hf
  requiredBits_eq := requiredBits_eq_ok hf
  sum_eq hn := Ring.sum_eq_ok h.holds h.capacity_lt (by rwa [h.holds.size_eq] at hn)
  mean_eq hn := Ring.mean_eq_ok h.holds h.capacity_lt (by rwa [h.holds.size_eq] at hn)

end Window

namespace FieldWindows

variable {f : IntervalFunction} {w : FieldWindows}

def act (w : FieldWindows) (a : FieldWindows.Action) : Except Trap FieldWindows := do
  let sn ← Window.act w.sn a.split.1
  let ts ← Window.act w.ts a.split.2.1
  let ipId ← Window.act w.ipId a.split.2.2
  return ⟨sn.1, ts.1, ipId.1⟩

def run (w : FieldWindows) (actions : List FieldWindows.Action) : Except Trap FieldWindows :=
  actions.foldlM act w

def requiredBits (f : IntervalFunction) (w : FieldWindows) (p : Packet) : Except Trap FieldBits := do
  return ⟨← Window.requiredBits f w.sn p.sn.toWord, ← Window.requiredBits f w.ts p.ts.toWord,
    ← Window.requiredBits f w.ipId p.ipId.toWord⟩

theorem act_eq_ok (h : ∀ c, (w.window c).Reachable) (a : FieldWindows.Action) :
    act w a = .ok (w.act a) := by
  have hsn := Window.act_eq_ok (h .sequenceNumber)
  have hts := Window.act_eq_ok (h .timestamp)
  have hip := Window.act_eq_ok (h .ipId)
  simp only [FieldWindows.window] at hsn hts hip
  rw [act, hsn, ok_bind, hts, ok_bind, hip]
  rfl

theorem run_eq_ok (h : ∀ c, (w.window c).Reachable) (actions : List FieldWindows.Action) :
    run w actions = .ok (w.run actions) := by
  refine foldlM_eq_ok (fun _ w => ∀ c, (w.window c).Reachable) (fun a _ w hw => ?_) h
  refine ⟨act_eq_ok hw a, fun c => ?_⟩
  rw [FieldWindows.window_act]
  exact (hw c).step _

theorem requiredBits_eq_ok (h : ∀ c, Window.Answers f (w.window c)) (p : Packet) :
    requiredBits f w p = .ok (w.requiredBits p) := by
  have hsn := (h .sequenceNumber).requiredBits_eq
  have hts := (h .timestamp).requiredBits_eq
  have hip := (h .ipId).requiredBits_eq
  simp only [FieldWindows.window] at hsn hts hip
  rw [requiredBits, hsn, ok_bind, hts, ok_bind, hip]
  rfl

end FieldWindows

/-! ## Nothing traps -/

theorem answers_run {f : IntervalFunction} {memory : Memory} {maxBits : UInt8} {capacity : Nat}
    {shift : Shift} {w : Window} (hw : Window.create memory maxBits capacity shift WindowedLsb.standardInterval = .ok w)
    (hf : f.SoundOn WindowedLsb.standardInterval {k | k ≤ 31} shift) (actions : List Ring.Action) :
    Window.Answers f (w.run actions) := by
  have h := (Window.Reachable.start hw).run actions
  obtain ⟨⟨-, hmax⟩, -, -, rfl⟩ := Window.create_eq_ok_iff.mp hw
  refine Window.answers h ?_
  rw [WindowedLsb.Window.run_eq]
  -- The search asks for widths below the full one, which is 32 at most.
  refine hf.mono fun k hk => ?_
  have hlt := UInt8.lt_iff_toNat_lt.mp hk
  have h32 := UInt8.le_iff_toNat_le.mp hmax
  exact UInt8.le_iff_toNat_le.mpr (Nat.le_of_lt_succ (Nat.lt_of_lt_of_le hlt h32))

/-- No run traps, and checking changes no answer. Windows and contexts that can be made at all act and
answer, at every point of every run, as if nothing were checked, with an interval function that need be
sound for widths up to 31 only and may trap at any other. Decoding asks for widths up to 32 only, and
both it and encoding refuse a larger width before they shift by it. At the widths asked for the standard
interval does not trap, whatever the shift, and the test for membership never does. -/
theorem nothing_traps :
    (∀ memory maxBits capacity shift w (actions : List Ring.Action),
      Window.create memory maxBits capacity shift WindowedLsb.standardInterval = .ok w →
        Window.run w actions = .ok (w.run actions, w.ring.runEvents actions) ∧
        ∀ f : IntervalFunction, f.SoundOn WindowedLsb.standardInterval {k | k ≤ 31} shift →
          Window.Answers f (w.run actions)) ∧
    (∀ memory sn ts ipId w (actions : List FieldWindows.Action),
      FieldWindows.ofConfigs memory sn ts ipId = .ok w →
        FieldWindows.run w actions = .ok (w.run actions) ∧
        ∀ f : IntervalFunction, (∀ shift, f.SoundOn WindowedLsb.standardInterval {k | k ≤ 31} shift) →
          (∀ c, Window.Answers f ((w.run actions).window c)) ∧
          ∀ p, FieldWindows.requiredBits f (w.run actions) p = .ok ((w.run actions).requiredBits p)) ∧
    (∀ (f : IntervalFunction) shift,
      f.SoundOn WindowedLsb.standardInterval {k | k ≤ 32} shift → ∀ bits ref k,
        decodeWith f bits ref k shift = .ok (decode bits ref k shift)) ∧
    (∀ v k, encode v k = .ok (WindowedLsb.encode v k)) ∧
    (∀ k > wordBits, ∀ v bits ref shift,
      (∃ text, WindowedLsb.encode v k = .error (.lowBits "num_lsb_bits" text)) ∧
      ∃ text, decode bits ref k shift = .error (.lowBits "num_lsb_bits" text)) ∧
    (∀ shift, standardInterval.SoundOn WindowedLsb.standardInterval {k | k ≤ 32} shift) ∧
    ∀ i ref v, covers i ref v = .ok (i.covers ref v) := by
  refine ⟨fun memory maxBits capacity shift w actions hw => ⟨?_, fun f hf => answers_run hw hf actions⟩,
    fun memory sn ts ipId w actions hw => ⟨?_, fun f hf => ?_⟩, fun f shift hf => decodeWith_eq_ok hf,
    encode_eq_ok, fun k hk v bits ref shift => ⟨⟨_, if_pos hk⟩, ⟨_, if_pos hk⟩⟩,
    standardInterval_sound, covers_eq_ok⟩
  · exact Window.run_eq_ok (.start hw) actions
  · exact FieldWindows.run_eq_ok (FieldWindows.reachable_window hw) actions
  · have hans : ∀ c, Window.Answers f ((w.run actions).window c) := fun c => by
      rw [FieldWindows.window_run]
      exact answers_run (FieldWindows.window_of_ofConfigs hw c) (hf _) _
    exact ⟨hans, FieldWindows.requiredBits_eq_ok hans⟩

/-- The furthest shift there is, in a full ring whose run goes across its end and is then cut, and the
shifts of a context, asked with an interval function that traps beyond 31 bits. -/
theorem nothing_traps_at_furthest_shift :
    ∃ (w : Window) (actions : List Ring.Action) (w' : FieldWindows) (p : Packet),
      Window.create .ample 32 2 (.fixed Int32.minValue) WindowedLsb.standardInterval = .ok w ∧
      Window.run w actions = .ok (w.run actions, [.evicted 1, .compacted 1 1 0 1]) ∧
      Window.requiredBits (standardInterval.upTo 31) (w.run actions) 0x80000007 = .ok 3 ∧
      FieldWindows.ofConfigs .ample ⟨16, 1, .rtpSequenceNumber⟩ ⟨32, 1, .rtpTimestamp⟩ ⟨16, 1, .fixed 0⟩ =
        .ok w' ∧
      FieldWindows.run w' [.record p] = .ok (w'.run [.record p]) ∧
      FieldWindows.requiredBits (standardInterval.upTo 31) (w'.run [.record p]) p = .ok ⟨1, 0, 0⟩ ∧
      decodeWith (standardInterval.upTo 32) 7 0 32 (.fixed Int32.minValue) = .ok (.ok 7) ∧
      ∃ text, encode 7 33 = .ok (.error (.lowBits "num_lsb_bits" text)) := by
  obtain ⟨windows, contexts, decoding, encoding, refused, sound, -⟩ := nothing_traps
  have hf : ∀ shift, (standardInterval.upTo 31).SoundOn WindowedLsb.standardInterval {k | k ≤ 31}
      shift := fun shift => ((sound shift).mono fun k hk => UInt8.le_trans hk (by decide)).upTo
  have hw := Window.create_ample 32 2 (.fixed Int32.minValue) WindowedLsb.standardInterval (by decide) (by decide)
  obtain ⟨actions, hevents, hwidth⟩ : ∃ actions : List Ring.Action,
      (Ring.empty 2).runEvents actions = [.evicted 1, .compacted 1 1 0 1] ∧
      (WindowedLsb.Window.run ⟨.empty 2, 32, .fixed Int32.minValue, WindowedLsb.standardInterval⟩
        actions).requiredBits 0x80000007 = 3 :=
    ⟨[.insert (.ofNat _ 1) 9, .insert (.ofNat _ 2) 5, .insert (.ofNat _ 3) 1,
      .acknowledge (.ofNat _ 2)], by decide, by decide⟩
  obtain ⟨hrun, hans⟩ := windows .ample 32 2 _ _ actions hw
  have hbits := (hans _ (hf _)).requiredBits_eq 0x80000007
  rw [hevents] at hrun
  rw [hwidth] at hbits
  obtain ⟨hrun', hans'⟩ := contexts .ample ⟨16, 1, .rtpSequenceNumber⟩ ⟨32, 1, .rtpTimestamp⟩
    ⟨16, 1, .fixed 0⟩ _ [.record ⟨.ofNat _ 7, .ofNat _ 160, .ofNat _ 9⟩] rfl
  have hbits' := (hans' _ hf).2 ⟨.ofNat _ 7, .ofNat _ 160, .ofNat _ 9⟩
  have hdec := decoding _ _ (sound (.fixed Int32.minValue)).upTo 7 0 32
  obtain ⟨⟨text, htext⟩, -⟩ := refused 33 (by decide) 7 0 0 (.fixed 0)
  have henc := encoding 7 33
  rw [htext] at henc
  refine ⟨_, _, _, _, hw, hrun, hbits, rfl, hrun', hbits'.trans ?_, hdec.trans ?_, text, henc⟩
  · decide
  · decide

end WindowedLsb.Checked
