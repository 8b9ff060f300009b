import Mathlib.Data.List.Nodup
import WindowedLsb.Lint.Report
import WindowedLsb.Proofs.ByteOrder
import WindowedLsb.Proofs.StableSort

/-!
The report does not depend on the order in which the files are found, and what it says about one file
does not depend on the others.
-/

namespace WindowedLsb.Lint

/-! ## The order of a report -/

namespace Entry

/-- Critical findings come before ratchets, then the bytes of the path count, then the line. -/
def Before (a b : Entry) : Prop :=
  a.severity = .critical ∧ b.severity = .ratchet ∨
    a.severity = b.severity ∧
      (bytes a.path < bytes b.path ∨ a.path = b.path ∧ a.finding.line < b.finding.line)

variable {a b c : Entry}

theorem compare_path_eq_lt_iff {s t : String} : compare s t = .lt ↔ bytes s < bytes t := by
  rw [bytes_lt_iff]
  exact compareOfLessAndEq_eq_lt

theorem order_eq_lt_iff : order a b = .lt ↔ a.Before b := by
  rw [order, Ordering.then_eq_lt, Ordering.then_eq_lt, Nat.compare_eq_lt, Nat.compare_eq_eq,
    compare_path_eq_lt_iff, Std.LawfulEqOrd.compare_eq_iff_eq, Nat.compare_eq_lt, Before]
  cases a.severity <;> cases b.severity <;> simp [Severity.rank]

theorem order_eq_eq_iff : order a b = .eq ↔
    a.severity = b.severity ∧ a.path = b.path ∧ a.finding.line = b.finding.line := by
  rw [order, Ordering.then_eq_eq, Ordering.then_eq_eq, Nat.compare_eq_eq,
    Std.LawfulEqOrd.compare_eq_iff_eq, Nat.compare_eq_eq]
  cases a.severity <;> cases b.severity <;> simp [Severity.rank]

theorem order_eq_compareLex : order =
    compareLex (compareOn fun e => e.severity.rank)
      (compareLex (compareOn Entry.path) (compareOn fun e => e.finding.line)) := rfl

instance : Std.TransCmp order := by
  rw [order_eq_compareLex]
  infer_instance

theorem order_swap (a b : Entry) : order a b = (order b a).swap := Std.OrientedCmp.eq_swap

/-- Whether the report may have `a` in front of `b`. -/
def mayPrecede (a b : Entry) : Bool := (order a b).isLE

theorem mayPrecede_trans (a b c : Entry) (hab : mayPrecede a b = true)
    (hbc : mayPrecede b c = true) : mayPrecede a c = true := Std.TransCmp.isLE_trans hab hbc

theorem mayPrecede_total (a b : Entry) : (mayPrecede a b || mayPrecede b a) = true := by
  rw [mayPrecede, mayPrecede, order_swap b a]
  cases order a b <;> rfl

theorem mayPrecede_iff : mayPrecede a b = true ↔ ¬ b.Before a := by
  rw [← order_eq_lt_iff, mayPrecede, order_swap b a]
  cases order a b <;> simp

theorem tied_mayPrecede_iff : tied mayPrecede a b = true ↔
    a.severity = b.severity ∧ a.path = b.path ∧ a.finding.line = b.finding.line := by
  rw [← order_eq_eq_iff, tied, mayPrecede, mayPrecede,
    order_swap b a]
  cases order a b <;> simp

end Entry

/-! ## Files of one path -/

namespace SourceTree

variable {t t' : SourceTree} {f : SourceFile}

theorem filter_path_of_mem (hf : f ∈ t.files) : t.files.filter (·.path == f.path) = [f] := by
  obtain ⟨before, after, he⟩ := List.append_of_mem hf
  have hd := t.nodup_paths
  rw [he, List.map_append, List.map_cons, List.nodup_append, List.nodup_cons] at hd
  obtain ⟨-, ⟨hafter, -⟩, hbefore⟩ := hd
  have hb : before.filter (·.path == f.path) = [] := by
    rw [List.filter_eq_nil_iff]
    intro g hg
    rw [beq_iff_eq]
    exact hbefore _ (List.mem_map_of_mem hg) _ List.mem_cons_self
  have ha : after.filter (·.path == f.path) = [] := by
    rw [List.filter_eq_nil_iff]
    intro g hg
    rw [beq_iff_eq]
    exact fun hp => hafter (hp ▸ List.mem_map_of_mem hg)
  rw [he, List.filter_append, hb, List.filter_cons_of_pos (by rw [beq_self_eq_true]), ha,
    List.nil_append]

theorem filter_path_perm (hp : t.files.Perm t'.files) (path : String) :
    t.files.filter (·.path == path) = t'.files.filter (·.path == path) := by
  by_cases hf : ∃ f ∈ t.files, f.path = path
  · obtain ⟨f, hf, rfl⟩ := hf
    rw [filter_path_of_mem hf, filter_path_of_mem (hp.mem_iff.mp hf)]
  · have hnone : t.files.filter (·.path == path) = [] := by
      rw [List.filter_eq_nil_iff]
      intro g hg
      rw [beq_iff_eq]
      exact fun hgp => hf ⟨g, hg, hgp⟩
    have hperm := hp.filter (·.path == path)
    rw [hnone] at hperm ⊢
    exact hperm.nil_eq

end SourceTree

/-! ## What is found -/

/-- All findings with their paths, file by file. -/
def found (files : List SourceFile) : List Entry := files.flatMap SourceFile.entries

theorem SourceFile.path_of_mem_entries {f : SourceFile} {e : Entry} (he : e ∈ f.entries) :
    e.path = f.path := by
  obtain ⟨_, _, rfl⟩ := List.mem_map.mp he
  rfl

theorem filter_path_found (files : List SourceFile) (path : String) :
    (found files).filter (·.path == path) = found (files.filter (·.path == path)) := by
  induction files with
  | nil => rfl
  | cons f files ih =>
      have hcons : found (f :: files) = f.entries ++ found files := rfl
      rw [hcons, List.filter_append, ih]
      by_cases hf : f.path = path
      · have hall : f.entries.filter (·.path == path) = f.entries := by
          rw [List.filter_eq_self]
          intro e he
          rw [SourceFile.path_of_mem_entries he, hf, beq_self_eq_true]
        rw [hall, List.filter_cons_of_pos (by rw [hf, beq_self_eq_true])]
        rfl
      · have hnone : f.entries.filter (·.path == path) = [] := by
          rw [List.filter_eq_nil_iff]
          intro e he
          rw [SourceFile.path_of_mem_entries he, beq_iff_eq]
          exact hf
        rw [hnone, List.filter_cons_of_neg (by rw [beq_iff_eq]; exact hf), List.nil_append]

namespace SourceTree

variable {t t' : SourceTree} {f : SourceFile}

theorem entries_eq (t : SourceTree) : t.entries = (found t.files).mergeSort Entry.mayPrecede := rfl

theorem entries_single (f : SourceFile) :
    (single f).entries = f.entries.mergeSort Entry.mayPrecede := by
  have hfound : found (single f).files = f.entries := List.flatMap_singleton _ _
  rw [entries_eq, hfound]

theorem filter_tied_found (hp : t.files.Perm t'.files) (a : Entry) :
    (found t.files).filter (tied Entry.mayPrecede a) =
      (found t'.files).filter (tied Entry.mayPrecede a) := by
  have hpath : ∀ files : List SourceFile, (found files).filter (tied Entry.mayPrecede a) =
      (found (files.filter (·.path == a.path))).filter (tied Entry.mayPrecede a) := by
    intro files
    rw [← filter_path_found, List.filter_filter]
    refine List.filter_congr fun e _ => ?_
    by_cases he : tied Entry.mayPrecede a e = true
    · rw [he, (Entry.tied_mayPrecede_iff.mp he).2.1, beq_self_eq_true, Bool.and_true]
    · rw [Bool.eq_false_iff.mpr he, Bool.false_and]
  rw [hpath t.files, hpath t'.files, filter_path_perm hp]

theorem entries_perm (hp : t.files.Perm t'.files) : t.entries = t'.entries :=
  mergeSort_eq_of_tied Entry.mayPrecede_trans Entry.mayPrecede_total (filter_tied_found hp)

theorem filter_path_entries (hf : f ∈ t.files) :
    t.entries.filter (·.path == f.path) = (single f).entries := by
  have hsingle : (single f).files = [f] := rfl
  rw [entries_eq, entries_eq, filter_mergeSort Entry.mayPrecede_trans Entry.mayPrecede_total,
    filter_path_found, filter_path_of_mem hf, hsingle]

/-- Of one severity and line of one file, the entries stand as they are found. -/
theorem filter_place_entries (hf : f ∈ t.files) (severity : Severity) (line : Nat) :
    (t.entries.filter (·.path == f.path)).filter
        (fun e => e.severity == severity && e.finding.line == line) =
      f.entries.filter fun e => e.severity == severity && e.finding.line == line := by
  rw [filter_path_entries hf, entries_single,
    filter_mergeSort Entry.mayPrecede_trans Entry.mayPrecede_total]
  refine List.mergeSort_of_pairwise (List.pairwise_of_forall_mem_list fun a ha b hb => ?_)
  rw [List.mem_filter, Bool.and_eq_true, beq_iff_eq, beq_iff_eq] at ha hb
  have htied : tied Entry.mayPrecede a b = true := by
    rw [Entry.tied_mayPrecede_iff, ha.2.1, ha.2.2, hb.2.1, hb.2.2,
      SourceFile.path_of_mem_entries ha.1, SourceFile.path_of_mem_entries hb.1]
    exact ⟨rfl, rfl, rfl⟩
  exact (Bool.and_eq_true_iff.mp htied).1

end SourceTree

/-- In whatever order the files of a tree are found, the report is the same. It has each finding once,
the critical ones first, then by the bytes of the path and by line; findings that this does not tell
apart are of one file and stand as they are found in it. What it says of one file is the report on that
file alone. -/
theorem report_of_permuted_files (t : SourceTree) :
    (∀ t' : SourceTree, t.files.Perm t'.files → t'.report = t.report) ∧
    t.report = t.entries.map Entry.render ∧
    t.entries.Perm (t.files.flatMap SourceFile.entries) ∧
    t.entries.Pairwise (fun a b => ¬ b.Before a) ∧
    ∀ f ∈ t.files,
      (t.entries.filter (·.path == f.path)).map Entry.render = (SourceTree.single f).report ∧
      ∀ severity line,
        (t.entries.filter (·.path == f.path)).filter
            (fun e => e.severity == severity && e.finding.line == line) =
          f.entries.filter fun e => e.severity == severity && e.finding.line == line := by
  refine ⟨fun t' hp => ?_, rfl, List.mergeSort_perm _ _, ?_,
    fun f hf => ⟨?_, SourceTree.filter_place_entries hf⟩⟩
  · rw [SourceTree.report, SourceTree.report, SourceTree.entries_perm hp]
  · have hsorted :=
      List.pairwise_mergeSort Entry.mayPrecede_trans Entry.mayPrecede_total (found t.files)
    exact hsorted.imp Entry.mayPrecede_iff.mp
  · rw [SourceTree.filter_path_entries hf, SourceTree.report]

/-- Critical findings stand in front of a ratchet of an earlier path, also where the file with the
ratchet is found first. -/
theorem report_of_permuted_files_two :
    let f : SourceFile := ⟨"b/utils.rs", "// FIXME"⟩
    let g : SourceFile := ⟨"a.rs", "struct S(u8,u8,u8,u8,u8,u8,u8,u8,u8,u8,u8,u8,u8);"⟩
    ∃ t t' : SourceTree, t.files = [f, g] ∧ t'.files = [g, f] ∧
      t'.report = [
        "[Critical] b/utils.rs:0: Anti-pattern module name; use a focused, descriptive module name.",
        "[Critical] b/utils.rs:1: FIXME comments are not allowed in the main branch.",
        "[Ratchet] a.rs:1: Struct 'S' has 13 fields, exceeding the max of 12."] ∧
      (t.entries.filter (·.path == g.path)).map Entry.render = (SourceTree.single g).report := by
  intro f g
  refine ⟨⟨[f, g], by decide⟩, ⟨[g, f], by decide⟩, rfl, rfl, ?_⟩
  obtain ⟨hperm, -, -, -, heach⟩ := report_of_permuted_files ⟨[f, g], by decide⟩
  refine ⟨?_, (heach g (by simp)).1⟩
  have hfound : found [f, g] = [⟨"b/utils.rs", ⟨.vagueModule, 0⟩⟩,
      ⟨"b/utils.rs", ⟨.unfinished, 1⟩⟩, ⟨"a.rs", ⟨.wideStruct "S" 13, 1⟩⟩] := by decide +kernel
  rw [hperm _ (List.Perm.swap g f []), SourceTree.report, SourceTree.entries_eq, hfound,
    List.mergeSort_of_pairwise (by decide +kernel)]
  decide +kernel

end WindowedLsb.Lint
