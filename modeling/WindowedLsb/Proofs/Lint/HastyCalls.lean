import WindowedLsb.Proofs.Lint.Findings
import WindowedLsb.Proofs.Lint.Report

/-!
Which calls of `unwrap` and `expect` are reported. One with nothing for tests around it is, and one in a
module, function or method for tests is not. What is in the arguments of a macro is never looked at.
-/

namespace WindowedLsb.Lint

/-! ## Calls in an outline -/

def Finding.isHastyCall (f : Finding) : Bool :=
  match f.breach with
  | .hastyCall _ => true
  | .vagueModule | .longModule _ | .unfinished | .unreadable | .undocumented .. | .abbreviated ..
  | .wideStruct .. => false

namespace Node

/-- An item of whatever kind that is for tests only. -/
inductive IsGated : Node → Prop where
  | item {head children} : head.isGated = true → IsGated (.item head children)

theorem isGated_item_iff {head : Head} {children : List Node} :
    IsGated (.item head children) ↔ head.isGated = true :=
  ⟨fun h => by cases h; assumption, .item⟩

instance : DecidablePred IsGated
  | .item head _ => decidable_of_iff (head.isGated = true) isGated_item_iff.symm
  | .call .. | .arguments _ => isFalse nofun

theorem IsTestOnly.isGated {n : Node} (h : n.IsTestOnly) : n.IsGated := by
  cases h <;> exact .item ‹_›

/-- A call that should return an error instead, and the nodes around it. -/
structure PlacedCall where
  finding : Finding
  around : List Node

namespace PlacedCall

/-- No item around the call is for tests only. -/
def IsUngated (c : PlacedCall) : Prop := ∀ n ∈ c.around, ¬ n.IsGated

/-- No module, function or method around the call is for tests only. -/
def IsShipped (c : PlacedCall) : Prop := ∀ n ∈ c.around, ¬ n.IsTestOnly

instance : DecidablePred IsUngated := fun _ => inferInstanceAs (Decidable (∀ n ∈ _, _))

instance : DecidablePred IsShipped := fun _ => inferInstanceAs (Decidable (∀ n ∈ _, _))

theorem IsUngated.isShipped {c : PlacedCall} (h : c.IsUngated) : c.IsShipped :=
  fun n hn ht => h n hn ht.isGated

end PlacedCall

def Occurrence.placedCall? (o : Occurrence) : Option PlacedCall :=
  match o.node with
  | call method line _ =>
      if method ∈ hastyMethods then some ⟨⟨.hastyCall method, line⟩, o.around⟩ else none
  | item .. | arguments _ => none

theorem placedCall?_call (around : List Node) (method : String) (line : Nat)
    (children : List Node) : Occurrence.placedCall? ⟨around, .call method line children⟩ =
      if method ∈ hastyMethods then some ⟨⟨.hastyCall method, line⟩, around⟩ else none := rfl

/-- All such calls in an outline, in the order of the file. -/
def placedCalls (nodes : List Node) : List PlacedCall :=
  (occurrencesAll [] nodes).filterMap Occurrence.placedCall?

/-! ## Reported calls -/

theorem filter_isHastyCall_ownFindings (o : Occurrence) :
    o.node.ownFindings.filter Finding.isHastyCall = o.placedCall?.toList.map PlacedCall.finding := by
  obtain ⟨around, n⟩ := o
  cases n with
  | item head children =>
      rw [List.filter_eq_nil_iff.mpr]
      · rfl
      · intro f hf
        cases mem_ownFindings_iff.mp hf <;> exact Bool.false_ne_true
  | call method line children =>
      rw [placedCall?_call, ownFindings]
      split <;> rfl
  | arguments content => rfl

/-- A call is for tests only if something around it is. -/
theorem filter_isShipped_placedCall? (o : Occurrence) :
    (o.placedCall?.filter fun c => c.IsShipped) = if o.IsShipped then o.placedCall? else none := by
  obtain ⟨around, n⟩ := o
  cases n with
  | item head children => exact (ite_self none).symm
  | call method line children =>
      have hshipped : Occurrence.IsShipped ⟨around, .call method line children⟩ ↔
          PlacedCall.IsShipped ⟨⟨.hastyCall method, line⟩, around⟩ := and_iff_left nofun
      rw [placedCall?_call]
      split
      · simp only [Option.filter, hshipped, decide_eq_true_eq]
      · exact (ite_self none).symm
  | arguments content => exact (ite_self none).symm

theorem filter_isHastyCall_shippedFindings (os : List Occurrence) :
    (shippedFindings os).filter Finding.isHastyCall =
      ((os.filterMap Occurrence.placedCall?).filter fun c => c.IsShipped).map PlacedCall.finding := by
  calc (shippedFindings os).filter Finding.isHastyCall
      = (os.filter fun o => o.IsShipped).flatMap fun o =>
          o.placedCall?.toList.map PlacedCall.finding := by
        rw [shippedFindings, List.filter_flatMap]
        simp only [filter_isHastyCall_ownFindings]
    _ = ((os.filter fun o => o.IsShipped).filterMap Occurrence.placedCall?).map
          PlacedCall.finding := by
        rw [List.filterMap_eq_flatMap_toList, List.map_flatMap]
    _ = ((os.filterMap Occurrence.placedCall?).filter fun c => c.IsShipped).map
          PlacedCall.finding := by
        rw [List.filterMap_filter, List.filter_filterMap]
        simp only [filter_isShipped_placedCall?, decide_eq_true_eq]

/-! ## Arguments of macros -/

mutual

/-- The node without the tokens in the arguments of macros. -/
def withoutTokens : Node → Node
  | item head children => .item head (withoutTokensAll children)
  | call method line children => .call method line (withoutTokensAll children)
  | arguments _ => .arguments []

def withoutTokensAll : List Node → List Node
  | [] => []
  | n :: ns => n.withoutTokens :: withoutTokensAll ns

end

mutual

theorem findings_withoutTokens : (n : Node) → n.withoutTokens.findings = n.findings
  | item head children => by
      rw [withoutTokens, findings, findings, findingsAll_withoutTokensAll children]
  | call method line children => by
      rw [withoutTokens, findings, findings, findingsAll_withoutTokensAll children]
  | arguments _ => rfl

theorem findingsAll_withoutTokensAll :
    (ns : List Node) → findingsAll (withoutTokensAll ns) = findingsAll ns
  | [] => rfl
  | n :: ns => by
      rw [withoutTokensAll, findingsAll, findingsAll, findings_withoutTokens n,
        findingsAll_withoutTokensAll ns]

end

end Node

/-! ## Reports -/

namespace SourceFile

variable {f : SourceFile} {nodes : List Node}

theorem outlineFindings_eq (h : outline f.text = .ok nodes) :
    f.outlineFindings = Node.findingsAll nodes := by
  rw [outlineFindings, h]

/-- The rules on names, lines and markers say nothing of calls. -/
theorem filter_isHastyCall_findings (hs : f.isSource = true) (he : f.isExempt = false)
    (h : outline f.text = .ok nodes) : f.findings.filter Finding.isHastyCall =
      ((Node.placedCalls nodes).filter fun c => c.IsShipped).map Node.PlacedCall.finding := by
  have hname : f.nameFindings.filter Finding.isHastyCall = [] := by
    rw [nameFindings]
    split <;> rfl
  have hlength : f.lengthFindings.filter Finding.isHastyCall = [] := by
    rw [lengthFindings]
    split <;> rfl
  have hunfinished : f.unfinishedFindings.filter Finding.isHastyCall = [] := by
    rw [List.filter_eq_nil_iff]
    intro x hx
    obtain ⟨⟨text, line⟩, -, hx⟩ := List.mem_filterMap.mp hx
    obtain ⟨-, hx⟩ := Option.ite_none_right_eq_some.mp hx
    cases hx
    exact Bool.false_ne_true
  have hroot : ∀ n ∈ ([] : List Node), ¬ n.IsTestOnly := by simp
  have hsource : ¬ (!f.isSource) = true := by simp [hs]
  have hexempt : ¬ f.isExempt = true := by simp [he]
  rw [findings, if_neg hsource, if_neg hexempt, List.filter_append, List.filter_append,
    List.filter_append, hname, hlength, hunfinished, outlineFindings_eq h,
    Node.findingsAll_eq_shippedFindings hroot,
    Node.filter_isHastyCall_shippedFindings]
  rfl

end SourceFile

/-- What is computed from the outline of a text tells that it has one. -/
theorem exists_outline_of_map {β : Type} {text : String} {g : List Node → β} {b : β}
    (h : (outline text).toOption.map g = some b) :
    ∃ nodes, outline text = .ok nodes ∧ g nodes = b := by
  cases hnodes : outline text with
  | error line =>
      rw [hnodes] at h
      cases h
  | ok nodes =>
      rw [hnodes] at h
      exact ⟨nodes, rfl, Option.some.inj h⟩

/-- The calls of one file that a report on many names. -/
def callEntries (t : SourceTree) (f : SourceFile) : List Entry :=
  t.entries.filter fun e => e.path == f.path && e.finding.isHastyCall

theorem callEntries_perm {t : SourceTree} {f : SourceFile} {nodes : List Node} (hf : f ∈ t.files)
    (hs : f.isSource = true) (he : f.isExempt = false) (h : outline f.text = .ok nodes) :
    (callEntries t f).Perm (((Node.placedCalls nodes).filter fun c => c.IsShipped).map
      fun c => ⟨f.path, c.finding⟩) := by
  have hmap : (f.entries.filter fun e => e.finding.isHastyCall) =
      ((Node.placedCalls nodes).filter fun c => c.IsShipped).map fun c => ⟨f.path, c.finding⟩ := by
    have hfindings := SourceFile.filter_isHastyCall_findings hs he h
    calc (f.entries.filter fun e => e.finding.isHastyCall)
        = (f.findings.filter Finding.isHastyCall).map (Entry.mk f.path) := List.filter_map
      _ = _ := by rw [hfindings, List.map_map]; rfl
  have hpath : callEntries t f =
      (t.entries.filter (·.path == f.path)).filter fun e => e.finding.isHastyCall := by
    rw [callEntries, List.filter_filter]
    simp only [Bool.and_comm]
  rw [← hmap, hpath, SourceTree.filter_path_entries hf, SourceTree.entries_single]
  exact (List.mergeSort_perm _ _).filter _

/-! ## Calls that are written -/

namespace Token

/-- The call that starts with the first token: a dot, a name, and arguments in parentheses. -/
def callHere : List Token → List (String × Nat)
  | mark '.' _ _ :: word method line :: group .paren _ _ _ :: _ => [(method, line)]
  | _ => []

mutual

def callsIn : Token → List (String × Nat)
  | group _ _ _ content => callsInAll content
  | word .. | lifetime .. | mark .. | literal .. => []

/-- The calls among tokens, at any depth of brackets. -/
def callsInAll : List Token → List (String × Nat)
  | [] => []
  | t :: ts => callHere (t :: ts) ++ t.callsIn ++ callsInAll ts

end

end Token

/-- The calls that are written in a node and in no other in it: a method call itself, or those in the
arguments of a macro. -/
def Node.writtenCalls : Node → List (String × Nat)
  | item .. => []
  | call method line _ => [(method, line)]
  | arguments content => Token.callsInAll content

/-- A call of `unwrap` or `expect` is reported if and only if nothing around it is for tests only. -/
def ReportsUngatedCalls (f : SourceFile) (nodes : List Node) : Prop :=
  ∀ method ∈ hastyMethods, ∀ line, ⟨f.path, .hastyCall method, line⟩ ∈ (SourceTree.single f).entries ↔
    ∃ o ∈ Node.occurrencesAll [] nodes, (method, line) ∈ o.node.writtenCalls ∧
      ∀ n ∈ o.around, ¬ n.IsGated

/-- The call in the arguments of a macro is not reported, and that in a block of methods for tests
is. -/
theorem not_reportsUngatedCalls :
    let f : SourceFile := ⟨"lib.rs", "fn f() \x7b print!(x.unwrap()); \x7d\n#[cfg(test)]\n" ++
      "impl S \x7b fn g() \x7b y.expect(z); \x7d \x7d\n"⟩
    f.isSource = true ∧ f.isExempt = false ∧
      (SourceTree.single f).report = ["[Critical] lib.rs:3: Do not use .expect() in production " ++
        "code; return a WlsbError instead."] ∧
      ∃ nodes, outline f.text = .ok nodes ∧
        (∃ o ∈ Node.occurrencesAll [] nodes, ("unwrap", 1) ∈ o.node.writtenCalls ∧
          ∀ n ∈ o.around, ¬ n.IsGated) ∧
        (∀ o ∈ Node.occurrencesAll [] nodes, ("expect", 3) ∈ o.node.writtenCalls →
          ∃ n ∈ o.around, n.IsGated) ∧
        ¬ ReportsUngatedCalls f nodes := by
  intro f
  have hentries : (SourceTree.single f).entries = [⟨"lib.rs", .hastyCall "expect", 3⟩] := by
    have hfound : f.entries = [⟨"lib.rs", .hastyCall "expect", 3⟩] := by decide +kernel
    rw [SourceTree.entries_single, hfound, List.mergeSort_singleton]
  have hreport : (SourceTree.single f).report =
      ["[Critical] lib.rs:3: Do not use .expect() in production " ++
        "code; return a WlsbError instead."] := by
    rw [SourceTree.report, hentries]
    decide +kernel
  have hcalls : (outline f.text).toOption.map (fun nodes =>
      decide ((∃ o ∈ Node.occurrencesAll [] nodes, ("unwrap", 1) ∈ o.node.writtenCalls ∧
          ∀ n ∈ o.around, ¬ n.IsGated) ∧
        ∀ o ∈ Node.occurrencesAll [] nodes, ("expect", 3) ∈ o.node.writtenCalls →
          ∃ n ∈ o.around, n.IsGated)) = some true := by decide +kernel
  obtain ⟨nodes, h, hcalls⟩ := exists_outline_of_map hcalls
  obtain ⟨hunwrap, hexpect⟩ := of_decide_eq_true hcalls
  refine ⟨by decide +kernel, by decide +kernel, hreport, nodes, h, hunwrap, hexpect, ?_⟩
  intro hall
  have hmem := (hall "unwrap" (by decide) 1).mpr hunwrap
  rw [hentries] at hmem
  exact absurd hmem (by decide)

/-- A report names the calls of `unwrap` and `expect` in a file, each once. Those with no item for tests
around them are among these, and none in a module, function or method for tests is. The arguments of
macros make no difference to what is found. -/
theorem reported_calls {t : SourceTree} {f : SourceFile} {nodes : List Node} (hf : f ∈ t.files)
    (hs : f.isSource = true) (he : f.isExempt = false) (h : outline f.text = .ok nodes) :
    (∃ reported : List Node.PlacedCall,
      (callEntries t f).Perm (reported.map fun c => ⟨f.path, c.finding⟩) ∧
      ((Node.placedCalls nodes).filter fun c => c.IsUngated).Sublist reported ∧
      reported.Sublist ((Node.placedCalls nodes).filter fun c => c.IsShipped)) ∧
    ∀ (f' : SourceFile) (nodes' : List Node), outline f'.text = .ok nodes' →
      Node.withoutTokensAll nodes' = Node.withoutTokensAll nodes →
      f'.outlineFindings = f.outlineFindings := by
  refine ⟨⟨_, callEntries_perm hf hs he h, ?_, List.Sublist.refl _⟩, fun f' nodes' h' heq => ?_⟩
  · refine List.monotone_filter_right _ fun c hc => ?_
    exact decide_eq_true (of_decide_eq_true hc : c.IsUngated).isShipped
  · rw [SourceFile.outlineFindings_eq h', SourceFile.outlineFindings_eq h,
      ← Node.findingsAll_withoutTokensAll, heq, Node.findingsAll_withoutTokensAll]

/-- A call after a module for tests is the only one to be reported. -/
theorem reported_calls_after_tests :
    let f : SourceFile := ⟨"b.rs", "#[cfg(test)]\nmod a \x7b fn f() \x7b x.unwrap(); \x7d \x7d\n" ++
      "fn g() \x7b print!(x.unwrap()); y.expect(z); \x7d\n"⟩
    ∃ t : SourceTree, t.files = [⟨"a.rs", ""⟩, f] ∧
      callEntries t f = [⟨"b.rs", .hastyCall "expect", 3⟩] := by
  intro f
  let t : SourceTree := ⟨[⟨"a.rs", ""⟩, f], by decide⟩
  have hf : f ∈ t.files := by simp [t]
  refine ⟨t, rfl, ?_⟩
  have hcalls : (outline f.text).toOption.map (fun nodes =>
      (((Node.placedCalls nodes).filter fun c => c.IsUngated).map Node.PlacedCall.finding,
        ((Node.placedCalls nodes).filter fun c => c.IsShipped).map Node.PlacedCall.finding)) =
      some ([⟨.hastyCall "expect", 3⟩], [⟨.hastyCall "expect", 3⟩]) := by decide +kernel
  obtain ⟨nodes, h, hcalls⟩ := exists_outline_of_map hcalls
  obtain ⟨hungated, hshipped⟩ := Prod.mk.inj hcalls
  obtain ⟨⟨reported, hperm, hleast, hmost⟩, -⟩ :=
    reported_calls hf (by decide +kernel) (by decide +kernel) h
  have hleast := hleast.map Node.PlacedCall.finding
  have hmost := hmost.map Node.PlacedCall.finding
  rw [hungated] at hleast
  rw [hshipped] at hmost
  have hfound : reported.map Node.PlacedCall.finding = [⟨.hastyCall "expect", 3⟩] :=
    hmost.antisymm hleast
  have hentries : (reported.map fun c => (⟨f.path, c.finding⟩ : Entry)) =
      (reported.map Node.PlacedCall.finding).map (Entry.mk f.path) := by
    rw [List.map_map]
    rfl
  rw [hentries, hfound] at hperm
  exact List.perm_singleton.mp hperm

end WindowedLsb.Lint
