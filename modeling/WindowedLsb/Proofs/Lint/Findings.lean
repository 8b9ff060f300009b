import Mathlib.Data.List.Nodup
import WindowedLsb.Lint.Report
import WindowedLsb.Proofs.Lint.Attribute

/-!
The findings of a file are those of its nodes, each reported where it stands, except for what is in
modules, functions and methods for tests.
-/

namespace WindowedLsb.Lint

namespace Node

/-! ## Nodes for tests -/

/-- A module, function or method for tests only. No other item is one, whatever its attributes. -/
inductive IsTestOnly : Node → Prop where
  | module {head children} : head.kind = .module → head.isGated = true →
      IsTestOnly (.item head children)
  | function {head children params} : head.kind = .function params → head.isGated = true →
      IsTestOnly (.item head children)
  | method {head children params} : head.kind = .method params → head.isGated = true →
      IsTestOnly (.item head children)

theorem isSkipped_item_iff (head : Head) (children : List Node) :
    head.isSkipped = true ↔ IsTestOnly (.item head children) := by
  constructor
  · intro h
    rw [Head.isSkipped] at h
    split at h
    · exact .module ‹_› h
    · exact .function ‹_› h
    · exact .method ‹_› h
    all_goals exact absurd h Bool.false_ne_true
  · intro h
    cases h <;> simp_all [Head.isSkipped]

theorem isSkipped_iff (n : Node) : n.isSkipped = true ↔ n.IsTestOnly := by
  cases n with
  | item head children => exact isSkipped_item_iff head children
  | call _ _ _ => exact ⟨fun h => absurd h Bool.false_ne_true, nofun⟩
  | arguments _ => exact ⟨fun h => absurd h Bool.false_ne_true, nofun⟩

instance : DecidablePred IsTestOnly := fun n => decidable_of_iff _ n.isSkipped_iff

/-! ## What is wrong with a node -/

/-- The node gives rise to the finding, whatever stands in it. -/
inductive Offends : Node → Finding → Prop where
  | undocumented {head children} : head.kind ≠ .module → head.kind ≠ .other →
      head.isPublic = true → head.isDocumented = false →
      Offends (.item head children) ⟨.undocumented head.kind head.name, head.line⟩
  | abbreviated {head children params p preferred} :
      head.kind = .function params ∨ head.kind = .method params → head.isPublic = true →
      p ∈ params → (p.name, preferred) ∈ abbreviations →
      Offends (.item head children) ⟨.abbreviated p.name head.name preferred, p.line⟩
  | wideStruct {head children fields} : head.kind = .structType fields → 12 < fields →
      Offends (.item head children) ⟨.wideStruct head.name fields, head.line⟩
  | hastyCall {method line children} : method = "unwrap" ∨ method = "expect" →
      Offends (.call method line children) ⟨.hastyCall method, line⟩

end Node

namespace Head

variable {h : Head} {f : Finding}

theorem mem_documentation_iff : f ∈ h.documentation ↔
    h.isPublic = true ∧ h.isDocumented = false ∧ f = ⟨.undocumented h.kind h.name, h.line⟩ := by
  simp [documentation, and_assoc]

/-- No abbreviation is listed twice, so that the first entry found is the only one. -/
theorem preferredName_eq_some_iff {name preferred : String} :
    preferredName name = some preferred ↔ (name, preferred) ∈ abbreviations := by
  have hd : ∀ a ∈ abbreviations, ∀ b ∈ abbreviations, a.1 = b.1 → a = b := by decide
  rw [preferredName, Option.map_eq_some_iff]
  constructor
  · rintro ⟨⟨short, _⟩, hf, rfl⟩
    obtain rfl : short = name := by simpa using List.find?_some hf
    exact List.mem_of_find?_eq_some hf
  · intro hm
    have hsome : (abbreviations.find? fun entry => entry.1 == name).isSome = true :=
      List.find?_isSome.mpr ⟨_, hm, beq_self_eq_true name⟩
    obtain ⟨b, hb⟩ := Option.isSome_iff_exists.mp hsome
    have hname : b.1 = name := by simpa using List.find?_some hb
    exact ⟨b, hb, by rw [hd b (List.mem_of_find?_eq_some hb) _ hm hname]⟩

theorem mem_parameterNames_iff {params : List Param} : f ∈ h.parameterNames params ↔
    h.isPublic = true ∧ ∃ p ∈ params, ∃ preferred, (p.name, preferred) ∈ abbreviations ∧
      f = ⟨.abbreviated p.name h.name preferred, p.line⟩ := by
  rw [parameterNames]
  split
  · rename_i hp
    simp only [List.mem_filterMap, Option.map_eq_some_iff, preferredName_eq_some_iff, hp, true_and,
      @eq_comm _ _ f]
  · rename_i hp
    simp [hp]

theorem mem_fieldCount_iff {fields : Nat} : f ∈ h.fieldCount fields ↔
    12 < fields ∧ f = ⟨.wideStruct h.name fields, h.line⟩ := by
  simp [fieldCount, maxFields]

theorem documentation_subset_findings (hm : h.kind ≠ .module) (ho : h.kind ≠ .other) :
    h.documentation ⊆ h.findings := by
  rw [findings]
  split
  · exact List.subset_append_left _ _
  · exact List.subset_append_left _ _
  · exact List.subset_append_right _ _
  · exact List.Subset.refl _
  · exact List.Subset.refl _
  · exact absurd ‹h.kind = .module› hm
  · exact absurd ‹h.kind = .other› ho

/-- The parameters of a function or method. -/
def params (h : Head) : List Param :=
  match h.kind with
  | .function params | .method params => params
  | .module | .structType _ | .enumType | .traitType | .other => []

end Head

namespace Node

/-- The parameters of a node that is a function or method. -/
def params : Node → List Param
  | item head _ => head.params
  | call .. | arguments _ => []

theorem offends_of_mem_findings {head : Head} {children : List Node} {f : Finding}
    (h : f ∈ head.findings) : Offends (.item head children) f := by
  have hsignature : ∀ params, head.kind = .function params ∨ head.kind = .method params →
      f ∈ head.documentation ++ head.parameterNames params → Offends (.item head children) f := by
    intro params hk h
    rcases List.mem_append.mp h with h | h
    · obtain ⟨hp, hd, rfl⟩ := Head.mem_documentation_iff.mp h
      rcases hk with hk | hk <;> exact .undocumented (by simp [hk]) (by simp [hk]) hp hd
    · obtain ⟨hp, p, hm, preferred, ha, rfl⟩ := Head.mem_parameterNames_iff.mp h
      exact .abbreviated hk hp hm ha
  cases hk : head.kind with
  | function params => exact hsignature params (.inl hk) (by rwa [Head.findings, hk] at h)
  | method params => exact hsignature params (.inr hk) (by rwa [Head.findings, hk] at h)
  | structType fields =>
      rw [Head.findings, hk, List.mem_append] at h
      rcases h with h | h
      · obtain ⟨hf, rfl⟩ := Head.mem_fieldCount_iff.mp h
        exact .wideStruct hk hf
      · obtain ⟨hp, hd, rfl⟩ := Head.mem_documentation_iff.mp h
        exact .undocumented (by simp [hk]) (by simp [hk]) hp hd
  | enumType | traitType =>
      rw [Head.findings, hk] at h
      obtain ⟨hp, hd, rfl⟩ := Head.mem_documentation_iff.mp h
      exact .undocumented (by simp [hk]) (by simp [hk]) hp hd
  | module | other =>
      rw [Head.findings, hk] at h
      exact absurd h List.not_mem_nil

theorem mem_ownFindings_iff {n : Node} {f : Finding} : f ∈ n.ownFindings ↔ n.Offends f := by
  constructor
  · intro h
    cases n with
    | item head children => exact offends_of_mem_findings h
    | call method line children =>
        rw [ownFindings] at h
        split at h
        · rename_i hm
          obtain rfl := List.mem_singleton.mp h
          exact .hastyCall (by simpa [hastyMethods] using hm)
        · exact absurd h List.not_mem_nil
    | arguments content => exact absurd h List.not_mem_nil
  · intro h
    cases h with
    | @undocumented head children hmodule hother hp hd =>
        exact Head.documentation_subset_findings hmodule hother
          (Head.mem_documentation_iff.mpr ⟨hp, hd, rfl⟩)
    | @abbreviated head children params p preferred hk hp hm ha =>
        have hname := Head.mem_parameterNames_iff.mpr ⟨hp, p, hm, preferred, ha, rfl⟩
        rcases hk with hk | hk <;> rw [ownFindings, Head.findings, hk] <;>
          exact List.mem_append_right _ hname
    | @wideStruct head children fields hk hf =>
        rw [ownFindings, Head.findings, hk]
        exact List.mem_append_left _ (Head.mem_fieldCount_iff.mpr ⟨hf, rfl⟩)
    | hastyCall hm =>
        rw [ownFindings, if_pos (by simpa [hastyMethods] using hm)]
        exact List.mem_singleton_self _

/-- A node, and the nodes around it from the outermost on. -/
structure Occurrence where
  around : List Node
  node : Node

mutual

/-- The node and all that stands in it, every node in front of its children. -/
def occurrences (around : List Node) : Node → List Occurrence
  | item head children =>
      ⟨around, item head children⟩ :: occurrencesAll (around ++ [item head children]) children
  | call method line children =>
      ⟨around, call method line children⟩ ::
        occurrencesAll (around ++ [call method line children]) children
  | arguments content => [⟨around, arguments content⟩]

def occurrencesAll (around : List Node) : List Node → List Occurrence
  | [] => []
  | n :: ns => occurrences around n ++ occurrencesAll around ns

end

/-- Neither the node nor one around it is for tests only. -/
def Occurrence.IsShipped (o : Occurrence) : Prop :=
  (∀ n ∈ o.around, ¬ n.IsTestOnly) ∧ ¬ o.node.IsTestOnly

instance : DecidablePred Occurrence.IsShipped := fun _ => inferInstanceAs (Decidable (_ ∧ _))

mutual

theorem around_subset {o : Occurrence} {around : List Node} :
    (n : Node) → o ∈ occurrences around n → around ⊆ o.around
  | item head children, h => by
      rw [occurrences, List.mem_cons] at h
      rcases h with rfl | h
      · exact List.Subset.refl _
      · exact List.Subset.trans (List.subset_append_left _ _) (around_subset_all children h)
  | call method line children, h => by
      rw [occurrences, List.mem_cons] at h
      rcases h with rfl | h
      · exact List.Subset.refl _
      · exact List.Subset.trans (List.subset_append_left _ _) (around_subset_all children h)
  | arguments content, h => by
      rw [occurrences, List.mem_singleton] at h
      rw [h]
      exact List.Subset.refl _

theorem around_subset_all {o : Occurrence} {around : List Node} :
    (ns : List Node) → o ∈ occurrencesAll around ns → around ⊆ o.around
  | [], h => absurd h List.not_mem_nil
  | n :: ns, h => by
      rw [occurrencesAll, List.mem_append] at h
      rcases h with h | h
      · exact around_subset n h
      · exact around_subset_all ns h

end

theorem filter_shipped_eq_nil {around ns : List Node} {m : Node} (hm : m ∈ around)
    (ht : m.IsTestOnly) :
    (occurrencesAll around ns).filter (fun o => decide o.IsShipped) = [] := by
  rw [List.filter_eq_nil_iff]
  intro o ho
  rw [decide_eq_true_eq]
  exact fun hs => hs.1 m (around_subset_all ns ho hm) ht

/-- The findings of those nodes among the occurrences that are shipped. -/
def shippedFindings (os : List Occurrence) : List Finding :=
  (os.filter fun o => o.IsShipped).flatMap fun o => o.node.ownFindings

theorem shippedFindings_append (os os' : List Occurrence) :
    shippedFindings (os ++ os') = shippedFindings os ++ shippedFindings os' := by
  rw [shippedFindings, List.filter_append, List.flatMap_append]
  rfl

theorem shippedFindings_cons {o : Occurrence} (ho : o.IsShipped) (os : List Occurrence) :
    shippedFindings (o :: os) = o.node.ownFindings ++ shippedFindings os := by
  rw [shippedFindings, List.filter_cons_of_pos (by simpa using ho), List.flatMap_cons]
  rfl

/-- A node for tests hides all that stands in it. -/
theorem shippedFindings_testOnly {around children : List Node} {n : Node} (ht : n.IsTestOnly) :
    shippedFindings (⟨around, n⟩ :: occurrencesAll (around ++ [n]) children) = [] := by
  have hn : ¬ Occurrence.IsShipped ⟨around, n⟩ := fun hs => hs.2 ht
  rw [shippedFindings, List.filter_cons_of_neg (by simpa using hn),
    filter_shipped_eq_nil (by simp) ht, List.flatMap_nil]

theorem forall_around_concat {around : List Node} {n : Node} (ha : ∀ m ∈ around, ¬ m.IsTestOnly)
    (hn : ¬ n.IsTestOnly) : ∀ m ∈ around ++ [n], ¬ m.IsTestOnly := by
  simpa [or_imp, forall_and] using ⟨ha, hn⟩

-- What is around a node decides nothing as long as it is shipped itself: below a node for tests both
-- sides are empty, below any other the induction goes on with that node around.
mutual

theorem findings_eq_shippedFindings {around : List Node} (ha : ∀ m ∈ around, ¬ m.IsTestOnly) :
    (n : Node) → n.findings = shippedFindings (occurrences around n)
  | item head children => by
      rw [findings, occurrences]
      by_cases ht : IsTestOnly (.item head children)
      · rw [if_pos ((isSkipped_item_iff head children).mpr ht), shippedFindings_testOnly ht]
      · rw [if_neg fun hs => ht ((isSkipped_item_iff head children).mp hs),
          shippedFindings_cons ⟨ha, ht⟩,
          findingsAll_eq_shippedFindings (forall_around_concat ha ht) children]
        rfl
  | call method line children => by
      have ht : ¬ IsTestOnly (call method line children) := nofun
      rw [findings, occurrences, shippedFindings_cons ⟨ha, ht⟩,
        findingsAll_eq_shippedFindings (forall_around_concat ha ht) children]
      rfl
  | arguments content => by
      have ht : ¬ IsTestOnly (arguments content) := nofun
      rw [findings, occurrences, shippedFindings_cons ⟨ha, ht⟩]
      rfl

theorem findingsAll_eq_shippedFindings {around : List Node} (ha : ∀ m ∈ around, ¬ m.IsTestOnly) :
    (ns : List Node) → findingsAll ns = shippedFindings (occurrencesAll around ns)
  | [] => rfl
  | n :: ns => by
      rw [findingsAll, occurrencesAll, shippedFindings_append, findings_eq_shippedFindings ha n,
        findingsAll_eq_shippedFindings ha ns]

end

/-! ## Differences in tests -/

end Node

end WindowedLsb.Lint
