import Virtualization.Machine.Builder

namespace Virtualization.Machine.Builder

open List

/-- A node, by the requirements on labels and on fields that it meets. -/
structure Node where
  (expression field : Json → Bool)

/-- `PersistentVolume.spec.nodeAffinity.required`. -/
structure PersistentVolume where
  required : Option (List NodeSelectorTerm)

def crossProductTerms (a b : List NodeSelectorTerm) : List NodeSelectorTerm :=
  a.flatMap fun termA => b.map fun termB =>
    ⟨termA.matchExpressions ++ termB.matchExpressions, termA.matchFields ++ termB.matchFields⟩

def intersectTerms : List (List NodeSelectorTerm) → List NodeSelectorTerm
  | [] => []
  | first :: rest => rest.foldl crossProductTerms first

def nodeAffinityTermsFromBoundPV (pv : PersistentVolume) : List NodeSelectorTerm := pv.required.getD []

/-- `PVNodeAffinityTerms` over the volumes bound to the claims of the machine's block devices, in the order of the
    references. -/
def pvNodeAffinityTerms (volumes : List PersistentVolume) : List NodeSelectorTerm :=
  intersectTerms ((volumes.map nodeAffinityTermsFromBoundPV).filter (· ≠ []))

def applyPVNodeAffinity (pvTerms : List NodeSelectorTerm) (t : Template) : Template :=
  if pvTerms = [] then t
  else
    let affinity := t.affinity.getD {}
    let nodeAffinity := affinity.nodeAffinity.getD {}
    let existing := nodeAffinity.required.getD []
    let required := if existing = [] then pvTerms else crossProductTerms existing pvTerms
    { t with affinity := some { affinity with nodeAffinity := some { nodeAffinity with required := some required } } }

def Template.requiredTerms (t : Template) : Option (List NodeSelectorTerm) :=
  (t.affinity.bind (·.nodeAffinity)).bind (·.required)

def NodeSelectorTerm.HasRequirement (term : NodeSelectorTerm) : Prop :=
  term.matchExpressions ++ term.matchFields ≠ []
deriving Decidable

section Matching

variable (node : Node)

def Node.Meets (term : NodeSelectorTerm) : Prop :=
  (∀ r ∈ term.matchExpressions, node.expression r) ∧ ∀ r ∈ term.matchFields, node.field r
deriving Decidable

/-- The requirements of a term are a conjunction, and a term without requirements matches no node. -/
def Node.MatchesTerm (term : NodeSelectorTerm) : Prop := term.HasRequirement ∧ node.Meets term
deriving Decidable

/-- The terms are a disjunction. -/
def Node.MatchesTerms (terms : List NodeSelectorTerm) : Prop := ∃ term ∈ terms, node.MatchesTerm term
deriving Decidable

/-- An absent affinity matches every node. -/
def Node.Matches (required : Option (List NodeSelectorTerm)) : Prop := ∀ terms ∈ required, node.MatchesTerms terms
deriving Decidable

/-- The node meets a term of each list, where a term without requirements counts as met, and matches one of the
    lists. -/
def Node.Passes (lists : List (List NodeSelectorTerm)) : Prop :=
  (∀ terms ∈ lists, ∃ term ∈ terms, node.Meets term) ∧ ∃ terms ∈ lists, node.MatchesTerms terms
deriving Decidable

end Matching

/-- The affinities with terms, of the machine and of its volumes. -/
def statedTerms (required : Option (List NodeSelectorTerm)) (volumes : List PersistentVolume) :
    List (List NodeSelectorTerm) :=
  (required.getD [] :: volumes.map (·.required.getD [])).filter (· ≠ [])

/-- A node that is not held back by the affinities with terms, if a volume has any, and else by that of the machine,
    is admitted by all of them. -/
def NotWidened (t : Template) (volumes : List PersistentVolume) (node : Node) : Prop :=
  (if ∃ pv ∈ volumes, pv.required.getD [] ≠ [] then node.Passes (statedTerms t.requiredTerms volumes)
    else node.Matches t.requiredTerms) →
  node.Matches t.requiredTerms ∧ ∀ pv ∈ volumes, node.Matches pv.required
deriving Decidable

variable {a b : List NodeSelectorTerm} {lists : List (List NodeSelectorTerm)} {node : Node}

theorem Node.MatchesTerms.meets (admits : node.MatchesTerms a) : ∃ term ∈ a, node.Meets term := by
  obtain ⟨term, member, -, meets⟩ := admits
  exact ⟨term, member, meets⟩

theorem passes_cons : node.Passes (a :: lists) ↔
    (node.MatchesTerms a ∧ ∀ terms ∈ lists, ∃ term ∈ terms, node.Meets term) ∨
      (∃ term ∈ a, node.Meets term) ∧ node.Passes lists := by
  unfold Node.Passes
  rw [forall_mem_cons, exists_mem_cons_iff]
  constructor
  · rintro ⟨⟨here, others⟩, admits | admits⟩
    · exact .inl ⟨admits, others⟩
    · exact .inr ⟨here, others, admits⟩
  · rintro (⟨admits, others⟩ | ⟨here, others, admits⟩)
    · exact ⟨⟨admits.meets, others⟩, .inl admits⟩
    · exact ⟨⟨here, others⟩, .inr admits⟩

theorem mem_crossProductTerms {term : NodeSelectorTerm} : term ∈ crossProductTerms a b ↔ ∃ termA ∈ a, ∃ termB ∈ b,
    ⟨termA.matchExpressions ++ termB.matchExpressions, termA.matchFields ++ termB.matchFields⟩ = term := by
  simp only [crossProductTerms, mem_flatMap, mem_map]

theorem meets_append (termA termB : NodeSelectorTerm) : node.Meets
    ⟨termA.matchExpressions ++ termB.matchExpressions, termA.matchFields ++ termB.matchFields⟩ ↔
      node.Meets termA ∧ node.Meets termB := by
  unfold Node.Meets
  rw [forall_mem_append, forall_mem_append]
  exact and_and_and_comm

theorem meets_crossProductTerms : (∃ term ∈ crossProductTerms a b, node.Meets term) ↔
    (∃ term ∈ a, node.Meets term) ∧ ∃ term ∈ b, node.Meets term := by
  constructor
  · rintro ⟨_, member, meets⟩
    obtain ⟨termA, inA, termB, inB, rfl⟩ := mem_crossProductTerms.mp member
    obtain ⟨meetsA, meetsB⟩ := (meets_append termA termB).mp meets
    exact ⟨⟨termA, inA, meetsA⟩, ⟨termB, inB, meetsB⟩⟩
  · rintro ⟨⟨termA, inA, meetsA⟩, ⟨termB, inB, meetsB⟩⟩
    exact ⟨_, mem_crossProductTerms.mpr ⟨termA, inA, termB, inB, rfl⟩, (meets_append termA termB).mpr ⟨meetsA, meetsB⟩⟩

/-- One of the two terms has to have a requirement. -/
theorem matchesTerms_crossProductTerms : node.MatchesTerms (crossProductTerms a b) ↔
    (node.MatchesTerms a ∧ ∃ term ∈ b, node.Meets term) ∨ (∃ term ∈ a, node.Meets term) ∧ node.MatchesTerms b := by
  have either (termA termB : NodeSelectorTerm) : NodeSelectorTerm.HasRequirement
      ⟨termA.matchExpressions ++ termB.matchExpressions, termA.matchFields ++ termB.matchFields⟩ ↔
        termA.HasRequirement ∨ termB.HasRequirement := by
    simp only [NodeSelectorTerm.HasRequirement, ne_eq, append_eq_nil_iff]
    tauto
  constructor
  · rintro ⟨_, member, has, meets⟩
    obtain ⟨termA, inA, termB, inB, rfl⟩ := mem_crossProductTerms.mp member
    obtain ⟨meetsA, meetsB⟩ := (meets_append termA termB).mp meets
    rcases (either termA termB).mp has with has | has
    · exact .inl ⟨⟨termA, inA, has, meetsA⟩, termB, inB, meetsB⟩
    · exact .inr ⟨⟨termA, inA, meetsA⟩, termB, inB, has, meetsB⟩
  · rintro (⟨⟨termA, inA, has, meetsA⟩, termB, inB, meetsB⟩ | ⟨⟨termA, inA, meetsA⟩, termB, inB, has, meetsB⟩)
    · exact ⟨_, mem_crossProductTerms.mpr ⟨termA, inA, termB, inB, rfl⟩, (either termA termB).mpr (.inl has),
        (meets_append termA termB).mpr ⟨meetsA, meetsB⟩⟩
    · exact ⟨_, mem_crossProductTerms.mpr ⟨termA, inA, termB, inB, rfl⟩, (either termA termB).mpr (.inr has),
        (meets_append termA termB).mpr ⟨meetsA, meetsB⟩⟩

theorem passes_crossProductTerms : node.Passes (crossProductTerms a b :: lists) ↔ node.Passes (a :: b :: lists) := by
  rw [passes_cons, passes_cons, passes_cons, matchesTerms_crossProductTerms, meets_crossProductTerms, forall_mem_cons]
  generalize (∃ term ∈ a, node.Meets term) = meetsA
  generalize (∃ term ∈ b, node.Meets term) = meetsB
  generalize (∀ terms ∈ lists, ∃ term ∈ terms, node.Meets term) = others
  tauto

theorem crossProductTerms_ne_nil (hasA : a ≠ []) (hasB : b ≠ []) : crossProductTerms a b ≠ [] := by
  obtain ⟨termA, inA⟩ := exists_mem_of_ne_nil _ hasA
  obtain ⟨termB, inB⟩ := exists_mem_of_ne_nil _ hasB
  exact ne_nil_of_mem (mem_crossProductTerms.mpr ⟨termA, inA, termB, inB, rfl⟩)

theorem foldl_crossProductTerms (ha : a ≠ []) (stated : ∀ terms ∈ lists, terms ≠ []) :
    lists.foldl crossProductTerms a ≠ [] ∧
      (node.MatchesTerms (lists.foldl crossProductTerms a) ↔ node.Passes (a :: lists)) ∧
      ((∃ term ∈ lists.foldl crossProductTerms a, node.Meets term) ↔
        ∀ terms ∈ a :: lists, ∃ term ∈ terms, node.Meets term) := by
  induction lists generalizing a with
  | nil =>
    refine ⟨ha, ?_, by simp⟩
    rw [passes_cons]
    simp [Node.Passes]
  | cons b lists ih =>
    obtain ⟨hasB, others⟩ := forall_mem_cons.mp stated
    obtain ⟨nonempty, admits, meets⟩ := ih (crossProductTerms_ne_nil ha hasB) others
    refine ⟨nonempty, admits.trans passes_crossProductTerms, meets.trans ?_⟩
    rw [forall_mem_cons, forall_mem_cons, forall_mem_cons, meets_crossProductTerms, and_assoc]

theorem requiredTerms_applyPVNodeAffinity (t : Template) (h : b ≠ []) : (applyPVNodeAffinity b t).requiredTerms =
      some (if t.requiredTerms.getD [] = [] then b else crossProductTerms (t.requiredTerms.getD []) b) := by
  unfold applyPVNodeAffinity Template.requiredTerms
  rw [if_neg h]
  rcases t.affinity with - | ⟨- | ⟨- | _, _⟩, _, _⟩ <;> rfl

theorem intersectTerms_spec (stated : ∀ terms ∈ lists, terms ≠ []) :
    (intersectTerms lists = [] ↔ lists = []) ∧
    (lists ≠ [] → (node.MatchesTerms (intersectTerms lists) ↔ node.Passes lists) ∧
      ((∃ term ∈ intersectTerms lists, node.Meets term) ↔ ∀ terms ∈ lists, ∃ term ∈ terms, node.Meets term)) := by
  cases lists with
  | nil => exact ⟨iff_of_true rfl rfl, fun nonempty => absurd rfl nonempty⟩
  | cons first rest =>
    obtain ⟨here, others⟩ := forall_mem_cons.mp stated
    obtain ⟨nonempty, admits, meets⟩ := @foldl_crossProductTerms first rest node here others
    exact ⟨iff_of_false nonempty (cons_ne_nil _ _), fun _ => ⟨admits, meets⟩⟩

theorem applyPVNodeAffinity_passes (t : Template) (volumes : List PersistentVolume) :
    node.Matches (applyPVNodeAffinity (pvNodeAffinityTerms volumes) t).requiredTerms ↔
      if ∃ pv ∈ volumes, pv.required.getD [] ≠ [] then node.Passes (statedTerms t.requiredTerms volumes)
      else node.Matches t.requiredTerms := by
  have some? : (∃ pv ∈ volumes, pv.required.getD [] ≠ []) ↔
      (volumes.map (·.required.getD [])).filter (· ≠ []) ≠ [] := by
    simp [filter_eq_nil_iff]
  have stated : ∀ terms ∈ (volumes.map (·.required.getD [])).filter (· ≠ []), terms ≠ [] :=
    fun terms member => of_decide_eq_true (mem_filter.mp member).2
  have terms : pvNodeAffinityTerms volumes = intersectTerms ((volumes.map (·.required.getD [])).filter (· ≠ [])) := rfl
  rw [terms, statedTerms, filter_cons]
  generalize (volumes.map (·.required.getD [])).filter (· ≠ []) = lists at some? stated
  obtain ⟨unstated, matched⟩ := @intersectTerms_spec lists node stated
  by_cases empty : lists = []
  · rw [if_neg (some?.not.mpr (not_not.mpr empty)), unstated.mpr empty]
    rfl
  obtain ⟨admits, meets⟩ := matched empty
  rw [if_pos (some?.mpr empty), requiredTerms_applyPVNodeAffinity t (unstated.not.mpr empty)]
  simp only [Node.Matches, Option.mem_some_iff, forall_eq']
  by_cases own : t.requiredTerms.getD [] = []
  · simp only [own, if_true, ne_eq, not_true, decide_false]
    exact admits
  · simp only [own, if_false, ne_eq, not_false_eq_true, decide_true, if_true]
    rw [passes_cons, matchesTerms_crossProductTerms, admits, meets]

theorem Node.Matches.getD {required : Option (List NodeSelectorTerm)} (matched : node.Matches required)
    (stated : required.getD [] ≠ []) : node.MatchesTerms (required.getD []) := by
  cases required with
  | none => exact absurd rfl stated
  | some terms => exact matched terms rfl

theorem admitted_passes {t : Template} {volumes : List PersistentVolume} (own : node.Matches t.requiredTerms)
    (bound : ∀ pv ∈ volumes, node.Matches pv.required) (stated : ∃ pv ∈ volumes, pv.required.getD [] ≠ []) :
    node.Passes (statedTerms t.requiredTerms volumes) := by
  have each : ∀ terms ∈ statedTerms t.requiredTerms volumes, node.MatchesTerms terms := by
    intro terms member
    obtain ⟨member, nonempty⟩ := mem_filter.mp member
    have nonempty := of_decide_eq_true nonempty
    rcases mem_cons.mp member with rfl | member
    · exact own.getD nonempty
    · obtain ⟨pv, isVolume, rfl⟩ := mem_map.mp member
      exact (bound pv isVolume).getD nonempty
  obtain ⟨pv, isVolume, nonempty⟩ := stated
  have listed : pv.required.getD [] ∈ statedTerms t.requiredTerms volumes :=
    mem_filter.mpr ⟨mem_cons_of_mem _ (mem_map.mpr ⟨pv, isVolume, rfl⟩), decide_eq_true nonempty⟩
  exact ⟨fun terms member => (each terms member).meets, _, listed, each _ listed⟩

def inZone (name : String) : NodeSelectorTerm := ⟨["zone In (" ++ name ++ ")"], []⟩

def nodeOf (name : String) : Node := ⟨fun r => r = "zone In (" ++ name ++ ")", fun _ => false⟩

def withTerms (terms : List NodeSelectorTerm) : Template :=
  { affinity := some { nodeAffinity := some { required := some terms } } }

def threeVolumes : List PersistentVolume :=
  [⟨some [inZone "a", inZone "b"]⟩, ⟨none⟩, ⟨some [inZone "b", inZone "c"]⟩]

end Virtualization.Machine.Builder
