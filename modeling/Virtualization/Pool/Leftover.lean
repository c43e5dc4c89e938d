import Mathlib.Data.List.Count
import Virtualization.Pool.Expectations

namespace Virtualization.Pool

open Expectations List

inductive Operation where
  | expectCreations (key : NamespacedName) (n : Int)
  | expectDeletions (key : NamespacedName) (uids : List UID)
  | creationObserved (key : NamespacedName)
  | deletionObserved (key : NamespacedName) (uid : UID)
  | advance (elapsed : Nat)
deriving DecidableEq

structure Tracker where
  exp : Expectations
  now : Int

namespace Tracker

def apply (t : Tracker) : Operation → Tracker
  | .expectCreations key n => { t with exp := t.exp.expectCreations t.now key n }
  | .expectDeletions key uids => { t with exp := t.exp.expectDeletions t.now key uids }
  | .creationObserved key => { t with exp := t.exp.creationObserved key }
  | .deletionObserved key uid => { t with exp := t.exp.deletionObserved key uid }
  | .advance elapsed => { t with now := t.now + elapsed }

def applyAll (t : Tracker) (operations : List Operation) : Tracker := operations.foldl apply t

def start (ttl now : Int) : Tracker := { exp := .newWithTTL ttl, now }

def satisfied (t : Tracker) (key : NamespacedName) : Bool := t.exp.satisfied t.now key

def act (t : Tracker) (key : NamespacedName) (n : Nat) (uids : List UID) : Tracker :=
  t.applyAll [.expectCreations key n, .expectDeletions key uids]

end Tracker

def Operation.expects (key : NamespacedName) : Operation → Bool
  | .expectCreations other _ => other = key
  | .expectDeletions other _ => other = key
  | _ => false

/-- The informer answers one action for the key: each creation once, every deletion, and nothing new is
    expected meanwhile. Calls for other keys and the clock are free. -/
structure Answers (key : NamespacedName) (n : Nat) (uids : List UID) (operations : List Operation) : Prop where
  quiet : ∀ operation ∈ operations, operation.expects key = false
  creations : operations.count (.creationObserved key) = n
  deletions : ∀ uid, .deletionObserved key uid ∈ operations ↔ uid ∈ uids

namespace Tracker

variable {t : Tracker} {key : NamespacedName} {operation : Operation}

section

variable (quiet : operation.expects key = false)
include quiet

theorem apply_cases : operation = .creationObserved key ∨ (∃ uid, operation = .deletionObserved key uid) ∨
      (t.apply operation).exp.getOrCreate key = t.exp.getOrCreate key ∧ operation ≠ .creationObserved key ∧
        ∀ uid, operation ≠ .deletionObserved key uid := by
  cases operation with
  | expectCreations other n =>
    have distinct : key ≠ other := fun same => of_decide_eq_false quiet same.symm
    exact .inr (.inr ⟨getOrCreate_expectCreations_other distinct _ n, by simp, by simp⟩)
  | expectDeletions other uids =>
    have distinct : key ≠ other := fun same => of_decide_eq_false quiet same.symm
    exact .inr (.inr ⟨getOrCreate_expectDeletions_other distinct _ uids, by simp, by simp⟩)
  | creationObserved other =>
    by_cases same : key = other
    · exact .inl (by rw [same])
    · exact .inr (.inr ⟨getOrCreate_creationObserved_other same, by simp [Ne.symm same], by simp⟩)
  | deletionObserved other uid =>
    by_cases same : key = other
    · exact .inr (.inl ⟨uid, by rw [same]⟩)
    · exact .inr (.inr ⟨getOrCreate_deletionObserved_other same uid, by simp, by simp [Ne.symm same]⟩)
  | advance => exact .inr (.inr ⟨rfl, by simp, by simp⟩)

theorem creations_apply : (t.apply operation).exp.creations key =
      t.exp.creations key - [operation].count (.creationObserved key) := by
  rcases apply_cases (t := t) quiet with rfl | ⟨uid, rfl⟩ | ⟨kept, other, -⟩
  · simp [apply]
  · simp [apply]
  · simp [creations, kept, other]

theorem mem_deletions_apply (uid : UID) : uid ∈ (t.apply operation).exp.deletions key ↔
      uid ∈ t.exp.deletions key ∧ operation ≠ .deletionObserved key uid := by
  rcases apply_cases (t := t) quiet with rfl | ⟨observed, rfl⟩ | ⟨kept, -, other⟩
  · simp [apply]
  · simp only [apply, deletions_deletionObserved, Finset.mem_erase, ne_eq,
      Operation.deletionObserved.injEq, true_and]
    tauto
  · simp [deletions, kept, other]

end

theorem creations_applyAll {operations : List Operation}
    (quiet : ∀ operation ∈ operations, operation.expects key = false) : (t.applyAll operations).exp.creations key =
      t.exp.creations key - operations.count (.creationObserved key) := by
  induction operations generalizing t with
  | nil => rfl
  | cons operation operations ih =>
    have rest := ih (t := t.apply operation) fun later member => quiet later (mem_cons_of_mem _ member)
    have first := creations_apply (t := t) (quiet operation mem_cons_self)
    have counted : ([operation] ++ operations).count (.creationObserved key) =
        [operation].count (.creationObserved key) + operations.count (.creationObserved key) := count_append
    simp only [singleton_append] at counted
    simp only [applyAll, foldl_cons] at rest ⊢
    omega

theorem mem_deletions_applyAll {operations : List Operation}
    (quiet : ∀ operation ∈ operations, operation.expects key = false) (uid : UID) :
    uid ∈ (t.applyAll operations).exp.deletions key ↔
      uid ∈ t.exp.deletions key ∧ .deletionObserved key uid ∉ operations := by
  induction operations generalizing t with
  | nil => simp [applyAll]
  | cons operation _ ih =>
    have rest := ih (t := t.apply operation) fun later member => quiet later (mem_cons_of_mem _ member)
    rw [mem_deletions_apply (quiet operation mem_cons_self)] at rest
    simp only [applyAll, foldl_cons] at rest ⊢
    rw [rest, mem_cons, not_or, and_assoc]
    exact and_congr_right' (and_congr_left' ne_comm)

variable {n : Nat} {uids : List UID} {answers : List Operation}

theorem leftover (answered : Answers key n uids answers) :
    ((t.act key n uids).applyAll answers).exp.creations key = t.exp.creations key ∧
      ((t.act key n uids).applyAll answers).exp.deletions key = t.exp.deletions key \ uids.toFinset := by
  constructor
  · rw [creations_applyAll answered.quiet, answered.creations]
    simp [act, applyAll, apply]
  ext uid
  rw [mem_deletions_applyAll answered.quiet, answered.deletions]
  simp [act, applyAll, apply]
  tauto

/-- An action answered in full satisfies the key at once, however the history before it came to be satisfied,
    when that history left no creation and no deletion outside the action behind. -/
theorem action_answered_satisfied {ttl now : Int} {history : List Operation}
    (created : ((start ttl now).applyAll history).exp.creations key = 0)
    (deleted : ((start ttl now).applyAll history).exp.deletions key ⊆ uids.toFinset)
    (answered : Answers key n uids answers) :
    ((((start ttl now).applyAll history).act key n uids).applyAll answers).satisfied key = true := by
  obtain ⟨creations, deletions⟩ := leftover (t := (start ttl now).applyAll history) answered
  refine satisfied_of_settled _ (creations.trans created) ?_
  rw [deletions]
  exact Finset.sdiff_eq_empty_iff_subset.mpr deleted

def poolKey : NamespacedName := { ns := "default", name := "web" }

theorem action_answered_satisfied_after_expiry :
    let left := (start 300 0).applyAll
      [.expectDeletions poolKey [7, 8], .deletionObserved poolKey 7, .advance 300]
    left.satisfied poolKey = true ∧
      ((left.act poolKey 1 [8]).applyAll
        [.deletionObserved poolKey 8, .creationObserved poolKey]).satisfied poolKey = true := by
  refine ⟨by decide, action_answered_satisfied (by decide) (by decide) ⟨by decide, by decide, fun _ => ?_⟩⟩
  simp

/-- The item of a key is stamped when something is expected for the key, and only then. -/
structure Stamps (key : NamespacedName) (expects : Prop) (t next : Tracker) : Prop where
  now : t.now ≤ next.now
  ttl : next.exp.ttl = t.exp.ttl
  stamp : ∀ item, next.exp.items key = some item →
    (∃ old, t.exp.items key = some old ∧ old.timestamp = item.timestamp) ∨ expects ∧ item.timestamp ≤ next.now

theorem apply_stamps (t : Tracker) (operation : Operation) (key : NamespacedName) :
    Stamps key (operation.expects key) t (t.apply operation) := by
  cases operation <;> simp only [apply, expectCreations, expectDeletions, Expectations.creationObserved,
    Expectations.deletionObserved, put, Operation.expects] <;> (repeat' split) <;> constructor <;>
    grind [Function.update_apply]

theorem applyAll_stamps (t : Tracker) (operations : List Operation) (key : NamespacedName) :
    Stamps key (∃ operation ∈ operations, operation.expects key) t (t.applyAll operations) := by
  induction operations generalizing t with
  | nil => exact ⟨le_refl _, rfl, fun item found => .inl ⟨item, found, rfl⟩⟩
  | cons operation operations ih =>
    obtain ⟨first, ttl, stamp⟩ := apply_stamps t operation key
    obtain ⟨rest, ttl', stamps⟩ := ih (t.apply operation)
    refine ⟨first.trans rest, ttl'.trans ttl, fun item found => ?_⟩
    rcases stamps item found with ⟨middle, there, same⟩ | ⟨⟨later, member, expects⟩, early⟩
    · rcases stamp middle there with ⟨old, before, same'⟩ | ⟨expects, early⟩
      · exact .inl ⟨old, before, same'.trans same⟩
      · exact .inr ⟨⟨operation, mem_cons_self, expects⟩, same ▸ early.trans rest⟩
    · exact .inr ⟨⟨later, mem_cons_of_mem _ member, expects⟩, early⟩

/-- The creation of one member is never seen. The TTL unblocks the pool, and the next action stays blocked after
    its own answer. -/
theorem expired_creation_awaited_again :
    let left := (start 300 0).applyAll [.expectCreations poolKey 1, .advance 300]
    left.satisfied poolKey = true ∧
      ((left.act poolKey 1 []).applyAll [.creationObserved poolKey]).satisfied poolKey = false := by
  decide

end Tracker

end Virtualization.Pool
