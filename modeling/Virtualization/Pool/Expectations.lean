import Mathlib.Data.Finset.Basic
import Mathlib.Data.Finset.Card
import Mathlib.Logic.Function.Basic

namespace Virtualization.Pool

abbrev UID := Nat

structure NamespacedName where
  (ns name : String)
deriving DecidableEq

structure Item where
  creations : Nat
  deletions : Finset UID
  timestamp : Int

structure Expectations where
  items : NamespacedName → Option Item
  ttl : Int

namespace Expectations

def newWithTTL (ttl : Int) : Expectations := { items := fun _ => none, ttl }

def getOrCreate (e : Expectations) (key : NamespacedName) : Item :=
  (e.items key).getD { creations := 0, deletions := ∅, timestamp := 0 }

def put (e : Expectations) (key : NamespacedName) (item : Item) : Expectations :=
  { e with items := Function.update e.items key (some item) }

def expectCreations (e : Expectations) (now : Int) (key : NamespacedName) (n : Int) : Expectations :=
  if n ≤ 0 then e
  else
    let item := e.getOrCreate key
    e.put key { item with creations := item.creations + n.toNat, timestamp := now }

def expectDeletions (e : Expectations) (now : Int) (key : NamespacedName) (uids : List UID) : Expectations :=
  if uids.length = 0 then e
  else
    let item := e.getOrCreate key
    e.put key { item with deletions := item.deletions ∪ uids.toFinset, timestamp := now }

def creationObserved (e : Expectations) (key : NamespacedName) : Expectations :=
  match e.items key with
  | none => e
  | some item => if item.creations > 0 then e.put key { item with creations := item.creations - 1 } else e

def deletionObserved (e : Expectations) (key : NamespacedName) (uid : UID) : Expectations :=
  match e.items key with
  | none => e
  | some item => e.put key { item with deletions := item.deletions.erase uid }

def expired (e : Expectations) (now : Int) (item : Item) : Bool := now - item.timestamp ≥ e.ttl

def satisfied (e : Expectations) (now : Int) (key : NamespacedName) : Bool :=
  match e.items key with
  | none => true
  | some item => if item.creations = 0 ∧ item.deletions.card = 0 then true else e.expired now item

def forget (e : Expectations) (key : NamespacedName) : Expectations :=
  { e with items := Function.update e.items key none }

def creations (e : Expectations) (key : NamespacedName) : Nat := (e.getOrCreate key).creations
def deletions (e : Expectations) (key : NamespacedName) : Finset UID := (e.getOrCreate key).deletions

@[simp] theorem getOrCreate_put (e : Expectations) (key : NamespacedName) (item : Item) :
    (e.put key item).getOrCreate key = item := by simp [getOrCreate, put]

@[simp] theorem creations_put (e : Expectations) (key : NamespacedName) (item : Item) :
    (e.put key item).creations key = item.creations := by simp [creations]

@[simp] theorem deletions_put (e : Expectations) (key : NamespacedName) (item : Item) :
    (e.put key item).deletions key = item.deletions := by simp [deletions]

variable {e : Expectations} {key : NamespacedName}

theorem getOrCreate_some {item : Item} (found : e.items key = some item) :
    e.getOrCreate key = item := by simp [getOrCreate, found]

theorem creations_none (absent : e.items key = none) : e.creations key = 0 := by simp [creations, getOrCreate, absent]

theorem deletions_none (absent : e.items key = none) : e.deletions key = ∅ := by simp [deletions, getOrCreate, absent]

section

variable (e)

@[simp] theorem creations_expectCreations (now : Int) (key : NamespacedName) (n : Int) :
    (e.expectCreations now key n).creations key = e.creations key + n.toNat := by
  unfold expectCreations
  split
  · have none : n.toNat = 0 := by omega
    simp [none]
  rw [creations_put]
  rfl

@[simp] theorem deletions_expectCreations (now : Int) (key : NamespacedName) (n : Int) :
    (e.expectCreations now key n).deletions key = e.deletions key := by
  unfold expectCreations
  split
  · rfl
  rw [deletions_put]
  rfl

@[simp] theorem creations_expectDeletions (now : Int) (key : NamespacedName) (uids : List UID) :
    (e.expectDeletions now key uids).creations key = e.creations key := by
  unfold expectDeletions
  split
  · rfl
  rw [creations_put]
  rfl

@[simp] theorem deletions_expectDeletions (now : Int) (key : NamespacedName) (uids : List UID) :
    (e.expectDeletions now key uids).deletions key = e.deletions key ∪ uids.toFinset := by
  unfold expectDeletions
  split
  · rename_i empty
    rw [List.length_eq_zero_iff.mp empty]
    simp
  rw [deletions_put]
  rfl

variable (key)

@[simp] theorem creations_creationObserved : (e.creationObserved key).creations key = e.creations key - 1 := by
  unfold creationObserved
  split
  · rename_i absent
    simp [creations_none absent]
  rename_i item found
  have now : e.creations key = item.creations := by simp [creations, getOrCreate_some found]
  split
  · simp [now]
  · omega

@[simp] theorem deletions_creationObserved : (e.creationObserved key).deletions key = e.deletions key := by
  unfold creationObserved
  split
  · rfl
  rename_i found
  split
  · simp [deletions, getOrCreate_some found]
  · rfl

@[simp] theorem creations_deletionObserved (uid : UID) :
    (e.deletionObserved key uid).creations key = e.creations key := by
  unfold deletionObserved
  split
  · rfl
  rename_i found
  simp [creations, getOrCreate_some found]

@[simp] theorem deletions_deletionObserved (uid : UID) :
    (e.deletionObserved key uid).deletions key = (e.deletions key).erase uid := by
  unfold deletionObserved
  split
  · rename_i absent
    simp [deletions_none absent]
  rename_i found
  simp [deletions, getOrCreate_some found]

end

section Other

variable {e : Expectations} {key other : NamespacedName} (distinct : other ≠ key)

include distinct

theorem getOrCreate_put_other (item : Item) : (e.put key item).getOrCreate other = e.getOrCreate other := by
  simp [getOrCreate, put, Function.update_of_ne distinct]

theorem getOrCreate_expectCreations_other (now n : Int) :
    (e.expectCreations now key n).getOrCreate other = e.getOrCreate other := by
  unfold expectCreations
  split
  · rfl
  · exact getOrCreate_put_other distinct _

theorem getOrCreate_expectDeletions_other (now : Int) (uids : List UID) :
    (e.expectDeletions now key uids).getOrCreate other = e.getOrCreate other := by
  unfold expectDeletions
  split
  · rfl
  · exact getOrCreate_put_other distinct _

theorem getOrCreate_creationObserved_other : (e.creationObserved key).getOrCreate other = e.getOrCreate other := by
  unfold creationObserved
  split
  · rfl
  split
  · exact getOrCreate_put_other distinct _
  · rfl

theorem getOrCreate_deletionObserved_other (uid : UID) :
    (e.deletionObserved key uid).getOrCreate other = e.getOrCreate other := by
  unfold deletionObserved
  split
  · rfl
  · exact getOrCreate_put_other distinct _

end Other

theorem satisfied_settled {now : Int} (alive : ∀ item, e.items key = some item → e.expired now item = false)
    (answered : e.satisfied now key) : e.creations key = 0 ∧ e.deletions key = ∅ := by
  unfold satisfied at answered
  split at answered
  · rename_i absent
    exact ⟨creations_none absent, deletions_none absent⟩
  rename_i item found
  split at answered
  · rename_i settled
    simp only [creations, deletions, getOrCreate_some found]
    exact ⟨settled.1, Finset.card_eq_zero.mp settled.2⟩
  rw [alive item found] at answered
  cases answered

theorem satisfied_of_settled (now : Int) (creations : e.creations key = 0) (deletions : e.deletions key = ∅) :
    e.satisfied now key := by
  unfold satisfied
  split
  · rfl
  rename_i found
  simp only [Expectations.creations, Expectations.deletions, getOrCreate_some found] at creations deletions
  rw [if_pos ⟨creations, Finset.card_eq_zero.mpr deletions⟩]

end Expectations

end Virtualization.Pool
