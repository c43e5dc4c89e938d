import Mathlib.Data.List.Nodup

namespace Virtualization.Library

open List Nat

/-- What an API server needs of an object: its key, and the version that the server stamps on it with every write. -/
class Object (α : Type) (κ : outParam Type) where
  key : α → κ
  version : α → Nat
  stamp : Nat → α → α
  key_stamp : ∀ n a, key (stamp n a) = key a
  version_stamp : ∀ n a, version (stamp n a) = n

export Object (key version stamp)

attribute [simp] Object.key_stamp Object.version_stamp

/-- The objects of one kind. Keys are unique, and no object is newer than the last write. -/
structure Store (α : Type) {κ : Type} [Object α κ] where
  revision : Nat
  objects : List α
  unique : (objects.map key).Nodup
  bounded : ∀ obj ∈ objects, version obj ≤ revision

inductive WriteError where
  | notFound | alreadyExists | conflict
deriving DecidableEq

inductive Answer where
  | ok | error | conflict | lost
deriving DecidableEq

inductive Reply where
  | done | refused (error : WriteError) | failed
deriving DecidableEq

theorem ok_of_toOption {ε σ : Type} {result : Except ε σ} {value : σ} (some : result.toOption = .some value) :
    result = .ok value := by
  cases result with
  | error => cases some
  | ok =>
    cases some
    rfl

namespace Store

variable {α κ : Type} [Object α κ] [DecidableEq κ]

/-- A request to change a store, with what it leads to if the server carries it out. -/
def request (s : Store α) (answer : Answer) (result : Except WriteError (Store α)) : Reply × Store α :=
  match answer, result with
  | .ok, .ok t => (.done, t)
  | .ok, .error error => (.refused error, s)
  | .conflict, _ => (.refused .conflict, s)
  | .error, _ => (.failed, s)
  | .lost, .ok t => (.failed, t)
  | .lost, .error _ => (.failed, s)

omit [DecidableEq κ] in
theorem request_cases (s : Store α) (answer : Answer) (result : Except WriteError (Store α)) :
    (s.request answer result).2 = s ∧ (s.request answer result).1 ≠ .done ∨
      result = .ok (s.request answer result).2 := by
  unfold request
  split
  · exact .inr rfl
  · exact .inl ⟨rfl, nofun⟩
  · exact .inl ⟨rfl, nofun⟩
  · exact .inl ⟨rfl, nofun⟩
  · exact .inr rfl
  · exact .inl ⟨rfl, nofun⟩

variable {s : Store α}

omit [DecidableEq κ] in
theorem request_refused {answer : Answer} {result : Except WriteError (Store α)} {error : WriteError}
    (refused : (s.request answer result).1 = .refused error) (other : error ≠ .conflict) : result = .error error := by
  unfold request at refused
  split at refused
  · cases refused
  · cases refused
    rfl
  · cases refused
    exact absurd rfl other
  all_goals cases refused

def get? (s : Store α) (k : κ) : Option α := s.objects.find? fun obj => key obj = k

variable {k : κ} {obj : α}

theorem key_of_get? (found : s.get? k = some obj) : key obj = k := by
  simpa using find?_some found

theorem mem_of_get? (found : s.get? k = some obj) : obj ∈ s.objects :=
  mem_of_find?_eq_some found

theorem get?_of_mem (member : obj ∈ s.objects) : s.get? (key obj) = some obj := by
  obtain ⟨other, found⟩ : ∃ other, s.get? (key obj) = some other := by
    rw [← Option.isSome_iff_exists, get?, find?_isSome]
    exact ⟨obj, member, by simp⟩
  have same := inj_on_of_nodup_map s.unique (mem_of_get? found) member (key_of_get? found)
  rw [found, same]

def write (s : Store α) (obj : α) : Store α where
  revision := s.revision + 1
  objects := s.objects.map fun old => if key old = key obj then stamp (s.revision + 1) obj else old
  unique := by
    have keys : (s.objects.map fun old => if key old = key obj then stamp (s.revision + 1) obj else old).map key =
        s.objects.map key := by
      rw [map_map]
      refine map_congr_left fun old _ => ?_
      by_cases same : key old = key obj <;> simp [same]
    rw [keys]
    exact s.unique
  bounded := by
    intro new member
    obtain ⟨old, before, rfl⟩ := mem_map.mp member
    split
    · simp
    · exact le_succ_of_le (s.bounded old before)

/-- An update carries the version its author has read. One that changes nothing is not a write. -/
def update [DecidableEq α] (s : Store α) (obj : α) : Except WriteError (Store α) :=
  match s.get? (key obj) with
  | none => .error .notFound
  | some current =>
    if version current ≠ version obj then .error .conflict
    else if current = obj then .ok s
    else .ok (s.write obj)

def create (s : Store α) (obj : α) : Except WriteError (Store α) :=
  if fresh : key obj ∉ s.objects.map key then
    .ok
      { revision := s.revision + 1
        objects := s.objects ++ [stamp (s.revision + 1) obj]
        unique := by
          rw [map_append, map_singleton, Object.key_stamp]
          exact s.unique.append (nodup_singleton _) (by simpa using fresh)
        bounded := by
          intro new member
          rcases mem_append.mp member with before | added
          · exact le_succ_of_le (s.bounded new before)
          rw [mem_singleton.mp added]
          simp }
  else .error .alreadyExists

def remove (s : Store α) (k : κ) : Store α where
  revision := s.revision + 1
  objects := s.objects.filter fun obj => key obj ≠ k
  unique := s.unique.sublist (filter_sublist.map key)
  bounded := fun obj member => le_succ_of_le (s.bounded obj (mem_filter.mp member).1)

theorem get?_write (s : Store α) (obj : α) (k : κ) : (s.write obj).get? k =
      if k = key obj then (s.get? k).map fun _ => stamp (s.revision + 1) obj else s.get? k := by
  have keys : (fun new : α => decide (key new = k)) ∘
      (fun old => if key old = key obj then stamp (s.revision + 1) obj else old) = fun old => decide (key old = k) := by
    funext old
    by_cases same : key old = key obj <;> simp [same]
  unfold get? write
  rw [find?_map, keys]
  split
  · rename_i same
    refine Option.map_congr fun _ found => ?_
    rw [if_pos (same ▸ key_of_get? found)]
  rename_i other
  have kept : ∀ old, s.get? k = some old →
      (if key old = key obj then stamp (s.revision + 1) obj else old) = old := by
    intro old found
    rw [if_neg (key_of_get? found ▸ other)]
  cases found : s.objects.find? fun old => key old = k with
  | none => rfl
  | some old => simp only [Option.map_some, kept old found]

theorem get?_write_self {old : α} (found : s.get? k = some old) (same : key obj = k) :
    (s.write obj).get? k = some (stamp (s.revision + 1) obj) := by
  rw [get?_write, if_pos same.symm, found, Option.map_some]

theorem get?_write_other (other : k ≠ key obj) : (s.write obj).get? k = s.get? k := by
  rw [get?_write, if_neg other]

theorem found_write {new : α} (found : (s.write obj).get? k = some new) :
    k = key obj ∧ new = stamp (s.revision + 1) obj ∨ k ≠ key obj ∧ s.get? k = some new := by
  rw [get?_write] at found
  split at found
  · obtain ⟨_, -, rfl⟩ := Option.map_eq_some_iff.mp found
    exact .inl ⟨‹_›, rfl⟩
  · exact .inr ⟨‹_›, found⟩

theorem mem_write {new : α} (member : new ∈ (s.write obj).objects) :
    new = stamp (s.revision + 1) obj ∨ new ∈ s.objects := by
  obtain ⟨_, before, rfl⟩ := mem_map.mp member
  split
  · exact .inl rfl
  · exact .inr before

variable {t : Store α}

theorem get?_create (created : s.create obj = .ok t) (k : κ) :
    t.get? k = if k = key obj then some (stamp (s.revision + 1) obj) else s.get? k := by
  unfold create at created
  split at created
  · rename_i fresh
    cases created
    unfold get?
    rw [find?_append]
    split
    · rename_i same
      have absent : s.objects.find? (fun old => key old = k) = none := by
        rw [find?_eq_none]
        intro old member
        simp only [same, decide_eq_true_eq]
        exact fun equal => fresh (mem_map.mpr ⟨old, member, equal⟩)
      rw [absent]
      simp [same]
    rename_i other
    have unmatched : ¬ key obj = k := fun equal => other equal.symm
    simp [unmatched]
  · cases created

theorem get?_remove (s : Store α) (k other : κ) :
    (s.remove k).get? other = if other = k then none else s.get? other := by
  unfold get? remove
  rw [find?_filter]
  split
  · rename_i same
    simp [same]
  rename_i different
  congr 1
  funext obj
  by_cases named : key obj = other <;> simp [named, different]

variable {other : κ}

theorem of_get?_remove (found : (s.remove k).get? other = some obj) : s.get? other = some obj := by
  rw [get?_remove] at found
  split at found
  · cases found
  · exact found

theorem create_fresh (created : s.create obj = .ok t) : s.get? (key obj) = none := by
  unfold create at created
  split at created
  · rename_i fresh
    cases found : s.get? (key obj) with
    | none => rfl
    | some old => exact absurd (mem_map.mpr ⟨old, mem_of_get? found, key_of_get? found⟩) fresh
  · cases created

theorem exists_of_create_error {error : WriteError} (refused : s.create obj = .error error) :
    (s.get? (key obj)).isSome := by
  unfold create at refused
  split at refused
  · cases refused
  rename_i taken
  obtain ⟨_, member, same⟩ := mem_map.mp (not_not.mp taken)
  rw [← same, get?_of_mem member]
  rfl

def All (s : Store α) (p : α → Prop) : Prop := ∀ k obj, s.get? k = some obj → p obj

theorem All.create {p : α → Prop} (all : s.All p) (created : s.create obj = .ok t) (new : ∀ n, p (stamp n obj)) :
    t.All p := by
  intro k other found
  rw [get?_create created] at found
  split at found
  · cases found
    exact new _
  · exact all k other found

/-- A copy read at some time: the object has its version only as long as it is the copy. -/
def Snapshot (s : Store α) (copy : α) : Prop :=
  version copy ≤ s.revision ∧
    ∀ current, s.get? (key copy) = some current → version current = version copy → current = copy

theorem Snapshot.of_get? (found : s.get? k = some obj) : s.Snapshot obj := by
  refine ⟨s.bounded obj (mem_of_get? found), fun _ read _ => ?_⟩
  rw [key_of_get? found, found] at read
  exact (Option.some.inj read).symm

variable {copy : α}

theorem Snapshot.write (snapshot : s.Snapshot copy) (obj : α) : (s.write obj).Snapshot copy := by
  obtain ⟨bound, same⟩ := snapshot
  refine ⟨le_succ_of_le bound, fun current found equal => ?_⟩
  rw [get?_write] at found
  split at found
  · obtain ⟨_, -, rfl⟩ := Option.map_eq_some_iff.mp found
    rw [Object.version_stamp] at equal
    omega
  · exact same current found equal

theorem revision_create (created : s.create obj = .ok t) : t.revision = s.revision + 1 := by
  unfold Store.create at created
  split at created <;> cases created
  rfl

theorem Snapshot.create (snapshot : s.Snapshot copy) (created : s.create obj = .ok t) : t.Snapshot copy := by
  obtain ⟨_, same⟩ := snapshot
  have revision := revision_create created
  refine ⟨by omega, fun current found equal => ?_⟩
  rw [get?_create created] at found
  split at found
  · cases found
    rw [Object.version_stamp] at equal
    omega
  · exact same current found equal

theorem Snapshot.remove (snapshot : s.Snapshot copy) (k : κ) : (s.remove k).Snapshot copy := by
  obtain ⟨bound, same⟩ := snapshot
  refine ⟨le_succ_of_le bound, fun current found equal => ?_⟩
  exact same current (of_get?_remove found) equal

variable {obj : α}

section Update

variable [DecidableEq α] {s : Store α} {t : Store α}

theorem update_ok {copy obj : α} (updated : s.update obj = .ok t) (snapshot : s.Snapshot copy)
    (sameKey : key obj = key copy) (sameVersion : version obj = version copy) :
    s.get? (key copy) = some copy ∧ ((t = s ∧ obj = copy) ∨ t = s.write obj) := by
  unfold update at updated
  rw [sameKey] at updated
  split at updated
  · cases updated
  rename_i current found
  split at updated
  · cases updated
  rename_i read
  have isCopy : current = copy := snapshot.2 current found (by rw [← sameVersion]; exact not_not.mp read)
  subst isCopy
  refine ⟨found, ?_⟩
  split at updated
  · rename_i unchanged
    cases updated
    exact .inl ⟨rfl, unchanged.symm⟩
  cases updated
  exact .inr rfl

theorem update_of_current {current obj : α} (found : s.get? (key obj) = some current)
    (same : version current = version obj) (changed : current ≠ obj) : s.update obj = .ok (s.write obj) := by
  unfold update
  rw [found]
  dsimp only
  rw [if_neg (not_not.mpr same), if_neg changed]

theorem update_cases (updated : s.update obj = .ok t) : t = s ∨ t = s.write obj := by
  unfold update at updated
  split at updated
  · cases updated
  split at updated
  · cases updated
  split at updated <;> cases updated
  · exact .inl rfl
  · exact .inr rfl

theorem Snapshot.update {copy obj : α} (snapshot : s.Snapshot copy) (updated : s.update obj = .ok t) :
    t.Snapshot copy := by
  rcases update_cases updated with rfl | rfl
  · exact snapshot
  · exact snapshot.write obj

end Update

section Amend

variable [DecidableEq α]

/-- The server changes the object under the key, unless the change is refused. An object that is no longer kept is
    gone. -/
def amend (s : Store α) (k : κ) (kept : α → Bool) (change : α → Except WriteError α) : Except WriteError (Store α) :=
  match s.get? k with
  | none => .error .notFound
  | some stored =>
    match change stored with
    | .error error => .error error
    | .ok new => .ok (if new = stored then s else if kept new then s.write new else s.remove k)

inductive Amended (s : Store α) (k : κ) (kept : α → Bool) (change : α → Except WriteError α) : Store α → Prop where
  | same : Amended s k kept change s
  | written (stored new : α) (found : s.get? k = some stored) (changed : change stored = .ok new)
      (keep : kept new) : Amended s k kept change (s.write new)
  | removed (stored new : α) (found : s.get? k = some stored) (changed : change stored = .ok new)
      (drop : kept new = false) : Amended s k kept change (s.remove k)

variable {s t : Store α} {k : κ} {kept : α → Bool} {change : α → Except WriteError α}

theorem amend_ok (amended : s.amend k kept change = .ok t) : Amended s k kept change t := by
  unfold amend at amended
  split at amended
  · cases amended
  rename_i stored found
  split at amended
  · cases amended
  rename_i new changed
  cases amended
  split
  · exact .same
  split
  · rename_i keep
    exact .written stored new found changed keep
  rename_i drop
  exact .removed stored new found changed (Bool.not_eq_true _ ▸ drop)

theorem request_amended (s : Store α) (answer : Answer) (k : κ) (kept : α → Bool)
    (change : α → Except WriteError α) : Amended s k kept change (s.request answer (s.amend k kept change)).2 := by
  rcases s.request_cases answer (s.amend k kept change) with ⟨same, -⟩ | amended
  · rw [same]
    exact .same
  · exact amend_ok amended

theorem amend_done {answer : Answer} (done : (s.request answer (s.amend k kept change)).1 = .done)
    (keyed : ∀ stored new, change stored = .ok new → key new = key stored) :
    ∃ stored new, s.get? k = some stored ∧ change stored = .ok new ∧
      ((s.request answer (s.amend k kept change)).2.get? k = none ∨
        (∃ n, (s.request answer (s.amend k kept change)).2.get? k = some (stamp n new) ∧ kept new) ∨
        new = stored ∧ (s.request answer (s.amend k kept change)).2.get? k = some stored) := by
  have amended : s.amend k kept change = .ok (s.request answer (s.amend k kept change)).2 :=
    (s.request_cases answer _).resolve_left fun failed => failed.2 done
  revert amended
  generalize (s.request answer (s.amend k kept change)).2 = t
  intro amended
  unfold amend at amended
  split at amended
  · cases amended
  rename_i stored found
  split at amended
  · cases amended
  rename_i new changed
  cases amended
  refine ⟨stored, new, found, changed, ?_⟩
  split
  · rename_i same
    exact .inr (.inr ⟨same, found⟩)
  split
  · rename_i keep
    refine .inr (.inl ⟨_, get?_write_self found ?_, keep⟩)
    rw [keyed stored new changed, key_of_get? found]
  rw [get?_remove, if_pos rfl]
  exact .inl rfl

namespace Amended

omit [DecidableEq α]

section

variable (amended : Amended s k kept change t)
include amended

theorem revision_le : s.revision ≤ t.revision := by
  cases amended with
  | same => exact Nat.le_refl _
  | written | removed => exact le_succ _

variable (keyed : ∀ stored new, change stored = .ok new → key new = key stored)
include keyed

theorem reads (found : t.get? other = some obj) :
    s.get? other = some obj ∨ ∃ stored new, s.get? k = some stored ∧ change stored = .ok new ∧ kept new ∧ other = k ∧
      obj = stamp (s.revision + 1) new := by
  cases amended with
  | same => exact .inl found
  | written stored new before changed keep =>
    rcases found_write found with ⟨same, rfl⟩ | ⟨-, found⟩
    · rw [keyed stored new changed, key_of_get? before] at same
      exact .inr ⟨stored, new, before, changed, keep, same, rfl⟩
    · exact .inl found
  | removed => exact .inl (of_get?_remove found)

theorem stays (found : s.get? other = some obj) : t.get? other = some obj ∨ other = k ∧ ∃ new, change obj = .ok new ∧
      (kept new → t.get? other = some (stamp (s.revision + 1) new)) := by
  by_cases same : other = k
  · subst same
    cases amended with
    | same => exact .inl found
    | written _ new before changed =>
      obtain rfl := Option.some.inj (found.symm.trans before)
      refine .inr ⟨rfl, new, changed, fun _ => get?_write_self found ?_⟩
      rw [keyed obj new changed, key_of_get? found]
    | removed _ new before changed drop =>
      obtain rfl := Option.some.inj (found.symm.trans before)
      refine .inr ⟨rfl, new, changed, fun keep => ?_⟩
      cases keep.symm.trans drop
  refine .inl (Eq.trans ?_ found)
  cases amended with
  | same => rfl
  | written stored new before changed =>
    refine get?_write_other fun isNew => same ?_
    rw [isNew, keyed stored new changed, key_of_get? before]
  | removed => rw [get?_remove, if_neg same]

theorem all {p : α → Prop} (all : s.All p)
    (changed : ∀ stored new n, s.get? k = some stored → change stored = .ok new → kept new → p (stamp n new)) :
    t.All p := by
  intro other obj found
  rcases amended.reads keyed found with before | ⟨stored, new, before, done, keep, -, rfl⟩
  · exact all other obj before
  · exact changed stored new _ before done keep

omit keyed in
theorem snapshot (snapshot : s.Snapshot copy) : t.Snapshot copy := by
  cases amended with
  | same => exact snapshot
  | written => exact snapshot.write _
  | removed => exact snapshot.remove _

end

end Amended

end Amend

theorem countP_write_le {p : α → Bool}
    (kept : ∀ current, s.get? (key obj) = some current → p (stamp (s.revision + 1) obj) → p current) :
    (s.write obj).objects.countP p ≤ s.objects.countP p := by
  unfold write
  rw [countP_map]
  refine countP_mono_left fun old member holds => ?_
  simp only [Function.comp_apply] at holds
  split at holds
  · rename_i same
    exact kept old (same ▸ get?_of_mem member) holds
  · exact holds

theorem countP_map_replace_le {objects : List α} (unique : (objects.map key).Nodup) (p : α → Bool) (k : κ) (new : α) :
    (objects.map fun old => if key old = k then new else old).countP p ≤ objects.countP p + 1 := by
  induction objects with
  | nil => simp
  | cons old rest ih =>
    rw [map_cons, nodup_cons] at unique
    obtain ⟨absent, unique⟩ := unique
    rw [map_cons, countP_cons, countP_cons]
    by_cases same : key old = k
    · -- No other object has the key.
      have kept : (rest.map fun old => if key old = k then new else old) = rest := by
        rw [map_congr_left (g := id), map_id]
        intro other member
        rw [if_neg fun equal => absent (mem_map.mpr ⟨other, member, equal.trans same.symm⟩), id_eq]
      rw [kept]
      have one : ∀ b : Bool, (if b = true then 1 else 0) ≤ 1 := by decide
      have := one (p (if key old = k then new else old))
      omega
    rw [if_neg same]
    have := ih unique
    omega

omit [DecidableEq κ] in
theorem countP_le_one {p : α → Bool} (fixed : ∀ obj ∈ s.objects, p obj → key obj = k) : s.objects.countP p ≤ 1 := by
  have keys : ((s.objects.filter p).map key).Nodup := s.unique.sublist (filter_sublist.map key)
  have constant : (s.objects.filter p).map key = List.replicate (s.objects.filter p).length k := by
    rw [eq_replicate_iff, length_map]
    refine ⟨rfl, fun _ member => ?_⟩
    obtain ⟨obj, selected, rfl⟩ := mem_map.mp member
    exact fixed obj (mem_filter.mp selected).1 (mem_filter.mp selected).2
  rw [constant] at keys
  rw [countP_eq_length_filter]
  exact nodup_replicate.mp keys

end Store

end Virtualization.Library
