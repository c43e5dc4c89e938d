import Mathlib.Data.Finmap

namespace Virtualization.Library

open Finmap Multiset

variable {κ ν : Type}

section Filter

variable [DecidableEq κ]

def filterKeys (wanted : κ → Bool) (map : Finmap fun _ : κ => ν) : Finmap fun _ : κ => ν where
  entries := map.entries.filter fun entry => wanted entry.1
  nodupKeys := Multiset.nodup_keys.mp <|
    Multiset.nodup_of_le (Multiset.map_le_map (Multiset.filter_le _ _)) (Multiset.nodup_keys.mpr map.nodupKeys)

section

variable (map : Finmap fun _ : κ => ν)
include map

theorem lookup_filterKeys (wanted : κ → Bool) (key : κ) :
    (filterKeys wanted map).lookup key = if wanted key then map.lookup key else none := by
  refine Option.ext fun _ => ?_
  split
  · rename_i isWanted
    exact mem_lookup_iff.trans <| mem_filter.trans <|
      (and_iff_left isWanted).trans mem_lookup_iff.symm
  rename_i unwanted
  refine iff_of_false (fun found => ?_) nofun
  exact unwanted (mem_filter.mp (mem_lookup_iff.mp found)).2

theorem lookup_insert_ite (given key : κ) (value : ν) :
    (map.insert given value).lookup key = if key = given then some value else map.lookup key := by
  split
  · rename_i same
    rw [same, lookup_insert]
  rename_i other
  exact lookup_insert_of_ne _ other

theorem lookup_erase_ite (taken key : κ) :
    (map.erase taken).lookup key = if key = taken then none else map.lookup key := by
  split
  · rename_i same
    rw [same, lookup_erase]
  rename_i other
  exact lookup_erase_ne other

end

end Filter

section Merge

variable [DecidableEq κ] [DecidableEq ν]

/-- Merges the current version of a map into a target, and takes out of it what the previous version had and the current
    one has not. Tells also if anything has changed. -/
def mergeChanges (target previous current : Finmap fun _ : κ => ν) : (Finmap fun _ : κ => ν) × Bool :=
  let merged := filterKeys (fun key => !(key ∈ previous && key ∉ current)) (current ∪ target)
  (merged, merged ≠ target)

theorem lookup_mergeChanges (target previous current : Finmap fun _ : κ => ν) (key : κ) :
    (mergeChanges target previous current).1.lookup key =
      if key ∈ current then current.lookup key else if key ∈ previous then none else target.lookup key := by
  rw [mergeChanges, lookup_filterKeys]
  by_cases isCurrent : key ∈ current
  · simp [isCurrent, lookup_union_left isCurrent]
  by_cases isPrevious : key ∈ previous
  · simp [isCurrent, isPrevious]
  · simp [isCurrent, isPrevious, lookup_union_right isCurrent]

end Merge

/-- A map that receives entries from a source: what it has now, which keys it was given, and what it had at first. -/
structure Receiver (κ ν : Type) where
  map : Finmap fun _ : κ => ν
  given : Finset κ
  original : Finmap fun _ : κ => ν
deriving DecidableEq

namespace Receiver

def fresh (map : Finmap fun _ : κ => ν) : Receiver κ ν := ⟨map, ∅, map⟩

def receive [DecidableEq κ] [DecidableEq ν] (r : Receiver κ ν) (previous current : Finmap fun _ : κ => ν)
    (keys : Finset κ) : Receiver κ ν :=
  { r with map := (mergeChanges r.map previous current).1, given := r.given ∪ keys }

-- Keys that do not count: they are not the source's to give.
variable (exempt : κ → Bool)

/-- The receiver has every entry of the source, and nothing else of what it was given. -/
structure Settled [DecidableEq κ] (source : Finmap fun _ : κ => ν) (r : Receiver κ ν) : Prop where
  carries : ∀ key ∈ source, exempt key = false → r.map.lookup key = source.lookup key
  withdrawn : ∀ key ∈ r.given, exempt key = false → key ∉ source → key ∉ r.map

def Untouched [DecidableEq κ] (ever : Finset κ) (r : Receiver κ ν) : Prop :=
  ∀ key ∉ ever, exempt key = false → r.map.lookup key = r.original.lookup key

/-- What the receiver was given and still has is in the previous version of the source, or in the source. -/
def Remembered [DecidableEq κ] (previous source : Finmap fun _ : κ => ν) (r : Receiver κ ν) : Prop :=
  ∀ key ∈ r.given, exempt key = false → key ∈ r.map → key ∈ previous ∨ key ∈ source
deriving Decidable

variable {exempt} {r : Receiver κ ν} {previous current source : Finmap fun _ : κ => ν} {ever : Finset κ}

variable [DecidableEq κ]

theorem remembered_fresh (map : Finmap fun _ : κ => ν) : (fresh map).Remembered exempt previous source :=
  fun key given => absurd given (Finset.notMem_empty key)

theorem Untouched.mono {more : Finset κ} (untouched : r.Untouched exempt ever) (subset : ever ⊆ more) :
    r.Untouched exempt more :=
  fun key never counts => untouched key (fun member => never (subset member)) counts

theorem untouched_fresh (map : Finmap fun _ : κ => ν) : (fresh map).Untouched exempt ever := fun _ _ _ => rfl

theorem Settled.remembered (settled : r.Settled exempt source) : r.Remembered exempt previous source := by
  intro key given counts has
  by_contra neither
  exact settled.withdrawn key given counts (not_or.mp neither).2 has

variable [DecidableEq ν] (agrees : ∀ key, exempt key = false → current.lookup key = source.lookup key)
include agrees

theorem Untouched.receive (untouched : r.Untouched exempt ever) (isEver : source.keys ⊆ ever)
    (wasEver : previous.keys ⊆ ever) (keys : Finset κ) : (r.receive previous current keys).Untouched exempt ever := by
  intro key never counts
  have notPrevious : key ∉ previous := fun member => never (wasEver (mem_keys.mpr member))
  have notCurrent : key ∉ current := by
    rw [← lookup_eq_none, agrees key counts, lookup_eq_none]
    exact fun member => never (isEver (mem_keys.mpr member))
  change (mergeChanges r.map previous current).1.lookup key = r.original.lookup key
  rw [lookup_mergeChanges, if_neg notCurrent, if_neg notPrevious]
  exact untouched key never counts

theorem Remembered.receive (remembered : r.Remembered exempt previous source) :
    (r.receive previous current source.keys).Settled exempt source := by
  constructor
  · intro key member counts
    have isCurrent : key ∈ current := by
      rw [← lookup_isSome, agrees key counts]
      exact lookup_isSome.mpr member
    change (mergeChanges r.map previous current).1.lookup key = source.lookup key
    rw [lookup_mergeChanges, if_pos isCurrent, agrees key counts]
  intro key given counts notSource
  have notCurrent : key ∉ current := by
    rw [← lookup_eq_none, agrees key counts]
    exact lookup_eq_none.mpr notSource
  change key ∉ (mergeChanges r.map previous current).1
  rw [← lookup_eq_none, lookup_mergeChanges, if_neg notCurrent]
  split
  · rfl
  rename_i notPrevious
  rw [lookup_eq_none]
  -- It is not from the source now, so it was given before, and would be remembered.
  rcases Finset.mem_union.mp given with before | now
  · exact fun has => (remembered key before counts has).elim notPrevious notSource
  · exact absurd (mem_keys.mp now) notSource

end Receiver

end Virtualization.Library
