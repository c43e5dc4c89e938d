import Virtualization.Library.Store

namespace Virtualization.Library

open List

/-- What a server has stored, and how far a cache has followed it: the state the cache shows, and after it every state
    up to the present one, oldest first. -/
structure Watched (σ : Type) where
  cached : σ
  later : List σ

namespace Watched

variable {σ : Type}

def synced (s : σ) : Watched σ := { cached := s, later := [] }

variable (w : Watched σ)

def states : List σ := w.cached :: w.later

theorem states_ne_nil : w.states ≠ [] := cons_ne_nil _ _

def now : σ := w.states.getLast w.states_ne_nil

def push (s : σ) : Watched σ := { w with later := w.later ++ [s] }

def observe (n : Nat) : Watched σ :=
  match w.states.drop n with
  | [] => synced w.now
  | s :: later => { cached := s, later }

section

variable (w : Watched σ)

@[simp] theorem states_push (s : σ) : (w.push s).states = w.states ++ [s] := rfl

@[simp] theorem now_push (s : σ) : (w.push s).now = s := by
  simp [now]

theorem cached_mem : w.cached ∈ w.states := mem_cons_self

theorem now_mem : w.now ∈ w.states := getLast_mem _

end

variable {w : Watched σ} {s : σ}

theorem forall_push {holds : σ → Prop} (before : ∀ t ∈ w.states, holds t) (last : holds s) :
    ∀ t ∈ (w.push s).states, holds t := by
  exact forall_mem_append.mpr ⟨before, forall_mem_singleton.mpr last⟩

theorem observe_suffix (w : Watched σ) (n : Nat) : (w.observe n).states <:+ w.states := by
  unfold observe
  split
  · exact ⟨w.states.dropLast, dropLast_append_getLast w.states_ne_nil⟩
  rename_i s later dropped
  change s :: later <:+ w.states
  rw [← dropped]
  exact drop_suffix n w.states

theorem mem_of_observe {n : Nat} (member : s ∈ (w.observe n).states) : s ∈ w.states :=
  (w.observe_suffix n).subset member

@[simp] theorem now_observe (w : Watched σ) (n : Nat) : (w.observe n).now = w.now := by
  obtain ⟨_, split⟩ := w.observe_suffix n
  have last : w.states.getLast? = (w.observe n).states.getLast? := by
    rw [← split, getLast?_append_of_ne_nil _ (states_ne_nil _)]
  exact (Option.some.inj last).symm

variable {related : σ → σ → Prop}

theorem cached_observe (n : Nat) (refl : related w.cached w.cached) (ordered : w.states.Pairwise related) :
    related w.cached (w.observe n).cached := by
  rcases mem_cons.mp (mem_of_observe (w.observe n).cached_mem) with same | after
  · rw [same]
    exact refl
  · exact (pairwise_cons.mp ordered).1 _ after

theorem related_now (refl : ∀ s, related s s) (ordered : w.states.Pairwise related) (member : s ∈ w.states) :
    related s w.now := by
  rw [← dropLast_append_getLast w.states_ne_nil] at ordered member
  rcases mem_append.mp member with before | last
  · exact (pairwise_append.mp ordered).2.2 s before _ (mem_singleton_self _)
  rw [mem_singleton.mp last]
  exact refl _

theorem pairwise_push (refl : ∀ s, related s s) (trans : ∀ {a b c}, related a b → related b c → related a c)
    (ordered : w.states.Pairwise related) {t : σ} (next : related w.now t) : (w.push t).states.Pairwise related := by
  rw [states_push, pairwise_append]
  refine ⟨ordered, pairwise_singleton _ _, fun _ member _ last => ?_⟩
  rw [mem_singleton.mp last]
  exact trans (related_now refl ordered member) next

section Tracked

variable {α κ : Type} [Object α κ] [DecidableEq κ]

def Tracked (w : Watched (Store α)) : Prop :=
  ∀ s ∈ w.states, ∀ k obj, s.get? k = some obj → w.now.Snapshot obj

theorem all_synced {s : Store α} {holds : α → Prop} (empty : s.objects = []) :
    ∀ t ∈ (synced s).states, t.All holds := by
  intro t member k obj found
  obtain rfl := mem_singleton.mp member
  have listed := Store.mem_of_get? found
  rw [empty] at listed
  cases listed

theorem Tracked.push {w : Watched (Store α)} (tracked : w.Tracked) {t : Store α}
    (kept : ∀ copy, w.now.Snapshot copy → t.Snapshot copy) : (w.push t).Tracked := by
  unfold Tracked
  rw [now_push]
  exact forall_push (fun s member k obj found => kept obj (tracked s member k obj found)) fun k obj => .of_get?

theorem Tracked.observe {w : Watched (Store α)} (tracked : w.Tracked) (n : Nat) : (w.observe n).Tracked := by
  intro s member k obj found
  rw [now_observe]
  exact tracked s (mem_of_observe member) k obj found

end Tracked

end Watched

end Virtualization.Library
