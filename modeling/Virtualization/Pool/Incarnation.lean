import Virtualization.Pool.Interleaving

namespace Virtualization.Pool.Incarnation

open Expectations Library

/-- The pool object of one key over its incarnations. `world.pool` is what the pool informer has delivered last,
    and `begun` holds the incarnations for which a pass has asked the tracker. -/
structure Site where
  current : Option VirtualMachinePool
  world : World
  (assigned begun : List UID)

inductive Move where
  | sync
  | pass (action : Action)
  | edit (replicas : Option Int) (scaleDownPolicy : ScaleDownPolicy)
  | mark (timestamp : Int)
  | vanish
  | recreate (pool : VirtualMachinePool)
deriving DecidableEq

def asksTracker (action : Action) : Bool := action = .check

def siteStep (s : Site) : Move → Option Site
  | .sync =>
    match s.current with
    -- `Reconcile` observes an absent pool and returns.
    | none => some s
    | some pool => if s.world.pass = .idle then some { s with world := { s.world with pool } } else none
  | .pass (.deletePool _) => none
  | .pass action =>
    match step s.world action with
    | none => none
    | some world =>
      some { s with world, begun := if asksTracker action then s.world.pool.uid :: s.begun else s.begun }
  | .edit replicas scaleDownPolicy =>
    some { s with current := s.current.map fun pool => { pool with replicas, scaleDownPolicy } }
  | .mark timestamp =>
    some { s with current := s.current.map fun pool => { pool with deletionTimestamp := some timestamp } }
  | .vanish => some { s with current := none }
  | .recreate pool =>
    if s.current = none ∧ pool.key = s.world.pool.key ∧ pool.uid ∉ s.assigned then
      some { s with current := some pool, assigned := pool.uid :: s.assigned }
    else none

structure Site.Initial (s : Site) : Prop where
  tracker : s.world.exp.items s.world.pool.key = none
  idle : s.world.pass = .idle
  known : s.current = some s.world.pool
  begun : s.begun = []

def Settled (s : Site) : Prop :=
  s.world.exp.creations s.world.pool.key = 0 ∧ s.world.exp.deletions s.world.pool.key = ∅
deriving Decidable

/-- When the informer delivers another incarnation, nothing of the last one is awaited: all of it was observed, or
    a pass saw the old object with its deletion timestamp and dropped the entry. -/
def Cleared (s : Site) (move : Move) : Prop :=
  move = .sync → ∀ pool ∈ s.current, pool.uid ≠ s.world.pool.uid → Settled s
deriving Decidable

def Unblocked (s : Site) (move : Move) : Prop :=
  move = .pass .check → s.world.pool.uid ∉ s.begun →
    match s.world.pass with
    | .listed members =>
      s.world.exp.satisfied s.world.now s.world.pool.key ∧
        (step s.world .check).map World.pass = some (.decided (decision s.world.pool members))
    | _ => True

instance (s : Site) (move : Move) : Decidable (Unblocked s move) := by
  unfold Unblocked
  split <;> infer_instance

def acting : Pass → Bool
  | .idle | .listed _ => false
  | _ => true

structure Sound (s : Site) : Prop where
  key : ∀ pool ∈ s.current, pool.key = s.world.pool.key
  begun : acting s.world.pass → s.world.pool.uid ∈ s.begun
  settled : s.world.pool.uid ∉ s.begun → Settled s

theorem memberEventHandler_settled {exp : Expectations} {key : NamespacedName} (event : WatchEvent)
    (creations : exp.creations key = 0) (deletions : exp.deletions key = ∅) :
    (memberEventHandler exp event).creations key = 0 ∧ (memberEventHandler exp event).deletions key = ∅ := by
  unfold memberEventHandler
  split
  · exact ⟨creations, deletions⟩
  rename_i owner _
  by_cases same : key = owner
  · subst same
    split <;> simp [creations, deletions]
  unfold Expectations.creations Expectations.deletions at *
  split
  · rw [getOrCreate_creationObserved_other same]
    exact ⟨creations, deletions⟩
  · exact ⟨creations, deletions⟩
  rw [getOrCreate_deletionObserved_other same]
  exact ⟨creations, deletions⟩

theorem pass_sound {s : Site} {action : Action} {world : World} (sound : Sound s)
    (other : ∀ timestamp, action ≠ .deletePool timestamp) (moved : step s.world action = some world) :
    Sound { s with world, begun := if asksTracker action then s.world.pool.uid :: s.begun else s.begun } := by
  obtain ⟨key, begun, settled⟩ := sound
  -- Every call of the tracker that records or cancels an expectation comes from a pass that has asked it.
  have asked {pass : Pass} (running : s.world.pass = pass) (acts : acting pass) :
      s.world.pool.uid ∈ s.begun := begun (running ▸ acts)
  cases step_transition moved with
  | list idle present same | keep decided | finish done =>
    exact ⟨key, fun acts => absurd acts Bool.false_ne_true, settled⟩
  | forget =>
    refine ⟨key, begun, fun _ => ?_⟩
    have dropped : (s.world.exp.forget s.world.pool.key).items s.world.pool.key = none := by
      simp [forget]
    exact ⟨creations_none dropped, deletions_none dropped⟩
  | allowed listed answered | refused listed =>
    exact ⟨key, fun _ => List.mem_cons_self, fun absent => absurd List.mem_cons_self absent⟩
  | expectCreations running | expectDeletions running | create running | createFails running | deleteGone running
  | deleteFails running =>
    have member := asked running rfl
    exact ⟨key, fun _ => member, fun absent => absurd member absent⟩
  | delete deleting =>
    have member := asked deleting rfl
    refine ⟨?_, fun _ => ?_, fun absent => ?_⟩
    · simpa using key
    · simpa [asksTracker] using member
    · exact absurd (by simpa [asksTracker] using member) absent
  | deliver delivered | tick duration | finalized member terminating => exact ⟨key, begun, settled⟩
  | observe =>
    exact ⟨key, begun, fun absent => memberEventHandler_settled _ (settled absent).1 (settled absent).2⟩
  | userDelete =>
    refine ⟨?_, ?_, ?_⟩
    · simpa using key
    · simpa [asksTracker] using begun
    · simpa [asksTracker, Settled] using settled
  | deletePool timestamp => exact absurd rfl (other timestamp)

theorem sound_step {s t : Site} {move : Move} (sound : Sound s) (cleared : Cleared s move)
    (moved : siteStep s move = some t) : Sound t := by
  unfold siteStep at moved
  split at moved
  · split at moved
    · cases moved
      exact sound
    rename_i pool known
    split at moved <;> cases moved
    rename_i idle
    have same : pool.key = s.world.pool.key := sound.key pool known
    refine ⟨fun _ present => ?_, fun acts => ?_, fun absent => ?_⟩
    · rw [known] at present
      cases present
      rfl
    · rw [idle] at acts
      cases acts
    show s.world.exp.creations pool.key = 0 ∧ s.world.exp.deletions pool.key = ∅
    rw [same]
    by_cases renewed : pool.uid = s.world.pool.uid
    · rw [renewed] at absent
      exact sound.settled absent
    · exact cleared rfl pool known renewed
  · cases moved
  · rename_i other
    split at moved <;> cases moved
    rename_i taken
    exact pass_sound sound other taken
  · cases moved
    refine ⟨fun _ present => ?_, sound.begun, sound.settled⟩
    obtain ⟨before, known, rfl⟩ := Option.map_eq_some_iff.mp present
    exact sound.key before known
  · cases moved
    refine ⟨fun _ present => ?_, sound.begun, sound.settled⟩
    obtain ⟨before, known, rfl⟩ := Option.map_eq_some_iff.mp present
    exact sound.key before known
  · cases moved
    exact ⟨fun _ => nofun, sound.begun, sound.settled⟩
  split at moved <;> cases moved
  rename_i allowed
  refine ⟨fun _ present => ?_, sound.begun, sound.settled⟩
  cases present
  exact allowed.2.1

theorem unblocked_of_sound {s : Site} {move : Move} (sound : Sound s) : Unblocked s move := by
  intro asks first
  split
  · rename_i listed
    obtain ⟨creations, deletions⟩ := sound.settled first
    have answered := satisfied_of_settled s.world.now creations deletions
    refine ⟨answered, ?_⟩
    simp [step, listed, answered]
  · exact True.intro

/-- In every run in which nothing of the last incarnation is awaited when the informer delivers the next one, the
    first pass over each incarnation finds the tracker satisfied and decides on the members it listed. -/
theorem incarnation_unblocked {s : Site} {moves : List Move} (initial : s.Initial)
    (along : Along siteStep Cleared s moves) : Along siteStep Unblocked s moves := by
  refine Along.of_invariant (fun _ _ _ => sound_step) (fun _ _ sound _ => unblocked_of_sound sound) ?_ along
  refine ⟨fun _ present => ?_, fun acts => ?_, fun _ => ?_⟩
  · rw [initial.known] at present
    cases present
    rfl
  · rw [initial.idle] at acts
    cases acts
  · exact ⟨creations_none initial.tracker, deletions_none initial.tracker⟩

def site : Site := { current := some workers, world := workersAt [], assigned := [100], begun := [] }

def successor : VirtualMachinePool := { workers with uid := 200 }

def firstPass : List Move :=
  [.pass (.list []), .pass .check, .pass .expect, .pass (.create 1 "workers-a" 5), .pass .finish]

def nextIncarnation : List Move := [.vanish, .recreate successor, .sync, .pass (.list []), .pass .check]

theorem incarnation_unblocked_after_forget :
    let moves := firstPass ++ [.mark 7, .sync, .pass .forget] ++ nextIncarnation
    (run siteStep site moves).isSome = true ∧ Along siteStep Unblocked site moves :=
  ⟨by decide, incarnation_unblocked ⟨rfl, rfl, rfl, rfl⟩ (by decide)⟩

/-- The old pool vanishes before a reconcile sees its deletion timestamp. Its creation is still awaited, and the
    first pass of the new pool does nothing. -/
theorem incarnation_blocked : ¬ Along siteStep Unblocked site (firstPass ++ nextIncarnation) := by
  decide

end Virtualization.Pool.Incarnation
