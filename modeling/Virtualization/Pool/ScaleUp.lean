import Virtualization.Pool.Informer

namespace Virtualization.Pool

open Expectations Library List Pass WatchEvent World

/-- No creation entered the cache between the list of a pass and a check that lets it act. -/
def NoLateCreation (w : World) (action : Action) : Prop :=
  action = .check → w.exp.satisfied w.now w.pool.key → w.since.countP WatchEvent.isCreated = 0
deriving Decidable

def Pass.growth : Pass → Nat
  | .decided (.scaleUp n) => n.toNat
  | .creating remaining => remaining
  | _ => 0

def Pass.announced : Pass → Nat
  | .creating remaining => remaining
  | _ => 0

structure CreationsTracked (bound : Nat) (w : World) : Prop where
  desired : w.pool.desired ≤ bound
  listed : ∀ members, w.pass = .listed members →
    w.store.copy.length ≤ members.length + w.since.countP WatchEvent.isCreated
  awaited : w.pass = .idle ∧ w.pool.deletionTimestamp.isSome ∨
    w.exp.creations w.pool.key = w.inFlight.countP WatchEvent.isCreated + w.pass.announced
  bounded : w.store.source.length + w.pass.growth ≤ bound

theorem applyEvent_length_le (vms : List VirtualMachine) (event : WatchEvent) :
    (applyEvent vms event).length ≤ vms.length + if event.isCreated then 1 else 0 := by
  cases event with
  | created vm | modified vm => simp [applyEvent, isCreated]
  | deleted => simpa [applyEvent, isCreated] using length_filter_le _ vms

variable {w : World}

theorem Consistent.length_le (consistent : Consistent w) (quiet : w.inFlight.countP isCreated = 0) :
    w.store.source.length ≤ w.store.copy.length := by
  have behind := consistent.inStep.measure_le List.length isCreated applyEvent_length_le
  rw [inFlight, countP_append] at quiet
  omega

variable {bound : Nat}

section

variable (tracked : CreationsTracked bound w)
include tracked

theorem CreationsTracked.running (running : w.pass ≠ .idle) :
    w.exp.creations w.pool.key = w.inFlight.countP isCreated + w.pass.announced :=
  tracked.awaited.resolve_left fun away => running away.1

variable {event : WatchEvent}

theorem CreationsTracked.write (kept : event.isCreated = false) : CreationsTracked bound (w.write event) := by
  have grown := applyEvent_length_le w.store.source event
  simp only [kept] at grown
  refine { tracked with
    awaited := ?_
    bounded := Nat.le_trans (Nat.add_le_add_right grown _) tracked.bounded }
  rw [write_inFlight, countP_append]
  simpa [kept] using tracked.awaited

theorem CreationsTracked.deleteObject (vm : VirtualMachine) (deletion : Deletion) :
    CreationsTracked bound (w.deleteObject vm deletion) := by
  rcases deleteObject_cases w vm deletion with ⟨_, same⟩ | removed | ⟨_, _, marked⟩
  · rw [same]
    exact tracked
  · rw [removed]
    exact tracked.write rfl
  rw [marked]
  exact tracked.write rfl

end

theorem memberEventHandler_creations {exp : Expectations} {pool : VirtualMachinePool} (owned : Owned pool event.vm) :
    (memberEventHandler exp event).creations pool.key =
      exp.creations pool.key - if event.isCreated then 1 else 0 := by
  unfold memberEventHandler
  rw [owned.ownerKey]
  cases event <;> simp [isCreated]

section

variable (tracked : CreationsTracked bound w)
include tracked

/-- The check lets a pass act only when the list, the cache and the API server agree closely
    enough for the planned replicas to fit. -/
theorem CreationsTracked.decided {members : List VirtualMachine}
    (consistent : Consistent w) (listed : w.pass = .listed members) (alive : NoExpiry w .check)
    (early : NoLateCreation w .check) (answered : w.exp.satisfied w.now w.pool.key) :
    CreationsTracked bound { w with pass := .decided (decision w.pool members) } := by
  have settled := (satisfied_settled (alive rfl) answered).1
  have seen := tracked.listed members listed
  rw [early rfl answered] at seen
  have awaited := tracked.running (by simp [listed])
  simp only [listed, announced, settled] at awaited
  have known := consistent.length_le (by omega)
  have bounded := tracked.bounded
  have desired := tracked.desired
  refine { tracked with
    listed := fun _ now => by cases now
    awaited := .inr (settled.trans awaited)
    bounded := ?_ }
  cases plan : decision w.pool members with
  | keep | scaleDown victims => simp only [growth]; omega
  | scaleUp =>
    obtain ⟨_, _⟩ := decision_scaleUp plan
    simp only [growth]
    omega

theorem CreationsTracked.deliver {store : Replica (List VirtualMachine) WatchEvent}
    (delivered : w.store.deliver applyEvent = some (event, store)) : CreationsTracked bound
      { w with store, unobserved := w.unobserved ++ [event], since := w.since ++ [event] } := by
  obtain ⟨pending, source, copy⟩ := Replica.deliver_some delivered
  have flight : w.inFlight = (w.unobserved ++ [event]) ++ store.log := by simp [inFlight, pending]
  refine { tracked with
    listed := ?_
    awaited := by
      rw [inFlight, ← flight]
      exact tracked.awaited
    bounded := by rw [source]; exact tracked.bounded }
  intro members listed
  have seen := tracked.listed members listed
  have grown := applyEvent_length_le w.store.copy event
  rw [copy, countP_append, countP_singleton]
  omega

theorem CreationsTracked.observe {rest : List WatchEvent}
    (consistent : Consistent w) (pending : w.unobserved = event :: rest) :
    CreationsTracked bound { w with exp := memberEventHandler w.exp event, unobserved := rest } := by
  have flight : w.inFlight = event :: (rest ++ w.store.log) := by simp [inFlight, pending]
  have owned : Owned w.pool event.vm := (consistent.knownEvents event (by simp [flight])).1
  refine { tracked with awaited := tracked.awaited.imp_right fun awaited => ?_ }
  rw [flight, countP_cons] at awaited
  rw [memberEventHandler_creations owned, inFlight]
  dsimp only
  omega

theorem CreationsTracked.turn {exp : Expectations} {pass : Pass}
    (running : w.pass ≠ .idle) (acting : ∀ members, pass ≠ .listed members)
    (awaited : exp.creations w.pool.key + w.pass.announced = w.exp.creations w.pool.key + pass.announced)
    (growth : pass.growth ≤ w.pass.growth) : CreationsTracked bound { w with exp, pass } := by
  have before := tracked.running running
  refine { tracked with
    listed := fun members now => absurd now (acting members)
    awaited := .inr ?_
    bounded := Nat.le_trans (Nat.add_le_add_left growth _) tracked.bounded }
  change exp.creations w.pool.key = w.inFlight.countP isCreated + pass.announced
  omega

theorem CreationsTracked.create {remaining : Nat} {vm : VirtualMachine} {used : List UID}
    (creating : w.pass = .creating (remaining + 1)) :
    CreationsTracked bound { w.write (.created vm) with used, pass := .creating remaining } := by
  have awaited := tracked.running (by simp [creating])
  have bounded := tracked.bounded
  have grown := applyEvent_length_le w.store.source (.created vm)
  simp only [creating, announced, growth, isCreated, if_true] at awaited bounded grown
  refine { tracked with
    listed := fun _ now => by cases now
    awaited := .inr ?_
    bounded := ?_ }
  · change w.exp.creations w.pool.key = (w.write (.created vm)).inFlight.countP isCreated + remaining
    rw [World.write_inFlight, countP_append, countP_singleton, awaited]
    simp only [isCreated, if_true]
    omega
  simp only [World.write, Replica.write, growth]
  omega

theorem CreationsTracked.step {t : World} {action : Action}
    (consistent : Consistent w) (alive : NoExpiry w action) (early : NoLateCreation w action)
    (moved : step w action = some t) : CreationsTracked bound t := by
  cases step_transition moved with
  | list idle present same =>
    rw [listMembers_owned fun vm member => (consistent.knownCopy vm member).1] at same
    have awaited := tracked.awaited.resolve_left fun away => by simp [present] at away
    have bounded := tracked.bounded
    rw [idle] at awaited bounded
    exact { tracked with
      listed := fun members now => by cases now; simp [same.length_eq]
      awaited := .inr awaited
      bounded }
  | forget idle terminating => exact { tracked with awaited := .inl ⟨idle, terminating⟩ }
  | allowed listed answered => exact tracked.decided consistent listed alive early answered
  | refused before | keep before | expectDeletions before | deleteGone before | deleteFails before =>
    exact tracked.turn (by simp [before]) (by simp) (by simp [before, announced]) (by simp [growth])
  | expectCreations before =>
    exact tracked.turn (by simp [before]) (by simp) (by simp [before, announced]) (by simp [before, growth])
  | create creating => exact tracked.create creating
  | createFails before =>
    have awaited := tracked.running (by simp [before])
    simp only [before, announced] at awaited
    refine tracked.turn (by simp [before]) (by simp) ?_ (by simp [before, growth])
    rw [creations_creationObserved, before]
    simp only [announced]
    omega
  | delete before =>
    exact (tracked.deleteObject _ _).turn (by simp [before]) (by simp) (by simp [before, announced])
      (by simp [growth])
  | finish done =>
    rcases done with before | before <;>
      exact tracked.turn (by simp [before]) (by simp) (by simp [before, announced]) (by simp [growth])
  | deliver delivered => exact tracked.deliver delivered
  | observe pending => exact tracked.observe consistent pending
  | tick => exact { tracked with }
  | userDelete => exact tracked.deleteObject _ _
  | finalized => exact tracked.write rfl
  | deletePool => exact { tracked with awaited := tracked.awaited.imp_left fun away => ⟨away.1, rfl⟩ }

end

theorem World.Initial.creationsTracked (initial : w.Initial) :
    CreationsTracked (max w.pool.desired.toNat w.store.source.length) w := by
  obtain ⟨tracker, synced, observed, idle, _, _, _, _⟩ := initial
  have flight : w.inFlight = [] := by rw [inFlight, observed, synced]; rfl
  refine {
    desired := by omega
    listed := by simp [idle]
    awaited := .inr ?_
    bounded := by simp [idle, growth] }
  simp [creations_none tracker, flight, idle, announced]

/-- A check that lets a pass act may raise the bound. What the tracker waits for stays right all the same. -/
theorem creationsTracked_step {t : World} {action : Action} (tracked : CreationsTracked bound w)
    (consistent : Consistent w) (moved : step w action = some t) : ∃ bound, CreationsTracked bound t := by
  by_cases check : action = .check
  · subst check
    cases step_transition moved with
    | allowed listed =>
      have awaited := tracked.running (by simp [listed])
      rw [listed] at awaited
      refine ⟨bound + (w.store.source.length + Pass.growth (.decided (decision w.pool _))), ?_, nofun, .inr awaited,
        Nat.le_add_left ..⟩
      have desired := tracked.desired
      dsimp only
      omega
    | refused before =>
      exact ⟨bound, tracked.turn (by simp [before]) (by simp) (by simp [before, announced]) (by simp [growth])⟩
  · exact ⟨bound, tracked.step consistent (fun same => absurd same check) (fun same => absurd same check) moved⟩

/-- Whatever fails, expires or comes late, the tracker of a pool waits for the creations on their way to the handler and
    for those that the pass has yet to make. -/
theorem creations_awaited {start : World} (initial : start.Initial) (actions : List Action) :
    Along step (fun w _ => w.pool.deletionTimestamp = none →
      w.exp.creations w.pool.key = w.inFlight.countP isCreated + w.pass.announced) start actions := by
  have preserved : ∀ w action t, (Consistent w ∧ ∃ bound, CreationsTracked bound w) → step w action = some t →
      Consistent t ∧ ∃ bound, CreationsTracked bound t := by
    rintro w action t ⟨consistent, _, tracked⟩ moved
    exact ⟨consistent.step moved, creationsTracked_step tracked consistent moved⟩
  refine (Along.of_preserved preserved ⟨initial.consistent, _, initial.creationsTracked⟩ actions).mono ?_
  rintro w _ ⟨-, _, tracked⟩ present
  exact tracked.awaited.resolve_left fun away => by simp [present] at away

theorem creations_awaited_failure :
    let actions := [.list [], .check, .expect, .createFails, .finish]
    (run step (workersAt []) actions).map (·.exp.creations workers.key) = some 0 ∧
      Along step (fun w _ => w.pool.deletionTimestamp = none →
        w.exp.creations w.pool.key = w.inFlight.countP isCreated + w.pass.announced) (workersAt []) actions :=
  ⟨by decide, creations_awaited (workersAt_initial (by simp) (by simp) (by simp)) _⟩

/-- Without expiry, and when no creation is delivered between a list and a check that lets the
    pass act, the pool never has more members than desired or than it started with. -/
theorem members_never_overshoot {start w : World} {actions : List Action} (initial : start.Initial)
    (along : Along step (fun w action => NoExpiry w action ∧ NoLateCreation w action) start actions)
    (reached : run step start actions = some w) : ((listMembers w.pool w.store.source).length : Int) ≤
      max start.pool.desired (listMembers start.pool start.store.source).length := by
  let bound := max start.pool.desired.toNat start.store.source.length
  have preserved : ∀ s action t, Consistent s ∧ CreationsTracked bound s →
      NoExpiry s action ∧ NoLateCreation s action → step s action = some t →
      Consistent t ∧ CreationsTracked bound t := fun _ _ _ held ok moved =>
    ⟨held.1.step moved, held.2.step held.1 ok.1 ok.2 moved⟩
  obtain ⟨consistent, tracked⟩ :=
    run_invariant preserved ⟨initial.consistent, initial.creationsTracked⟩ along reached
  rw [listMembers_owned fun vm member => (consistent.knownSource vm member).1, listMembers_owned initial.owned]
  have bounded := tracked.bounded
  omega

def scaleUpOnce : List Action :=
  [.list [], .check, .expect, .create 1 "workers-a" 0, .finish, .list [], .check, .deliver, .observe,
    .list [newMember workers 1 "workers-a" 0], .check, .expect]

theorem members_never_overshoot_once : (workersAt []).Initial ∧
      Along step (fun w action => NoExpiry w action ∧ NoLateCreation w action) (workersAt []) scaleUpOnce ∧
      ∃ w, run step (workersAt []) scaleUpOnce = some w ∧
        ((listMembers w.pool w.store.source).length : Int) ≤ max 1 0 := by
  have initial : (workersAt []).Initial := workersAt_initial (by simp) (by simp) (by simp)
  have along : Along step (fun w action => NoExpiry w action ∧ NoLateCreation w action) (workersAt [])
    scaleUpOnce := by decide
  exact ⟨initial, along, _, rfl, members_never_overshoot initial along rfl⟩

/-- The second pass lists the cache before the first replica arrives in it and asks the tracker
    after the handler has seen the replica. -/
def staleScaleUp : List Action :=
  [.list [], .check, .expect, .create 1 "workers-a" 0, .finish, .list [], .deliver, .observe, .check, .expect,
    .create 2 "workers-b" 0]

theorem stale_list_overshoots :
    ¬ ∀ (start w : World) (actions : List Action), start.Initial → Along step NoExpiry start actions →
      run step start actions = some w →
      ((listMembers w.pool w.store.source).length : Int) ≤
        max start.pool.desired (listMembers start.pool start.store.source).length := by
  intro bounded
  have initial : (workersAt []).Initial := workersAt_initial (by simp) (by simp) (by simp)
  have along : Along step NoExpiry (workersAt []) staleScaleUp := by decide
  have ends : ∃ w, run step (workersAt []) staleScaleUp = some w ∧ (listMembers w.pool w.store.source).length = 2 :=
    ⟨_, rfl, by decide⟩
  obtain ⟨_, reached, two⟩ := ends
  have limit := bounded _ _ _ initial along reached
  rw [two] at limit
  revert limit
  decide

end Virtualization.Pool
