/- Once `main` serves, every call of `config.Get` returns the `Config` that `main` populated. -/

import PenaltyPayment.Proof.Startup
import PenaltyPayment.Construction.GetGoroutines

namespace PenaltyPayment.Config

open Go

variable {Fields : Type}

/-- A phase of a call that takes the cached branch of `Get` and returns `cached`. -/
def Phase.hitsCache (cached : Ptr) : Phase → Prop
  | .allocating | .configuring => False
  | .unlocking result | .returning result => result = .ok cached
  | _ => True

/-- `cfg` and the heap stay as they are, and every call takes the cached branch of `Get`. -/
structure ServesCached (cached : Ptr) (heap : List (ConfigObject Fields))
    (machine : Machine Fields) : Prop where
  cfg : machine.cfg = some cached
  heap : machine.heap = heap
  phase : ∀ goroutine, (machine.phase goroutine).hitsCache cached
  returned : ∀ entry ∈ machine.returned, entry.2 = .ok cached

section Step

variable {cached : Ptr} {heap : List (ConfigObject Fields)} {machine : Machine Fields}
  (inv : ServesCached cached heap machine)
include inv

theorem ServesCached.setPhase {goroutine : Nat} {phase : Phase} (hit : phase.hitsCache cached) :
    ServesCached cached heap (machine.setPhase goroutine phase) := by
  refine ⟨inv.cfg, inv.heap, fun other => ?_, inv.returned⟩
  by_cases same : other = goroutine
  · simpa [same] using hit
  · simpa [Machine.setPhase_phase_of_ne _ _ same] using inv.phase other

variable [Inhabited Fields]

/-- No step of any goroutine leaves the cached branch of `Get`. -/
theorem ServesCached.after_step {next : Machine Fields} {action : Action Fields}
    (stepped : step machine action = some next) : ServesCached cached heap next := by
  rcases step_cases stepped with ⟨goroutine, -, rfl⟩ | ⟨goroutine, -, -, rfl⟩ |
    ⟨goroutine, cfg, -, hit, rfl⟩ | ⟨goroutine, -, miss, rfl⟩ | ⟨goroutine, phase, -⟩ |
    ⟨goroutine, outcome, cfg, phase, -⟩ | ⟨goroutine, result, phase, rfl⟩ |
    ⟨goroutine, result, phase, rfl⟩
  · exact inv.setPhase trivial
  · have locked : ServesCached cached heap (machine.setPhase goroutine .checking) :=
      inv.setPhase trivial
    exact ⟨locked.cfg, locked.heap, locked.phase, locked.returned⟩
  · rw [inv.cfg, Option.some.injEq] at hit
    exact inv.setPhase (show Phase.hitsCache cached (.unlocking (.ok cfg)) from congrArg _ hit.symm)
  · simp [inv.cfg] at miss
  · simpa [phase, Phase.hitsCache] using inv.phase goroutine
  · simpa [phase, Phase.hitsCache] using inv.phase goroutine
  · have returnsCached : result = .ok cached := by
      simpa [phase, Phase.hitsCache] using inv.phase goroutine
    have released : ServesCached cached heap (machine.setPhase goroutine (.returning result)) :=
      inv.setPhase returnsCached
    exact ⟨released.cfg, released.heap, released.phase, released.returned⟩
  · have returnsCached : result = .ok cached := by
      simpa [phase, Phase.hitsCache] using inv.phase goroutine
    have left : ServesCached cached heap (machine.setPhase goroutine .idle) :=
      inv.setPhase trivial
    refine ⟨left.cfg, left.heap, left.phase, fun entry returned => ?_⟩
    rcases List.mem_append.mp returned with earlier | now
    · exact inv.returned entry earlier
    · rw [List.mem_singleton.mp now]
      exact returnsCached

/-- No interleaving leaves the cached branch of `Get`. -/
theorem ServesCached.execute {actions : List (Action Fields)} {next : Machine Fields}
    (ran : execute machine actions = some next) : ServesCached cached heap next := by
  induction actions generalizing machine with
  | nil => cases ran; exact inv
  | cons action rest inductionHypothesis =>
      simp only [PenaltyPayment.Config.execute, Option.bind_eq_some] at ran
      obtain ⟨middle, stepped, ran⟩ := ran
      exact inductionHypothesis (inv.after_step stepped) ran

end Step

theorem ServesCached.ofGetState {state : GetState Fields} {cached : Ptr}
    (hit : state.cfg = some cached) :
    ServesCached cached state.heap (Machine.ofGetState state) :=
  ⟨hit, rfl, fun _ => trivial, fun _ returned => by cases returned⟩

end PenaltyPayment.Config

namespace PenaltyPayment.Main

open Config Go

variable {Fields Payable Details Allowed : Type} [Inhabited Fields]

/-- Once `main` serves, every call of `Get` returns `main`'s populated `cfg`. -/
theorem main_serving_get_returns_cfg (env : Environment Fields Payable Details Allowed)
    {cfg : Ptr} {getState : GetState Fields} {penaltyConfig : PenaltyConfig Payable}
    {penaltyDetailsMap : Details} {allowedTransactionsMap : Allowed}
    (served : main env = .serving cfg getState penaltyConfig penaltyDetailsMap
      allowedTransactionsMap)
    (actions : List (Action Fields)) {next : Machine Fields}
    (ran : execute (Machine.ofGetState getState) actions = some next) :
    next.cfg = some cfg ∧ next.heap = getState.heap ∧
      load next.heap cfg = some ⟨env.gofigure.fields, true⟩ ∧
      ∀ entry ∈ next.returned, entry.2 = .ok cfg := by
  obtain ⟨-, rfl, rfl⟩ := main_eq_serving served
  have inv := (ServesCached.ofGetState rfl).execute ran
  exact ⟨inv.cfg, inv.heap, by simp [inv.heap, load], inv.returned⟩

/-- A start in which every step succeeds. -/
def healthyEnvironment : Environment Unit Unit Unit Unit :=
  ⟨⟨(), none⟩, none, ⟨fun _ => .ok ⟨[]⟩, fun _ => .ok ⟨[]⟩⟩, ⟨[], []⟩, fun _ => .ok [],
    fun _ => .ok (), fun _ => .ok ()⟩

/-- Two handler goroutines call `Get` at once after the start; the second returns first. -/
def servedGets : List (Action Unit) :=
  [.call 1, .call 2, .lock 1, .check 1, .unlock 1, .lock 2, .check 2, .unlock 2, .leave 2,
    .leave 1]

theorem healthyEnvironment_gets_return_cfg :
    ∃ next, execute (Machine.ofGetState ⟨some ⟨0⟩, [⟨(), true⟩]⟩) servedGets = some next ∧
      next.cfg = some ⟨0⟩ ∧ next.heap = [⟨(), true⟩] ∧ load next.heap ⟨0⟩ = some ⟨(), true⟩ ∧
      ∀ entry ∈ next.returned, entry.2 = .ok ⟨0⟩ :=
  ⟨_, rfl, main_serving_get_returns_cfg healthyEnvironment
    (rfl : main healthyEnvironment = .serving ⟨0⟩ ⟨some ⟨0⟩, [⟨(), true⟩]⟩ ⟨[], []⟩ () ())
    servedGets rfl⟩

end PenaltyPayment.Main
