/- Goroutines calling `config.Get` at once, one step per statement, with `mtx` between them. -/

import PenaltyPayment.Construction.ConfigGet
import Mathlib.Logic.Function.Basic

namespace PenaltyPayment.Config

open Go

/-- Where a goroutine is in `Get`. -/
inductive Phase where
  /-- Not in `Get`. -/
  | idle
  /-- At `mtx.Lock()`. -/
  | locking
  /-- Holding `mtx`, at `if cfg != nil`. -/
  | checking
  /-- At `cfg = &Config{}`. -/
  | allocating
  /-- At `err := gofigure.Gofigure(cfg)`. -/
  | configuring
  /-- At a `return` whose values are evaluated; the deferred `mtx.Unlock()` runs next. -/
  | unlocking (result : Except GoError Ptr)
  /-- Past the deferred `mtx.Unlock()`, returning `result` to the caller. -/
  | returning (result : Except GoError Ptr)
  deriving DecidableEq

/-- One step of one goroutine in `Get`: a statement, the deferred unlock or the return. -/
inductive Action (Fields : Type) where
  | call (goroutine : Nat)
  | lock (goroutine : Nat)
  | check (goroutine : Nat)
  | allocate (goroutine : Nat)
  | configure (goroutine : Nat) (outcome : GofigureOutcome Fields)
  | unlock (goroutine : Nat)
  | leave (goroutine : Nat)

/-- The package state and where every goroutine is; `mtx` names its holder, Go's keeps a bit. -/
structure Machine (Fields : Type) where
  cfg : Option Ptr
  heap : List (ConfigObject Fields)
  mtx : Option Nat
  phase : Nat → Phase
  /-- Each call with its result, in the order its deferred `mtx.Unlock()` ran. -/
  released : List (Nat × Except GoError Ptr)
  /-- Each result with the goroutine it was returned to, in the order of the returns. -/
  returned : List (Nat × Except GoError Ptr)

variable {Fields : Type}

/-- Process start: `cfg` nil, `mtx` unlocked, no goroutine in `Get`. -/
def Machine.initial : Machine Fields := ⟨none, [], none, fun _ => .idle, [], []⟩

/-- A process whose package state is `state`, with no goroutine in `Get`. -/
def Machine.ofGetState (state : GetState Fields) : Machine Fields :=
  ⟨state.cfg, state.heap, none, fun _ => .idle, [], []⟩

def Machine.setPhase (machine : Machine Fields) (goroutine : Nat) (phase : Phase) :
    Machine Fields :=
  { machine with phase := Function.update machine.phase goroutine phase }

/-- The step `goroutine` takes, or `none` when it is elsewhere in `Get` or `mtx` is locked. -/
def step [Inhabited Fields] (machine : Machine Fields) : Action Fields → Option (Machine Fields)
  | .call goroutine =>
      match machine.phase goroutine with
      | .idle => some (machine.setPhase goroutine .locking)
      | _ => none
  | .lock goroutine =>
      match machine.phase goroutine, machine.mtx with
      | .locking, none => some { machine.setPhase goroutine .checking with mtx := some goroutine }
      | _, _ => none
  | .check goroutine =>
      match machine.phase goroutine, machine.cfg with
      | .checking, some cfg => some (machine.setPhase goroutine (.unlocking (.ok cfg)))
      | .checking, none => some (machine.setPhase goroutine .allocating)
      | _, _ => none
  | .allocate goroutine =>
      match machine.phase goroutine with
      | .allocating =>
          let (cfg, heap) := alloc machine.heap ⟨default, false⟩
          some { machine.setPhase goroutine .configuring with cfg := some cfg, heap := heap }
      | _ => none
  | .configure goroutine outcome =>
      match machine.phase goroutine, machine.cfg with
      | .configuring, some cfg =>
          some { machine.setPhase goroutine (.unlocking (configuredResult outcome.err cfg)) with
            heap := gofigure outcome machine.heap cfg }
      | _, _ => none
  | .unlock goroutine =>
      match machine.phase goroutine with
      | .unlocking result =>
          some { machine.setPhase goroutine (.returning result) with
            mtx := none, released := machine.released ++ [(goroutine, result)] }
      | _ => none
  | .leave goroutine =>
      match machine.phase goroutine with
      | .returning result =>
          some { machine.setPhase goroutine .idle with
            returned := machine.returned ++ [(goroutine, result)] }
      | _ => none

/-- The machine after `actions`, or `none` when one of them cannot be taken. -/
def execute [Inhabited Fields] (machine : Machine Fields) :
    List (Action Fields) → Option (Machine Fields)
  | [] => some machine
  | action :: rest => (step machine action).bind fun next => execute next rest

/-- The machines some interleaving of steps reaches from process start. -/
inductive Reachable [Inhabited Fields] : Machine Fields → Prop
  | initial : Reachable Machine.initial
  | step {machine next : Machine Fields} {action : Action Fields} :
      Reachable machine → step machine action = some next → Reachable next

/-- Whatever a reachable machine executes reaches a reachable machine. -/
theorem Reachable.execute [Inhabited Fields] {machine next : Machine Fields}
    {actions : List (Action Fields)} (reach : Reachable machine)
    (ran : execute machine actions = some next) : Reachable next := by
  induction actions generalizing machine with
  | nil => cases ran; exact reach
  | cons action rest inductionHypothesis =>
      simp only [PenaltyPayment.Config.execute, Option.bind_eq_some] at ran
      obtain ⟨middle, stepped, ran⟩ := ran
      exact inductionHypothesis (reach.step stepped) ran

/-- Executing two lists of actions one after the other. -/
theorem execute_append [Inhabited Fields] (machine : Machine Fields)
    (first second : List (Action Fields)) :
    execute machine (first ++ second) = (execute machine first).bind (execute · second) := by
  induction first generalizing machine with
  | nil => rfl
  | cons action rest inductionHypothesis =>
      simp only [List.cons_append, execute]
      cases step machine action with
      | none => rfl
      | some next => exact inductionHypothesis next

@[simp] theorem Machine.setPhase_cfg (machine : Machine Fields) (goroutine : Nat) (phase : Phase) :
    (machine.setPhase goroutine phase).cfg = machine.cfg := rfl

@[simp] theorem Machine.setPhase_heap (machine : Machine Fields) (goroutine : Nat)
    (phase : Phase) : (machine.setPhase goroutine phase).heap = machine.heap := rfl

@[simp] theorem Machine.setPhase_mtx (machine : Machine Fields) (goroutine : Nat) (phase : Phase) :
    (machine.setPhase goroutine phase).mtx = machine.mtx := rfl

@[simp] theorem Machine.setPhase_released (machine : Machine Fields) (goroutine : Nat)
    (phase : Phase) : (machine.setPhase goroutine phase).released = machine.released := rfl

@[simp] theorem Machine.setPhase_returned (machine : Machine Fields) (goroutine : Nat)
    (phase : Phase) : (machine.setPhase goroutine phase).returned = machine.returned := rfl

@[simp] theorem Machine.setPhase_phase_self (machine : Machine Fields) (goroutine : Nat)
    (phase : Phase) : (machine.setPhase goroutine phase).phase goroutine = phase := by
  simp [Machine.setPhase]

theorem Machine.setPhase_phase_of_ne (machine : Machine Fields) {goroutine other : Nat}
    (phase : Phase) (different : other ≠ goroutine) :
    (machine.setPhase goroutine phase).phase other = machine.phase other := by
  simp [Machine.setPhase, different]

/-- Everything one step can do, one case per statement of `Get`, with the phase it needs. -/
theorem step_cases [Inhabited Fields] {machine next : Machine Fields} {action : Action Fields}
    (stepped : step machine action = some next) :
    (∃ goroutine, machine.phase goroutine = .idle ∧
        next = machine.setPhase goroutine .locking) ∨
    (∃ goroutine, machine.phase goroutine = .locking ∧ machine.mtx = none ∧
        next = { machine.setPhase goroutine .checking with mtx := some goroutine }) ∨
    (∃ goroutine cfg, machine.phase goroutine = .checking ∧ machine.cfg = some cfg ∧
        next = machine.setPhase goroutine (.unlocking (.ok cfg))) ∨
    (∃ goroutine, machine.phase goroutine = .checking ∧ machine.cfg = none ∧
        next = machine.setPhase goroutine .allocating) ∨
    (∃ goroutine, machine.phase goroutine = .allocating ∧
        next = { machine.setPhase goroutine .configuring with
          cfg := some ⟨machine.heap.length⟩, heap := machine.heap ++ [⟨default, false⟩] }) ∨
    (∃ goroutine outcome cfg, machine.phase goroutine = .configuring ∧ machine.cfg = some cfg ∧
        next = { machine.setPhase goroutine (.unlocking (configuredResult outcome.err cfg)) with
          heap := gofigure outcome machine.heap cfg }) ∨
    (∃ goroutine result, machine.phase goroutine = .unlocking result ∧
        next = { machine.setPhase goroutine (.returning result) with
          mtx := none, released := machine.released ++ [(goroutine, result)] }) ∨
    (∃ goroutine result, machine.phase goroutine = .returning result ∧
        next = { machine.setPhase goroutine .idle with
          returned := machine.returned ++ [(goroutine, result)] }) := by
  cases action with
  | call goroutine =>
      rcases phase : machine.phase goroutine <;> simp [step, phase] at stepped
      exact .inl ⟨goroutine, phase, stepped.symm⟩
  | lock goroutine =>
      rcases phase : machine.phase goroutine <;> rcases free : machine.mtx <;>
        simp [step, phase, free] at stepped
      exact .inr (.inl ⟨goroutine, phase, rfl, stepped.symm⟩)
  | check goroutine =>
      rcases phase : machine.phase goroutine <;> rcases cached : machine.cfg with _ | cfg <;>
        simp [step, phase, cached] at stepped
      · exact .inr (.inr (.inr (.inl ⟨goroutine, phase, rfl, stepped.symm⟩)))
      · exact .inr (.inr (.inl ⟨goroutine, cfg, phase, rfl, stepped.symm⟩))
  | allocate goroutine =>
      rcases phase : machine.phase goroutine <;> simp [step, phase] at stepped
      exact .inr (.inr (.inr (.inr (.inl ⟨goroutine, phase, stepped.symm⟩))))
  | configure goroutine outcome =>
      rcases phase : machine.phase goroutine <;> rcases cached : machine.cfg with _ | cfg <;>
        simp [step, phase, cached] at stepped
      refine .inr (.inr (.inr (.inr (.inr (.inl ⟨goroutine, outcome, cfg, phase, rfl, ?_⟩)))))
      rw [← stepped]
      simp [cached]
  | unlock goroutine =>
      rcases phase : machine.phase goroutine <;> simp [step, phase] at stepped
      exact .inr (.inr (.inr (.inr (.inr (.inr (.inl ⟨goroutine, _, phase, stepped.symm⟩))))))
  | leave goroutine =>
      rcases phase : machine.phase goroutine <;> simp [step, phase] at stepped
      exact .inr (.inr (.inr (.inr (.inr (.inr (.inr ⟨goroutine, _, phase, stepped.symm⟩))))))

end PenaltyPayment.Config
