/- No goroutine can be stuck in `config.Get`: some schedule lets it return. -/

import PenaltyPayment.Proof.GetLinearizable

namespace PenaltyPayment.Config

open Go

variable {Fields : Type} [Inhabited Fields]

/-- The holder of `mtx` releases it in at most four steps of its own, leaving `cfg` set. -/
theorem Serializes.holder_releases {machine : Machine Fields}
    {outcomes : List (GofigureOutcome Fields)} (serial : Serializes machine outcomes)
    {goroutine : Nat} (holds : machine.mtx = some goroutine) (outcome : GofigureOutcome Fields) :
    ∃ actions next result, actions.length ≤ 4 ∧ execute machine actions = some next ∧
      next.mtx = none ∧ next.cfg.isSome ∧
      next.phase = Function.update machine.phase goroutine (.returning result) ∧
      next.returned = machine.returned := by
  have inside := (serial.holder goroutine).mpr holds
  have pending := serial.held goroutine holds
  rcases phase : machine.phase goroutine with _ | _ | _ | _ | _ | result | _
  case checking =>
    rcases cached : machine.cfg with _ | cfg
    · refine ⟨[.check goroutine, .allocate goroutine, .configure goroutine outcome,
        .unlock goroutine], ?_⟩
      simp [execute, step, phase, cached, Machine.setPhase]
      exact ⟨_, rfl⟩
    · refine ⟨[.check goroutine, .unlock goroutine], ?_⟩
      simp [execute, step, phase, cached, Machine.setPhase]
      exact ⟨_, rfl⟩
  case allocating =>
    refine ⟨[.allocate goroutine, .configure goroutine outcome, .unlock goroutine], ?_⟩
    simp [execute, step, phase, Machine.setPhase]
    exact ⟨_, rfl⟩
  case configuring =>
    rw [phase] at pending
    have cached : machine.cfg = some _ := congrArg GetState.cfg pending.2
    refine ⟨[.configure goroutine outcome, .unlock goroutine], ?_⟩
    simp [execute, step, phase, cached, Machine.setPhase]
    exact ⟨_, rfl⟩
  case unlocking =>
    rw [phase] at pending
    obtain ⟨called, call⟩ := pending
    obtain ⟨cfg, cached⟩ := get_cfg_eq_some called (runGetState GetState.initial outcomes)
    rw [call] at cached
    refine ⟨[.unlock goroutine], ?_⟩
    simp [execute, step, phase, Machine.setPhase, show machine.cfg = some cfg from cached]
    exact ⟨_, rfl⟩
  all_goals simp [phase, Phase.holdsMtx] at inside

/-- A goroutine past the deferred unlock returns in one step. -/
theorem leave_returns {machine : Machine Fields} {goroutine : Nat}
    {result : Except GoError Ptr} (returning : machine.phase goroutine = .returning result) :
    ∃ next, execute machine [.leave goroutine] = some next ∧ next.phase goroutine = .idle ∧
      next.returned = machine.returned ++ [(goroutine, result)] := by
  simp [execute, step, returning]

/-- The holder of `mtx` returns in at most five steps of its own. -/
theorem Serializes.holder_returns {machine : Machine Fields}
    {outcomes : List (GofigureOutcome Fields)} (serial : Serializes machine outcomes)
    {goroutine : Nat} (holds : machine.mtx = some goroutine) (outcome : GofigureOutcome Fields) :
    ∃ actions next result, actions.length ≤ 5 ∧ execute machine actions = some next ∧
      next.phase goroutine = .idle ∧ next.returned = machine.returned ++ [(goroutine, result)] := by
  obtain ⟨actions, released, result, short, ran, -, -, phases, returned⟩ :=
    serial.holder_releases holds outcome
  obtain ⟨next, ran', idle, returned'⟩ :=
    leave_returns (show released.phase goroutine = .returning result by simp [phases])
  refine ⟨actions ++ [.leave goroutine], next, result, by simp; omega, ?_, idle, ?_⟩
  · rw [execute_append, ran]
    exact ran'
  · rw [returned', returned]

/-- A goroutine waiting at `mtx.Lock()` while `mtx` is free takes it and returns. -/
theorem Serializes.waiting_returns {machine : Machine Fields}
    {outcomes : List (GofigureOutcome Fields)} (serial : Serializes machine outcomes)
    {goroutine : Nat} (unlocked : machine.mtx = none)
    (waiting : machine.phase goroutine = .locking) (outcome : GofigureOutcome Fields) :
    ∃ actions next result, actions.length ≤ 6 ∧ execute machine actions = some next ∧
      next.phase goroutine = .idle ∧ next.returned = machine.returned ++ [(goroutine, result)] := by
  obtain ⟨actions, next, result, short, ran, idle, returned⟩ :=
    (serial.lock waiting unlocked).holder_returns rfl outcome
  refine ⟨.lock goroutine :: actions, next, result, by simp [short], ?_, idle, returned⟩
  simpa [execute, step, waiting, unlocked] using ran

/-- With `cfg` set and `mtx` free, a waiting goroutine returns `cfg` in four steps. -/
theorem cached_call_returns {machine : Machine Fields} {goroutine : Nat} {cfg : Ptr}
    (unlocked : machine.mtx = none) (cached : machine.cfg = some cfg)
    (waiting : machine.phase goroutine = .locking) :
    ∃ next, execute machine [.lock goroutine, .check goroutine, .unlock goroutine,
        .leave goroutine] = some next ∧ next.phase goroutine = .idle ∧
      next.returned = machine.returned ++ [(goroutine, .ok cfg)] := by
  simp [execute, step, unlocked, cached, waiting]

/-- A goroutine in `Get` that does not hold `mtx` waits at `mtx.Lock()` or is returning. -/
theorem Serializes.outside_of_ne_holder {machine : Machine Fields}
    {outcomes : List (GofigureOutcome Fields)} (serial : Serializes machine outcomes)
    {goroutine : Nat} (inGet : machine.phase goroutine ≠ .idle)
    (notHolder : machine.mtx ≠ some goroutine) :
    machine.phase goroutine = .locking ∨ ∃ result, machine.phase goroutine = .returning result := by
  have outside := mt (serial.holder goroutine).mp notHolder
  cases phase : machine.phase goroutine <;> simp_all [Phase.holdsMtx]

/-- No goroutine can be stuck in `Get`: some schedule of at most nine steps lets it return. -/
theorem reachable_call_returns {machine : Machine Fields} (reach : Reachable machine)
    {goroutine : Nat} (inGet : machine.phase goroutine ≠ .idle) (outcome : GofigureOutcome Fields) :
    ∃ actions next result, actions.length ≤ 9 ∧ execute machine actions = some next ∧
      next.phase goroutine = .idle ∧ next.returned.getLast? = some (goroutine, result) := by
  obtain ⟨outcomes, serial⟩ := reach.serializes
  by_cases holds : machine.mtx = some goroutine
  · obtain ⟨actions, next, result, short, ran, idle, returned⟩ :=
      serial.holder_returns holds outcome
    exact ⟨actions, next, result, by omega, ran, idle, by simp [returned]⟩
  rcases serial.outside_of_ne_holder inGet holds with waiting | ⟨result, returning⟩
  · rcases locked : machine.mtx with _ | holder
    · obtain ⟨actions, next, result, short, ran, idle, returned⟩ :=
        serial.waiting_returns locked waiting outcome
      exact ⟨actions, next, result, by omega, ran, idle, by simp [returned]⟩
    -- the holder releases `mtx` with `cfg` set, then the waiting goroutine hits the cache
    have other : goroutine ≠ holder := by
      rintro rfl
      exact holds locked
    obtain ⟨first, released, _, short, ran, unlocked, filled, phases, -⟩ :=
      serial.holder_releases locked outcome
    obtain ⟨cfg, cached⟩ := Option.isSome_iff_exists.mp filled
    obtain ⟨next, ran', idle, returned⟩ := cached_call_returns unlocked cached
      (show released.phase goroutine = .locking by simp [phases, other, waiting])
    refine ⟨first ++ [.lock goroutine, .check goroutine, .unlock goroutine, .leave goroutine], next,
      .ok cfg, by simp; omega, ?_, idle, by simp [returned]⟩
    rw [execute_append, ran]
    exact ran'
  · obtain ⟨next, ran, idle, returned⟩ := leave_returns returning
    exact ⟨_, next, result, by simp, ran, idle, by simp [returned]⟩

/-- Goroutine 0 holds `mtx` and goroutine 1 waits at `mtx.Lock()`. -/
def lockedOutGet : List (Action Unit) :=
  [.call 0, .call 1, .lock 0]

theorem lockedOutGet_call_returns :
    ∃ machine, execute Machine.initial lockedOutGet = some machine ∧ Reachable machine ∧
      machine.phase 1 ≠ .idle ∧ ∃ actions next result, actions.length ≤ 9 ∧
        execute machine actions = some next ∧ next.phase 1 = .idle ∧
        next.returned.getLast? = some (1, result) :=
  have reach := Reachable.execute .initial (rfl : execute Machine.initial lockedOutGet = _)
  have waiting : Phase.locking ≠ .idle := nofun
  ⟨_, rfl, reach, waiting, reachable_call_returns reach waiting ⟨(), some ⟨"invalid value"⟩⟩⟩

end PenaltyPayment.Config
