/- `mtx` makes concurrent calls of `config.Get` a serial run of `get`, in the order of unlocks. -/

import PenaltyPayment.Construction.GetGoroutines
import PenaltyPayment.Proof.ConfigCache

namespace PenaltyPayment.Config

open Go

variable {Fields : Type}

/-- The phases between `mtx.Lock()` and the deferred `mtx.Unlock()`. -/
def Phase.holdsMtx : Phase → Bool
  | .idle | .locking | .returning _ => false
  | _ => true

/-- One if a goroutine in `phase` has released `mtx` and has still to return `result`. -/
def Phase.awaits (phase : Phase) (result : Except GoError Ptr) : Nat :=
  if phase = .returning result then 1 else 0

/-- Every release is matched by its return, or by its goroutine still returning it. -/
def Delivered (machine : Machine Fields) : Prop :=
  ∀ entry, machine.returned.countP (· = entry) + (machine.phase entry.1).awaits entry.2 =
    machine.released.countP (· = entry)

/-- The part of the machine that the atomic `get` sees. -/
def Machine.toGetState (machine : Machine Fields) : GetState Fields :=
  ⟨machine.cfg, machine.heap⟩

theorem Phase.awaits_of_holdsMtx {phase : Phase} (inside : phase.holdsMtx = true)
    (result : Except GoError Ptr) : phase.awaits result = 0 := by
  cases phase <;> simp_all [Phase.awaits, Phase.holdsMtx]

section Delivered

variable {machine : Machine Fields} (delivered : Delivered machine)
include delivered

/-- A step that returns nothing, before or after, keeps every release matched. -/
theorem Delivered.setPhase {goroutine : Nat} {phase : Phase}
    (before : ∀ result, (machine.phase goroutine).awaits result = 0)
    (after : ∀ result, phase.awaits result = 0) :
    Delivered (machine.setPhase goroutine phase) := by
  rintro ⟨other, result⟩
  by_cases same : other = goroutine
  · subst same
    simpa [before, after] using delivered (other, result)
  · simpa [Machine.setPhase_phase_of_ne _ _ same] using delivered (other, result)

/-- The deferred unlock records a release that its goroutine has still to return. -/
theorem Delivered.release {goroutine : Nat} {result : Except GoError Ptr}
    (unlocking : machine.phase goroutine = .unlocking result) :
    Delivered { machine.setPhase goroutine (.returning result) with
      mtx := none, released := machine.released ++ [(goroutine, result)] } := by
  rintro ⟨other, result'⟩
  have before := delivered (other, result')
  by_cases same : other = goroutine
  · subst same
    by_cases equal : result = result' <;>
      simp_all [Phase.awaits]
  · simpa [Machine.setPhase_phase_of_ne _ _ same, Ne.symm same] using before

/-- The return matches the release its goroutine was returning. -/
theorem Delivered.deliver {goroutine : Nat} {result : Except GoError Ptr}
    (returning : machine.phase goroutine = .returning result) :
    Delivered { machine.setPhase goroutine .idle with
      returned := machine.returned ++ [(goroutine, result)] } := by
  rintro ⟨other, result'⟩
  have before := delivered (other, result')
  by_cases same : other = goroutine
  · subst same
    by_cases equal : result = result' <;>
      simp_all [Phase.awaits]
  · simpa [Machine.setPhase_phase_of_ne _ _ same, Ne.symm same] using before

/-- The results returned so far are, up to order, among the releases. -/
theorem Delivered.subperm : machine.returned.Subperm machine.released :=
  List.subperm_ext_iff.mpr fun entry _ => Nat.le.intro (delivered entry)

end Delivered

variable [Inhabited Fields]

/-- What the goroutine holding `mtx` has done so far to the state `base` its call started from. -/
def Pending (base now : GetState Fields) : Phase → Prop
  | .checking => now = base
  | .allocating => now = base ∧ base.cfg = none
  | .configuring =>
      base.cfg = none ∧ now = ⟨some ⟨base.heap.length⟩, base.heap ++ [⟨default, false⟩]⟩
  | .unlocking result => ∃ outcome, get outcome base = (result, now)
  | .idle | .locking | .returning _ => False

/-- The machine is a serial run of `get` over `outcomes`, with only the holder's call under way. -/
structure Serializes (machine : Machine Fields) (outcomes : List (GofigureOutcome Fields)) :
    Prop where
  released : machine.released.map Prod.snd = (runGet GetState.initial outcomes).map Prod.fst
  delivered : Delivered machine
  holder : ∀ goroutine, (machine.phase goroutine).holdsMtx = true ↔ machine.mtx = some goroutine
  free : machine.mtx = none → machine.toGetState = runGetState GetState.initial outcomes
  held : ∀ goroutine, machine.mtx = some goroutine →
    Pending (runGetState GetState.initial outcomes) machine.toGetState (machine.phase goroutine)

/-- Once the base has `cfg` set, no progress of the call in the section changes it. -/
theorem Pending.cfg_eq {base now : GetState Fields} {phase : Phase} {cfg : Ptr}
    (hit : base.cfg = some cfg) (pending : Pending base now phase) : now.cfg = some cfg := by
  cases phase with
  | checking => rw [show now = base from pending, hit]
  | allocating => exact absurd pending.2 (by simp [hit])
  | configuring => exact absurd pending.1 (by simp [hit])
  | unlocking result =>
      obtain ⟨outcome, call⟩ := pending
      rw [get_of_cached _ _ hit, Prod.mk.injEq] at call
      rw [← call.2, hit]
  | idle | locking | returning _ => exact pending.elim

theorem serializes_initial : Serializes (Machine.initial : Machine Fields) [] where
  released := rfl
  delivered := by simp [Delivered, Machine.initial, Phase.awaits]
  holder := by simp [Machine.initial, Phase.holdsMtx]
  free := fun _ => rfl
  held := by simp [Machine.initial]

section Step

variable {machine : Machine Fields} {outcomes : List (GofigureOutcome Fields)}
  (serial : Serializes machine outcomes)
include serial

/-- A goroutine that is idle or waiting for the lock does not hold it. -/
theorem Serializes.ne_holder {goroutine holder : Nat}
    (outside : (machine.phase goroutine).holdsMtx = false) (holds : machine.mtx = some holder) :
    goroutine ≠ holder := by
  rintro rfl
  simp [(serial.holder goroutine).mpr holds] at outside

/-- A step outside `mtx`'s section that changes neither the shared state nor the releases. -/
theorem Serializes.outside {next : Machine Fields} {goroutine : Nat} {phase : Phase}
    (outside : (machine.phase goroutine).holdsMtx = false)
    (sameState : next.toGetState = machine.toGetState) (sameMtx : next.mtx = machine.mtx)
    (sameReleased : next.released = machine.released)
    (phases : next.phase = Function.update machine.phase goroutine phase)
    (staysOut : phase.holdsMtx = false) (delivered : Delivered next) :
    Serializes next outcomes := by
  refine ⟨sameReleased ▸ serial.released, delivered, fun other => ?_,
    fun free => sameState ▸ serial.free (sameMtx ▸ free), fun other holds => ?_⟩
  · by_cases same : other = goroutine
    · subst same
      rw [phases, Function.update_same, staysOut, sameMtx, ← serial.holder other, outside]
    · rw [phases, Function.update_noteq same, sameMtx]
      exact serial.holder other
  · rw [sameMtx] at holds
    rw [phases, Function.update_noteq (serial.ne_holder outside holds).symm, sameState]
    exact serial.held other holds

/-- A step of the holder that keeps it in the section and its progress pending on the same base. -/
theorem Serializes.within {next : Machine Fields} {goroutine : Nat} {phase : Phase}
    (inside : (machine.phase goroutine).holdsMtx = true)
    (sameMtx : next.mtx = machine.mtx) (sameReleased : next.released = machine.released)
    (sameReturned : next.returned = machine.returned)
    (phases : next.phase = Function.update machine.phase goroutine phase)
    (stays : phase.holdsMtx = true)
    (pending : Pending (runGetState GetState.initial outcomes) machine.toGetState
        (machine.phase goroutine) →
      Pending (runGetState GetState.initial outcomes) next.toGetState phase) :
    Serializes next outcomes := by
  have holds := (serial.holder goroutine).mp inside
  have delivered : Delivered (machine.setPhase goroutine phase) :=
    serial.delivered.setPhase (Phase.awaits_of_holdsMtx inside) (Phase.awaits_of_holdsMtx stays)
  refine ⟨sameReleased ▸ serial.released, fun entry => ?_, fun other => ?_, fun free => ?_,
    fun other holdsOther => ?_⟩
  · rw [sameReturned, sameReleased, phases]
    exact delivered entry
  · by_cases same : other = goroutine
    · subst same
      simp [phases, sameMtx, holds, stays]
    · simp [phases, sameMtx, same, serial.holder other]
  · simp [sameMtx, holds] at free
  · rw [sameMtx, holds, Option.some.injEq] at holdsOther
    subst holdsOther
    simpa [phases] using pending (serial.held _ holds)

theorem Serializes.lock {goroutine : Nat} (waiting : machine.phase goroutine = .locking)
    (unlocked : machine.mtx = none) :
    Serializes { machine.setPhase goroutine .checking with mtx := some goroutine } outcomes := by
  refine ⟨serial.released,
    serial.delivered.setPhase (by simp [waiting, Phase.awaits]) (by simp [Phase.awaits]),
    fun other => ?_, fun locked => by simp at locked, fun other holds => ?_⟩
  · by_cases same : other = goroutine
    · subst same
      simp [Phase.holdsMtx]
    · have outside := serial.holder other
      simp only [unlocked, reduceCtorEq, iff_false, Bool.not_eq_true] at outside
      simp [Machine.setPhase_phase_of_ne _ _ same, outside, Ne.symm same]
  · simp only [Option.some.injEq] at holds
    subst holds
    simp only [Machine.setPhase, Function.update_same, Pending]
    exact serial.free unlocked

/-- The deferred unlock ends the holder's call: the serial run is one call longer. -/
theorem Serializes.unlock {goroutine : Nat} {result : Except GoError Ptr}
    (unlocking : machine.phase goroutine = .unlocking result) :
    ∃ outcomes', Serializes { machine.setPhase goroutine (.returning result) with
      mtx := none, released := machine.released ++ [(goroutine, result)] } outcomes' := by
  have holds := (serial.holder goroutine).mp (by simp [unlocking, Phase.holdsMtx])
  have pending := serial.held goroutine holds
  rw [unlocking] at pending
  obtain ⟨outcome, call⟩ := pending
  refine ⟨outcomes ++ [outcome], ?_, serial.delivered.release unlocking, fun other => ?_,
    fun _ => ?_, fun _ locked => by simp at locked⟩
  · simp [runGet_append_singleton, serial.released, call]
  · by_cases same : other = goroutine
    · subst same
      simp [Phase.holdsMtx]
    · have outside := serial.holder other
      simp only [holds, Option.some.injEq, Ne.symm same, iff_false] at outside
      simp [Machine.setPhase_phase_of_ne _ _ same, outside]
  · simp [runGetState_append_singleton, call, Machine.toGetState]

/-- Every step keeps the machine a serial run of `get`, one call longer after an unlock. -/
theorem Serializes.after_step {next : Machine Fields} {action : Action Fields}
    (stepped : step machine action = some next) : ∃ outcomes', Serializes next outcomes' := by
  rcases step_cases stepped with ⟨goroutine, phase, rfl⟩ | ⟨goroutine, phase, unlocked, rfl⟩ |
    ⟨goroutine, cfg, phase, cached, rfl⟩ | ⟨goroutine, phase, miss, rfl⟩ |
    ⟨goroutine, phase, rfl⟩ | ⟨goroutine, outcome, cfg, phase, cached, rfl⟩ |
    ⟨goroutine, result, phase, rfl⟩ | ⟨goroutine, result, phase, rfl⟩
  · exact ⟨outcomes, serial.outside (by simp [phase, Phase.holdsMtx]) rfl rfl rfl rfl rfl
      (serial.delivered.setPhase (by simp [phase, Phase.awaits]) (by simp [Phase.awaits]))⟩
  · exact ⟨outcomes, serial.lock phase unlocked⟩
  · refine ⟨outcomes, serial.within (by simp [phase, Phase.holdsMtx]) rfl rfl rfl rfl rfl ?_⟩
    rw [phase]
    intro (same : machine.toGetState = _)
    refine ⟨⟨default, none⟩, ?_⟩
    rw [← same, get_of_cached _ _ cached]
    rfl
  · refine ⟨outcomes, serial.within (by simp [phase, Phase.holdsMtx]) rfl rfl rfl rfl rfl ?_⟩
    rw [phase]
    intro (same : machine.toGetState = _)
    exact ⟨same, by rw [← same]; exact miss⟩
  · refine ⟨outcomes, serial.within (by simp [phase, Phase.holdsMtx]) rfl rfl rfl rfl rfl ?_⟩
    rw [phase]
    rintro ⟨same, miss⟩
    refine ⟨miss, ?_⟩
    rw [← same]
    rfl
  · refine ⟨outcomes, serial.within (by simp [phase, Phase.holdsMtx]) rfl rfl rfl rfl rfl ?_⟩
    rw [phase]
    rintro ⟨miss, allocated⟩
    have fresh : cfg = ⟨(runGetState GetState.initial outcomes).heap.length⟩ :=
      Option.some.inj (cached.symm.trans (congrArg GetState.cfg allocated))
    have zeroed : machine.heap = (runGetState GetState.initial outcomes).heap ++
        [⟨default, false⟩] := congrArg GetState.heap allocated
    refine ⟨outcome, ?_⟩
    rw [get_of_nil _ _ miss, fresh]
    simp [Machine.toGetState, GetState.filled, gofigure, zeroed, fresh, cached]
  · exact serial.unlock phase
  · exact ⟨outcomes, serial.outside (by simp [phase, Phase.holdsMtx]) rfl rfl rfl rfl rfl
      (serial.delivered.deliver phase)⟩

/-- Once the serial run has set `cfg`, the machine's `cfg` is that pointer. -/
theorem Serializes.cfg_eq {cfg : Ptr}
    (hit : (runGetState GetState.initial outcomes).cfg = some cfg) : machine.cfg = some cfg := by
  rcases locked : machine.mtx with _ | holder
  · rw [← hit, ← serial.free locked]
    rfl
  · exact (serial.held holder locked).cfg_eq hit

/-- Every nil-error release returns the pointer that the first serial call left in `cfg`. -/
theorem Serializes.released_ok {goroutine : Nat} {cfg : Ptr}
    (released : (goroutine, .ok cfg) ∈ machine.released) :
    ∃ first rest, outcomes = first :: rest ∧ (get first GetState.initial).2.cfg = some cfg ∧
      machine.cfg = some cfg := by
  have member : Except.ok cfg ∈ (runGet GetState.initial outcomes).map Prod.fst :=
    serial.released ▸ List.mem_map.mpr ⟨_, released, rfl⟩
  cases outcomes with
  | nil => simp at member
  | cons first rest =>
      obtain ⟨call, inRun, isOk⟩ := List.mem_map.mp member
      have filled := runGet_ok_eq GetState.initial first rest call inRun cfg isOk
      exact ⟨first, rest, rfl, filled, serial.cfg_eq (by rw [runGetState_cons_eq]; exact filled)⟩

/-- No step changes a `cfg` that is set: the holder allocates only after it found `cfg` nil. -/
theorem Serializes.step_cfg {next : Machine Fields} {action : Action Fields} {cfg : Ptr}
    (cached : machine.cfg = some cfg) (stepped : step machine action = some next) :
    next.cfg = some cfg := by
  rcases step_cases stepped with ⟨_, _, rfl⟩ | ⟨_, _, _, rfl⟩ | ⟨_, _, _, _, rfl⟩ |
    ⟨_, _, _, rfl⟩ | ⟨goroutine, phase, rfl⟩ | ⟨_, _, _, _, _, rfl⟩ | ⟨_, _, _, rfl⟩ |
    ⟨_, _, _, rfl⟩ <;> try exact cached
  have pending := serial.held goroutine
    ((serial.holder goroutine).mp (by simp [phase, Phase.holdsMtx]))
  rw [phase] at pending
  obtain ⟨same, miss⟩ := pending
  rw [← same] at miss
  simp [Machine.toGetState, cached] at miss

end Step

/-- Every machine that some interleaving reaches is a serial run of `get`. -/
theorem Reachable.serializes {machine : Machine Fields} (reach : Reachable machine) :
    ∃ outcomes, Serializes machine outcomes := by
  induction reach with
  | initial => exact ⟨[], serializes_initial⟩
  | step _ stepped inductionHypothesis =>
      obtain ⟨outcomes, serial⟩ := inductionHypothesis
      exact serial.after_step stepped

/-- Calls of `Get`, in the order they released `mtx`, are a serial run of `get`. -/
theorem reachable_returns_serial_run {machine : Machine Fields} (reach : Reachable machine) :
    ∃ outcomes : List (GofigureOutcome Fields),
      machine.released.map Prod.snd = (runGet GetState.initial outcomes).map Prod.fst ∧
      machine.returned.Subperm machine.released ∧
      (machine.mtx = none → machine.cfg = (runGetState GetState.initial outcomes).cfg ∧
        machine.heap = (runGetState GetState.initial outcomes).heap) := by
  obtain ⟨outcomes, serial⟩ := reach.serializes
  refine ⟨outcomes, serial.released, serial.delivered.subperm, fun unlocked => ?_⟩
  have same := serial.free unlocked
  exact ⟨congrArg GetState.cfg same, congrArg GetState.heap same⟩

/-- Goroutine 0's `Gofigure` fails; goroutine 1 then hits the cache and returns first. -/
def concurrentFailedGet : List (Action Unit) :=
  [.call 0, .call 1, .lock 0, .check 0, .allocate 0, .configure 0 ⟨(), some ⟨"invalid value"⟩⟩,
    .unlock 0, .lock 1, .check 1, .unlock 1, .leave 1, .leave 0]

theorem concurrentFailedGet_returns_serial_run :
    ∃ machine, execute Machine.initial concurrentFailedGet = some machine ∧ Reachable machine ∧
      ∃ outcomes : List (GofigureOutcome Unit),
        machine.released.map Prod.snd = (runGet GetState.initial outcomes).map Prod.fst ∧
        machine.returned.Subperm machine.released ∧
        (machine.mtx = none → machine.cfg = (runGetState GetState.initial outcomes).cfg ∧
          machine.heap = (runGetState GetState.initial outcomes).heap) :=
  have reach := Reachable.execute .initial (rfl : execute Machine.initial concurrentFailedGet = _)
  ⟨_, rfl, reach, reachable_returns_serial_run reach⟩

/-- `mtx` excludes: at most one goroutine is in its section, and `mtx` names it. -/
theorem reachable_one_goroutine_in_get {machine : Machine Fields} (reach : Reachable machine) :
    ∀ goroutine other, (machine.phase goroutine).holdsMtx = true →
      (machine.phase other).holdsMtx = true → goroutine = other ∧ machine.mtx = some goroutine := by
  obtain ⟨outcomes, serial⟩ := reach.serializes
  intro goroutine other inside otherInside
  have holds := (serial.holder goroutine).mp inside
  rw [(serial.holder other).mp otherInside, Option.some.injEq] at holds
  exact ⟨holds.symm, holds ▸ (serial.holder other).mp otherInside⟩

theorem concurrentFailedGet_one_goroutine_in_get :
    ∃ machine, execute Machine.initial concurrentFailedGet = some machine ∧ Reachable machine ∧
      ∀ goroutine other, (machine.phase goroutine).holdsMtx = true →
        (machine.phase other).holdsMtx = true → goroutine = other ∧
          machine.mtx = some goroutine :=
  have reach := Reachable.execute .initial (rfl : execute Machine.initial concurrentFailedGet = _)
  ⟨_, rfl, reach, reachable_one_goroutine_in_get reach⟩

/-- Every nil error from `Get` comes with the pointer in `cfg`, and no step changes a set `cfg`. -/
theorem reachable_cfg_never_changes {machine : Machine Fields} (reach : Reachable machine) :
    (∀ goroutine other cfg otherCfg, (goroutine, .ok cfg) ∈ machine.returned →
      (other, .ok otherCfg) ∈ machine.returned → cfg = otherCfg ∧ machine.cfg = some cfg) ∧
    (∀ cfg actions next, machine.cfg = some cfg → execute machine actions = some next →
      next.cfg = some cfg) := by
  refine ⟨fun goroutine other cfg otherCfg returned otherReturned => ?_,
    fun cfg actions => ?_⟩
  · obtain ⟨outcomes, serial⟩ := reach.serializes
    have released := serial.delivered.subperm.subset
    obtain ⟨first, rest, rfl, filled, current⟩ := serial.released_ok (released returned)
    obtain ⟨first', rest', same, otherFilled, -⟩ := serial.released_ok (released otherReturned)
    cases same
    rw [filled, Option.some.injEq] at otherFilled
    exact ⟨otherFilled, current⟩
  · induction actions generalizing machine with
    | nil =>
        intro next cached ran
        cases ran
        exact cached
    | cons action rest inductionHypothesis =>
        intro next cached ran
        simp only [execute, Option.bind_eq_some] at ran
        obtain ⟨middle, stepped, ran⟩ := ran
        obtain ⟨outcomes, serial⟩ := reach.serializes
        exact inductionHypothesis (reach.step stepped) next (serial.step_cfg cached stepped) ran

theorem concurrentFailedGet_cfg_never_changes :
    ∃ machine, execute Machine.initial concurrentFailedGet = some machine ∧ Reachable machine ∧
      (∀ goroutine other cfg otherCfg, (goroutine, .ok cfg) ∈ machine.returned →
        (other, .ok otherCfg) ∈ machine.returned → cfg = otherCfg ∧ machine.cfg = some cfg) ∧
      (∀ cfg actions next, machine.cfg = some cfg → execute machine actions = some next →
        next.cfg = some cfg) :=
  have reach := Reachable.execute .initial (rfl : execute Machine.initial concurrentFailedGet = _)
  ⟨_, rfl, reach, reachable_cfg_never_changes reach⟩

end PenaltyPayment.Config
