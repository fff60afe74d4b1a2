/- What every serial run of `config.Get` does to the cached `cfg`. -/

import PenaltyPayment.Construction.ConfigGet

namespace PenaltyPayment.Config

open Go

variable {Fields : Type} [Inhabited Fields]

/-- From a state whose `cfg` is set, every call returns it and changes nothing. -/
theorem runGet_of_cached {state : GetState Fields} {cached : Ptr} (hit : state.cfg = some cached)
    (outcomes : List (GofigureOutcome Fields)) :
    runGet state outcomes = outcomes.map fun _ => (.ok cached, state) := by
  induction outcomes with
  | nil => rfl
  | cons outcome rest inductionHypothesis =>
      simp [get_of_cached outcome state hit, inductionHypothesis]

theorem runGetState_of_cached {state : GetState Fields} {cached : Ptr}
    (hit : state.cfg = some cached) (outcomes : List (GofigureOutcome Fields)) :
    runGetState state outcomes = state := by
  induction outcomes with
  | nil => rfl
  | cons outcome rest inductionHypothesis =>
      simp [get_of_cached outcome state hit, inductionHypothesis]

/-- A run ends in the state its first call left. -/
theorem runGetState_cons_eq (state : GetState Fields) (first : GofigureOutcome Fields)
    (rest : List (GofigureOutcome Fields)) :
    runGetState state (first :: rest) = (get first state).2 := by
  obtain ⟨cfg, filled⟩ := get_cfg_eq_some first state
  rw [runGetState_cons, runGetState_of_cached filled]

/-- A run is its first call followed by cache hits on the state that call left. -/
theorem runGet_cons_eq (state : GetState Fields) (first : GofigureOutcome Fields)
    (rest : List (GofigureOutcome Fields)) :
    ∃ cfg, (get first state).2.cfg = some cfg ∧
      runGet state (first :: rest) =
        get first state :: rest.map fun _ => (.ok cfg, (get first state).2) := by
  obtain ⟨cfg, filled⟩ := get_cfg_eq_some first state
  exact ⟨cfg, filled, by rw [runGet_cons, runGet_of_cached filled]⟩

/-- A call that returns a nil error returns the `cfg` it leaves behind. -/
theorem get_ok_cfg (outcome : GofigureOutcome Fields) (state : GetState Fields) {cfg : Ptr}
    (returned : (get outcome state).1 = .ok cfg) : (get outcome state).2.cfg = some cfg := by
  rcases get_cases outcome state with ⟨cached, hit, call⟩ | ⟨-, call⟩ <;>
    rw [call] at returned ⊢
  · cases returned
    exact hit
  · rw [configuredResult_eq_ok returned]
    rfl

/-- Every call of a run leaves the state the first call left. -/
theorem runGet_state_eq (state : GetState Fields) (first : GofigureOutcome Fields)
    (rest : List (GofigureOutcome Fields)) :
    ∀ call ∈ runGet state (first :: rest), call.2 = (get first state).2 := by
  obtain ⟨cfg, -, run⟩ := runGet_cons_eq state first rest
  rw [run]
  simp

/-- Every call of a run that returns a nil error returns the `cfg` the first call left. -/
theorem runGet_ok_eq (state : GetState Fields) (first : GofigureOutcome Fields)
    (rest : List (GofigureOutcome Fields)) :
    ∀ call ∈ runGet state (first :: rest), ∀ cfg, call.1 = .ok cfg →
      (get first state).2.cfg = some cfg := by
  obtain ⟨cached, filled, run⟩ := runGet_cons_eq state first rest
  rw [run]
  rintro call (_ | ⟨_, later⟩) cfg returned
  · exact get_ok_cfg first state returned
  · obtain ⟨_, -, rfl⟩ := List.mem_map.mp later
    cases returned
    exact filled

/-- Once `cfg` is set no call changes it, and every nil-error call returns that one object. -/
theorem runGet_cfg_never_changes_once_set (state : GetState Fields)
    (outcomes : List (GofigureOutcome Fields)) :
    (∀ cfg, state.cfg = some cfg → ∀ call ∈ runGet state outcomes, call.2.cfg = some cfg) ∧
      (runGet state outcomes).Pairwise
        (fun earlier later => ∀ cfg, earlier.2.cfg = some cfg → later.2.cfg = some cfg) ∧
      (∀ call ∈ runGet state outcomes, ∀ cfg, call.1 = .ok cfg → call.2.cfg = some cfg) ∧
      (∀ call ∈ runGet state outcomes, ∀ other ∈ runGet state outcomes, ∀ cfg otherCfg,
        call.1 = .ok cfg → other.1 = .ok otherCfg → cfg = otherCfg) := by
  refine ⟨fun cfg hit call member => ?_, ?_⟩
  · rw [runGet_of_cached hit] at member
    obtain ⟨_, -, rfl⟩ := List.mem_map.mp member
    exact hit
  cases outcomes with
  | nil => simp
  | cons first rest =>
      have sameState := runGet_state_eq state first rest
      have sameCfg := runGet_ok_eq state first rest
      refine ⟨List.pairwise_of_forall_mem_list fun earlier inEarlier later inLater cfg set => ?_,
        fun call member cfg returned => sameState call member ▸ sameCfg call member cfg returned,
        fun call member other inOther cfg otherCfg returned otherReturned =>
          Option.some.inj ((sameCfg call member cfg returned).symm.trans
            (sameCfg other inOther otherCfg otherReturned))⟩
      rwa [sameState later inLater, ← sameState earlier inEarlier]

/-- From process start the first call fills `cfg` at address 0; every later call returns it. -/
theorem runGet_initial_eq (first : GofigureOutcome Fields) (rest : List (GofigureOutcome Fields)) :
    (get first GetState.initial).2 = ⟨some ⟨0⟩, [⟨first.fields, first.err.isNone⟩]⟩ ∧
    runGet GetState.initial (first :: rest) =
      get first GetState.initial ::
        rest.map fun _ => (.ok ⟨0⟩, ⟨some ⟨0⟩, [⟨first.fields, first.err.isNone⟩]⟩) := by
  obtain ⟨cfg, filled, run⟩ := runGet_cons_eq (GetState.initial : GetState Fields) first rest
  rw [get_of_nil first _ rfl] at filled run ⊢
  cases filled
  exact ⟨rfl, run⟩

/-- After a failed `Gofigure` the next call returns the unpopulated object with a nil error. -/
theorem get_returns_unpopulated_after_error :
    ¬ ∀ outcomes : List (GofigureOutcome Unit), ∀ call ∈ runGet GetState.initial outcomes,
      ∀ cfg, call.1 = .ok cfg →
        ∃ object, load call.2.heap cfg = some object ∧ object.populated := by
  intro populated
  have second := populated [⟨(), some ⟨"invalid value"⟩⟩, ⟨(), none⟩]
    (.ok ⟨0⟩, ⟨some ⟨0⟩, [⟨(), false⟩]⟩) (.tail _ (.head _)) ⟨0⟩ rfl
  simp [load] at second

/-- The failing run: `Gofigure` fails, then the next call returns the object it left. -/
theorem get_twice_after_gofigure_error :
    runGet GetState.initial [⟨(), some ⟨"invalid value"⟩⟩, ⟨(), none⟩] =
      [(.error ⟨"invalid value"⟩, ⟨some ⟨0⟩, [⟨(), false⟩]⟩),
        (.ok ⟨0⟩, ⟨some ⟨0⟩, [⟨(), false⟩]⟩)] :=
  rfl

end PenaltyPayment.Config
