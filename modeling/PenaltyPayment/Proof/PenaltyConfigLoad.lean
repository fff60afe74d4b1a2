/- The two penalty configuration lists always come from one successful load. -/

import PenaltyPayment.Construction.PenaltyConfig

namespace PenaltyPayment.Config

open Go

variable {Payable : Type} (yaml : YamlUnmarshal Payable)

/-- A call that returns an error leaves the package state exactly as it was. -/
theorem loadPenaltyConfig_error_unchanged (sources : FinanceConfigSources)
    (penaltyConfig : PenaltyConfig Payable) {err : GoError}
    (failed : (loadPenaltyConfig yaml sources penaltyConfig).1 = some err) :
    (loadPenaltyConfig yaml sources penaltyConfig).2 = penaltyConfig := by
  rcases loadPenaltyConfig_cases yaml sources penaltyConfig with ⟨_, _, -, -, call⟩ | ⟨_, call⟩
  · rw [call] at failed
    cases failed
  · rw [call]

/-- The state came from the last nil-error call among `calls`, or is `initial`. -/
def FromLatestLoad (initial : PenaltyConfig Payable) (calls : List (LoadCall Payable))
    (state : PenaltyConfig Payable) : Prop :=
  (state = initial ∧ ∀ call ∈ calls, call.err ≠ none) ∨
    ∃ older loaded newer, calls = older ++ loaded :: newer ∧ loaded.err = none ∧
      (∃ types payables,
        yaml.penaltyTypes loaded.sources.financePenaltyTypes = .ok types ∧
        yaml.payablePenalties loaded.sources.financePayablePenalties = .ok payables ∧
        state = ⟨types.financePenaltyTypes, payables.financePayablePenalties⟩) ∧
      ∀ call ∈ newer, call.err ≠ none

/-- One call in front of a run keeps `FromLatestLoad`, the state it leaves being the new start. -/
theorem fromLatestLoad_cons {initial : PenaltyConfig Payable} (sources : FinanceConfigSources)
    {calls : List (LoadCall Payable)} {state : PenaltyConfig Payable}
    (rest : FromLatestLoad yaml (loadPenaltyConfig yaml sources initial).2 calls state) :
    FromLatestLoad yaml initial
      (⟨sources, (loadPenaltyConfig yaml sources initial).1,
        (loadPenaltyConfig yaml sources initial).2⟩ :: calls) state := by
  rcases rest with ⟨unchanged, allFailed⟩ | ⟨older, loaded, newer, split, returned, parsed, failed⟩
  · rcases loadPenaltyConfig_cases yaml sources initial with
      ⟨types, payables, typesOk, payablesOk, call⟩ | ⟨err, call⟩ <;> rw [call] at unchanged ⊢
    · exact .inr ⟨[], _, calls, rfl, rfl, ⟨types, payables, typesOk, payablesOk, unchanged⟩,
        allFailed⟩
    · refine .inl ⟨unchanged, ?_⟩
      rintro call (_ | ⟨_, later⟩)
      · simp
      · exact allFailed call later
  · exact .inr ⟨_ :: older, loaded, newer, by rw [split]; rfl, returned, parsed, failed⟩

/-- At every point of a run, the state came from the latest call that returned nil. -/
theorem runLoadPenaltyConfig_fromLatestLoad (initial : PenaltyConfig Payable)
    (sources : List FinanceConfigSources) (before after : List (LoadCall Payable))
    (call : LoadCall Payable)
    (split : runLoadPenaltyConfig yaml initial sources = before ++ call :: after) :
    FromLatestLoad yaml initial (before ++ [call]) call.after := by
  induction sources generalizing initial before with
  | nil => simp at split
  | cons first rest inductionHypothesis =>
      rw [runLoadPenaltyConfig_cons] at split
      cases before with
      | nil =>
          obtain ⟨rfl, -⟩ := List.cons.inj split
          exact fromLatestLoad_cons yaml first (.inl ⟨rfl, by simp⟩)
      | cons head before =>
          obtain ⟨rfl, later⟩ := List.cons.inj split
          exact fromLatestLoad_cons yaml first (inductionHypothesis _ before later)

/-- After any run of calls, none included, the state came from the latest call that returned nil. -/
theorem runLoadPenaltyConfigState_fromLatestLoad (initial : PenaltyConfig Payable)
    (sources : List FinanceConfigSources) :
    FromLatestLoad yaml initial (runLoadPenaltyConfig yaml initial sources)
      (runLoadPenaltyConfigState yaml initial sources) := by
  induction sources generalizing initial with
  | nil => exact .inl ⟨rfl, by simp⟩
  | cons first rest inductionHypothesis =>
      exact fromLatestLoad_cons yaml first (inductionHypothesis _)

/-- Both lists always come together from the latest successful load, or are both nil. -/
theorem loadPenaltyConfig_lists_from_one_load (sources : List FinanceConfigSources) :
    (∀ source penaltyConfig err, (loadPenaltyConfig yaml source penaltyConfig).1 = some err →
      (loadPenaltyConfig yaml source penaltyConfig).2 = penaltyConfig) ∧
    (∀ penaltyConfig : PenaltyConfig Payable,
      newConfigurationProvider.getPenaltyTypesConfig penaltyConfig =
          getPenaltyTypesConfig penaltyConfig ∧
        newConfigurationProvider.getPayablePenaltiesConfig penaltyConfig =
          getPayablePenaltiesConfig penaltyConfig) ∧
    ∀ before call after,
      runLoadPenaltyConfig yaml PenaltyConfig.zero sources = before ++ call :: after →
      ((getPenaltyTypesConfig call.after, getPayablePenaltiesConfig call.after) = ([], []) ∧
          ∀ earlier ∈ before ++ [call], earlier.err ≠ none) ∨
        ∃ older loaded newer, before ++ [call] = older ++ loaded :: newer ∧ loaded.err = none ∧
          (∃ types payables,
            yaml.penaltyTypes loaded.sources.financePenaltyTypes = .ok types ∧
            yaml.payablePenalties loaded.sources.financePayablePenalties = .ok payables ∧
            (getPenaltyTypesConfig call.after, getPayablePenaltiesConfig call.after) =
              (types.financePenaltyTypes, payables.financePayablePenalties)) ∧
          ∀ later ∈ newer, later.err ≠ none := by
  refine ⟨fun source penaltyConfig _ failed =>
    loadPenaltyConfig_error_unchanged yaml source penaltyConfig failed,
    fun _ => ⟨rfl, rfl⟩, fun before call after split => ?_⟩
  rcases runLoadPenaltyConfig_fromLatestLoad yaml _ sources before after call split with
    ⟨unchanged, failed⟩ | ⟨older, loaded, newer, calls, returned, ⟨types, payables, typesOk,
      payablesOk, stored⟩, failed⟩
  · exact .inl ⟨by rw [unchanged]; rfl, failed⟩
  · exact .inr ⟨older, loaded, newer, calls, returned,
      ⟨types, payables, typesOk, payablesOk, by rw [stored]; rfl⟩, failed⟩

end PenaltyPayment.Config
