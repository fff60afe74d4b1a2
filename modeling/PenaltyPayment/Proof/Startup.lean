/- How a start of the service ends, step by step in the order of `main`. -/

import PenaltyPayment.Construction.Main

namespace PenaltyPayment.Main

open Config Go

variable {Fields Payable Details Allowed : Type} [Inhabited Fields]

/-- A start that serves left `cfg` pointing at the one populated `Config`. -/
theorem main_eq_serving {env : Environment Fields Payable Details Allowed} {cfg : Ptr}
    {getState : GetState Fields} {penaltyConfig : PenaltyConfig Payable}
    {penaltyDetailsMap : Details} {allowedTransactionsMap : Allowed}
    (served : main env = .serving cfg getState penaltyConfig penaltyDetailsMap
      allowedTransactionsMap) :
    env.gofigure.err = none ∧ cfg = ⟨0⟩ ∧ getState = ⟨some ⟨0⟩, [⟨env.gofigure.fields, true⟩]⟩ := by
  rcases gofigured : env.gofigure.err with _ | err <;>
    simp only [main, get_of_nil env.gofigure (GetState.initial : GetState Fields) rfl, gofigured,
      configuredResult_none, configuredResult_some] at served
  · refine ⟨rfl, ?_⟩
    repeat' split at served
    all_goals cases served
    exact ⟨rfl, by simp [GetState.filled, GetState.initial, gofigured]⟩
  · cases served

end PenaltyPayment.Main
