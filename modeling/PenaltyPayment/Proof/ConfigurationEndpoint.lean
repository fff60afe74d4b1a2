/- What the configuration endpoint serves at any point: the lists of the latest successful load. -/

import PenaltyPayment.Construction.Configuration
import PenaltyPayment.Proof.PenaltyConfigLoad

namespace PenaltyPayment.Handlers

open Config Go

variable {Payable : Type} (yaml : YamlUnmarshal Payable)

/-- `data` is the list `configType` names, of a state the latest successful load left. -/
def ServedFromLatestLoad (calls : List (LoadCall Payable)) (configType : String)
    (data : ConfigData Payable) : Prop :=
  ∃ state, FromLatestLoad yaml PenaltyConfig.zero calls state ∧
    (configType = "penaltyTypesConfig" ∧ data = .penaltyTypesConfig state.penaltyTypesConfig ∨
      configType = "payablePenaltiesConfig" ∧
        data = .payablePenaltiesConfig state.payablePenaltiesConfig)

/-- After any run of loads a `ConfigResponse` is 200 with its `type`'s list of the latest one. -/
theorem configuration_serves_latest_load (sources : List FinanceConfigSources)
    (encode : ConfigResponse Payable → Option GoError) (configType : String)
    (response : ConfigResponse Payable)
    (served : (handleConfiguration newConfigurationProvider encode
      (runLoadPenaltyConfigState yaml PenaltyConfig.zero sources) configType).body =
        .config response) :
    (handleConfiguration newConfigurationProvider encode
        (runLoadPenaltyConfigState yaml PenaltyConfig.zero sources) configType).status =
        statusOK ∧ response.type = configType ∧
      ServedFromLatestLoad yaml (runLoadPenaltyConfig yaml PenaltyConfig.zero sources) configType
        response.data := by
  rcases handleConfiguration_cases newConfigurationProvider encode
      (runLoadPenaltyConfigState yaml PenaltyConfig.zero sources) configType with
    ⟨-, invalid⟩ | ⟨data, named, valid⟩
  · rw [invalid] at served
    cases served
  rw [valid] at served ⊢
  obtain ⟨rfl, ok⟩ := encodeResponse_body_config served
  exact ⟨ok, rfl, _, runLoadPenaltyConfigState_fromLatestLoad yaml _ sources,
    configDataFor_eq_some named⟩

/-- One load of a payable penalties document holding one entry, then a request for it. -/
theorem configuration_serves_latest_load_after_one_load :
    let yaml : YamlUnmarshal Unit := ⟨fun _ => .ok ⟨[]⟩, fun _ => .ok ⟨[()]⟩⟩
    let response : ConfigResponse Unit := ⟨"payablePenaltiesConfig", .payablePenaltiesConfig [()]⟩
    (handleConfiguration newConfigurationProvider (fun _ => none)
        (runLoadPenaltyConfigState yaml PenaltyConfig.zero [⟨[], []⟩])
        "payablePenaltiesConfig").body = .config response ∧
      (handleConfiguration newConfigurationProvider (fun _ => none)
          (runLoadPenaltyConfigState yaml PenaltyConfig.zero [⟨[], []⟩])
          "payablePenaltiesConfig").status = statusOK ∧
        response.type = "payablePenaltiesConfig" ∧
        ServedFromLatestLoad yaml (runLoadPenaltyConfig yaml PenaltyConfig.zero [⟨[], []⟩])
          "payablePenaltiesConfig" response.data := by
  intro yaml response
  exact ⟨rfl, configuration_serves_latest_load yaml [⟨[], []⟩] (fun _ => none)
    "payablePenaltiesConfig" response rfl⟩

end PenaltyPayment.Handlers
