/- `HandleConfiguration`: the endpoint that serves the penalty list the query `type` names. -/

import PenaltyPayment.Construction.PenaltyConfig

namespace PenaltyPayment.Handlers

open Config Go

/-- The `Data` of a `ConfigResponse`: an `interface{}` holding one of the two lists. -/
inductive ConfigData (Payable : Type) where
  | penaltyTypesConfig (config : List FinancePenaltyTypeConfig)
  | payablePenaltiesConfig (config : List Payable)
  deriving DecidableEq, Repr

structure ConfigResponse (Payable : Type) where
  type : String
  data : ConfigData Payable
  deriving DecidableEq, Repr

/-- The body: the encoded `ConfigResponse`, or a `models.MessageResponse`. -/
inductive ResponseBody (Payable : Type) where
  | config (response : ConfigResponse Payable)
  | message (message : String)
  deriving DecidableEq, Repr

/-- The `Content-Type` header, the status and the body the handler writes. -/
structure HttpResponse (Payable : Type) where
  contentType : String
  status : Nat
  body : ResponseBody Payable
  deriving DecidableEq, Repr

def statusOK : Nat := 200

def statusBadRequest : Nat := 400

def statusInternalServerError : Nat := 500

variable {Payable : Type}

/-- `utils.WriteJSONWithStatus(w, r, models.NewMessageResponse(message), status)`. -/
def writeJSONWithStatus (message : String) (status : Nat) : HttpResponse Payable :=
  ⟨"application/json", status, .message message⟩

/-- `json.NewEncoder(w).Encode(response)`, whose error is an input; status 200 by default. -/
def encodeResponse (encode : ConfigResponse Payable → Option GoError)
    (response : ConfigResponse Payable) : HttpResponse Payable :=
  match encode response with
  | some _ =>
      writeJSONWithStatus "there was a problem encoding the configuration data"
        statusInternalServerError
  | none => ⟨"application/json", statusOK, .config response⟩

/-- The `http.HandlerFunc` of `HandleConfiguration(cfg)` for the query parameter `type`. -/
def handleConfiguration (cfg : PenaltyConfigProvider Payable)
    (encode : ConfigResponse Payable → Option GoError) (penaltyConfig : PenaltyConfig Payable)
    (configType : String) : HttpResponse Payable :=
  match configType with
  | "penaltyTypesConfig" =>
      encodeResponse encode
        ⟨configType, .penaltyTypesConfig (cfg.getPenaltyTypesConfig penaltyConfig)⟩
  | "payablePenaltiesConfig" =>
      encodeResponse encode
        ⟨configType, .payablePenaltiesConfig (cfg.getPayablePenaltiesConfig penaltyConfig)⟩
  | _ => writeJSONWithStatus "invalid configuration type supplied" statusBadRequest

/-- The data the handler answers a `type` with: the provider's list of that name. -/
def configDataFor (cfg : PenaltyConfigProvider Payable) (penaltyConfig : PenaltyConfig Payable) :
    String → Option (ConfigData Payable)
  | "penaltyTypesConfig" => some (.penaltyTypesConfig (cfg.getPenaltyTypesConfig penaltyConfig))
  | "payablePenaltiesConfig" =>
      some (.payablePenaltiesConfig (cfg.getPayablePenaltiesConfig penaltyConfig))
  | _ => none

/-- Every response: 400 for an unknown `type`, else the encoder's answer with the named list. -/
theorem handleConfiguration_cases (cfg : PenaltyConfigProvider Payable)
    (encode : ConfigResponse Payable → Option GoError) (penaltyConfig : PenaltyConfig Payable)
    (configType : String) :
    (configDataFor cfg penaltyConfig configType = none ∧
        handleConfiguration cfg encode penaltyConfig configType =
          writeJSONWithStatus "invalid configuration type supplied" statusBadRequest) ∨
      ∃ data, configDataFor cfg penaltyConfig configType = some data ∧
        handleConfiguration cfg encode penaltyConfig configType =
          encodeResponse encode ⟨configType, data⟩ := by
  unfold handleConfiguration configDataFor
  split
  · exact .inr ⟨_, rfl, rfl⟩
  · exact .inr ⟨_, rfl, rfl⟩
  · exact .inl ⟨rfl, rfl⟩

/-- A response with a `ConfigResponse` body is the encoder's success, with status 200. -/
theorem encodeResponse_body_config {encode : ConfigResponse Payable → Option GoError}
    {response served : ConfigResponse Payable}
    (wrote : (encodeResponse encode response).body = .config served) :
    served = response ∧ (encodeResponse encode response).status = statusOK := by
  unfold encodeResponse at wrote ⊢
  split at wrote
  · cases wrote
  · cases wrote
    exact ⟨rfl, by simp [*]⟩

/-- The handler answers only the two names, each with the provider's list of that name. -/
theorem configDataFor_eq_some {cfg : PenaltyConfigProvider Payable}
    {penaltyConfig : PenaltyConfig Payable} {configType : String} {data : ConfigData Payable}
    (named : configDataFor cfg penaltyConfig configType = some data) :
    configType = "penaltyTypesConfig" ∧
        data = .penaltyTypesConfig (cfg.getPenaltyTypesConfig penaltyConfig) ∨
      configType = "payablePenaltiesConfig" ∧
        data = .payablePenaltiesConfig (cfg.getPayablePenaltiesConfig penaltyConfig) := by
  unfold configDataFor at named
  split at named <;> cases named
  · exact .inl ⟨rfl, rfl⟩
  · exact .inr ⟨rfl, rfl⟩

end PenaltyPayment.Handlers
