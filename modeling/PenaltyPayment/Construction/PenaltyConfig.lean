/- `LoadPenaltyConfig`, the package getters and the `ConfigurationProvider` of package `config`. -/

import PenaltyPayment.Construction.Go

namespace PenaltyPayment.Config

open Go

/-- One entry of `finance_config`'s penalty types list. -/
structure FinancePenaltyTypeConfig where
  transactionType : String
  transactionSubtype : String
  description : String
  disabled : Bool
  reason : String
  deriving DecidableEq, Repr

/-- The document `finance_config.FinancePenaltyTypes` unmarshals into. -/
structure FinancePenaltyTypesConfig where
  financePenaltyTypes : List FinancePenaltyTypeConfig
  deriving DecidableEq, Repr

/-- The document `finance_config.FinancePayablePenalties` unmarshals into. -/
structure FinancePayablePenaltiesConfig (Payable : Type) where
  financePayablePenalties : List Payable
  deriving DecidableEq, Repr

/-- The package variable `penaltyConfig`; a nil slice is the empty list. -/
structure PenaltyConfig (Payable : Type) where
  penaltyTypesConfig : List FinancePenaltyTypeConfig
  payablePenaltiesConfig : List Payable
  deriving DecidableEq, Repr

/-- The package variables `financePenaltyTypes` and `financePayablePenalties` at one call. -/
structure FinanceConfigSources where
  financePenaltyTypes : List UInt8
  financePayablePenalties : List UInt8
  deriving DecidableEq, Repr

/-- `yaml.Unmarshal` at the two document types; the YAML library is outside the repository. -/
structure YamlUnmarshal (Payable : Type) where
  penaltyTypes : List UInt8 → Except GoError FinancePenaltyTypesConfig
  payablePenalties : List UInt8 → Except GoError (FinancePayablePenaltiesConfig Payable)

variable {Payable : Type}

/-- The zero value of `PenaltyConfig`: both lists nil, as before any load. -/
def PenaltyConfig.zero : PenaltyConfig Payable := ⟨[], []⟩

/-- This is `LoadPenaltyConfig`: the package variable is written only when both unmarshal. -/
def loadPenaltyConfig (yaml : YamlUnmarshal Payable) (sources : FinanceConfigSources)
    (penaltyConfig : PenaltyConfig Payable) : Option GoError × PenaltyConfig Payable :=
  match yaml.penaltyTypes sources.financePenaltyTypes with
  | .error err => (some err, penaltyConfig)
  | .ok financePenaltyTypesConfig =>
      match yaml.payablePenalties sources.financePayablePenalties with
      | .error err => (some err, penaltyConfig)
      | .ok financePayablePenaltiesConfig =>
          (none, { penaltyConfig with
            penaltyTypesConfig := financePenaltyTypesConfig.financePenaltyTypes
            payablePenaltiesConfig := financePayablePenaltiesConfig.financePayablePenalties })

def getPayablePenaltiesConfig (penaltyConfig : PenaltyConfig Payable) : List Payable :=
  penaltyConfig.payablePenaltiesConfig

def getPenaltyTypesConfig (penaltyConfig : PenaltyConfig Payable) :
    List FinancePenaltyTypeConfig :=
  penaltyConfig.penaltyTypesConfig

/-- The interface `PenaltyConfigProvider`: two getters, each given the package state. -/
structure PenaltyConfigProvider (Payable : Type) where
  getPenaltyTypesConfig : PenaltyConfig Payable → List FinancePenaltyTypeConfig
  getPayablePenaltiesConfig : PenaltyConfig Payable → List Payable

def ConfigurationProvider.getPenaltyTypesConfig (penaltyConfig : PenaltyConfig Payable) :
    List FinancePenaltyTypeConfig :=
  penaltyConfig.penaltyTypesConfig

def ConfigurationProvider.getPayablePenaltiesConfig (penaltyConfig : PenaltyConfig Payable) :
    List Payable :=
  penaltyConfig.payablePenaltiesConfig

def newConfigurationProvider : PenaltyConfigProvider Payable :=
  ⟨ConfigurationProvider.getPenaltyTypesConfig, ConfigurationProvider.getPayablePenaltiesConfig⟩

/-- Read a YAML file and unmarshal it, each error returned as it is. -/
def readYamlFile {Target : Type} (readFile : String → Except GoError (List UInt8))
    (unmarshal : List UInt8 → Except GoError Target) (fileName : String) : Except GoError Target :=
  match readFile fileName with
  | .error err => .error err
  | .ok yamlFile => unmarshal yamlFile

/-- `GetAllowedTransactions`; `models.AllowedTransactionMap` is the parameter `Allowed`. -/
def getAllowedTransactions {Allowed : Type} (readFile : String → Except GoError (List UInt8))
    (unmarshal : List UInt8 → Except GoError Allowed) (fileName : String) :
    Except GoError Allowed :=
  readYamlFile readFile unmarshal fileName

/-- `LoadPenaltyDetails`; `models.PenaltyDetailsMap` is the parameter `Details`. -/
def loadPenaltyDetails {Details : Type} (readFile : String → Except GoError (List UInt8))
    (unmarshal : List UInt8 → Except GoError Details) (fileName : String) :
    Except GoError Details :=
  readYamlFile readFile unmarshal fileName

/-- One call of `LoadPenaltyConfig` in a run: its sources, its `error` and the state after it. -/
structure LoadCall (Payable : Type) where
  sources : FinanceConfigSources
  err : Option GoError
  after : PenaltyConfig Payable

/-- Successive calls of `LoadPenaltyConfig`, each with the sources it read. -/
def runLoadPenaltyConfig (yaml : YamlUnmarshal Payable) :
    PenaltyConfig Payable → List FinanceConfigSources → List (LoadCall Payable)
  | _, [] => []
  | penaltyConfig, sources :: rest =>
      let call := loadPenaltyConfig yaml sources penaltyConfig
      ⟨sources, call.1, call.2⟩ :: runLoadPenaltyConfig yaml call.2 rest

/-- The package variable `penaltyConfig` after successive calls of `LoadPenaltyConfig`. -/
def runLoadPenaltyConfigState (yaml : YamlUnmarshal Payable) :
    PenaltyConfig Payable → List FinanceConfigSources → PenaltyConfig Payable
  | penaltyConfig, [] => penaltyConfig
  | penaltyConfig, sources :: rest =>
      runLoadPenaltyConfigState yaml (loadPenaltyConfig yaml sources penaltyConfig).2 rest

section Lemmas

variable (yaml : YamlUnmarshal Payable) (sources : FinanceConfigSources)
  (penaltyConfig : PenaltyConfig Payable)

@[simp] theorem runLoadPenaltyConfig_nil : runLoadPenaltyConfig yaml penaltyConfig [] = [] := rfl

@[simp] theorem runLoadPenaltyConfig_cons (rest : List FinanceConfigSources) :
    runLoadPenaltyConfig yaml penaltyConfig (sources :: rest) =
      ⟨sources, (loadPenaltyConfig yaml sources penaltyConfig).1,
        (loadPenaltyConfig yaml sources penaltyConfig).2⟩ ::
        runLoadPenaltyConfig yaml (loadPenaltyConfig yaml sources penaltyConfig).2 rest := rfl

@[simp] theorem runLoadPenaltyConfigState_nil :
    runLoadPenaltyConfigState yaml penaltyConfig [] = penaltyConfig := rfl

@[simp] theorem runLoadPenaltyConfigState_cons (rest : List FinanceConfigSources) :
    runLoadPenaltyConfigState yaml penaltyConfig (sources :: rest) =
      runLoadPenaltyConfigState yaml (loadPenaltyConfig yaml sources penaltyConfig).2 rest := rfl

/-- One call stores both lists, or returns an error and leaves the state as it was. -/
theorem loadPenaltyConfig_cases :
    (∃ types payables, yaml.penaltyTypes sources.financePenaltyTypes = .ok types ∧
        yaml.payablePenalties sources.financePayablePenalties = .ok payables ∧
        loadPenaltyConfig yaml sources penaltyConfig =
          (none, ⟨types.financePenaltyTypes, payables.financePayablePenalties⟩)) ∨
      (∃ err, loadPenaltyConfig yaml sources penaltyConfig = (some err, penaltyConfig)) := by
  unfold loadPenaltyConfig
  rcases yaml.penaltyTypes sources.financePenaltyTypes with err | types
  · exact .inr ⟨err, rfl⟩
  · rcases yaml.payablePenalties sources.financePayablePenalties with err | payables
    · exact .inr ⟨err, rfl⟩
    · exact .inl ⟨types, payables, rfl, rfl, rfl⟩

/-- A YAML file loads exactly when it is read and its bytes unmarshal. -/
theorem readYamlFile_eq_ok {Target : Type} {readFile : String → Except GoError (List UInt8)}
    {unmarshal : List UInt8 → Except GoError Target} {fileName : String} {target : Target} :
    readYamlFile readFile unmarshal fileName = .ok target ↔
      ∃ yamlFile, readFile fileName = .ok yamlFile ∧ unmarshal yamlFile = .ok target := by
  unfold readYamlFile
  rcases readFile fileName with err | yamlFile <;> simp

end Lemmas

end PenaltyPayment.Config
