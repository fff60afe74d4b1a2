/- The start of the service in `main`, up to `handlers.Register`, and how a failed step ends it. -/

import PenaltyPayment.Construction.ConfigGet
import PenaltyPayment.Construction.PenaltyConfig

namespace PenaltyPayment.Main

open Config Go

/-- What one start of `main` depends on outside the repository. -/
structure Environment (Fields Payable Details Allowed : Type) where
  gofigure : GofigureOutcome Fields
  newMongoClient : Option GoError
  yaml : YamlUnmarshal Payable
  financeConfig : FinanceConfigSources
  readFile : String → Except GoError (List UInt8)
  unmarshalPenaltyDetails : List UInt8 → Except GoError Details
  unmarshalAllowedTransactions : List UInt8 → Except GoError Allowed

/-- How a start ends: `main` returns, calls `os.Exit(1)`, or serves with what it loaded. -/
inductive Startup (Fields Payable Details Allowed : Type) where
  | returned (message : String)
  | exited (code : Nat) (message : String)
  | serving (cfg : Ptr) (getState : GetState Fields) (penaltyConfig : PenaltyConfig Payable)
      (penaltyDetailsMap : Details) (allowedTransactionsMap : Allowed)

/-- `fmt.Errorf(exitErrorFormat, err)`. -/
def exitError (err : GoError) : String :=
  "error configuring service: " ++ err.message ++ ". Exiting"

def mongoClientError (err : GoError) : String :=
  "mongo client error: " ++ err.message ++ ". Exiting"

variable {Fields Payable Details Allowed : Type}

/-- This is `main` up to `handlers.Register`, from the zero `config` package state. -/
def main [Inhabited Fields] (env : Environment Fields Payable Details Allowed) :
    Startup Fields Payable Details Allowed :=
  match get env.gofigure GetState.initial with
  | (.error err, _) => .returned (exitError err)
  | (.ok cfg, getState) =>
      match env.newMongoClient with
      | some err => .exited 1 (mongoClientError err)
      | none =>
          match loadPenaltyConfig env.yaml env.financeConfig PenaltyConfig.zero with
          | (some err, _) => .returned (exitError err)
          | (none, penaltyConfig) =>
              match loadPenaltyDetails env.readFile env.unmarshalPenaltyDetails
                  "assets/penalty_details.yml" with
              | .error err => .returned (exitError err)
              | .ok penaltyDetailsMap =>
                  match getAllowedTransactions env.readFile env.unmarshalAllowedTransactions
                      "assets/penalty_types.yml" with
                  | .error err => .returned (exitError err)
                  | .ok allowedTransactionsMap =>
                      .serving cfg getState penaltyConfig penaltyDetailsMap allowedTransactionsMap

end PenaltyPayment.Main
