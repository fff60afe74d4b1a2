/- `config.Get`: the cached `*Config` of package `config`, filled by `gofigure.Gofigure`. -/

import PenaltyPayment.Construction.Go

namespace PenaltyPayment.Config

open Go

/-- A `Config` on the heap; `populated` records a nil error from `Gofigure` on it. -/
structure ConfigObject (Fields : Type) where
  fields : Fields
  populated : Bool
  deriving DecidableEq, Repr

/-- One `gofigure.Gofigure(cfg)` call: the settings it leaves in `*cfg` and its error. -/
structure GofigureOutcome (Fields : Type) where
  fields : Fields
  err : Option GoError
  deriving DecidableEq, Repr

/-- The package variable `cfg` and the heap it points into. -/
structure GetState (Fields : Type) where
  cfg : Option Ptr
  heap : List (ConfigObject Fields)
  deriving DecidableEq, Repr

variable {Fields : Type}

/-- The state at process start: `var cfg *Config` is `nil`. -/
def GetState.initial : GetState Fields := ⟨none, []⟩

/-- `gofigure.Gofigure(cfg)` writes its settings through the pointer. -/
def gofigure (outcome : GofigureOutcome Fields) (heap : List (ConfigObject Fields))
    (cfg : Ptr) : List (ConfigObject Fields) :=
  store heap cfg ⟨outcome.fields, outcome.err.isNone⟩

/-- The values `Get` returns after `Gofigure`: `nil, err` on an error, else `cfg, nil`. -/
def configuredResult (err : Option GoError) (cfg : Ptr) : Except GoError Ptr :=
  match err with
  | some err => .error err
  | none => .ok cfg

/-- This is `Get`, run while it holds `mtx`; `Config{}` is the zero value `default`. -/
def get [Inhabited Fields] (outcome : GofigureOutcome Fields) (state : GetState Fields) :
    Except GoError Ptr × GetState Fields :=
  match state.cfg with
  | some cached => (.ok cached, state)
  | none =>
      let (cfg, heap) := alloc state.heap ⟨default, false⟩
      (configuredResult outcome.err cfg, { cfg := some cfg, heap := gofigure outcome heap cfg })

/-- Calls of `Get` in the order they take `mtx`: each call's result and the state after it. -/
def runGet [Inhabited Fields] :
    GetState Fields → List (GofigureOutcome Fields) → List (Except GoError Ptr × GetState Fields)
  | _, [] => []
  | state, outcome :: rest =>
      let call := get outcome state
      call :: runGet call.2 rest

/-- The state after calls of `Get` in the order they take `mtx`. -/
def runGetState [Inhabited Fields] :
    GetState Fields → List (GofigureOutcome Fields) → GetState Fields
  | state, [] => state
  | state, outcome :: rest => runGetState (get outcome state).2 rest

section Lemmas

variable [Inhabited Fields] (outcome : GofigureOutcome Fields) (state : GetState Fields)

/-- The state after a call that found `cfg` nil: the new object holds what `Gofigure` left. -/
def GetState.filled (outcome : GofigureOutcome Fields) (state : GetState Fields) :
    GetState Fields :=
  ⟨some ⟨state.heap.length⟩, state.heap ++ [⟨outcome.fields, outcome.err.isNone⟩]⟩

@[simp] theorem runGet_nil : runGet state [] = [] := rfl

@[simp] theorem runGet_cons (rest : List (GofigureOutcome Fields)) :
    runGet state (outcome :: rest) = get outcome state :: runGet (get outcome state).2 rest := rfl

@[simp] theorem runGetState_nil : runGetState state [] = state := rfl

@[simp] theorem runGetState_cons (rest : List (GofigureOutcome Fields)) :
    runGetState state (outcome :: rest) = runGetState (get outcome state).2 rest := rfl

/-- One more call at the end of a run runs on the state the run left. -/
theorem runGet_append_singleton (outcomes : List (GofigureOutcome Fields)) :
    runGet state (outcomes ++ [outcome]) =
      runGet state outcomes ++ [get outcome (runGetState state outcomes)] := by
  induction outcomes generalizing state with
  | nil => rfl
  | cons first rest inductionHypothesis => simp [inductionHypothesis]

theorem runGetState_append_singleton (outcomes : List (GofigureOutcome Fields)) :
    runGetState state (outcomes ++ [outcome]) = (get outcome (runGetState state outcomes)).2 := by
  induction outcomes generalizing state with
  | nil => rfl
  | cons first rest inductionHypothesis => simp [inductionHypothesis]

theorem get_of_cached {cached : Ptr} (hit : state.cfg = some cached) :
    get outcome state = (.ok cached, state) := by
  simp [get, hit]

theorem get_of_nil (miss : state.cfg = none) :
    get outcome state =
      (configuredResult outcome.err ⟨state.heap.length⟩, state.filled outcome) := by
  simp [get, miss, gofigure, GetState.filled]

@[simp] theorem configuredResult_some (err : GoError) (cfg : Ptr) :
    configuredResult (some err) cfg = .error err := rfl

@[simp] theorem configuredResult_none (cfg : Ptr) : configuredResult none cfg = .ok cfg := rfl

/-- A nil error from `Get` after `Gofigure` comes with the pointer in `cfg`. -/
theorem configuredResult_eq_ok {err : Option GoError} {cfg returned : Ptr}
    (succeeded : configuredResult err cfg = .ok returned) : returned = cfg := by
  cases err <;> cases succeeded
  rfl

/-- One call returns the cached pointer, or fills the cache and returns it or the error. -/
theorem get_cases :
    (∃ cached, state.cfg = some cached ∧ get outcome state = (.ok cached, state)) ∨
      (state.cfg = none ∧ get outcome state =
        (configuredResult outcome.err ⟨state.heap.length⟩, state.filled outcome)) := by
  rcases hcfg : state.cfg with _ | cached
  · exact .inr ⟨rfl, get_of_nil outcome state hcfg⟩
  · exact .inl ⟨cached, rfl, get_of_cached outcome state hcfg⟩

/-- After any call `cfg` is not nil, whatever `Gofigure` returned. -/
theorem get_cfg_eq_some : ∃ cfg, (get outcome state).2.cfg = some cfg := by
  rcases get_cases outcome state with ⟨cached, hit, call⟩ | ⟨-, call⟩
  · exact ⟨cached, by rw [call, hit]⟩
  · exact ⟨_, by rw [call]; rfl⟩

end Lemmas

end PenaltyPayment.Config
