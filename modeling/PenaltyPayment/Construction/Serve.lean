/- `main` after `handlers.Register`: the server goroutine and main, sharing `err`, step by step. -/

import PenaltyPayment.Construction.Main

namespace PenaltyPayment.Main

open Go

/-- The errors `err` holds after `handlers.Register`: `http.ErrServerClosed`, or another one. -/
inductive ServeError where
  | errServerClosed
  | other (err : GoError)
  deriving DecidableEq, Repr

def ServeError.message : ServeError → String
  | .errServerClosed => "http: Server closed"
  | .other err => err.message

/-- An `error` as `%v` and `log.Error` print it; nil prints as `<nil>`. -/
def errorText : Option ServeError → String
  | none => "<nil>"
  | some err => err.message

/-- `errors.Is(http.ErrServerClosed, err)`: it matches only `http.ErrServerClosed` itself. -/
def isErrServerClosed : Option ServeError → Bool
  | some .errServerClosed => true
  | _ => false

/-- `(*Config).Namespace`. -/
def configNamespace : String := "penalty-payment-api"

def failedShutdownMessage (err : Option ServeError) : String :=
  "failed to shutdown server gracefully: [" ++ errorText err ++ "]"

inductive LogLine where
  | info (message : String)
  | error (message : String)
  deriving DecidableEq, Repr

/-- Where the main goroutine is after `handlers.Register`. -/
inductive MainAt where
  /-- Before `go func()`: logging the start, building `h` and `stop`, `signal.Notify`. -/
  | starting
  /-- At `<-stop`. -/
  | waiting
  /-- At `prDaoService.Shutdown()`. -/
  | closingDao
  /-- At `err = h.Shutdown(shutdownCtx)`, before the call. -/
  | callingShutdown
  /-- In `h.Shutdown`, which has closed the listeners. -/
  | shuttingDown
  /-- At `if err != nil`. -/
  | checking
  /-- At `log.Error(fmt.Errorf("failed to shutdown server gracefully: [%v]", err))`. -/
  | reporting
  /-- At the end of `main`, whose deferred cancels touch nothing shared. -/
  | returning
  | returned
  deriving DecidableEq, Repr

/-- Where the server goroutine is. -/
inductive ServerAt where
  | notStarted
  /-- At `log.Info("starting server...", ...)`. -/
  | starting
  /-- In `err = h.ListenAndServe()`. -/
  | serving
  /-- At `err != nil`, after `log.Info("server stopping...")`. -/
  | checking
  /-- At `!errors.Is(http.ErrServerClosed, err)`. -/
  | matching
  /-- At `log.Error(err)`. -/
  | logging
  /-- At `prDaoService.Shutdown()`. -/
  | closingDao
  /-- At `os.Exit(1)`. -/
  | exiting
  | finished
  deriving DecidableEq, Repr

/-- The process after `handlers.Register`; `listened`, `shutdownReturned`, `matched` are ghost. -/
structure Process where
  main : MainAt
  server : ServerAt
  err : Option ServeError
  /-- A signal waits in `stop`, whose buffer holds one. -/
  stop : Bool
  /-- `h.Shutdown` has closed the listeners. -/
  inShutdown : Bool
  daoShutdowns : Nat
  exitCode : Option Nat
  mainLog : List LogLine
  serverLog : List LogLine
  listened : Option ServeError
  shutdownReturned : Option (Option GoError)
  matched : Option (Option ServeError)
  deriving DecidableEq, Repr

/-- The process at `handlers.Register`; the last assignment to `err` stored nil. -/
def Process.initial : Process :=
  ⟨.starting, .notStarted, none, false, false, 0, none, [], [], none, none, none⟩

/-- One step: a statement of one goroutine, or a signal arriving. -/
inductive ProcessAction where
  | start
  | signal
  | receive
  | mainCloseDao
  | beginShutdown
  | endShutdown (result : Option GoError)
  | mainCheck
  | report
  | mainReturn
  | serverStart
  | serve (result : ServeError)
  | serverCheck
  | serverMatch
  | serverLogError
  | serverCloseDao
  | serverExit
  deriving DecidableEq, Repr

/-- The statement `action` names, or `none` when its goroutine is elsewhere. -/
def perform (process : Process) : ProcessAction → Option Process
  | .start =>
      match process.main with
      | .starting => some { process with
          main := .waiting, server := .starting,
          mainLog := process.mainLog ++ [.info ("Starting " ++ configNamespace)] }
      | _ => none
  | .signal =>
      match process.main with
      | .starting => none
      | _ => some { process with stop := true }
  | .receive =>
      match process.main, process.stop with
      | .waiting, true => some { process with
          main := .closingDao, stop := false,
          mainLog := process.mainLog ++ [.info "shutting down server..."] }
      | _, _ => none
  | .mainCloseDao =>
      match process.main with
      | .closingDao => some { process with
          main := .callingShutdown, daoShutdowns := process.daoShutdowns + 1 }
      | _ => none
  | .beginShutdown =>
      match process.main with
      | .callingShutdown => some { process with main := .shuttingDown, inShutdown := true }
      | _ => none
  | .endShutdown result =>
      match process.main with
      | .shuttingDown => some { process with
          main := .checking, err := result.map .other,
          shutdownReturned := some result }
      | _ => none
  | .mainCheck =>
      match process.main, process.err with
      | .checking, none => some { process with
          main := .returning,
          mainLog := process.mainLog ++ [.info "server shutdown gracefully"] }
      | .checking, some _ => some { process with main := .reporting }
      | _, _ => none
  | .report =>
      match process.main with
      | .reporting => some { process with
          main := .returning,
          mainLog := process.mainLog ++ [.error (failedShutdownMessage process.err)] }
      | _ => none
  | .mainReturn =>
      match process.main with
      | .returning => some { process with main := .returned, exitCode := some 0 }
      | _ => none
  | .serverStart =>
      match process.server with
      | .starting => some { process with
          server := .serving,
          serverLog := process.serverLog ++ [.info "starting server..."] }
      | _ => none
  | .serve result =>
      match process.server with
      | .serving =>
          if result = .errServerClosed ∧ process.inShutdown = false then none
          else some { process with
              server := .checking, err := some result,
              listened := some result,
              serverLog := process.serverLog ++ [.info "server stopping..."] }
      | _ => none
  | .serverCheck =>
      match process.server, process.err with
      | .checking, none => some { process with server := .finished }
      | .checking, some _ => some { process with server := .matching }
      | _, _ => none
  | .serverMatch =>
      match process.server with
      | .matching =>
          if isErrServerClosed process.err then
            some { process with server := .finished, matched := some process.err }
          else some { process with server := .logging, matched := some process.err }
      | _ => none
  | .serverLogError =>
      match process.server with
      | .logging => some { process with
          server := .closingDao,
          serverLog := process.serverLog ++ [.error (errorText process.err)] }
      | _ => none
  | .serverCloseDao =>
      match process.server with
      | .closingDao => some { process with
          server := .exiting, daoShutdowns := process.daoShutdowns + 1 }
      | _ => none
  | .serverExit =>
      match process.server with
      | .exiting => some { process with exitCode := some 1 }
      | _ => none

/-- Once `main` has returned or `os.Exit` has run, no goroutine takes another step. -/
def Process.step (process : Process) (action : ProcessAction) : Option Process :=
  match process.exitCode with
  | none => perform process action
  | some _ => none

/-- The process after `actions`, or `none` when one of them cannot be taken. -/
def Process.execute (process : Process) : List ProcessAction → Option Process
  | [] => some process
  | action :: rest => (process.step action).bind fun next => next.execute rest

/-- The processes some interleaving reaches from `handlers.Register`. -/
inductive Process.Reachable : Process → Prop
  | initial : Process.Reachable Process.initial
  | step {process next : Process} {action : ProcessAction} :
      process.Reachable → process.step action = some next → next.Reachable

theorem Process.Reachable.execute {process next : Process} {actions : List ProcessAction}
    (reach : process.Reachable) (ran : process.execute actions = some next) : next.Reachable := by
  induction actions generalizing process with
  | nil => cases ran; exact reach
  | cons action rest inductionHypothesis =>
      simp only [Process.execute, Option.bind_eq_some] at ran
      obtain ⟨middle, stepped, ran⟩ := ran
      exact inductionHypothesis (reach.step stepped) ran

/-- Everything one statement can do, one constructor per statement and outcome of its test. -/
inductive Performs : Process → ProcessAction → Process → Prop
  | start {process : Process} (phase : process.main = .starting) :
      Performs process .start { process with
        main := .waiting, server := .starting,
        mainLog := process.mainLog ++ [.info ("Starting " ++ configNamespace)] }
  | signal {process : Process} (notified : process.main ≠ .starting) :
      Performs process .signal { process with stop := true }
  | receive {process : Process} (phase : process.main = .waiting) (pending : process.stop = true) :
      Performs process .receive { process with
        main := .closingDao, stop := false,
        mainLog := process.mainLog ++ [.info "shutting down server..."] }
  | mainCloseDao {process : Process} (phase : process.main = .closingDao) :
      Performs process .mainCloseDao { process with
        main := .callingShutdown, daoShutdowns := process.daoShutdowns + 1 }
  | beginShutdown {process : Process} (phase : process.main = .callingShutdown) :
      Performs process .beginShutdown { process with main := .shuttingDown, inShutdown := true }
  | endShutdown {process : Process} (result : Option GoError)
      (phase : process.main = .shuttingDown) :
      Performs process (.endShutdown result) { process with
        main := .checking, err := result.map .other, shutdownReturned := some result }
  | graceful {process : Process} (phase : process.main = .checking) (nilErr : process.err = none) :
      Performs process .mainCheck { process with
        main := .returning, mainLog := process.mainLog ++ [.info "server shutdown gracefully"] }
  | failed {process : Process} (phase : process.main = .checking) (nonNil : process.err ≠ none) :
      Performs process .mainCheck { process with main := .reporting }
  | report {process : Process} (phase : process.main = .reporting) :
      Performs process .report { process with
        main := .returning,
        mainLog := process.mainLog ++ [.error (failedShutdownMessage process.err)] }
  | mainReturn {process : Process} (phase : process.main = .returning) :
      Performs process .mainReturn { process with main := .returned, exitCode := some 0 }
  | serverStart {process : Process} (phase : process.server = .starting) :
      Performs process .serverStart { process with
        server := .serving, serverLog := process.serverLog ++ [.info "starting server..."] }
  | serve {process : Process} (result : ServeError) (phase : process.server = .serving)
      (closedOnlyInShutdown : result = .errServerClosed → process.inShutdown = true) :
      Performs process (.serve result) { process with
        server := .checking, err := some result, listened := some result,
        serverLog := process.serverLog ++ [.info "server stopping..."] }
  | serverNil {process : Process} (phase : process.server = .checking)
      (nilErr : process.err = none) :
      Performs process .serverCheck { process with server := .finished }
  | serverNonNil {process : Process} (phase : process.server = .checking)
      (nonNil : process.err ≠ none) :
      Performs process .serverCheck { process with server := .matching }
  | serverClosed {process : Process} (phase : process.server = .matching)
      (closed : isErrServerClosed process.err = true) :
      Performs process .serverMatch
        { process with server := .finished, matched := some process.err }
  | serverFailed {process : Process} (phase : process.server = .matching)
      (notClosed : isErrServerClosed process.err = false) :
      Performs process .serverMatch { process with server := .logging, matched := some process.err }
  | serverLogError {process : Process} (phase : process.server = .logging) :
      Performs process .serverLogError { process with
        server := .closingDao, serverLog := process.serverLog ++ [.error (errorText process.err)] }
  | serverCloseDao {process : Process} (phase : process.server = .closingDao) :
      Performs process .serverCloseDao { process with
        server := .exiting, daoShutdowns := process.daoShutdowns + 1 }
  | serverExit {process : Process} (phase : process.server = .exiting) :
      Performs process .serverExit { process with exitCode := some 1 }

theorem perform_performs {process next : Process} {action : ProcessAction}
    (performed : perform process action = some next) : Performs process action next := by
  cases action <;> simp only [perform] at performed <;> split at performed <;>
    (try split at performed) <;> cases performed
  · exact .start ‹_›
  · exact .signal ‹_›
  · exact .receive ‹_› ‹_›
  · exact .mainCloseDao ‹_›
  · exact .beginShutdown ‹_›
  · exact .endShutdown _ ‹_›
  · exact .graceful ‹_› ‹_›
  · exact .failed ‹_› (by simp_all)
  · exact .report ‹_›
  · exact .mainReturn ‹_›
  · exact .serverStart ‹_›
  · exact .serve _ ‹_› fun closed => by simp_all
  · exact .serverNil ‹_› ‹_›
  · exact .serverNonNil ‹_› (by simp_all)
  · exact .serverClosed ‹_› ‹_›
  · exact .serverFailed ‹_› (by simp_all)
  · exact .serverLogError ‹_›
  · exact .serverCloseDao ‹_›
  · exact .serverExit ‹_›

end PenaltyPayment.Main
