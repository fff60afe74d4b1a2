/- What every interleaving of main and the server goroutine after `handlers.Register` keeps. -/

import PenaltyPayment.Construction.Serve

namespace PenaltyPayment.Main

open Go

/-- How many times main has called `prDaoService.Shutdown()` at this point. -/
def MainAt.daoCalls : MainAt → Nat
  | .starting | .waiting | .closingDao => 0
  | _ => 1

/-- How many times the server goroutine has called `prDaoService.Shutdown()` at this point. -/
def ServerAt.daoCalls : ServerAt → Nat
  | .exiting => 1
  | _ => 0

/-- Main has stored the result of `h.Shutdown` in `err`. -/
def MainAt.hasStored : MainAt → Bool
  | .checking | .reporting | .returning | .returned => true
  | _ => false

/-- The server goroutine has stored the result of `ListenAndServe` in `err`. -/
def ServerAt.hasStored : ServerAt → Bool
  | .notStarted | .starting | .serving => false
  | _ => true

/-- The server goroutine has found `err` non-nil and not `http.ErrServerClosed`. -/
def ServerAt.inExitBranch : ServerAt → Bool
  | .logging | .closingDao | .exiting => true
  | _ => false

/-- The server goroutine's log lines before its `log.Error(err)`. -/
def ServerAt.logBefore : ServerAt → List LogLine
  | .notStarted | .starting => []
  | .serving => [.info "starting server..."]
  | _ => [.info "starting server...", .info "server stopping..."]

def ServerAt.loggedError : ServerAt → Bool
  | .closingDao | .exiting => true
  | _ => false

/-- `value` is what one goroutine stored in `err`: from `ListenAndServe` or `h.Shutdown`. -/
def Stored (listened : Option ServeError) (shutdownReturned : Option (Option GoError))
    (value : Option ServeError) : Prop :=
  (∃ result, listened = some result ∧ value = some result) ∨
    ∃ result, shutdownReturned = some result ∧ value = result.map .other

/-- A line main may have logged, a failed shutdown naming a non-nil value stored in `err`. -/
def MainLine (listened : Option ServeError) (shutdownReturned : Option (Option GoError))
    (line : LogLine) : Prop :=
  line = .info ("Starting " ++ configNamespace) ∨ line = .info "shutting down server..." ∨
    (line = .info "server shutdown gracefully" ∧ shutdownReturned = some none) ∨
    ∃ value, line = .error (failedShutdownMessage value) ∧ value ≠ none ∧
      Stored listened shutdownReturned value

/-- The calls of `prDaoService.Shutdown()` and the ways the process ends follow the positions. -/
structure Counted (process : Process) : Prop where
  daoShutdowns : process.daoShutdowns = process.main.daoCalls + process.server.daoCalls
  exited : process.exitCode = none ∨ (process.exitCode = some 0 ∧ process.main = .returned) ∨
    (process.exitCode = some 1 ∧ process.server = .exiting)
  notStarted : process.main = .starting → process.server = .notStarted

theorem Counted.after {process next : Process} {action : ProcessAction} (inv : Counted process)
    (live : process.exitCode = none) (performs : Performs process action next) : Counted next := by
  obtain ⟨dao, exited, notStarted⟩ := inv
  refine ⟨?_, ?_, fun starting => ?_⟩
  · cases performs
    case mainCloseDao phase => simp only [dao, phase, MainAt.daoCalls, Nat.zero_add, Nat.add_comm]
    case serverCloseDao phase => simp only [dao, phase, ServerAt.daoCalls]
    all_goals simp_all only [MainAt.daoCalls, ServerAt.daoCalls]
  · cases performs
    case mainReturn => exact .inr (.inl ⟨rfl, rfl⟩)
    case serverExit phase => exact .inr (.inr ⟨rfl, phase⟩)
    all_goals exact .inl live
  · cases performs
    case signal => exact notStarted starting
    case start | receive | mainCloseDao | beginShutdown | endShutdown | graceful | failed | report |
        mainReturn => cases starting
    all_goals simp_all

/-- What `err` holds: nil until a store, then a value one of the goroutines stored. -/
structure Stores (process : Process) : Prop where
  listened : process.listened.isSome = process.server.hasStored
  shutdownReturned : process.shutdownReturned.isSome = process.main.hasStored
  err : (process.listened = none ∧ process.shutdownReturned = none ∧ process.err = none) ∨
    Stored process.listened process.shutdownReturned process.err
  reporting : process.main = .reporting → process.err ≠ none

theorem Stores.after {process next : Process} {action : ProcessAction} (inv : Stores process)
    (counted : Counted process) (performs : Performs process action next) : Stores next := by
  obtain ⟨listened, returned, err, reporting⟩ := inv
  have notStarted := counted.notStarted
  refine ⟨?_, ?_, ?_, fun phase => ?_⟩
  · cases performs
    case serve => rfl
    case signal | receive | mainCloseDao | beginShutdown | endShutdown | graceful | failed |
        report | mainReturn => exact listened
    all_goals simp_all only [ServerAt.hasStored]
  · cases performs
    case endShutdown => rfl
    case signal | serverStart | serve | serverNil | serverNonNil | serverClosed | serverFailed |
        serverLogError | serverCloseDao | serverExit => exact returned
    all_goals simp_all only [MainAt.hasStored]
  · cases performs
    case serve => exact .inr (.inl ⟨_, rfl, rfl⟩)
    case endShutdown => exact .inr (.inr ⟨_, rfl, rfl⟩)
    all_goals exact err
  · cases performs
    case failed nonNil => exact nonNil
    case serve => exact nofun
    case start | receive | mainCloseDao | beginShutdown | endShutdown | graceful | report |
        mainReturn => cases phase
    all_goals exact reporting phase

/-- Once the server goroutine has stored `err`, whatever it reads there is a stored value. -/
theorem Stores.serverRead {process : Process} (stores : Stores process)
    (stored : process.server.hasStored = true) :
    Stored process.listened process.shutdownReturned process.err := by
  rcases stores.err with ⟨unset, -, -⟩ | known
  · simp [unset, ← stores.listened] at stored
  · exact known

/-- Once main has stored `err`, whatever it reads there is a stored value. -/
theorem Stores.mainRead {process : Process} (stores : Stores process)
    (stored : process.main.hasStored = true) :
    Stored process.listened process.shutdownReturned process.err := by
  rcases stores.err with ⟨-, unset, -⟩ | known
  · simp [unset, ← stores.shutdownReturned] at stored
  · exact known

/-- Main reads nil at `if err != nil` only when `h.Shutdown` returned nil. -/
theorem Stores.graceful {process : Process} (stores : Stores process)
    (phase : process.main = .checking) (nilErr : process.err = none) :
    process.shutdownReturned = some none := by
  rcases stores.mainRead (by simp [phase, MainAt.hasStored]) with ⟨_, -, read⟩ |
    ⟨result, returned, read⟩
  · simp [nilErr] at read
  · cases result <;> simp_all

/-- `listened` and `shutdownReturned` are set once and never change after. -/
structure Settles (process next : Process) : Prop where
  listened : ∀ result, process.listened = some result → next.listened = some result
  shutdownReturned : ∀ result, process.shutdownReturned = some result →
    next.shutdownReturned = some result

theorem Settles.of_performs {process next : Process} {action : ProcessAction}
    (stores : Stores process) (performs : Performs process action next) : Settles process next := by
  have listened := stores.listened
  have returned := stores.shutdownReturned
  constructor
  · cases performs
    case serve phase _ =>
      intro result stored
      simp [stored, phase, ServerAt.hasStored] at listened
    all_goals exact fun _ same => same
  · cases performs
    case endShutdown phase =>
      intro result stored
      simp [stored, phase, MainAt.hasStored] at returned
    all_goals exact fun _ same => same

theorem Settles.stored {process next : Process} (settles : Settles process next)
    {value : Option ServeError} (stored : Stored process.listened process.shutdownReturned value) :
    Stored next.listened next.shutdownReturned value := by
  rcases stored with ⟨result, listened, rfl⟩ | ⟨result, returned, rfl⟩
  · exact .inl ⟨result, settles.listened result listened, rfl⟩
  · exact .inr ⟨result, settles.shutdownReturned result returned, rfl⟩

theorem Settles.mainLine {process next : Process} (settles : Settles process next)
    {line : LogLine} (logged : MainLine process.listened process.shutdownReturned line) :
    MainLine next.listened next.shutdownReturned line := by
  rcases logged with start | shutting | ⟨graceful, returned⟩ | ⟨value, rfl, nonNil, stored⟩
  · exact .inl start
  · exact .inr (.inl shutting)
  · exact .inr (.inr (.inl ⟨graceful, settles.shutdownReturned none returned⟩))
  · exact .inr (.inr (.inr ⟨value, rfl, nonNil, settles.stored stored⟩))

/-- What the server goroutine's `errors.Is` check read, and what it logged. -/
structure ServerReads (process : Process) : Prop where
  matched : process.server.inExitBranch = true →
    ∃ value, process.matched = some value ∧ isErrServerClosed value = false ∧
      Stored process.listened process.shutdownReturned value
  serverLog :
    (process.server.loggedError = false ∧ process.serverLog = process.server.logBefore) ∨
    (process.server.loggedError = true ∧ ∃ value,
      process.serverLog = process.server.logBefore ++ [.error (errorText value)] ∧
      Stored process.listened process.shutdownReturned value)

/-- A step that moves the server goroutine only between positions alike for its facts. -/
theorem ServerReads.frame {process next : Process} (inv : ServerReads process)
    (settles : Settles process next)
    (exitBranch : next.server.inExitBranch = process.server.inExitBranch)
    (loggedError : next.server.loggedError = process.server.loggedError)
    (logBefore : next.server.logBefore = process.server.logBefore)
    (matched : next.matched = process.matched) (serverLog : next.serverLog = process.serverLog) :
    ServerReads next := by
  obtain ⟨read, logged⟩ := inv
  refine ⟨fun inExit => ?_, ?_⟩
  · obtain ⟨value, readValue, notClosed, stored⟩ := read (exitBranch ▸ inExit)
    exact ⟨value, matched ▸ readValue, notClosed, settles.stored stored⟩
  · rw [loggedError, logBefore, serverLog]
    rcases logged with before | ⟨errorLogged, value, lines, stored⟩
    · exact .inl before
    · exact .inr ⟨errorLogged, value, lines, settles.stored stored⟩

/-- Before its `log.Error(err)`, the server goroutine has logged exactly the lines before it. -/
theorem ServerReads.log_before {process : Process} (inv : ServerReads process)
    {position : ServerAt} (phase : process.server = position)
    (notLogged : position.loggedError = false) : process.serverLog = position.logBefore := by
  rcases inv.serverLog with ⟨-, lines⟩ | ⟨errorLogged, -⟩
  · rw [lines, phase]
  · simp [phase, notLogged] at errorLogged

theorem ServerReads.after {process next : Process} {action : ProcessAction}
    (inv : ServerReads process) (stores : Stores process) (counted : Counted process)
    (performs : Performs process action next) : ServerReads next := by
  have settles := Settles.of_performs stores performs
  have notStarted := counted.notStarted
  cases performs
  case serverStart phase => exact ⟨nofun, .inl ⟨rfl, by rw [inv.log_before phase rfl]; rfl⟩⟩
  case serve phase _ => exact ⟨nofun, .inl ⟨rfl, by rw [inv.log_before phase rfl]; rfl⟩⟩
  case serverClosed phase _ => exact ⟨nofun, .inl ⟨rfl, by rw [inv.log_before phase rfl]; rfl⟩⟩
  case serverFailed phase notClosed =>
    have read := stores.serverRead (by simp [phase, ServerAt.hasStored])
    exact ⟨fun _ => ⟨process.err, rfl, notClosed, read⟩,
      .inl ⟨rfl, by rw [inv.log_before phase rfl]; rfl⟩⟩
  case serverLogError phase =>
    have read := stores.serverRead (by simp [phase, ServerAt.hasStored])
    exact ⟨fun _ => inv.matched (by simp [phase, ServerAt.inExitBranch]),
      .inr ⟨rfl, process.err, by rw [inv.log_before phase rfl]; rfl, read⟩⟩
  case signal | receive | mainCloseDao | beginShutdown | endShutdown | graceful | failed | report |
      mainReturn | serverExit => exact inv.frame settles rfl rfl rfl rfl rfl
  all_goals
    exact inv.frame settles (by simp_all only [ServerAt.inExitBranch])
      (by simp_all only [ServerAt.loggedError]) (by simp_all only [ServerAt.logBefore]) rfl rfl

/-- Every line main has logged. -/
def MainLogged (process : Process) : Prop :=
  ∀ line ∈ process.mainLog, MainLine process.listened process.shutdownReturned line

theorem MainLogged.append {process next : Process} {line : LogLine} (logged : MainLogged process)
    (settles : Settles process next) (fresh : MainLine next.listened next.shutdownReturned line)
    (appended : next.mainLog = process.mainLog ++ [line]) : MainLogged next := by
  intro logLine member
  rw [appended, List.mem_append, List.mem_singleton] at member
  rcases member with old | rfl
  · exact settles.mainLine (logged logLine old)
  · exact fresh

theorem MainLogged.after {process next : Process} {action : ProcessAction}
    (logged : MainLogged process) (stores : Stores process)
    (performs : Performs process action next) : MainLogged next := by
  have settles := Settles.of_performs stores performs
  cases performs
  case start => exact logged.append settles (.inl rfl) rfl
  case receive => exact logged.append settles (.inr (.inl rfl)) rfl
  case graceful phase nilErr =>
    exact logged.append settles (.inr (.inr (.inl ⟨rfl, stores.graceful phase nilErr⟩))) rfl
  case report phase =>
    exact logged.append settles (.inr (.inr (.inr ⟨process.err, rfl, stores.reporting phase,
      stores.mainRead (by simp [phase, MainAt.hasStored])⟩))) rfl
  all_goals exact fun line member => settles.mainLine (logged line member)

/-- The invariants of the process after `handlers.Register`, together. -/
structure Invariant (process : Process) : Prop where
  counted : Counted process
  stores : Stores process
  serverReads : ServerReads process
  mainLogged : MainLogged process

theorem Invariant.initial : Invariant Process.initial :=
  ⟨⟨rfl, .inl rfl, fun _ => rfl⟩, ⟨rfl, rfl, .inl ⟨rfl, rfl, rfl⟩, nofun⟩,
    ⟨nofun, .inl ⟨rfl, rfl⟩⟩, nofun⟩

theorem Invariant.after_step {process next : Process} {action : ProcessAction}
    (inv : Invariant process) (stepped : process.step action = some next) : Invariant next := by
  obtain ⟨live, performed⟩ :
      process.exitCode = none ∧ perform process action = some next := by
    unfold Process.step at stepped
    split at stepped
    · exact ⟨‹_›, stepped⟩
    · cases stepped
  have performs := perform_performs performed
  exact ⟨inv.counted.after live performs, inv.stores.after inv.counted performs,
    inv.serverReads.after inv.stores inv.counted performs,
    inv.mainLogged.after inv.stores performs⟩

theorem Process.Reachable.invariant {process : Process} (reach : process.Reachable) :
    Invariant process := by
  induction reach with
  | initial => exact Invariant.initial
  | step _ stepped inductionHypothesis => exact inductionHypothesis.after_step stepped

theorem MainAt.daoCalls_le_one (position : MainAt) : position.daoCalls ≤ 1 := by
  cases position <;> decide

theorem ServerAt.daoCalls_le_one (position : ServerAt) : position.daoCalls ≤ 1 := by
  cases position <;> decide

/-- Every end of the process comes after a call of `prDaoService.Shutdown()`. -/
theorem reachable_exit_after_dao_shutdown {process : Process} (reach : process.Reachable) :
    process.daoShutdowns ≤ 2 ∧ ∀ code, process.exitCode = some code →
      0 < process.daoShutdowns ∧
        (code = 0 ∧ process.main = .returned ∨ code = 1 ∧ process.server = .exiting) := by
  obtain ⟨dao, exited, -⟩ := reach.invariant.counted
  refine ⟨?_, fun code ended => ?_⟩
  · have := process.main.daoCalls_le_one
    have := process.server.daoCalls_le_one
    omega
  rcases exited with running | ⟨zero, returned⟩ | ⟨one, exiting⟩
  · simp [running] at ended
  · cases ended.symm.trans zero
    exact ⟨by simp only [dao, returned, MainAt.daoCalls]; omega, .inl ⟨rfl, returned⟩⟩
  · cases ended.symm.trans one
    exact ⟨by simp only [dao, exiting, ServerAt.daoCalls]; omega, .inr ⟨rfl, exiting⟩⟩

/-- A signal, then a shutdown as intended. -/
def gracefulShutdown : List ProcessAction :=
  [.start, .serverStart, .signal, .receive, .mainCloseDao, .beginShutdown,
    .serve .errServerClosed, .serverCheck, .serverMatch, .endShutdown none, .mainCheck,
    .mainReturn]

theorem gracefulShutdown_exit_after_dao_shutdown :
    ∃ process, Process.initial.execute gracefulShutdown = some process ∧ process.Reachable ∧
      process.exitCode = some 0 ∧ process.daoShutdowns ≤ 2 ∧
      ∀ code, process.exitCode = some code → 0 < process.daoShutdowns ∧
        (code = 0 ∧ process.main = .returned ∨ code = 1 ∧ process.server = .exiting) :=
  have reach :=
    Process.Reachable.execute .initial (rfl : Process.initial.execute gracefulShutdown = _)
  ⟨_, rfl, reach, rfl, reachable_exit_after_dao_shutdown reach⟩

/-- Before a signal, the process ends only by the server goroutine's `os.Exit(1)`. -/
theorem reachable_exit_before_signal {process : Process} (reach : process.Reachable)
    (beforeSignal : process.main = .starting ∨ process.main = .waiting)
    (ended : process.exitCode ≠ none) :
    process.exitCode = some 1 ∧ process.daoShutdowns = 1 ∧
      ∃ err, process.listened = some (.other err) ∧
        process.serverLog =
          [.info "starting server...", .info "server stopping...", .error err.message] := by
  obtain ⟨counted, stores, serverReads, -⟩ := reach.invariant
  rcases counted.exited with running | ⟨-, returned⟩ | ⟨one, exiting⟩
  · exact absurd running ended
  · rcases beforeSignal with phase | phase <;> simp [phase] at returned
  have waiting : process.main = .waiting := by
    rcases beforeSignal with starting | waiting
    · simp [counted.notStarted starting] at exiting
    · exact waiting
  have unreturned : process.shutdownReturned = none := by
    simpa [waiting, MainAt.hasStored] using stores.shutdownReturned
  obtain ⟨_, -, notClosed, ⟨_ | err, listened, rfl⟩ | ⟨_, returned, -⟩⟩ :=
    serverReads.matched (by simp [exiting, ServerAt.inExitBranch])
  · simp [isErrServerClosed] at notClosed
  · refine ⟨one, by simp [counted.daoShutdowns, waiting, exiting, MainAt.daoCalls,
      ServerAt.daoCalls], err, listened, ?_⟩
    rcases serverReads.serverLog with ⟨notLogged, -⟩ |
      ⟨-, _, lines, ⟨_, logged, rfl⟩ | ⟨_, returned, -⟩⟩
    · simp [exiting, ServerAt.loggedError] at notLogged
    · rw [listened, Option.some.injEq] at logged
      simp [lines, exiting, ← logged, ServerAt.logBefore, errorText, ServeError.message]
    · simp [unreturned] at returned
  · simp [unreturned] at returned

/-- The server cannot listen on its address: it fails before any signal. -/
def listenFailure : List ProcessAction :=
  [.start, .serverStart, .serve (.other ⟨"listen tcp :8080: bind: address already in use"⟩),
    .serverCheck, .serverMatch, .serverLogError, .serverCloseDao, .serverExit]

theorem listenFailure_exit_before_signal :
    ∃ process, Process.initial.execute listenFailure = some process ∧ process.Reachable ∧
      (process.main = .starting ∨ process.main = .waiting) ∧ process.exitCode ≠ none ∧
      process.exitCode = some 1 ∧ process.daoShutdowns = 1 ∧
      ∃ err, process.listened = some (.other err) ∧
        process.serverLog =
          [.info "starting server...", .info "server stopping...", .error err.message] :=
  have reach :=
    Process.Reachable.execute .initial (rfl : Process.initial.execute listenFailure = _)
  have ended : Option.some 1 ≠ none := nofun
  ⟨_, rfl, reach, .inr rfl, ended, reachable_exit_before_signal reach (.inr rfl) ended⟩

end PenaltyPayment.Main
