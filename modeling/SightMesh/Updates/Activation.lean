import SightMesh.Concurrency.Program
import SightMesh.Python.Value
import Mathlib.Algebra.Order.Ring.Rat

/-! `updates.activate_after_drain`: the staged executor put in the place of the running one, once
nothing runs on it. The state file is the store; the executor, launchd and the clock are asked. -/
namespace SightMesh.Updates

open Concurrency Python

def drainSeconds : ℕ := 30

def drainRearmSeconds : ℚ := 10

def drainWaitSeconds : ℚ := 900

def drainPollSeconds : ℚ := 5

def quietSeconds : ℚ := 2

def undrainedBootstrapVersions : List String := ["0.2.3-sightmesh.1"]

inductive Fault where
  /-- `CdesktopError` -/
  | cdesktop (message : String)
  | other (message : String)
  deriving DecidableEq

def Fault.message : Fault → String
  | .cdesktop message => message
  | .other message => message

/-- A staged release, as far as the activation reads it. -/
structure Package where
  version : String
  executable : String
  deriving DecidableEq

structure Process where
  id : String
  sessionId : String
  status : String
  runReason : String
  deriving DecidableEq

structure Approval where
  approvalId : String
  sessionId : String
  isQuestion : Bool
  deriving DecidableEq

/-- What `activity` reports; `probeError` stands for a probe that failed. -/
structure Activity where
  idle : Bool
  running : List Process
  pendingApprovals : List Approval
  probeError : Option String
  deriving DecidableEq

structure DrainReport where
  requestedSeconds : ℕ
  enforced : Bool
  reason : Option String
  waitedSeconds : ℚ
  configuredWaitSeconds : ℚ
  ttlSeconds : ℕ
  rearms : ℕ
  lapsed : Option String
  probeErrors : List String
  deriving DecidableEq

inductive Status where
  | idle | staged | drainTimedOut | activating | failed | active | cancelled
  deriving DecidableEq

/-- The state file, without its times. -/
structure UpdateState where
  status : Status
  pending : Option Package
  active : Option Package
  failedPackage : Option Package
  lastError : Option String
  bootstrapWithoutDrain : Bool
  drain : Option DrainReport
  activity : Option Activity
  deriving DecidableEq

inductive Label where
  | cdesktop | bridge
  deriving DecidableEq

inductive UpdateTx : Type → Type 1 where
  | readState : UpdateTx (Except Fault UpdateState)
  | writeState (state : UpdateState) : UpdateTx (Except Fault Unit)

def UpdateTx.exec {β : Type} : UpdateTx β → UpdateState → UpdateState × β
  | .readState, file => (file, .ok file)
  | .writeState state, _ => (state, .ok ())

/-- What is asked of the world outside. `updated` tells the client built after the swap. -/
inductive UpdateQuery : Type → Type 1 where
  | lockActivation : UpdateQuery Bool
  | unlockActivation : UpdateQuery Unit
  | monotonic : UpdateQuery ℚ
  | sleep (seconds : ℚ) : UpdateQuery Unit
  | patience : UpdateQuery ℕ
  | info (updated : Bool) : UpdateQuery (Except Fault String)
  | setUpdateDrain (updated : Bool) (seconds : ℕ) : UpdateQuery (Except Fault Unit)
  | pendingApprovals : UpdateQuery (Except Fault (List Approval))
  | runningProcesses : UpdateQuery (Except Fault (List Process))
  /-- An exception other than `OSError` and `URLError` is raised. -/
  | isHealthy : UpdateQuery (Except Fault Bool)
  | waitUntilHealthy : UpdateQuery (Except Fault Unit)
  | bootout (label : Label) : UpdateQuery (Except Fault Unit)
  | waitUntilUnloaded (label : Label) : UpdateQuery (Except Fault Unit)
  | launch (label : Label) : UpdateQuery (Except String Unit)
  | installDefinition (executable : String) : UpdateQuery (Except Fault Unit)
  | migrateNativeState : UpdateQuery (Except Fault Unit)
  | automaticPrune : UpdateQuery Unit

abbrev Update := Prog Fault UpdateTx UpdateQuery Empty

variable {α : Type}

def ask (q : UpdateQuery α) : Update α := Prog.ask q

def query (q : UpdateQuery (Except Fault α)) : Update α := Prog.query q

def readState : Update UpdateState := Prog.run .readState

def writeState (state : UpdateState) : Update Unit := Prog.run (.writeState state)

def ignoring (body : Update Unit) : Update Unit := body.handle fun _ => .ret ()

/-! ### launchd -/

/-- The attempts `_bootstrap` has left. -/
def launch (label : Label) : ℕ → Update Unit
  | 0 => return ()
  | left + 1 => do
    match ← ask (.launch label) with
    | .ok () => return ()
    | .error detail =>
      if left = 0 ∨ ¬ contains "Input/output error" detail then
        throw (.other detail)
      else
        ask (.sleep (1 / 5 * (3 - left)))
        launch label left

def bootstrap (label : Label) : Update Unit := do
  query (.bootout label)
  query (.waitUntilUnloaded label)
  launch label 3

def restoreBridge : Update Unit := bootstrap .bridge

/-! ### The wait -/

def activity : Update Activity := do
  let approvals ← query .pendingApprovals
  let processes ← query .runningProcesses
  let running := processes.filter fun process =>
    process.status = "running" ∧ process.runReason ≠ "devserver"
  return {
    idle := running.isEmpty && approvals.isEmpty
    running := running
    pendingApprovals := approvals
    probeError := none }

def unknownActivity (message : String) : Activity where
  idle := false
  running := []
  pendingApprovals := []
  probeError := some message

/-- What the wait has done so far. -/
structure Wait where
  armedAt : ℚ
  rearms : ℕ
  lapsed : Option String
  probeErrors : List String

/-- Only what the executor answers is caught of a probe. -/
def probeFailed (wait : Wait) : Fault → Update (Activity × Wait)
  | .cdesktop message => return (unknownActivity message,
      { wait with probeErrors := wait.probeErrors ++ [message] })
  | .other message => throw (.other message)

def probe (wait : Wait) : Update (Activity × Wait) :=
  Prog.handle (do return (← activity, wait)) (probeFailed wait)

/-- The renewal of the drain, where it is due. -/
def rearm (enforced : Bool) (wait : Wait) : Update Wait := do
  if enforced then
    if (← ask .monotonic) - wait.armedAt ≥ drainRearmSeconds then
      let lapsed ← Prog.handle
        (do query (.setUpdateDrain false drainSeconds); return none)
        fun fault => .ret (some ("the executor stopped honouring the drain: " ++ fault.message))
      match lapsed with
      | some reason => return { wait with lapsed := some reason }
      | none => return { wait with armedAt := ← ask .monotonic, rearms := wait.rearms + 1 }
    else return wait
  else return wait

/-- The `while` of `_drain_and_wait`. How many polls the wait has room for is an answer of the
world outside. -/
def drainLoop (started : ℚ) (enforced : Bool) : ℕ → Activity → Wait → Update (Activity × Wait)
  | 0, current, wait => return (current, wait)
  | polls + 1, current, wait => do
    if current.idle then return (current, wait)
    if ¬ (← ask .monotonic) - started < drainWaitSeconds then return (current, wait)
    let wait ← rearm enforced wait
    if wait.lapsed.isSome then return (current, wait)
    ask (.sleep drainPollSeconds)
    let (current, wait) ← probe wait
    drainLoop started enforced polls current wait

/-- `round(x, 3)`, half to even. -/
def rounded (x : ℚ) : ℚ :=
  let below := (x * 1000).floor
  let rest := x * 1000 - below
  (if rest < 1 / 2 ∨ rest = 1 / 2 ∧ below % 2 = 0 then below else below + 1 : ℤ) / 1000

example : (rounded (1 / 400), rounded (12345 / 10000)) = (1 / 500, 617 / 500) := by decide +kernel

def drainAndWait (enforced : Bool) : Update (Activity × Wait × ℚ) := do
  let started ← ask .monotonic
  ask (.sleep quietSeconds)
  let (current, wait) ← probe ⟨started, 0, none, []⟩
  let (current, wait) ← drainLoop started enforced (← ask .patience) current wait
  return (current, wait, rounded ((← ask .monotonic) - started))

def drainReport (enforced : Bool) (version : String) (wait : Wait) (waited : ℚ) : DrainReport where
  requestedSeconds := drainSeconds
  enforced := enforced
  reason := if enforced then none else some (version ++ " predates the drain endpoint")
  waitedSeconds := waited
  configuredWaitSeconds := drainWaitSeconds
  ttlSeconds := if enforced then drainSeconds else 0
  rearms := wait.rearms
  lapsed := wait.lapsed
  probeErrors := wait.probeErrors

/-! ### The swap -/

inductive Action where
  | noStagedUpdate | drainTimedOut | activated | alreadyRunning
  deriving DecidableEq

/-- The outer `except` of `_activate_locked`, where its three locals stand as they are at the call
it guards. -/
def guarding (drainEnabled bridgeDown bridgeRestored : Bool) (body : Update α) : Update α :=
  body.handle fun fault => do
    if drainEnabled then
      if ← query .isHealthy then ignoring (query (.setUpdateDrain false 0))
    if bridgeDown ∧ ¬ bridgeRestored then restoreBridge
    throw fault

def requestDrain (version : String) : Update Bool :=
  Prog.handle (do query (.setUpdateDrain false drainSeconds); return true) fun fault =>
    if version ∈ undrainedBootstrapVersions then .ret false else .fail fault

/-- The inner `try`, from where the new executor is healthy. -/
def verifyBackend (pending : Package) : Update Unit := do
  let version ← query (.info true)
  if ¬ contains pending.version version then
    throw (.other ("Updated cdesktop reports '" ++ version ++ "', expected '" ++
      pending.version ++ "'"))
  query .migrateNativeState
  restoreBridge

def replaceBackend (pending : Package) : Update Unit := do
  bootstrap .cdesktop
  query .waitUntilHealthy
  verifyBackend pending

/-- The inner `except`, whose own exceptions the outer one meets. -/
def recordFailure (activating : UpdateState) (pending : Package) (fault : Fault) : Update α := do
  let healthy ← guarding false true false (query .isHealthy)
  if healthy then ignoring (query (.setUpdateDrain true 0))
  let restored ← Prog.handle (do restoreBridge; return true) fun _ => .ret false
  guarding false true restored do
    writeState { activating with
      status := .failed, pending := none, failedPackage := some pending
      lastError := some fault.message }
    throw (.other ("Update failed and will not be retried automatically: " ++ fault.message))

/-- `_activate_locked`, where the wait has ended and something still runs. -/
def timeOut (state : UpdateState) (enforced : Bool) (current : Activity) (report : DrainReport) :
    Update (UpdateState × Action) := do
  if enforced then guarding true false false (query (.setUpdateDrain false 0))
  let waiting := { state with
    status := .drainTimedOut, drain := some report, activity := some current }
  writeState waiting
  return (waiting, .drainTimedOut)

/-- `_activate_locked`, from where the executor is idle. -/
def swap (state : UpdateState) (pending : Package) (enforced : Bool) (report : DrainReport) :
    Update (UpdateState × Action) := do
  guarding enforced false false do
    query (.bootout .bridge)
    query (.waitUntilUnloaded .bridge)
  let activating := { state with
    status := .activating, bootstrapWithoutDrain := !enforced, drain := some report }
  guarding enforced true false do
    query (.installDefinition pending.executable)
    writeState activating
  (replaceBackend pending).handle (recordFailure activating pending)
  let active : UpdateState := {
    status := .active, pending := none, active := some pending, failedPackage := none
    lastError := none, bootstrapWithoutDrain := false, drain := some report, activity := none }
  guarding enforced true true (writeState active)
  ask .automaticPrune
  return (active, .activated)

def activatePending (state : UpdateState) (pending : Package) : Update (UpdateState × Action) := do
  let version ← query (.info false)
  let enforced ← requestDrain version
  let (current, wait, waited) ← guarding enforced false false (drainAndWait enforced)
  let report := drainReport enforced version wait waited
  if current.idle then swap state pending enforced report
  else timeOut state enforced current report

def activateLocked : Update (UpdateState × Action) := do
  let state ← readState
  match state.pending with
  | none => return (state, .noStagedUpdate)
  | some pending => activatePending state pending

def activateAfterDrain : Update (UpdateState × Action) := do
  if ← ask .lockActivation then
    activateLocked.finally' (ask .unlockActivation)
  else
    return (← readState, .alreadyRunning)

end SightMesh.Updates
