import AscensionWatchdog.Storage.Schema

/-!
# The reconciliation policy

`SupervisorPolicy.decide` picks the smallest action for one observed component. It is a function
of the durable mode, of the observation and of the restart accounting, and it knows nothing about
the store or the processes. A durable stop or drain comes before everything else, and a component
that is quarantined is not started again by the policy, whatever the other arguments are.
-/

namespace AscensionWatchdog

open Foundation

/-- The largest unsigned 64-bit integer. -/
def u64Max : Nat :=
  2 ^ 64 - 1

def saturatingAdd (a b : Nat) : Nat :=
  min (a + b) u64Max

def saturatingMul (a b : Nat) : Nat :=
  min (a * b) u64Max

/-- Only a durable stop ends the children of a deployment. -/
def DesiredMode.stopsChildren : DesiredMode → Bool
  | .stopped => true
  | _ => false

/-- What the policy is told about a component. -/
structure ComponentObservation where
  componentId : String
  state : ComponentState
  observedAtMs : Nat
  heartbeatAgeMs : Option Nat
  consecutiveMisses : Nat
  restartAttempts : Nat
  deriving DecidableEq, Repr

/-- The smallest authorized action for a component. -/
inductive ReconcileAction where
  | noop
  | start
  | stop
  | wait
  | markSuspect
  | quarantine
  deriving DecidableEq, Repr

/-- A policy result with its reason. -/
structure ReconcileDecision where
  componentId : String
  action : ReconcileAction
  resultingState : ComponentState
  reason : String
  retryAtMs : Option Nat
  deriving DecidableEq, Repr

/-- The bounds of the policy, as the validated configuration gives them. -/
structure SupervisorPolicy where
  probeIntervalMs : Nat
  suspectThreshold : Nat
  startupGraceMs : Nat
  restartBackoffBaseMs : Nat
  restartBackoffCapMs : Nat
  restartBudgetCount : Nat
  restartBudgetWindowMs : Nat
  deriving DecidableEq, Repr

namespace SupervisorPolicy

/-- `u32::to_le_bytes`. -/
def attemptBytes (attempt : Nat) : ByteArray :=
  ⟨#[UInt8.ofNat attempt, UInt8.ofNat (attempt / 2 ^ 8), UInt8.ofNat (attempt / 2 ^ 16),
    UInt8.ofNat (attempt / 2 ^ 24)]⟩

/-- Exponential backoff with a bounded jitter that is derived from the identity of the attempt. -/
def backoffDelayMs (crates : Crates) (policy : SupervisorPolicy) (componentId : String)
    (attempt : Nat) : Nat :=
  let exponential :=
    min (saturatingMul policy.restartBackoffBaseMs (2 ^ min attempt 31)) policy.restartBackoffCapMs
  let digest := crates.sha256 (componentId.toUTF8 ++ attemptBytes attempt)
  let spread := exponential / 4
  if spread = 0 then exponential
  else
    let sample := (digest.get 0).toNat + 256 * (digest.get 1).toNat
    let jitter := sample % saturatingAdd (saturatingMul spread 2) 1
    min (saturatingAdd (exponential - spread) jitter) policy.restartBackoffCapMs

/-- Whether a component that is not running may be started again now. -/
def restartDecision (crates : Crates) (policy : SupervisorPolicy) (restartEnabled : Bool)
    (observation : ComponentObservation) (nowMs restartCountInWindow : Nat)
    (lastRestartMs : Option Nat) (reason : String) : ReconcileDecision :=
  let id := observation.componentId
  let start : ReconcileDecision := ⟨id, .start, .starting, reason, none⟩
  if !restartEnabled then
    ⟨id, .quarantine, .quarantined,
      "component restart is disabled by the approved configuration", none⟩
  else if policy.restartBudgetCount ≤ restartCountInWindow then
    ⟨id, .quarantine, .quarantined,
      "restart budget exhausted; bounded diagnostics remain available", none⟩
  else
    match lastRestartMs with
    | none => start
    | some lastRestart =>
      let next := saturatingAdd lastRestart
        (backoffDelayMs crates policy id observation.restartAttempts)
      if nowMs < next then
        ⟨id, .wait, .backoff, "restart backoff is still active", some next⟩
      else start

/-- The decision under a mode that ends the children. -/
def stopDecision (observation : ComponentObservation) (reason : String) : ReconcileDecision :=
  ⟨observation.componentId, if observation.state = .stopped then .noop else .stop, .stopped,
    reason, none⟩

/-- Decide the smallest action for an observation and the durable mode. -/
def decide (crates : Crates) (policy : SupervisorPolicy) (desiredMode : DesiredMode)
    (restartEnabled : Bool) (observation : ComponentObservation)
    (nowMs restartCountInWindow : Nat) (lastRestartMs : Option Nat) : ReconcileDecision :=
  let id := observation.componentId
  let restart := restartDecision crates policy restartEnabled observation nowMs
    restartCountInWindow lastRestartMs
  if desiredMode.stopsChildren then
    stopDecision observation "durable stop intent takes precedence over autonomous recovery"
  else if desiredMode = .draining then
    stopDecision observation "drain intent prevents new starts and stops owned children"
  else if desiredMode ≠ .running then
    ⟨id, if observation.state = .stopped then .noop else .wait, .paused,
      "operator intent blocks new starts and dispatch", none⟩
  else
    match observation.state with
    | .running =>
      let heartbeatLimit := saturatingMul policy.probeIntervalMs policy.suspectThreshold
      if policy.suspectThreshold ≤ observation.consecutiveMisses ∨
          observation.heartbeatAgeMs.all (heartbeatLimit < ·) then
        ⟨id, .markSuspect, .suspect,
          "missing or stale control-loop heartbeat; process liveness is insufficient", none⟩
      else
        ⟨id, .noop, .running, "component is making progress within health bounds", none⟩
    | .starting =>
      if nowMs - observation.observedAtMs ≤ policy.startupGraceMs then
        ⟨id, .wait, .starting, "startup remains within configured grace period",
          some (saturatingAdd nowMs policy.probeIntervalMs)⟩
      else restart "startup grace expired"
    | .stopped | .suspect | .backoff => restart "component is not running"
    | .paused =>
      ⟨id, .wait, .paused, "component remains paused by durable operator intent", none⟩
    | .blocked | .quarantined =>
      ⟨id, .quarantine, .quarantined,
        "component is blocked or quarantined; autonomous relaunch is disabled", none⟩

end SupervisorPolicy

end AscensionWatchdog
