import AscensionWatchdog.Foundation.Programs
import AscensionWatchdog.Foundation.Table
import AscensionWatchdog.Platform.Contract

/-!
# The Linux process adapter

A launched process lives in a cgroup of its own, and the adapter that launched it keeps the `Child`
handle of its direct child. A stop reads the membership of the cgroup, polls the child and looks at
`/proc`, signals the process or kills the cgroup, and removes the cgroup once it is empty.

The kernel's answers are not under the control of the adapter, and two readings of one thing may
differ. A `Host` has an answer for every moment: each call of the kernel takes one tick of the
machine, and the answers at different ticks are unrelated. A wait polls until its deadline; the
number of its further rounds is an answer as well. `log` records what a call has read and done.
-/

namespace AscensionWatchdog.Platform

open Foundation Foundation.Program

/-! ### The host -/

/-- What `/proc` shows of a process. -/
structure LiveProcess where
  token : String
  executable : String
  executableSha256 : String
  executableSealed : Bool
  deriving DecidableEq, Repr

inductive ManagedChildState where
  | alive
  | exited (code : Option Int)
  | unknown
  deriving DecidableEq, Repr

def ManagedChildState.isExited : ManagedChildState → Bool
  | .exited _ => true
  | _ => false

inductive MissingContainmentStatus where
  | present
  | absent
  | reused
  deriving DecidableEq, Repr

/-- The answers of the kernel at each tick. -/
structure Host where
  /-- the boot that the adapter has read when it was made -/
  bootId : String
  /-- whether there is a trusted directory of the cgroup -/
  cgroup : Nat → Except AdapterError Bool
  /-- the lines of `cgroup.procs`, each with the number that it parses to -/
  procs : Nat → Except String (List (Option Nat))
  /-- the write of `cgroup.kill` -/
  kill : Nat → Except String Unit
  removeDir : Nat → Except String Unit
  /-- the poll of the child: its exit code once it has exited -/
  tryWait : Nat → Except String (Option (Option Int))
  /-- `/proc/<pid>/stat`: whether the process exists, and its start time where the text has one -/
  stat : Nat → Except String (Option (Option Nat))
  live : Nat → Except AdapterError LiveProcess
  pidfdOpen : Nat → Except String Unit
  sendTerm : Nat → Except String Unit
  /-- the further rounds of a wait with the given timeout that begins at the tick -/
  rounds : Nat → Nat → Nat

/-- What a call has read and done. -/
inductive Event where
  /-- there is no directory of the cgroup -/
  | missing
  | members (pids : List Nat)
  /-- the exit of the exact child -/
  | exited
  | status (status : MissingContainmentStatus)
  | signalled
  /-- the cgroup was killed at this tick -/
  | killed (tick : Nat)
  /-- the directory of the cgroup was removed -/
  | removed
  deriving DecidableEq, Repr

/-- The handle of a direct child, with the exit status once it was read. -/
structure ManagedProcess where
  containment : String
  child : Bool
  exitStatus : Option (Option Int)
  gracefulTimeout : Nat
  forceTimeout : Nat
  deriving DecidableEq, Repr

/-- The adapter, the tick of the host and the record of the current call. -/
structure Machine where
  children : List ManagedProcess
  uncertainContainments : List String
  tick : Nat
  log : List Event
  deriving DecidableEq, Repr

/-- The state in which a call begins. -/
def Machine.begin (s : Machine) : Machine :=
  { s with log := [] }

abbrev AdapterM (α : Type) : Type :=
  Program Machine AdapterError α

/-- Ask the kernel. -/
def ask {α : Type} (answer : Nat → α) : AdapterM α :=
  fun s => (some (.ok (answer s.tick)), { s with tick := s.tick + 1 })

def record (event : Event) : AdapterM Unit :=
  modify fun s => { s with log := s.log ++ [event] }

/-! ### Cgroups -/

def cgroupPrefix : String :=
  "cgroup-v2:"

def maxCgroupPids : Nat :=
  4096

def defaultGracefulTimeout : Nat :=
  5 * 1000000000

def defaultForceTimeout : Nat :=
  10 * 1000000000

def cleanupUncertainMarker : String :=
  "linux-launch-cleanup-uncertain"

def isCgroupName (name : String) : Bool :=
  !name.isEmpty && name.utf8ByteSize ≤ 128 &&
    name.toList.all fun c => c.isAlphanum || c == '-' || c == '_'

def validateCgroupName (name : String) : Except AdapterError Unit :=
  ensure (isCgroupName name) (.invalid "process containment name is outside bounds")

/-- The name of the cgroup in a containment identity. -/
def containmentName (value : String) : Except AdapterError String := do
  ensure (cgroupPrefix.toList.isPrefixOf value.toList)
    (.invalid "process containment is not a Linux cgroup identity")
  let name := String.ofList (value.toList.drop cgroupPrefix.length)
  validateCgroupName name
  return name

/-- Collect the members from the lines of `cgroup.procs`. -/
def collectPids (name : String) (pids : List Nat) :
    List (Option Nat) → Except AdapterError (List Nat)
  | [] => .ok pids
  | line :: lines =>
    if maxCgroupPids ≤ pids.length then
      .error (.unavailable "cgroup process membership exceeds bounds")
    else
      match line with
      | none => .error (.unavailable s!"cgroup {name} contains an invalid pid")
      | some 0 => .error (.unavailable "cgroup process membership contains pid zero")
      | some pid => collectPids name (if pids.contains pid then pids else pids ++ [pid]) lines

section Adapter

variable (host : Host)

variable (s : Machine) (containment : String) (identity : ProcessIdentity) (name : String)

/-- `Cgroup::pids`. -/
def cgroupPids : AdapterM (List Nat) := do
  match ← ask host.procs with
  | .error e => fail (.unavailable s!"cannot inspect cgroup {name}: {e}")
  | .ok lines => do
    let pids ← ofExcept (collectPids name [] lines)
    record (.members pids)
    return pids

def killAll : AdapterM Unit := do
  let tick ← gets (·.tick)
  match ← ask host.kill with
  | .error e => fail (.unavailable s!"cgroup force cleanup failed: {e}")
  | .ok () => record (.killed tick)

/-- `Cgroup::remove`. -/
def removeCgroup : AdapterM Unit := do
  let pids ← cgroupPids host name
  if pids = [] then
    match ← ask host.removeDir with
    | .error e => fail (.io s!"cannot remove empty cgroup {name}: {e}")
    | .ok () => record .removed
  else fail (.timeout s!"cgroup {name} still contains processes")

/-- `CgroupRoot::maybe_existing`: whether there is a cgroup. -/
def maybeExisting : AdapterM Bool := do
  ofExcept (validateCgroupName name)
  match ← ask host.cgroup with
  | .error e => fail e
  | .ok true => return true
  | .ok false => do
    record .missing
    return false

/-! ### The child and its identity -/

/-- The entry of the children with this containment. -/
def Machine.managed : Option ManagedProcess :=
  lookup ManagedProcess.containment containment s.children

def forgetChild : AdapterM Unit :=
  modify fun s => { s with children := s.children.filter (·.containment != containment) }

/-- Keep the exit status of a child. -/
def Machine.keepExit (code : Option Int) : Machine :=
  let keep (managed : ManagedProcess) := { managed with exitStatus := some code }
  { s with children := updateWhere (·.containment == containment) keep s.children }

/-- Poll the direct child of a containment; an exit that was read once is kept. The tick passes also
where there is nothing to poll. -/
def childState : AdapterM ManagedChildState := do
  let answer ← ask host.tryWait
  match ← gets (·.managed containment) with
  | none => return .unknown
  | some managed =>
    match managed.exitStatus, managed.child, answer with
    | some code, _, _ => do
      record .exited
      return .exited code
    | none, false, _ => return .unknown
    | none, true, .error e => fail (.io s!"Linux managed child status check failed: {e}")
    | none, true, .ok none => return .alive
    | none, true, .ok (some code) => do
      modify (·.keepExit containment code)
      record .exited
      return .exited code

def isSealedMemfd (path : String) : Bool :=
  "/memfd:".toList.isPrefixOf path.toList

def liveProcessMatchesExecutable (actual : LiveProcess) (executable digest : String) : Bool :=
  (actual.executable == executable ||
      (actual.executableSealed && isSealedMemfd actual.executable)) &&
    actual.executableSha256 == digest

def identitiesMatch (expected : ProcessIdentity) (actual : LiveProcess) : Bool :=
  expected.creation.token == actual.token &&
    expected.executableSha256 == actual.executableSha256 &&
    liveProcessMatchesExecutable actual expected.executable expected.executableSha256

def readLiveProcess (pid : Nat) : AdapterM LiveProcess := do
  if pid = 0 then fail (.invalid "cannot inspect pid zero")
  else
    match ← ask host.live with
    | .error e => fail e
    | .ok actual => return actual

/-- The decimal text of an unsigned 64-bit integer, with an optional sign. -/
def isU64Text (text : List Char) : Bool :=
  let digits := match text with
    | '+' :: digits => digits
    | digits => digits
  !digits.isEmpty && digits.all Char.isDigit && Nat.ofDigitChars 10 digits 0 < 2 ^ 64

/-- Whether a token is one of this boot. -/
def isCreationToken (bootId token : String) : Bool :=
  (bootId.toList ++ [':']).isPrefixOf token.toList &&
    isU64Text (token.toList.drop (bootId.length + 1))

/-- Whether the process with this creation token is still there. -/
def readProcessCreationStatus (pid : Nat) (expectedToken : String) :
    AdapterM MissingContainmentStatus := do
  if pid = 0 then fail (.invalid "cannot inspect pid zero")
  else if !isCreationToken host.bootId expectedToken then
    fail (.invalid "recorded Linux process creation token is malformed")
  else
    match ← ask host.stat with
    | .error e => fail (.io s!"cannot read process {pid} birth data: {e}")
    | .ok (some none) => fail (.io s!"process {pid} has malformed /proc stat data")
    | .ok none => do
      record (.status .absent)
      return .absent
    | .ok (some (some ticks)) => do
      let status := if s!"{host.bootId}:{ticks}" = expectedToken then
        MissingContainmentStatus.present else .reused
      record (.status status)
      return status

/-! ### Observation and stop -/

def observeIdentity : AdapterM Observation := do
  let pids ← cgroupPids host name
  if pids = [] then
    -- an empty cgroup is no proof that the exact child has exited
    match ← childState host identity.containment with
    | .exited code => return .exited code
    | .alive => return .ambiguous
    | .unknown => return .ambiguous
  else if !pids.contains identity.creation.pid then return .ambiguous
  else
    match ← attempt (readLiveProcess host identity.creation.pid) with
    | .ok actual =>
      if identitiesMatch identity actual then return .running identity else return .identityMismatch
    | .error (.unavailable _) => return .ambiguous
    | .error e => fail e

/-- Remove the cgroup if it is empty and the child has exited. -/
def cleanupIfEmpty : AdapterM Bool := do
  let pids ← cgroupPids host name
  if pids = [] then
    let state ← childState host identity.containment
    if state.isExited then
      removeCgroup host name
      forgetChild identity.containment
      return true
    else return false
  else return false

/-- One round of `wait_for_empty`. -/
def waitRound : AdapterM Bool := do
  let state ← childState host identity.containment
  let pids ← cgroupPids host name
  if pids = [] ∧ state.isExited then
    removeCgroup host name
    forgetChild identity.containment
    return true
  else return false

/-- Repeat a round up to the deadline, which is reached after the given number of rounds. -/
def pollRounds (round : AdapterM Bool) : Nat → AdapterM Bool
  | 0 => round
  | rounds + 1 => do
    if ← round then return true else pollRounds round rounds

def waitForEmpty (timeout : Nat) : AdapterM Bool := fun s =>
  pollRounds (waitRound host identity name) (host.rounds timeout s.tick) s

/-- One round of `wait_for_empty_by_containment`. -/
def waitContainmentRound : AdapterM Bool := do
  let pids ← cgroupPids host name
  if pids = [] then
    removeCgroup host name
    modify fun s => { s with uncertainContainments := s.uncertainContainments.filter (· != name) }
    return true
  else return false

def waitForEmptyByContainment (timeout : Nat) : AdapterM Bool := fun s =>
  pollRounds (waitContainmentRound host name) (host.rounds timeout s.tick) s

def timeoutFor (graceful : Bool) (s : Machine) : Nat :=
  match s.managed identity.containment with
  | none => if graceful then defaultGracefulTimeout else defaultForceTimeout
  | some managed => if graceful then managed.gracefulTimeout else managed.forceTimeout

/-- Whether the process of a missing containment is gone, by its creation token. -/
def stopByCreation : AdapterM StopOutcome := do
  match ← readProcessCreationStatus host identity.creation.pid identity.creation.token with
  | .present =>
    fail (.unavailable "Linux containment is missing while the recorded process remains present")
  | _ => return .alreadyExited

def stopMissingContainment : AdapterM StopOutcome := do
  match ← gets (·.managed identity.containment) with
  | none => stopByCreation host identity
  | some _ =>
    match ← childState host identity.containment with
    | .exited _ => do
      forgetChild identity.containment
      return .alreadyExited
    | .alive =>
      fail (.unavailable "Linux containment is missing before exact child exit was proven")
    | .unknown => do
      let outcome ← stopByCreation host identity
      forgetChild identity.containment
      return outcome

/-- Signal the leader through a descriptor that is bound to the process. -/
def sendGracefulTerm : AdapterM Unit := do
  let pids ← cgroupPids host name
  if !pids.contains identity.creation.pid then
    fail (.identityMismatch "recorded leader is not in its cgroup")
  else if 2 ^ 31 ≤ identity.creation.pid then
    fail (.invalid "recorded Linux PID exceeds the pidfd range")
  else if identity.creation.pid = 0 then fail (.invalid "recorded Linux PID is zero")
  else
    match ← ask host.pidfdOpen with
    | .error e =>
      fail (.unavailable s!"Linux pidfd_open could not bind the graceful-stop target: {e}")
    | .ok () => do
      let actual ← readLiveProcess host identity.creation.pid
      if !identitiesMatch identity actual then
        fail (.identityMismatch "process birth or executable identity changed")
      else
        let pids ← cgroupPids host name
        if !pids.contains identity.creation.pid then
          fail (.identityMismatch "recorded leader left its cgroup before graceful stop")
        else
          match ← ask host.sendTerm with
          | .error e =>
            fail (.unavailable s!"Linux pidfd_send_signal could not deliver graceful TERM: {e}")
          | .ok () => record .signalled

/-- Wait until the deadline of the stage. -/
def awaitExit (graceful : Bool) : AdapterM StopOutcome := do
  let timeout ← gets (timeoutFor identity graceful)
  if ← waitForEmpty host identity name timeout then return .exited else return .timedOut

def gracefulStop : AdapterM StopOutcome := do
  let name ← ofExcept (containmentName identity.containment)
  if ← maybeExisting host name then
    match ← observeIdentity host identity name with
    | .exited _ | .missing => do
      -- the answer of the cleanup is not used
      let _ ← cleanupIfEmpty host identity name
      return .alreadyExited
    | .identityMismatch | .ambiguous =>
      fail (.identityMismatch "cannot gracefully stop an unverified cgroup member")
    | .running _ => do
      sendGracefulTerm host identity name
      awaitExit host identity name true
  else stopMissingContainment host identity

/-- The second half of `force_stop`. -/
def killAndAwait : AdapterM StopOutcome := do
  killAll host
  awaitExit host identity name false

def forceStop : AdapterM StopOutcome := do
  let name ← ofExcept (containmentName identity.containment)
  if ← maybeExisting host name then
    match ← observeIdentity host identity name with
    | .missing => return .alreadyExited
    | .exited _ => do
      if ← cleanupIfEmpty host identity name then return .alreadyExited
      else killAndAwait host identity name
    | .identityMismatch =>
      fail (.identityMismatch "cannot force-stop an unverified cgroup owner")
    -- the containment is exact, so it may be killed when its leader is dead
    | .ambiguous => killAndAwait host identity name
    | .running _ => killAndAwait host identity name
  else stopMissingContainment host identity

/-- Clean a containment of which no process identity is known. -/
def forceCleanupPlannedContainment : AdapterM StopOutcome := do
  let name ← ofExcept (containmentName containment)
  if ← maybeExisting host name then
    let retain (s : Machine) : Machine := { s with
      uncertainContainments := s.uncertainContainments.filter (· != name) ++ [name] }
    modify retain
    killAll host
    if ← waitForEmptyByContainment host name defaultForceTimeout then return .exited
    else
      modify retain
      return .timedOut
  else
    fail (.unavailable (cleanupUncertainMarker ++ ": planned Linux containment " ++ cgroupPrefix ++
      name ++ " is missing; exact cleanup cannot be proven"))

end Adapter

end AscensionWatchdog.Platform
