import AscensionWatchdog.Storage.Values

/-!
# The contract with a process adapter

What reconciliation and the adapters of an operating system share: the launch specification with
the checks made on it before any call of the system, the identity of a launched process, and the
outcomes and errors that an adapter reports. Paths are texts, and a path of Linux is absolute when
it begins with a slash; durations are numbers of nanoseconds.
-/

namespace AscensionWatchdog.Platform

open Foundation

/-- The errors of an adapter, each with its text. -/
inductive AdapterError where
  | invalid (message : String)
  | unsupported (message : String)
  | unavailable (message : String)
  | identityMismatch (message : String)
  | timeout (message : String)
  | io (message : String)
  deriving DecidableEq, Repr

/-- The text of an error. -/
def AdapterError.display : AdapterError → String
  | .invalid message => s!"invalid platform request: {message}"
  | .unsupported message => s!"platform unsupported: {message}"
  | .unavailable message => s!"platform unavailable: {message}"
  | .identityMismatch message => s!"platform identity mismatch: {message}"
  | .timeout message => s!"platform timeout: {message}"
  | .io message => s!"platform I/O failure: {message}"

/-- An adapter error as the runtime reports it. -/
def mapAdapterError : AdapterError → WatchdogError
  | .invalid message => .invalidInput message
  | .unsupported message => .unsupported message
  | .unavailable message => .unsupported message
  | .identityMismatch message => .identityMismatch message
  | .timeout message => .timeout message
  | .io message => .io message

inductive ComponentKind where
  | gateway
  | harness
  | hostBroker
  | synthetic
  deriving DecidableEq, Repr

inductive SessionSelector where
  | activeUser
  | explicit (session : Nat)
  deriving DecidableEq, Repr

/-- What identifies a process: its number, and the token of its creation. -/
structure ProcessCreation where
  token : String
  pid : Nat
  deriving DecidableEq, Repr

/-- The identity that is kept of a supervised process. -/
structure ProcessIdentity where
  deploymentId : String
  instanceId : String
  component : ComponentKind
  incarnation : String
  launchNonce : String
  creation : ProcessCreation
  executable : String
  executableSha256 : String
  containment : String
  session : Option Nat
  deriving DecidableEq, Repr

inductive StopOutcome where
  | exited
  | alreadyExited
  | timedOut
  deriving DecidableEq, Repr

inductive Observation where
  | running (identity : ProcessIdentity)
  | exited (code : Option Int)
  | missing
  | identityMismatch
  | ambiguous
  deriving DecidableEq, Repr

/-! ### Launch specifications -/

/-- A direct, bounded launch request. -/
structure LaunchSpec where
  deploymentId : String
  instanceId : String
  component : ComponentKind
  incarnation : String
  launchNonce : String
  executable : String
  executableSha256 : String
  arguments : List String
  workingDirectory : Option String
  environment : List (String × String)
  session : SessionSelector
  gracefulTimeout : Nat
  forceTimeout : Nat
  deriving DecidableEq, Repr

def maxIdentityBytes : Nat :=
  256

def maxArguments : Nat :=
  64

def maxArgumentBytes : Nat :=
  8 * 1024

def maxEnvironment : Nat :=
  64

def maxEnvironmentNameBytes : Nat :=
  128

def maxEnvironmentValueBytes : Nat :=
  8 * 1024

def maxLaunchBytes : Nat :=
  32 * 1024

def isAbsolute (path : String) : Bool :=
  path.toList.head? == some '/'

def validateIdentity (label value : String) : Except AdapterError Unit :=
  ensure (isName value maxIdentityBytes) (.invalid s!"{label} identity is outside bounds")

/-- A hexadecimal digit in either case. -/
def isHexDigit (c : Char) : Bool :=
  ('0' ≤ c && c ≤ '9') || ('a' ≤ c && c ≤ 'f') || ('A' ≤ c && c ≤ 'F')

/-- 64 hexadecimal characters. -/
def isSha256 (value : String) : Bool :=
  value.utf8ByteSize == 64 && value.toList.all isHexDigit

def validateSha256 (label value : String) : Except AdapterError Unit :=
  ensure (isSha256 value)
    (.invalid s!"{label} must be a 64-character SHA-256 hexadecimal digest")

/-- The bindings of an environment, with the names that were seen before. -/
def validateBindings : List String → List (String × String) → Except AdapterError Unit
  | _, [] => .ok ()
  | seen, (name, value) :: rest => do
    ensure (!name.isEmpty && name.utf8ByteSize ≤ maxEnvironmentNameBytes &&
        value.utf8ByteSize ≤ maxEnvironmentValueBytes && !name.toList.contains '=' &&
        !containsNul name && !name.toList.any isControl && !containsNul value &&
        !value.toList.any isControl && !seen.contains name)
      (.invalid "environment contains an invalid or duplicate name/value")
    validateBindings (name :: seen) rest

/-- The bytes of the arguments and of the environment. -/
def LaunchSpec.launchBytes (spec : LaunchSpec) : Nat :=
  (spec.arguments.map String.utf8ByteSize).sum +
    (spec.environment.map fun binding => binding.1.utf8ByteSize + binding.2.utf8ByteSize).sum

/-- Which sessions a role may run in. -/
def validateSession : ComponentKind → SessionSelector → Except AdapterError Unit
  | .hostBroker, .activeUser => .ok ()
  | .hostBroker, .explicit session =>
    ensure (session ≠ 0)
      (.unsupported "graphical HostBroker requires an approved nonzero user session")
  | _, .explicit _ => .ok ()
  | _, .activeUser =>
    .error (.unsupported "background components cannot target the interactive user session")

/-- The checks on a specification before any call of the system. -/
def LaunchSpec.validate (spec : LaunchSpec) : Except AdapterError Unit := do
  validateIdentity "deployment" spec.deploymentId
  validateIdentity "instance" spec.instanceId
  validateIdentity "incarnation" spec.incarnation
  validateIdentity "launch nonce" spec.launchNonce
  validateSha256 "executable digest" spec.executableSha256
  ensure (isAbsolute spec.executable) (.invalid "executable must be absolute")
  ensure (spec.workingDirectory.all isAbsolute) (.invalid "working directory must be absolute")
  ensure (spec.arguments.length ≤ maxArguments &&
      !spec.arguments.any fun argument =>
        maxArgumentBytes < argument.utf8ByteSize || containsNul argument)
    (.invalid "arguments exceed bounds")
  ensure (spec.environment.length ≤ maxEnvironment) (.invalid "environment exceeds bounds")
  validateBindings [] spec.environment
  ensure (spec.launchBytes ≤ maxLaunchBytes)
    (.invalid "launch arguments and environment exceed aggregate bounds")
  ensure (0 < spec.gracefulTimeout ∧ 0 < spec.forceTimeout ∧
      spec.gracefulTimeout ≤ spec.forceTimeout)
    (.invalid "stop deadlines must be non-zero and ordered")
  validateSession spec.component spec.session

end AscensionWatchdog.Platform
