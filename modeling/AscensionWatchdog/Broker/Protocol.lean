import AscensionWatchdog.Foundation.Text
import AscensionWatchdog.Storage.Values

/-!
# The protocol of the root broker

A privileged broker starts the components as transient units of the service manager. A caller
names a component and three identifiers; the executable, its arguments and its limits come from a
fixed policy. What the manager reports of a unit is checked against that policy, and the receipt
that the broker returns binds the request to one process. The name of a unit is derived from the
request by a digest.

Paths are texts, durations are numbers of nanoseconds, and the protected files of the system are
given by what a check of them answers.
-/

namespace AscensionWatchdog.Broker

open Foundation

/-- The errors of the broker, each with its text. -/
inductive BrokerError where
  | invalid (message : String)
  | unauthorized (message : String)
  | conflict (message : String)
  | unavailable (message : String)
  | io (message : String)
  deriving DecidableEq, Repr

/-- The text of an error. -/
def BrokerError.display : BrokerError → String
  | .invalid message => s!"invalid broker request: {message}"
  | .unauthorized message => s!"unauthorized broker request: {message}"
  | .conflict message => s!"broker conflict: {message}"
  | .unavailable message => s!"broker unavailable: {message}"
  | .io message => s!"broker I/O error: {message}"

def maxFrameBytes : Nat :=
  16 * 1024

def maxIdentityBytes : Nat :=
  128

def maxArguments : Nat :=
  64

def maxArgumentBytes : Nat :=
  8 * 1024

def maxEnvironment : Nat :=
  64

def maxEnvironmentBytes : Nat :=
  8 * 1024

def maxTasks : Nat :=
  4096

def maxMemoryBytes : Nat :=
  64 * 1024 * 1024 * 1024

/-- Two minutes. -/
def maxTimeout : Nat :=
  120 * 1000000000

/-! ### Requests -/

inductive BrokerComponent where
  | gateway
  | harness
  | hostBroker
  | synthetic
  deriving DecidableEq, Repr

def BrokerComponent.asStr : BrokerComponent → String
  | .gateway => "gateway"
  | .harness => "harness"
  | .hostBroker => "hostbroker"
  | .synthetic => "synthetic"

/-- What a caller may name. -/
structure BrokerRequest where
  component : BrokerComponent
  instanceName : String
  incarnation : String
  nonce : String
  deriving DecidableEq, Repr

/-- ASCII letters and digits, dots, underscores and hyphens. -/
def isIdentityChar (c : Char) : Bool :=
  c.isAlphanum || c == '.' || c == '_' || c == '-'

def validateIdentity (label value : String) : Except BrokerError Unit :=
  ensure (value ≠ "" ∧ value.utf8ByteSize ≤ maxIdentityBytes ∧
      value.toList.all isIdentityChar = true)
    (.invalid s!"{label} is not a bounded identifier")

def BrokerRequest.validate (request : BrokerRequest) : Except BrokerError Unit := do
  validateIdentity "instance" request.instanceName
  validateIdentity "incarnation" request.incarnation
  validateIdentity "nonce" request.nonce

/-! ### Policies -/

structure CapabilityPolicy where
  boundingSet : Nat
  ambientSet : Nat
  noNewPrivileges : Bool
  deriving DecidableEq, Repr

structure CgroupPolicy where
  tasksMax : Nat
  memoryMaxBytes : Nat
  deriving DecidableEq, Repr

/-- The fixed launch details of a component. -/
structure LaunchPolicy where
  executable : String
  executableSha256 : String
  arguments : List String
  workingDirectory : String
  environment : List (String × String)
  targetUid : Nat
  targetGid : Nat
  capabilities : CapabilityPolicy
  cgroup : CgroupPolicy
  timeout : Nat
  deriving DecidableEq, Repr

/-- A hexadecimal digit in either case. -/
def isHexDigit (c : Char) : Bool :=
  ('0' ≤ c && c ≤ '9') || ('a' ≤ c && c ≤ 'f') || ('A' ≤ c && c ≤ 'F')

def validateSha256 (value : String) : Except BrokerError Unit :=
  ensure (value.utf8ByteSize = 64 ∧ value.toList.all isHexDigit = true)
    (.invalid "SHA-256 digest is not canonical")

/-- Bytes in lowercase hexadecimal. -/
def hexDigest (bytes : List UInt8) : String :=
  String.ofList (bytes.flatMap byteHex)

/-- The digest of bytes. -/
def sha256 (crates : Crates) (bytes : List UInt8) : List UInt8 :=
  (crates.sha256 ⟨bytes.toArray⟩).toList

/-- What the checks of the protected files of the system answer; `contents` is what a reading of
a file finds. -/
structure ProtectedFiles where
  validateProtectedFile : String → String → Except BrokerError Unit
  validateProtectedDirectory : String → String → Except BrokerError Unit
  contents : String → Except BrokerError (List UInt8)

def hashFile (crates : Crates) (files : ProtectedFiles) (path : String) :
    Except BrokerError String := do
  let bytes ← files.contents path
  pure (hexDigest (sha256 crates bytes))

def validateLaunchPolicy (crates : Crates) (files : ProtectedFiles) (policy : LaunchPolicy) :
    Except BrokerError Unit := do
  validateSha256 policy.executableSha256
  files.validateProtectedFile policy.executable "launch executable"
  let actual ← hashFile crates files policy.executable
  ensure (actual = policy.executableSha256)
    (.invalid "launch executable digest does not match policy")
  files.validateProtectedDirectory policy.workingDirectory "working directory"
  ensure (policy.targetUid ≠ 0 ∧ policy.targetGid ≠ 0)
    (.invalid "launch target UID/GID must not be root")
  ensure (policy.arguments.length ≤ maxArguments ∧
      ∀ argument ∈ policy.arguments,
        argument.utf8ByteSize ≤ maxArgumentBytes ∧ containsNul argument = false)
    (.invalid "launch arguments exceed bounds")
  ensure (policy.environment.length ≤ maxEnvironment ∧
      ∀ binding ∈ policy.environment,
        binding.1 ≠ "" ∧ '=' ∉ binding.1.toList ∧ containsNul binding.1 = false ∧
          containsNul binding.2 = false ∧
          binding.1.utf8ByteSize + binding.2.utf8ByteSize ≤ maxEnvironmentBytes)
    (.invalid "launch environment exceeds bounds")
  ensure (policy.timeout ≠ 0 ∧ policy.timeout ≤ maxTimeout)
    (.invalid "launch timeout is out of bounds")
  ensure (policy.capabilities.noNewPrivileges = true ∧ policy.capabilities.boundingSet = 0 ∧
      policy.capabilities.ambientSet = 0)
    (.invalid
      "launch capability policy must have zero capability sets and retain no-new-privileges")
  ensure (policy.cgroup.tasksMax ≠ 0 ∧ policy.cgroup.tasksMax ≤ maxTasks ∧
      policy.cgroup.memoryMaxBytes ≠ 0 ∧ policy.cgroup.memoryMaxBytes ≤ maxMemoryBytes)
    (.invalid "launch cgroup limits are out of bounds")

/-- The policy of the broker: the launch policy of each component that it has. -/
structure BrokerPolicy where
  components : List (BrokerComponent × LaunchPolicy)

def BrokerPolicy.component (policy : BrokerPolicy) (component : BrokerComponent) :
    Except BrokerError LaunchPolicy :=
  orError (policy.components.lookup component)
    (.unauthorized "component is not in the fixed policy")

/-! ### Units -/

/-- The bytes that a unit name is derived from: the parts of the request with a NUL between
them. -/
def BrokerRequest.bytes (request : BrokerRequest) : List UInt8 :=
  request.component.asStr.toUTF8.data.toList ++ [0] ++ request.instanceName.toUTF8.data.toList ++ [0] ++
    request.incarnation.toUTF8.data.toList ++ [0] ++ request.nonce.toUTF8.data.toList

/-- The name of a unit with a given digest. -/
def unitWithDigest (component : BrokerComponent) (digest : String) : String :=
  s!"ascension-watchdog-{component.asStr}-{takeChars 24 digest}.service"

theorem unitWithDigest_eq (component : BrokerComponent) (digest : String) :
    unitWithDigest component digest =
      "ascension-watchdog-" ++ component.asStr ++ "-" ++ takeChars 24 digest ++ ".service" := by
  unfold unitWithDigest
  rfl

def unitName (crates : Crates) (request : BrokerRequest) : String :=
  unitWithDigest request.component (hexDigest (sha256 crates request.bytes))

/-- Whether a text ends with another. -/
def endsWith (value ending : String) : Bool :=
  ending.toList.isSuffixOf value.toList

/-- What the manager reports of a running unit. -/
structure UnitObservation where
  unit : String
  pid : Nat
  creationToken : String
  executable : String
  executableSha256 : String
  uid : Nat
  gid : Nat
  capabilityBoundingSet : Nat
  ambientCapabilities : Nat
  noNewPrivileges : Bool
  controlGroup : String
  deriving DecidableEq, Repr

def UnitObservation.verify (self : UnitObservation) (unit : String) (policy : LaunchPolicy) :
    Except BrokerError Unit :=
  ensure (self.unit = unit ∧ self.pid ≠ 0 ∧ self.creationToken ≠ "" ∧
      self.executable = policy.executable ∧
      self.executableSha256 = policy.executableSha256 ∧
      self.uid = policy.targetUid ∧ self.gid = policy.targetGid ∧
      self.capabilityBoundingSet = policy.capabilities.boundingSet ∧
      self.ambientCapabilities = policy.capabilities.ambientSet ∧
      self.noNewPrivileges = policy.capabilities.noNewPrivileges ∧
      endsWith self.controlGroup s!"/{unit}" = true)
    (.conflict "systemd unit postcondition does not match fixed policy")

/-- The receipt of a launch. -/
structure LaunchReceipt where
  request : BrokerRequest
  unit : String
  pid : Nat
  creationToken : String
  executable : String
  executableSha256 : String
  uid : Nat
  gid : Nat
  capabilityBoundingSet : Nat
  ambientCapabilities : Nat
  controlGroup : String
  duplicate : Bool
  deriving DecidableEq, Repr

def receiptFrom (request : BrokerRequest) (observation : UnitObservation) (duplicate : Bool) :
    LaunchReceipt where
  request := request
  unit := observation.unit
  pid := observation.pid
  creationToken := observation.creationToken
  executable := observation.executable
  executableSha256 := observation.executableSha256
  uid := observation.uid
  gid := observation.gid
  capabilityBoundingSet := observation.capabilityBoundingSet
  ambientCapabilities := observation.ambientCapabilities
  controlGroup := observation.controlGroup
  duplicate := duplicate

def verifyReceiptIdentity (receipt : LaunchReceipt) (request : BrokerRequest) (unit : String)
    (policy : LaunchPolicy) : Except BrokerError Unit :=
  ensure (receipt.request = request ∧ receipt.unit = unit ∧ receipt.pid ≠ 0 ∧
      receipt.creationToken ≠ "" ∧ receipt.executable = policy.executable ∧
      receipt.executableSha256 = policy.executableSha256 ∧
      receipt.uid = policy.targetUid ∧ receipt.gid = policy.targetGid ∧
      receipt.capabilityBoundingSet = policy.capabilities.boundingSet ∧
      receipt.ambientCapabilities = policy.capabilities.ambientSet ∧
      endsWith receipt.controlGroup s!"/{unit}" = true)
    (.conflict "durable lifecycle receipt does not match fixed policy")

/-- A receipt made of a verified observation is verified. -/
theorem verifyReceiptIdentity_receiptFrom {request : BrokerRequest} {unit : String}
    {observation : UnitObservation} {policy : LaunchPolicy} {duplicate : Bool}
    (h : observation.verify unit policy = .ok ()) :
    verifyReceiptIdentity (receiptFrom request observation duplicate) request unit policy =
      .ok () := by
  rw [UnitObservation.verify, ensure_eq_ok] at h
  obtain ⟨hunit, hpid, htoken, hexe, hsha, huid, hgid, hbounding, hambient, -, hgroup⟩ := h
  rw [verifyReceiptIdentity, ensure_eq_ok]
  exact ⟨rfl, hunit, hpid, htoken, hexe, hsha, huid, hgid, hbounding, hambient, hgroup⟩

/-- Two receipts of one process: they differ at most in whether they acknowledge a repetition. -/
def sameProcessBinding (previous current : LaunchReceipt) : Prop :=
  previous.request = current.request ∧ previous.unit = current.unit ∧
    previous.pid = current.pid ∧ previous.creationToken = current.creationToken ∧
    previous.executable = current.executable ∧
    previous.executableSha256 = current.executableSha256 ∧ previous.uid = current.uid ∧
    previous.gid = current.gid ∧
    previous.capabilityBoundingSet = current.capabilityBoundingSet ∧
    previous.ambientCapabilities = current.ambientCapabilities ∧
    previous.controlGroup = current.controlGroup

instance (previous current : LaunchReceipt) : Decidable (sameProcessBinding previous current) :=
  inferInstanceAs (Decidable (_ ∧ _))

theorem sameProcessBinding_iff {previous current : LaunchReceipt} :
    sameProcessBinding previous current ↔
      previous = { current with duplicate := previous.duplicate } := by
  cases previous
  cases current
  simp [sameProcessBinding]

theorem sameProcessBinding_refl (receipt : LaunchReceipt) : sameProcessBinding receipt receipt :=
  sameProcessBinding_iff.mpr rfl

theorem sameProcessBinding_duplicate (receipt : LaunchReceipt) (duplicate : Bool) :
    sameProcessBinding receipt { receipt with duplicate := duplicate } :=
  sameProcessBinding_iff.mpr rfl

theorem sameProcessBinding.trans {a b c : LaunchReceipt} (hab : sameProcessBinding a b)
    (hbc : sameProcessBinding b c) : sameProcessBinding a c := by
  rw [sameProcessBinding_iff] at hab hbc ⊢
  rw [hab, hbc]

/-! ### Bindings of a launch -/

inductive BootstrapKind where
  | gatewayHealth
  | worker
  deriving DecidableEq, Repr

/-- The part of a bootstrap frame that is not secret. -/
structure BrokerBootstrapBinding where
  version : Nat
  kind : BootstrapKind
  watchdogBootId : String
  frameSha256 : String
  deriving DecidableEq, Repr

def bootstrapBindingVersion : Nat :=
  2

def BootstrapKind.component : BootstrapKind → BrokerComponent
  | .gatewayHealth => .gateway
  | .worker => .harness

def validateUuid4 (value label : String) : Except BrokerError Unit :=
  ensure (isCanonicalUuid4 value = true) (.invalid label)

def BrokerBootstrapBinding.validate (self : BrokerBootstrapBinding) (request : BrokerRequest) :
    Except BrokerError Unit := do
  request.validate
  ensure (self.version = bootstrapBindingVersion)
    (.invalid "unsupported broker bootstrap binding version")
  ensure (request.component = self.kind.component)
    (.invalid "broker bootstrap role does not match the request")
  validateUuid4 request.nonce "broker bootstrap launch nonce"
  validateUuid4 self.watchdogBootId "broker bootstrap watchdog boot id"
  ensure (isDigest self.frameSha256 = true)
    (.invalid "broker bootstrap frame digest is invalid")

/-- The job that the manager queued for a unit. -/
structure JobBinding where
  unit : String
  jobId : Nat
  jobPath : String
  deriving DecidableEq, Repr

def maxJobPathBytes : Nat :=
  128

def systemdJobPathPrefix : String :=
  "/org/freedesktop/systemd1/job/"

/-- The number that a text of decimal digits denotes, if it is one of 32 bits. -/
def parseU32 (digits : List Char) : Option Nat :=
  let value := digits.foldl (fun n c => 10 * n + (c.toNat - 48)) 0
  if value < 2 ^ 32 then some value else none

def parseJobPath (jobPath : String) : Except BrokerError Nat := do
  ensure (jobPath.utf8ByteSize ≤ maxJobPathBytes ∧ containsNul jobPath = false)
    (.invalid "systemd job object path exceeds its bound")
  let idText ← orError (jobPath.toList.dropPrefix? systemdJobPathPrefix.toList)
    (.invalid "systemd job object path is not canonical")
  ensure (idText ≠ [] ∧ idText.length ≤ 10 ∧ idText.head? ≠ some '0' ∧
      idText.all Char.isDigit = true)
    (.invalid "systemd job object path has an invalid ID")
  orError (parseU32 idText) (.invalid "systemd job object path ID is out of bounds")

def JobBinding.validateSyntaxForBackend (self : JobBinding) : Except BrokerError Unit := do
  ensure (self.unit ≠ "" ∧ self.unit.utf8ByteSize ≤ maxIdentityBytes)
    (.invalid "systemd job unit binding is out of bounds")
  let parsed ← parseJobPath self.jobPath
  ensure (parsed = self.jobId) (.conflict "systemd job ID does not match its object path")

def JobBinding.validateForRequest (crates : Crates) (self : JobBinding) (request : BrokerRequest) :
    Except BrokerError Unit := do
  request.validate
  self.validateSyntaxForBackend
  ensure (self.unit = unitName crates request)
    (.conflict "systemd job binding does not match the generated unit")

end AscensionWatchdog.Broker
