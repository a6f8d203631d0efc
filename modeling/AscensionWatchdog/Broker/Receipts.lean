import AscensionWatchdog.Broker.Protocol
import AscensionWatchdog.Platform.Contract
import AscensionWatchdog.Storage.Identities

/-!
# Receipts on the runtime's side

The runtime asks the broker for a launch and checks the receipt that comes back. It derives the
unit name that it expects by itself, with its own helpers, and the two derivations differ: the
broker writes the digest of the request in hexadecimal, while the runtime's helper hashes what it
is given, so that it writes the digest of the digest. `verifyBrokerReceipt_iff` says what follows:
of the receipts that the broker builds the runtime accepts those whose request has the same first
twelve bytes in both, and no others.
-/

namespace AscensionWatchdog.Broker

open Foundation

/-! ### The runtime's helpers -/

/-- `config::hex_digest`: the digest of bytes, in hexadecimal. -/
def configHexDigest (crates : Crates) (bytes : List UInt8) : String :=
  hexDigest (sha256 crates bytes)

def brokerContainmentPrefix : String :=
  "linux-broker-v1"

def brokerComponent : Platform.ComponentKind → BrokerComponent
  | .gateway => .gateway
  | .harness => .harness
  | .hostBroker => .hostBroker
  | .synthetic => .synthetic

def brokerComponentName : BrokerComponent → String
  | .gateway => "gateway"
  | .harness => "harness"
  | .hostBroker => "hostbroker"
  | .synthetic => "synthetic"

def validBrokerIdentity (value : String) : Prop :=
  value ≠ "" ∧ value.utf8ByteSize ≤ 128 ∧ value.toList.all isIdentityChar = true

instance (value : String) : Decidable (validBrokerIdentity value) :=
  inferInstanceAs (Decidable (_ ∧ _))

def validateBrokerRequest (request : BrokerRequest) : Result Unit :=
  ensure (validBrokerIdentity request.instanceName ∧ validBrokerIdentity request.incarnation ∧
      validBrokerIdentity request.nonce)
    (.invalidInput "Linux broker request identity is outside its bounded contract")

def brokerRequestFor (specification : Platform.LaunchSpec) : Result BrokerRequest := do
  specification.validate.mapError fun error => .invalidInput error.display
  let request : BrokerRequest :=
    { component := brokerComponent specification.component
      instanceName := specification.instanceId
      incarnation := specification.incarnation
      nonce := specification.launchNonce }
  validateBrokerRequest request
  pure request

def brokerUnitName (crates : Crates) (request : BrokerRequest) : String :=
  let bytes :=
    (brokerComponentName request.component).toUTF8.data.toList ++ [0] ++
      request.instanceName.toUTF8.data.toList ++ [0] ++
      request.incarnation.toUTF8.data.toList ++ [0] ++ request.nonce.toUTF8.data.toList
  let digest := sha256 crates bytes
  s!"ascension-watchdog-{brokerComponentName request.component}-{
    takeChars 24 (configHexDigest crates digest)}.service"

def brokerPlannedContainmentForRequest (request : BrokerRequest) : Result String := do
  validateBrokerRequest request
  let value := s!"{brokerContainmentPrefix}:{brokerComponentName request.component}:{
    request.instanceName}:{request.incarnation}:{request.nonce}"
  ensure (value.utf8ByteSize ≤ 512)
    (.invalidInput "Linux broker containment identity exceeds its bound")
  pure value

def brokerPlannedContainmentFor (specification : Platform.LaunchSpec) : Result String := do
  let request ← brokerRequestFor specification
  brokerPlannedContainmentForRequest request

def verifyBrokerReceiptRequest (crates : Crates) (request : BrokerRequest)
    (receipt : LaunchReceipt) : Result Unit :=
  let expectedUnit := brokerUnitName crates request
  ensure (receipt.request = request ∧ receipt.unit = expectedUnit ∧ receipt.pid ≠ 0 ∧
      receipt.creationToken ≠ "" ∧ Platform.isAbsolute receipt.executable = true ∧
      isDigest receipt.executableSha256 = true ∧ receipt.uid ≠ 0 ∧ receipt.gid ≠ 0 ∧
      receipt.capabilityBoundingSet = 0 ∧ receipt.ambientCapabilities = 0 ∧
      endsWith receipt.controlGroup s!"/{expectedUnit}" = true)
    (.identityMismatch "Linux broker receipt does not correlate to the exact request")

/-- Two paths of one file: equal, or equal once the file system resolved both. -/
def sameExecutable (canonicalize : String → Option String) (actual expected : String) : Prop :=
  actual = expected ∨
    ((canonicalize actual).isSome = true ∧ canonicalize actual = canonicalize expected)

instance (canonicalize : String → Option String) (actual expected : String) :
    Decidable (sameExecutable canonicalize actual expected) :=
  inferInstanceAs (Decidable (_ ∨ _))

def verifyBrokerReceipt (crates : Crates) (canonicalize : String → Option String)
    (specification : Platform.LaunchSpec) (plannedContainment : String)
    (receipt : LaunchReceipt) : Result Unit := do
  let request ← brokerRequestFor specification
  let planned ← brokerPlannedContainmentForRequest request
  ensure (plannedContainment = planned)
    (.identityMismatch "Linux broker planned containment differs from its launch request")
  verifyBrokerReceiptRequest crates request receipt
  ensure (sameExecutable canonicalize receipt.executable specification.executable ∧
      receipt.executableSha256 = specification.executableSha256)
    (.identityMismatch
      "Linux broker receipt executable differs from the launch specification")

/-! ### The two unit names -/

variable {crates : Crates}

theorem brokerComponentName_eq : brokerComponentName = BrokerComponent.asStr := by
  funext component
  cases component <;> rfl

/-- The runtime's name is the one that the broker would give to the digest of the digest. -/
theorem brokerUnitName_eq (request : BrokerRequest) :
    brokerUnitName crates request =
      unitWithDigest request.component
        (hexDigest (sha256 crates (sha256 crates request.bytes))) := by
  unfold brokerUnitName
  rw [brokerComponentName_eq, unitWithDigest_eq]
  rfl

theorem unitWithDigest_inj {component : BrokerComponent} {digest digest' : String} :
    unitWithDigest component digest = unitWithDigest component digest' ↔
      takeChars 24 digest = takeChars 24 digest' := by
  rw [unitWithDigest_eq, unitWithDigest_eq]
  constructor
  · intro h
    have hchars := congrArg String.toList h
    simp only [String.toList_append, List.append_assoc, List.append_cancel_left_eq,
      List.append_cancel_right_eq] at hchars
    exact String.toList_inj.mp hchars
  · intro h
    rw [h]

/-- Every byte takes two digits. -/
theorem take_flatMap_byteHex (bytes : List UInt8) (n : Nat) :
    (bytes.flatMap byteHex).take (2 * n) = (bytes.take n).flatMap byteHex := by
  induction n generalizing bytes with
  | zero => rfl
  | succ n ih =>
    cases bytes with
    | nil => rfl
    | cons b bytes =>
      rw [List.flatMap_cons, List.take_succ_cons, List.flatMap_cons, ← ih]
      rfl

theorem takeChars_hexDigest {bytes bytes' : List UInt8} :
    takeChars 24 (hexDigest bytes) = takeChars 24 (hexDigest bytes') ↔
      bytes.take 12 = bytes'.take 12 := by
  have htake : ∀ bytes : List UInt8,
      takeChars 24 (hexDigest bytes) = String.ofList ((bytes.take 12).flatMap byteHex) := by
    intro bytes
    rw [takeChars, hexDigest, String.toList_ofList, take_flatMap_byteHex bytes 12]
  rw [htake, htake]
  refine ⟨fun h => flatMap_byteHex_injective (String.ofList_injective h), fun h => by rw [h]⟩

/-- The two sides name a request alike: its digest and the digest of that begin with the same
twelve bytes. -/
def SameNames (crates : Crates) (request : BrokerRequest) : Prop :=
  (sha256 crates (sha256 crates request.bytes)).take 12 = (sha256 crates request.bytes).take 12

instance (request : BrokerRequest) : Decidable (SameNames crates request) :=
  inferInstanceAs (Decidable (_ = _))

theorem brokerUnitName_eq_unitName_iff (request : BrokerRequest) :
    brokerUnitName crates request = unitName crates request ↔ SameNames crates request := by
  rw [brokerUnitName_eq, unitName, unitWithDigest_inj, takeChars_hexDigest, SameNames]

/-! ### What the runtime accepts -/

/-- What the checks of a policy leave of it. -/
theorem of_validateLaunchPolicy {files : ProtectedFiles} {policy : LaunchPolicy}
    (h : validateLaunchPolicy crates files policy = .ok ()) :
    isDigest policy.executableSha256 = true ∧ policy.targetUid ≠ 0 ∧ policy.targetGid ≠ 0 ∧
      policy.capabilities.boundingSet = 0 ∧ policy.capabilities.ambientSet = 0 := by
  obtain ⟨-, h⟩ := check_bind_eq_ok.mp h
  obtain ⟨-, h⟩ := check_bind_eq_ok.mp h
  obtain ⟨actual, hactual, h⟩ := bind_eq_ok.mp h
  obtain ⟨hdigest, h⟩ := ensure_bind_eq_ok.mp h
  obtain ⟨-, h⟩ := check_bind_eq_ok.mp h
  obtain ⟨⟨huid, hgid⟩, h⟩ := ensure_bind_eq_ok.mp h
  iterate 3 obtain ⟨-, h⟩ := ensure_bind_eq_ok.mp h
  obtain ⟨⟨-, hbounding, hambient⟩, -⟩ := ensure_bind_eq_ok.mp h
  refine ⟨?_, huid, hgid, hbounding, hambient⟩
  -- the digest is the one that was computed, hence in lowercase
  obtain ⟨bytes, -, hhex⟩ := bind_eq_ok.mp hactual
  rw [← hdigest, ← Foundation.pure_eq_ok.mp hhex]
  exact isDigest_of_length (by simp [sha256])

theorem isAbsolute_of_brokerRequestFor {specification : Platform.LaunchSpec}
    {request : BrokerRequest} (h : brokerRequestFor specification = .ok request) :
    Platform.isAbsolute specification.executable = true := by
  obtain ⟨hvalid, -⟩ := check_bind_eq_ok.mp h
  have hvalid := mapError_eq_ok.mp hvalid
  iterate 5 obtain ⟨-, hvalid⟩ := check_bind_eq_ok.mp hvalid
  exact (ensure_bind_eq_ok.mp hvalid).1

/-- **What the runtime makes of the broker's receipts.** The receipt of a launch that was asked
for with `specification` and that ran under a policy with the same executable and digest is
accepted exactly when the two sides name the request alike. -/
theorem verifyBrokerReceipt_iff {files : ProtectedFiles} {canonicalize : String → Option String}
    {specification : Platform.LaunchSpec} {request : BrokerRequest} {planned : String}
    {policy : LaunchPolicy} {observation : UnitObservation} {duplicate : Bool}
    (hrequest : brokerRequestFor specification = .ok request)
    (hplanned : brokerPlannedContainmentFor specification = .ok planned)
    (hpolicy : validateLaunchPolicy crates files policy = .ok ())
    (hexecutable : policy.executable = specification.executable)
    (hdigest : policy.executableSha256 = specification.executableSha256)
    (hverified : observation.verify (unitName crates request) policy = .ok ()) :
    (verifyBrokerReceipt crates canonicalize specification planned
        (receiptFrom request observation duplicate) = .ok () ↔ SameNames crates request) ∧
      (brokerUnitName crates request = unitName crates request ↔ SameNames crates request) := by
  have hnames : brokerUnitName crates request = unitName crates request ↔
      SameNames crates request := brokerUnitName_eq_unitName_iff request
  refine ⟨?_, hnames⟩
  have hplanned : brokerPlannedContainmentForRequest request = .ok planned := by
    obtain ⟨request', hrequest', hplanned⟩ := bind_eq_ok.mp hplanned
    rw [hrequest] at hrequest'
    cases hrequest'
    exact hplanned
  rw [UnitObservation.verify, ensure_eq_ok] at hverified
  obtain ⟨hunit, hpid, htoken, hexe, hsha, huid, hgid, hbounding, hambient, -, hgroup⟩ := hverified
  obtain ⟨hlower, huid', hgid', hbounding', hambient'⟩ := of_validateLaunchPolicy hpolicy
  have habsolute := isAbsolute_of_brokerRequestFor hrequest
  rw [← hnames]
  constructor
  · intro h
    obtain ⟨request', hrequest', h⟩ := bind_eq_ok.mp h
    rw [hrequest] at hrequest'
    cases hrequest'
    obtain ⟨planned', hplanned', h⟩ := bind_eq_ok.mp h
    obtain ⟨-, h⟩ := ensure_bind_eq_ok.mp h
    obtain ⟨hreceipt, -⟩ := check_bind_eq_ok.mp h
    have hcorrelated := ensure_eq_ok.mp hreceipt
    exact (hunit.symm.trans hcorrelated.2.1).symm
  · intro hname
    have hreceipt : verifyBrokerReceiptRequest crates request
        (receiptFrom request observation duplicate) = .ok () := by
      refine ensure_eq_ok.mpr ⟨rfl, ?_, hpid, htoken, ?_, ?_, ?_, ?_, ?_, ?_, ?_⟩
      · rw [hname]
        exact hunit
      · show Platform.isAbsolute observation.executable = true
        rw [hexe, hexecutable]
        exact habsolute
      · show isDigest observation.executableSha256 = true
        rw [hsha]
        exact hlower
      · exact ne_of_eq_of_ne huid huid'
      · exact ne_of_eq_of_ne hgid hgid'
      · exact hbounding.trans hbounding'
      · exact hambient.trans hambient'
      · rw [hname]
        exact hgroup
    have hexecutables : sameExecutable canonicalize observation.executable
        specification.executable := .inl (hexe.trans hexecutable)
    refine bind_eq_ok.mpr ⟨request, hrequest, bind_eq_ok.mpr ⟨planned, hplanned, ?_⟩⟩
    refine ensure_bind_eq_ok.mpr ⟨rfl, check_bind_eq_ok.mpr ⟨hreceipt, ?_⟩⟩
    exact ensure_eq_ok.mpr ⟨hexecutables, hsha.trans hdigest⟩

/-! ### A launch of the gateway -/

/-- The request of the launch below. -/
def sampleRequest : BrokerRequest where
  component := .gateway
  instanceName := "main"
  incarnation := "boot-1"
  nonce := "launch-1"

/-- The executable is an empty file; the digests are those of SHA-256. -/
def sampleDigests : List (List UInt8 × Vector UInt8 32) :=
  [([], #v[227, 176, 196, 66, 152, 252, 28, 20, 154, 251, 244, 200, 153, 111, 185, 36, 39, 174, 65,
      228, 100, 155, 147, 76, 164, 149, 153, 27, 120, 82, 184, 85]),
    (sampleRequest.bytes, #v[79, 26, 127, 35, 173, 123, 208, 201, 72, 111, 63, 48, 117, 204, 10, 87,
      59, 255, 192, 90, 138, 239, 236, 138, 153, 181, 188, 32, 176, 140, 116, 192]),
    ([79, 26, 127, 35, 173, 123, 208, 201, 72, 111, 63, 48, 117, 204, 10, 87, 59, 255, 192, 90, 138,
      239, 236, 138, 153, 181, 188, 32, 176, 140, 116, 192],
      #v[96, 199, 255, 118, 12, 205, 214, 106, 119, 60, 243, 16, 24, 208, 96, 170, 108, 15, 183, 27,
        247, 145, 123, 198, 71, 149, 188, 209, 253, 12, 100, 158])]

def sampleBrokerCrates : Crates :=
  .constant fun bytes =>
    (sampleDigests.lookup bytes.data.toList).getD (Vector.replicate 32 0)

def sampleFiles : ProtectedFiles where
  validateProtectedFile _ _ := .ok ()
  validateProtectedDirectory _ _ := .ok ()
  contents _ := .ok []

def samplePolicy : LaunchPolicy where
  executable := "/opt/gateway"
  executableSha256 := "e3b0c44298fc1c149afbf4c8996fb92427ae41e4649b934ca495991b7852b855"
  arguments := []
  workingDirectory := "/srv"
  environment := []
  targetUid := 1001
  targetGid := 1001
  capabilities := { boundingSet := 0, ambientSet := 0, noNewPrivileges := true }
  cgroup := { tasksMax := 64, memoryMaxBytes := 1048576 }
  timeout := 1000000000

def sampleSpecification : Platform.LaunchSpec where
  deploymentId := "deployment"
  instanceId := "main"
  component := .gateway
  incarnation := "boot-1"
  launchNonce := "launch-1"
  executable := samplePolicy.executable
  executableSha256 := samplePolicy.executableSha256
  arguments := []
  workingDirectory := none
  environment := []
  session := .explicit 0
  gracefulTimeout := 1
  forceTimeout := 1

/-- What the manager reports of the unit that the broker starts for the request. -/
def sampleObservation : UnitObservation where
  unit := "ascension-watchdog-gateway-4f1a7f23ad7bd0c9486f3f30.service"
  pid := 4711
  creationToken := "1"
  executable := samplePolicy.executable
  executableSha256 := samplePolicy.executableSha256
  uid := 1001
  gid := 1001
  capabilityBoundingSet := 0
  ambientCapabilities := 0
  noNewPrivileges := true
  controlGroup := "/system.slice/ascension-watchdog-gateway-4f1a7f23ad7bd0c9486f3f30.service"

def samplePlanned : String :=
  "linux-broker-v1:gateway:main:boot-1:launch-1"

/-- The statement at that launch: the receipt is accepted if and only if the names agree. -/
theorem verifyBrokerReceipt_iff_gateway :
    (verifyBrokerReceipt sampleBrokerCrates some sampleSpecification samplePlanned
        (receiptFrom sampleRequest sampleObservation false) = .ok () ↔
          SameNames sampleBrokerCrates sampleRequest) ∧
      (brokerUnitName sampleBrokerCrates sampleRequest =
          unitName sampleBrokerCrates sampleRequest ↔
        SameNames sampleBrokerCrates sampleRequest) := by
  have hpolicy : validateLaunchPolicy sampleBrokerCrates sampleFiles samplePolicy = .ok () := by
    decide +kernel
  exact verifyBrokerReceipt_iff (by decide +kernel) (by decide +kernel) hpolicy rfl rfl
    (by decide +kernel)

/-- The broker's own receipt is refused: the runtime expects the unit
`ascension-watchdog-gateway-60c7ff760ccdd66a773cf310.service`. -/
theorem gateway_receipt_refused :
    brokerRequestFor sampleSpecification = .ok sampleRequest ∧
      brokerPlannedContainmentFor sampleSpecification = .ok samplePlanned ∧
      validateLaunchPolicy sampleBrokerCrates sampleFiles samplePolicy = .ok () ∧
      sampleObservation.verify (unitName sampleBrokerCrates sampleRequest) samplePolicy = .ok () ∧
      brokerUnitName sampleBrokerCrates sampleRequest =
        "ascension-watchdog-gateway-60c7ff760ccdd66a773cf310.service" ∧
      brokerUnitName sampleBrokerCrates sampleRequest ≠
        unitName sampleBrokerCrates sampleRequest ∧
      verifyBrokerReceipt sampleBrokerCrates some sampleSpecification samplePlanned
          (receiptFrom sampleRequest sampleObservation false) =
        .error (.identityMismatch
          "Linux broker receipt does not correlate to the exact request") := by
  decide +kernel

end AscensionWatchdog.Broker
