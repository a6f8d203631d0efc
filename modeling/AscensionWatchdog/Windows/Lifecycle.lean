import AscensionWatchdog.Foundation.Binary
import AscensionWatchdog.Storage.Values

/-!
# Lifecycle frames

The frames of the lifecycle pipe: a fixed request to start or stop a component or a heartbeat,
in an envelope with the nonce, the epoch and the sequence number that the server checks against
its replay window. Both layers have length prefixes and end with a check that no bytes are left.

The decoder is exact: it accepts the encodings of the valid frames and nothing else, so that a
frame has one form on the wire (`lifecycle_wire_form`).
-/

namespace AscensionWatchdog.Windows

open Foundation Foundation.Binary

def maxIdBytes : Nat := 128

def maxEnvironmentBytes : Nat := 8 * 1024

def maxLifecycleNonceBytes : Nat := 96

/-- The errors of the Windows platform. -/
inductive PlatformError where
  | invalid (message : String)
  | unsupported (message : String)
  | unavailable (message : String)
  | identityMismatch (message : String)
  | timeout (message : String)
  | win32 (operation : String) (code : Nat)
  | io (message : String)
  deriving DecidableEq, Repr

inductive ComponentKind where
  | gateway
  | harness
  | hostBroker
  | synthetic
  deriving DecidableEq, Repr

inductive LifecycleRequest where
  | start (component : ComponentKind) (instanceId incarnation : String)
  | stop (component : ComponentKind) (instanceId incarnation : String)
  | heartbeat (instanceId incarnation : String) (sequence : UInt64)
  deriving DecidableEq, Repr

inductive LifecycleCapability where
  | start
  | stop
  | heartbeat
  deriving DecidableEq, Repr

/-- A request with what authorises it. -/
structure LifecycleFrame where
  nonce : String
  epoch : UInt64
  sequence : UInt64
  capability : LifecycleCapability
  request : LifecycleRequest
  deriving DecidableEq, Repr

/-! ### Checks -/

def validateId (label value : String) : Except PlatformError Unit :=
  ensure (¬ (value.isEmpty ∨ maxIdBytes < value.utf8ByteSize ∨
      value.toList.any (fun c => c == '\x00' || c == '\r' || c == '\n') ∨
      value.toList.any isControl))
    (.invalid s!"{label} identity is outside bounds")

def isNonceByte (byte : UInt8) : Bool :=
  (48 ≤ byte && byte ≤ 57) || (65 ≤ byte && byte ≤ 90) || (97 ≤ byte && byte ≤ 122) ||
    byte == 45 || byte == 95

def validateLifecycleNonce (value : String) : Except PlatformError Unit :=
  ensure (¬ (value.isEmpty ∨ maxLifecycleNonceBytes < value.utf8ByteSize ∨
      ¬ (utf8 value).all isNonceByte))
    (.invalid "lifecycle nonce is outside bounds")

def LifecycleRequest.capability : LifecycleRequest → LifecycleCapability
  | .start .. => .start
  | .stop .. => .stop
  | .heartbeat .. => .heartbeat

def LifecycleRequest.validate : LifecycleRequest → Except PlatformError Unit
  | .heartbeat instanceId incarnation _ | .start _ instanceId incarnation
  | .stop _ instanceId incarnation => do
    validateId "instance" instanceId
    validateId "incarnation" incarnation

/-- A frame with the capability of its request. -/
def LifecycleFrame.new (nonce : String) (epoch sequence : UInt64) (request : LifecycleRequest) :
    LifecycleFrame where
  nonce := nonce
  epoch := epoch
  sequence := sequence
  capability := request.capability
  request := request

def LifecycleFrame.validate (self : LifecycleFrame) : Except PlatformError Unit := do
  validateLifecycleNonce self.nonce
  ensure (¬ (self.epoch = 0 ∨ self.sequence = 0))
    (.invalid "lifecycle epoch and sequence must be non-zero")
  ensure (self.capability = self.request.capability)
    (.identityMismatch "lifecycle capability does not match request kind")
  self.request.validate

/-! ### Encoding -/

def LifecycleCapability.code : LifecycleCapability → UInt8
  | .start => 1
  | .stop => 2
  | .heartbeat => 3

def LifecycleCapability.fromCode (code : UInt8) : Except PlatformError LifecycleCapability :=
  if code = 1 then .ok .start
  else if code = 2 then .ok .stop
  else if code = 3 then .ok .heartbeat
  else .error (.invalid "unknown lifecycle capability")

def componentCode : ComponentKind → UInt8
  | .gateway => 1
  | .harness => 2
  | .hostBroker => 3
  | .synthetic => 4

def componentFromCode (code : UInt8) : Except PlatformError ComponentKind :=
  if code = 1 then .ok .gateway
  else if code = 2 then .ok .harness
  else if code = 3 then .ok .hostBroker
  else if code = 4 then .ok .synthetic
  else .error (.invalid "unknown lifecycle component")

/-- A number that has to fit into `width` bytes. -/
def fitsWidth (width n : Nat) (message : String) : Except PlatformError (List UInt8) := do
  ensure (n < 256 ^ width) (.invalid message)
  pure (littleEndian width n)

def putString (value : String) : Except PlatformError (List UInt8) := do
  validateId "lifecycle" value
  let length ← fitsWidth 2 value.utf8ByteSize "lifecycle string exceeds frame bounds"
  pure (length ++ utf8 value)

def putLifecycleNonce (nonce : String) : Except PlatformError (List UInt8) := do
  validateLifecycleNonce nonce
  let length ← fitsWidth 1 nonce.utf8ByteSize "lifecycle nonce exceeds bounds"
  pure (length ++ utf8 nonce)

def u64Bytes (n : UInt64) : List UInt8 :=
  littleEndian 8 n.toNat

def LifecycleRequest.encodePayload (self : LifecycleRequest) :
    Except PlatformError (List UInt8) := do
  self.validate
  let bytes ← match self with
    | .start component instanceId incarnation => do
      let instanceBytes ← putString instanceId
      let incarnationBytes ← putString incarnation
      pure ([1, componentCode component] ++ instanceBytes ++ incarnationBytes)
    | .stop component instanceId incarnation => do
      let instanceBytes ← putString instanceId
      let incarnationBytes ← putString incarnation
      pure ([2, componentCode component] ++ instanceBytes ++ incarnationBytes)
    | .heartbeat instanceId incarnation sequence => do
      let instanceBytes ← putString instanceId
      let incarnationBytes ← putString incarnation
      pure ([3] ++ instanceBytes ++ incarnationBytes ++ u64Bytes sequence)
  ensure (bytes.length ≤ maxEnvironmentBytes) (.invalid "lifecycle request exceeds frame bounds")
  pure bytes

def frameMagic : List UInt8 := [65, 87, 76, 70]

def frameVersion : UInt8 := 1

def LifecycleFrame.encodePayload (self : LifecycleFrame) : Except PlatformError (List UInt8) := do
  self.validate
  let request ← self.request.encodePayload
  let nonce ← putLifecycleNonce self.nonce
  let length ← fitsWidth 2 request.length "lifecycle request exceeds frame bounds"
  let bytes := frameMagic ++ [frameVersion, self.capability.code] ++ u64Bytes self.epoch ++
    u64Bytes self.sequence ++ nonce ++ length ++ request
  ensure (bytes.length ≤ maxEnvironmentBytes) (.invalid "lifecycle frame exceeds bounds")
  pure bytes

/-! ### Decoding -/

abbrev Cursor : Type → Type :=
  Decoder PlatformError

def Cursor.byte : Cursor UInt8 :=
  Binary.byte (.invalid "lifecycle frame ended unexpectedly")

def Cursor.u64 : Cursor UInt64 := do
  let n ← unsigned 8 (.invalid "lifecycle sequence is truncated")
  pure (UInt64.ofNat n)

/-- Two bytes as a length. -/
def Cursor.length : Cursor Nat := do
  let low ← byte
  let high ← byte
  pure (ofLittleEndian [low, high])

def Cursor.string : Cursor String := do
  let length ← length
  let slice ← take length (.invalid "lifecycle string is truncated")
  let value ← StateT.lift (orError (ofUtf8? slice) (.invalid "lifecycle string is not UTF-8"))
  StateT.lift (validateId "lifecycle" value)
  pure value

def Cursor.bytes (length : Nat) : Cursor (List UInt8) :=
  take length (.invalid "lifecycle frame is truncated")

def Cursor.lifecycleNonce : Cursor String := do
  let length ← byte
  let slice ← bytes length.toNat
  let value ← StateT.lift (orError (ofUtf8? slice) (.invalid "lifecycle nonce is not UTF-8"))
  StateT.lift (validateLifecycleNonce value)
  pure value

/-- The fields of a request, after its tag. -/
def LifecycleRequest.read (tag : UInt8) : Cursor LifecycleRequest :=
  if tag = 1 then do
    let code ← Cursor.byte
    let component ← StateT.lift (componentFromCode code)
    let instanceId ← Cursor.string
    let incarnation ← Cursor.string
    pure (.start component instanceId incarnation)
  else if tag = 2 then do
    let code ← Cursor.byte
    let component ← StateT.lift (componentFromCode code)
    let instanceId ← Cursor.string
    let incarnation ← Cursor.string
    pure (.stop component instanceId incarnation)
  else if tag = 3 then do
    let instanceId ← Cursor.string
    let incarnation ← Cursor.string
    let sequence ← Cursor.u64
    pure (.heartbeat instanceId incarnation sequence)
  else
    StateT.lift (.error (.invalid "unknown lifecycle request tag"))

/-- The decoder of a request, to the end of its bytes. -/
def LifecycleRequest.cursor : Cursor LifecycleRequest := do
  let tag ← Cursor.byte
  let request ← read tag
  done (.invalid "lifecycle request contains trailing bytes")
  StateT.lift request.validate
  pure request

def LifecycleRequest.decodePayload (payload : List UInt8) :
    Except PlatformError LifecycleRequest := do
  let (request, _) ← cursor.run payload
  pure request

/-- The decoder of a frame, to the end of its bytes. -/
def LifecycleFrame.cursor : Cursor LifecycleFrame := do
  let first ← Cursor.byte
  let second ← Cursor.byte
  let third ← Cursor.byte
  let fourth ← Cursor.byte
  StateT.lift (ensure ([first, second, third, fourth] = frameMagic)
    (.invalid "lifecycle frame version is unsupported"))
  let version ← Cursor.byte
  StateT.lift (ensure (version = frameVersion) (.invalid "lifecycle frame version is unsupported"))
  let code ← Cursor.byte
  let capability ← StateT.lift (LifecycleCapability.fromCode code)
  let epoch ← Cursor.u64
  let sequence ← Cursor.u64
  let nonce ← Cursor.lifecycleNonce
  let length ← Cursor.length
  let slice ← Cursor.bytes length
  done (.invalid "lifecycle frame contains trailing bytes")
  let request ← StateT.lift (LifecycleRequest.decodePayload slice)
  let frame : LifecycleFrame := { nonce, epoch, sequence, capability, request }
  StateT.lift frame.validate
  pure frame

def LifecycleFrame.decodePayload (payload : List UInt8) : Except PlatformError LifecycleFrame := do
  let (frame, _) ← cursor.run payload
  pure frame

/-! ### The fields of a frame -/

/-- The texts that identify an instance. -/
def ValidId (value : String) : Prop :=
  ¬ (value.isEmpty ∨ maxIdBytes < value.utf8ByteSize ∨
    value.toList.any (fun c => c == '\x00' || c == '\r' || c == '\n') ∨
    value.toList.any isControl)

def ValidNonce (value : String) : Prop :=
  ¬ (value.isEmpty ∨ maxLifecycleNonceBytes < value.utf8ByteSize ∨
    ¬ (utf8 value).all isNonceByte)

theorem validateId_eq_ok {label value : String} {u : Unit} :
    validateId label value = .ok u ↔ ValidId value :=
  ensure_eq_ok

variable {value : String}

theorem validateLifecycleNonce_eq_ok {u : Unit} :
    validateLifecycleNonce value = .ok u ↔ ValidNonce value :=
  ensure_eq_ok

theorem ValidId.size_le (h : ValidId value) :
    value.utf8ByteSize ≤ maxIdBytes := by
  rw [ValidId, not_or, not_or, Nat.not_lt] at h
  exact h.2.1

theorem ValidNonce.size_le (h : ValidNonce value) :
    value.utf8ByteSize ≤ maxLifecycleNonceBytes := by
  rw [ValidNonce, not_or, not_or, Nat.not_lt] at h
  exact h.2.1

/-- A text on the wire, with its length in `width` bytes. -/
def textBytes (width : Nat) (value : String) : List UInt8 :=
  littleEndian width value.utf8ByteSize ++ utf8 value

theorem length_textBytes (width : Nat) (value : String) :
    (textBytes width value).length = width + value.utf8ByteSize := by
  rw [textBytes, List.length_append, length_littleEndian, length_utf8]

variable {bytes : List UInt8}

theorem putString_eq_ok :
    putString value = .ok bytes ↔ ValidId value ∧ textBytes 2 value = bytes := by
  rw [putString, check_bind_eq_ok, validateId_eq_ok]
  refine and_congr_right fun hvalid => ?_
  have hle := hvalid.size_le
  have hfits : value.utf8ByteSize < 256 ^ 2 := Nat.lt_of_le_of_lt hle (by decide)
  rw [fitsWidth, bind_assoc, ensure_bind_eq_ok]
  exact (and_iff_right hfits).trans pure_eq_ok

theorem putLifecycleNonce_eq_ok :
    putLifecycleNonce value = .ok bytes ↔ ValidNonce value ∧ textBytes 1 value = bytes := by
  rw [putLifecycleNonce, check_bind_eq_ok, validateLifecycleNonce_eq_ok]
  refine and_congr_right fun hvalid => ?_
  have hle := hvalid.size_le
  have hfits : value.utf8ByteSize < 256 ^ 1 := Nat.lt_of_le_of_lt hle (by decide)
  rw [fitsWidth, bind_assoc, ensure_bind_eq_ok]
  exact (and_iff_right hfits).trans pure_eq_ok

theorem reads_u64 : Reads Cursor.u64 u64Bytes fun _ => True := by
  intro input n rest
  rw [Cursor.u64, bind_run_eq_ok, true_and]
  constructor
  · rintro ⟨m, middle, hread, hpure⟩
    obtain ⟨hlt, rfl⟩ := unsigned_run_eq_ok.mp hread
    obtain ⟨rfl, rfl⟩ := pure_run_eq_ok.mp hpure
    rw [u64Bytes, UInt64.toNat_ofNat_of_lt' hlt]
  · rintro rfl
    exact ⟨n.toNat, rest, unsigned_run_eq_ok.mpr ⟨n.toNat_lt, rfl⟩,
      pure_run_eq_ok.mpr ⟨UInt64.ofNat_toNat, rfl⟩⟩

theorem reads_length : Reads Cursor.length (littleEndian 2) fun n => n < 256 ^ 2 := by
  intro input n rest
  simp only [Cursor.length, Cursor.byte, byte_bind_run, pure_run_eq_ok]
  constructor
  · rintro ⟨low, middle, rfl, high, middle', rfl, rfl, rfl⟩
    have hbytes := littleEndian_ofLittleEndian [low, high]
    exact ⟨ofLittleEndian_lt [low, high], (congrArg (· ++ middle') hbytes).symm⟩
  · rintro ⟨hlt, rfl⟩
    exact ⟨_, _, rfl, _, _, rfl, ofLittleEndian_littleEndian hlt, rfl⟩

variable {input rest : List UInt8}

/-- The bytes of a text, and the check on it. -/
theorem read_text {n : Nat} {e e' : PlatformError} {check : String → Except PlatformError Unit}
    :
    ((do
      let slice ← take n e
      let value ← StateT.lift (orError (ofUtf8? slice) e')
      StateT.lift (check value)
      pure value : Cursor String) input = .ok (value, rest)) ↔
      check value = .ok () ∧ value.utf8ByteSize = n ∧ input = utf8 value ++ rest := by
  simp only [take_bind_run, lift_bind_run, pure_run_eq_ok, orError_eq_ok, ofUtf8?_eq_some]
  constructor
  · rintro ⟨slice, middle, rfl, rfl, text, rfl, ⟨⟩, hcheck, rfl, rfl⟩
    exact ⟨hcheck, (length_utf8 text).symm, rfl⟩
  · rintro ⟨hcheck, rfl, rfl⟩
    exact ⟨utf8 value, rest, length_utf8 value, rfl, value, rfl, (), hcheck, rfl, rfl⟩

theorem reads_string : Reads Cursor.string (textBytes 2) ValidId := by
  intro input value rest
  rw [Cursor.string, reads_length.bind_run]
  simp only [read_text, validateId_eq_ok]
  constructor
  · rintro ⟨length, middle, -, rfl, hvalid, rfl, rfl⟩
    exact ⟨hvalid, (List.append_assoc _ _ _).symm⟩
  · rintro ⟨hvalid, rfl⟩
    have hfits : value.utf8ByteSize < 256 ^ 2 := Nat.lt_of_le_of_lt hvalid.size_le (by decide)
    exact ⟨_, _, hfits, List.append_assoc _ _ _, hvalid, rfl, rfl⟩

theorem reads_lifecycleNonce : Reads Cursor.lifecycleNonce (textBytes 1) ValidNonce := by
  intro input value rest
  simp only [Cursor.lifecycleNonce, Cursor.byte, byte_bind_run, Cursor.bytes, read_text,
    validateLifecycleNonce_eq_ok]
  constructor
  · rintro ⟨length, middle, rfl, hvalid, hsize, rfl⟩
    refine ⟨hvalid, ?_⟩
    rw [textBytes, hsize]
    exact congrArg (· :: _) UInt8.ofNat_toNat.symm
  · rintro ⟨hvalid, rfl⟩
    have hfits : value.utf8ByteSize < 256 := Nat.lt_of_le_of_lt hvalid.size_le (by decide)
    exact ⟨UInt8.ofNat value.utf8ByteSize, utf8 value ++ rest, rfl, hvalid,
      (UInt8.toNat_ofNat_of_lt' hfits).symm, rfl⟩

theorem componentFromCode_eq_ok {code : UInt8} {component : ComponentKind} :
    componentFromCode code = .ok component ↔ code = componentCode component := by
  constructor
  · intro h
    rw [componentFromCode] at h
    split_ifs at h with h₁ h₂ h₃ h₄ <;> cases h <;> assumption
  · rintro rfl
    cases component <;> rfl

theorem fromCode_eq_ok {code : UInt8} {capability : LifecycleCapability} :
    LifecycleCapability.fromCode code = .ok capability ↔ code = capability.code := by
  constructor
  · intro h
    rw [LifecycleCapability.fromCode] at h
    split_ifs at h with h₁ h₂ h₃ <;> cases h <;> assumption
  · rintro rfl
    cases capability <;> rfl

/-! ### Requests -/

def LifecycleRequest.instanceId : LifecycleRequest → String
  | .start _ instanceId _ | .stop _ instanceId _ | .heartbeat instanceId _ _ => instanceId

def LifecycleRequest.incarnation : LifecycleRequest → String
  | .start _ _ incarnation | .stop _ _ incarnation | .heartbeat _ incarnation _ => incarnation

def LifecycleRequest.Valid (self : LifecycleRequest) : Prop :=
  ValidId self.instanceId ∧ ValidId self.incarnation

variable {request : LifecycleRequest}

theorem LifecycleRequest.validate_eq_ok {u : Unit} :
    request.validate = .ok u ↔ request.Valid := by
  cases request <;> exact check_bind_eq_ok.trans (and_congr validateId_eq_ok validateId_eq_ok)

/-- A request on the wire. -/
def LifecycleRequest.wire : LifecycleRequest → List UInt8
  | .start component instanceId incarnation =>
    [1, componentCode component] ++ textBytes 2 instanceId ++ textBytes 2 incarnation
  | .stop component instanceId incarnation =>
    [2, componentCode component] ++ textBytes 2 instanceId ++ textBytes 2 incarnation
  | .heartbeat instanceId incarnation sequence =>
    [3] ++ textBytes 2 instanceId ++ textBytes 2 incarnation ++ u64Bytes sequence

theorem LifecycleRequest.length_wire_le (h : request.Valid) :
    request.wire.length ≤ 269 := by
  have hinstance : request.instanceId.utf8ByteSize ≤ 128 := h.1.size_le
  have hincarnation : request.incarnation.utf8ByteSize ≤ 128 := h.2.size_le
  cases request <;>
    simp only [wire, List.length_append, List.length_cons, List.length_nil, length_textBytes,
      u64Bytes, length_littleEndian, instanceId, incarnation] at hinstance hincarnation ⊢ <;>
    omega

theorem LifecycleRequest.encodePayload_eq_ok :
    request.encodePayload = .ok bytes ↔ request.Valid ∧ request.wire = bytes := by
  rw [encodePayload, check_bind_eq_ok, validate_eq_ok]
  refine and_congr_right fun hvalid => ?_
  have hfits : request.wire.length ≤ maxEnvironmentBytes :=
    Nat.le_trans (length_wire_le hvalid) (by decide)
  have hinstance := putString_eq_ok.mpr ⟨hvalid.1, rfl⟩
  have hincarnation := putString_eq_ok.mpr ⟨hvalid.2, rfl⟩
  -- the two texts are written, and then the length is checked
  cases request <;>
    simp only [instanceId, incarnation] at hinstance hincarnation <;>
    simp only [hinstance, hincarnation] <;>
    exact ensure_bind_eq_ok.trans ((and_iff_right hfits).trans pure_eq_ok)

/-- A component and two texts. -/
theorem read_component {make : ComponentKind → String → String → LifecycleRequest}
    :
    ((do
      let code ← Cursor.byte
      let component ← StateT.lift (componentFromCode code)
      let instanceId ← Cursor.string
      let incarnation ← Cursor.string
      pure (make component instanceId incarnation) : Cursor LifecycleRequest) input =
        .ok (request, rest)) ↔
      ∃ component instanceId incarnation, ValidId instanceId ∧ ValidId incarnation ∧
        make component instanceId incarnation = request ∧
        input = [componentCode component] ++ textBytes 2 instanceId ++ textBytes 2 incarnation ++
          rest := by
  simp only [Cursor.byte, byte_bind_run, lift_bind_run, reads_string.bind_run, pure_run_eq_ok,
    componentFromCode_eq_ok, List.append_assoc, List.singleton_append]
  constructor
  · rintro ⟨_, _, rfl, component, rfl, instanceId, _, hinstance, rfl, incarnation, _,
      hincarnation, rfl, rfl, rfl⟩
    exact ⟨component, instanceId, incarnation, hinstance, hincarnation, rfl, rfl⟩
  · rintro ⟨component, instanceId, incarnation, hinstance, hincarnation, rfl, rfl⟩
    exact ⟨_, _, rfl, component, rfl, instanceId, _, hinstance, rfl, incarnation, _,
      hincarnation, rfl, rfl, rfl⟩

theorem read_heartbeat :
    ((do
      let instanceId ← Cursor.string
      let incarnation ← Cursor.string
      let sequence ← Cursor.u64
      pure (.heartbeat instanceId incarnation sequence) : Cursor LifecycleRequest) input =
        .ok (request, rest)) ↔
      ∃ instanceId incarnation sequence, ValidId instanceId ∧ ValidId incarnation ∧
        .heartbeat instanceId incarnation sequence = request ∧
        input = textBytes 2 instanceId ++ textBytes 2 incarnation ++ u64Bytes sequence ++ rest := by
  simp only [reads_string.bind_run, reads_u64.bind_run, pure_run_eq_ok, List.append_assoc]
  constructor
  · rintro ⟨instanceId, _, hinstance, rfl, incarnation, _, hincarnation, rfl, sequence, _, -, rfl,
      rfl, rfl⟩
    exact ⟨instanceId, incarnation, sequence, hinstance, hincarnation, rfl, rfl⟩
  · rintro ⟨instanceId, incarnation, sequence, hinstance, hincarnation, rfl, rfl⟩
    exact ⟨instanceId, _, hinstance, rfl, incarnation, _, hincarnation, rfl, sequence, _, trivial,
      rfl, rfl, rfl⟩

/-- The tag and the fields that it announces. -/
theorem LifecycleRequest.read_run_eq_ok {tag : UInt8}
    :
    read tag input = .ok (request, rest) ↔
      request.Valid ∧ tag :: input = request.wire ++ rest := by
  rw [read]
  constructor
  · intro h
    split_ifs at h with hstart hstop hheartbeat
    · obtain ⟨component, instanceId, incarnation, hinstance, hincarnation, rfl, rfl⟩ :=
        read_component.mp h
      exact ⟨⟨hinstance, hincarnation⟩, congrArg (· :: _) hstart⟩
    · obtain ⟨component, instanceId, incarnation, hinstance, hincarnation, rfl, rfl⟩ :=
        read_component.mp h
      exact ⟨⟨hinstance, hincarnation⟩, congrArg (· :: _) hstop⟩
    · obtain ⟨instanceId, incarnation, sequence, hinstance, hincarnation, rfl, rfl⟩ :=
        read_heartbeat.mp h
      exact ⟨⟨hinstance, hincarnation⟩, congrArg (· :: _) hheartbeat⟩
    · obtain ⟨h, -⟩ := lift_run_eq_ok.mp h
      cases h
  · rintro ⟨⟨hinstance, hincarnation⟩, hinput⟩
    cases request with
    | start component instanceId incarnation =>
      obtain ⟨rfl, rfl⟩ := List.cons.inj hinput
      exact read_component.mpr ⟨component, _, _, hinstance, hincarnation, rfl, rfl⟩
    | stop component instanceId incarnation =>
      obtain ⟨rfl, rfl⟩ := List.cons.inj hinput
      exact read_component.mpr ⟨component, _, _, hinstance, hincarnation, rfl, rfl⟩
    | heartbeat instanceId incarnation sequence =>
      obtain ⟨rfl, rfl⟩ := List.cons.inj hinput
      exact read_heartbeat.mpr ⟨_, _, sequence, hinstance, hincarnation, rfl, rfl⟩

variable {payload : List UInt8}

theorem LifecycleRequest.decodePayload_eq_ok
    :
    decodePayload payload = .ok request ↔ request.Valid ∧ request.wire = payload := by
  rw [decodePayload, bind_eq_ok]
  constructor
  · rintro ⟨⟨found, rest⟩, hrun, hpure⟩
    cases hpure
    obtain ⟨tag, input, rfl, hread⟩ := byte_bind_run.mp hrun
    obtain ⟨request', middle, hfields, hend⟩ := bind_run_eq_ok.mp hread
    obtain ⟨rfl, hcheck⟩ := done_bind_run.mp hend
    obtain ⟨⟨⟩, -, hpure⟩ := lift_bind_run.mp hcheck
    obtain ⟨rfl, -⟩ := pure_run_eq_ok.mp hpure
    obtain ⟨hvalid, hinput⟩ := read_run_eq_ok.mp hfields
    rw [List.append_nil] at hinput
    exact ⟨hvalid, hinput.symm⟩
  · rintro ⟨hvalid, rfl⟩
    obtain ⟨tag, input, hwire⟩ : ∃ tag input, request.wire = tag :: input := by
      cases request <;> exact ⟨_, _, rfl⟩
    have hinput : tag :: input = request.wire ++ [] := by rw [List.append_nil, hwire]
    refine ⟨(request, []), byte_bind_run.mpr ⟨tag, input, hwire, ?_⟩, rfl⟩
    refine bind_run_eq_ok.mpr ⟨request, [], read_run_eq_ok.mpr ⟨hvalid, hinput⟩, ?_⟩
    exact done_bind_run.mpr ⟨rfl, lift_bind_run.mpr ⟨(), validate_eq_ok.mpr hvalid, rfl⟩⟩

/-! ### Frames -/

structure LifecycleFrame.Valid (frame : LifecycleFrame) : Prop where
  nonce : ValidNonce frame.nonce
  numbers : ¬ (frame.epoch = 0 ∨ frame.sequence = 0)
  capability : frame.capability = frame.request.capability
  request : frame.request.Valid

variable {frame : LifecycleFrame}

theorem LifecycleFrame.validate_eq_ok {u : Unit} :
    frame.validate = .ok u ↔ frame.Valid := by
  rw [validate, check_bind_eq_ok, ensure_bind_eq_ok, ensure_bind_eq_ok,
    validateLifecycleNonce_eq_ok, LifecycleRequest.validate_eq_ok]
  constructor
  · rintro ⟨hnonce, hnumbers, hcapability, hrequest⟩
    exact ⟨hnonce, hnumbers, hcapability, hrequest⟩
  · rintro ⟨hnonce, hnumbers, hcapability, hrequest⟩
    exact ⟨hnonce, hnumbers, hcapability, hrequest⟩

/-- A frame on the wire. -/
def LifecycleFrame.wire (frame : LifecycleFrame) : List UInt8 :=
  frameMagic ++ [frameVersion, frame.capability.code] ++ u64Bytes frame.epoch ++
    u64Bytes frame.sequence ++ textBytes 1 frame.nonce ++
    littleEndian 2 frame.request.wire.length ++ frame.request.wire

theorem LifecycleFrame.encodePayload_eq_ok :
    frame.encodePayload = .ok payload ↔ frame.Valid ∧ frame.wire = payload := by
  rw [encodePayload, check_bind_eq_ok, validate_eq_ok]
  refine and_congr_right fun hvalid => ?_
  have hrequest := LifecycleRequest.encodePayload_eq_ok.mpr ⟨hvalid.request, rfl⟩
  have hnonce := putLifecycleNonce_eq_ok.mpr ⟨hvalid.nonce, rfl⟩
  have hlength := LifecycleRequest.length_wire_le hvalid.request
  have hprefix : fitsWidth 2 frame.request.wire.length "lifecycle request exceeds frame bounds" =
      .ok (littleEndian 2 frame.request.wire.length) :=
    ensure_bind_eq_ok.mpr ⟨Nat.lt_of_le_of_lt hlength (by decide), rfl⟩
  have hwire : frame.wire.length ≤ maxEnvironmentBytes := by
    have hsize : frame.nonce.utf8ByteSize ≤ 96 := hvalid.nonce.size_le
    have hbound : maxEnvironmentBytes = 8192 := rfl
    simp only [wire, frameMagic, List.length_append, List.length_cons, List.length_nil,
      length_textBytes, u64Bytes, length_littleEndian]
    omega
  rw [hrequest, hnonce]
  simp only [bind, Except.bind, hprefix]
  exact ensure_bind_eq_ok.trans ((and_iff_right hwire).trans pure_eq_ok)

/-- The decoder read field by field. -/
theorem LifecycleFrame.cursor_run_eq_ok :
    cursor input = .ok (frame, rest) ↔ frame.Valid ∧ frame.wire = input ∧ rest = [] := by
  simp only [cursor, Cursor.byte, byte_bind_run, lift_bind_run, ensure_eq_ok, fromCode_eq_ok,
    reads_u64.bind_run, reads_lifecycleNonce.bind_run, reads_length.bind_run, Cursor.bytes,
    take_bind_run, done_bind_run, LifecycleRequest.decodePayload_eq_ok, validate_eq_ok,
    pure_run_eq_ok]
  constructor
  · rintro ⟨first, _, rfl, second, _, rfl, third, _, rfl, fourth, _, rfl, -, hmagic, _, _, rfl,
      -, rfl, _, _, rfl, capability, rfl, epoch, _, -, rfl, sequence, _, -, rfl, nonce, _, -, rfl,
      _, _, -, rfl, slice, _, rfl, rfl, rfl, request, ⟨-, rfl⟩, -, hvalid, rfl, rfl⟩
    refine ⟨hvalid, ?_, rfl⟩
    rw [wire, ← hmagic]
    simp only [List.append_assoc, List.append_nil]
    rfl
  · rintro ⟨hvalid, rfl, rfl⟩
    have hlength := LifecycleRequest.length_wire_le hvalid.request
    have hfits : frame.request.wire.length < 256 ^ 2 := Nat.lt_of_le_of_lt hlength (by decide)
    simp only [wire, List.append_assoc]
    exact ⟨_, _, rfl, _, _, rfl, _, _, rfl, _, _, rfl, (), rfl, _, _, rfl, (), rfl, _, _, rfl,
      frame.capability, rfl, frame.epoch, _, trivial, rfl, frame.sequence, _, trivial, rfl,
      frame.nonce, _, hvalid.nonce, rfl, _, _, hfits, rfl, frame.request.wire, [], rfl,
      (List.append_nil _).symm, rfl, frame.request, ⟨hvalid.request, rfl⟩, (), hvalid, rfl, trivial⟩

theorem LifecycleFrame.decodePayload_eq_ok :
    decodePayload payload = .ok frame ↔ frame.Valid ∧ frame.wire = payload := by
  rw [decodePayload, bind_eq_ok]
  constructor
  · rintro ⟨⟨found, rest⟩, hrun, hpure⟩
    cases hpure
    obtain ⟨hvalid, hwire, -⟩ := cursor_run_eq_ok.mp hrun
    exact ⟨hvalid, hwire⟩
  · rintro ⟨hvalid, hwire⟩
    exact ⟨(frame, []), cursor_run_eq_ok.mpr ⟨hvalid, hwire, rfl⟩, rfl⟩

/-- **One form on the wire.** A frame can be encoded exactly if it is valid, and a payload is
decoded to a frame exactly if it is the encoding of the frame. -/
theorem lifecycle_wire_form (frame : LifecycleFrame) :
    (frame.validate = .ok () ↔ ∃ payload, frame.encodePayload = .ok payload) ∧
      ∀ payload, LifecycleFrame.decodePayload payload = .ok frame ↔
        frame.encodePayload = .ok payload := by
  refine ⟨?_, fun payload => ?_⟩
  · rw [LifecycleFrame.validate_eq_ok]
    constructor
    · intro hvalid
      exact ⟨frame.wire, LifecycleFrame.encodePayload_eq_ok.mpr ⟨hvalid, rfl⟩⟩
    · rintro ⟨payload, hencode⟩
      exact (LifecycleFrame.encodePayload_eq_ok.mp hencode).1
  · rw [LifecycleFrame.decodePayload_eq_ok, LifecycleFrame.encodePayload_eq_ok]

end AscensionWatchdog.Windows
