import AscensionWatchdog.Foundation.Binary
import AscensionWatchdog.Platform.Contract

/-!
# Frames of the Linux launch helper

The launcher hands a launch to its helper process in one frame: the specification and the path of
the control group, with length prefixes of two bytes and numbers in little endian. The helper
decodes the frame and checks the specification again.

The codec has rules of its own for the fields. It takes no empty text, no zero character and only
whole milliseconds, which the checks on a specification do not ask for. So a specification that
passes the checks is handed over as it is exactly if it is `Representable`
(`helper_frame_iff`).

Paths are texts here, so that the refusal of a path that is not UTF-8 does not occur.
-/

namespace AscensionWatchdog.Platform.Framed

open Foundation Foundation.Binary

def frameMagic : List UInt8 := [65, 83, 67, 45, 76, 78, 88, 49]

def frameVersion : UInt8 := 1

def maxFrameBytes : Nat := 256 * 1024

def maxFieldBytes : Nat := 16 * 1024

def maxArguments : Nat := 64

def maxEnvironment : Nat := 64

structure LinuxHelperRequest where
  specification : LaunchSpec
  cgroupPath : String
  deriving DecidableEq, Repr

def componentCode : ComponentKind → UInt8
  | .gateway => 1
  | .harness => 2
  | .hostBroker => 3
  | .synthetic => 4

def componentFromCode (code : UInt8) : Except AdapterError ComponentKind :=
  if code = 1 then .ok .gateway
  else if code = 2 then .ok .harness
  else if code = 3 then .ok .hostBroker
  else if code = 4 then .ok .synthetic
  else .error (.unsupported "Linux helper component role is unsupported")

/-! ### Encoding -/

/-- A number that has to fit into `width` bytes. -/
def putNumber (width : Nat) (message : String) (n : Nat) : Except AdapterError (List UInt8) := do
  ensure (n < 256 ^ width) (.invalid message)
  pure (littleEndian width n)

def putString (value : String) : Except AdapterError (List UInt8) := do
  ensure (¬ (value.isEmpty ∨ maxFieldBytes < value.utf8ByteSize ∨ containsNul value))
    (.invalid "Linux helper string is outside bounds")
  let length ← putNumber 2 "Linux helper string length overflow" value.utf8ByteSize
  pure (length ++ utf8 value)

def putPath (path : String) : Except AdapterError (List UInt8) :=
  putString path

def putCount (maximum count : Nat) : Except AdapterError (List UInt8) := do
  ensure (count ≤ maximum) (.invalid "Linux helper collection exceeds bounds")
  putNumber 2 "Linux helper collection length overflow" count

def nanosPerMilli : Nat := 1000000

/-- A duration in whole milliseconds. -/
def putMillis (message : String) (duration : Nat) : Except AdapterError (List UInt8) :=
  putNumber 8 message (duration / nanosPerMilli)

def sessionBytes : SessionSelector → List UInt8
  | .activeUser => [0]
  | .explicit session => 1 :: littleEndian 4 session

def putWorkingDirectory : Option String → Except AdapterError (List UInt8)
  | some path => do
    let bytes ← putPath path
    pure (1 :: bytes)
  | none => pure [0]

def putBinding (binding : String × String) : Except AdapterError (List UInt8) := do
  let name ← putString binding.1
  let value ← putString binding.2
  pure (name ++ value)

def encodeFrame (specification : LaunchSpec) (cgroupPath : String) :
    Except AdapterError (List UInt8) := do
  ensure (isAbsolute cgroupPath) (.invalid "Linux helper cgroup path must be absolute")
  let deploymentId ← putString specification.deploymentId
  let instanceId ← putString specification.instanceId
  let incarnation ← putString specification.incarnation
  let launchNonce ← putString specification.launchNonce
  let cgroup ← putPath cgroupPath
  let executable ← putPath specification.executable
  let executableSha256 ← putString specification.executableSha256
  let graceful ← putMillis "Linux graceful timeout overflow" specification.gracefulTimeout
  let force ← putMillis "Linux force timeout overflow" specification.forceTimeout
  let workingDirectory ← putWorkingDirectory specification.workingDirectory
  let argumentCount ← putCount maxArguments specification.arguments.length
  let arguments ← each putString specification.arguments
  let environmentCount ← putCount maxEnvironment specification.environment.length
  let environment ← each putBinding specification.environment
  let payload := frameMagic ++ [frameVersion, componentCode specification.component] ++
    sessionBytes specification.session ++ [0] ++ deploymentId ++ instanceId ++ incarnation ++
    launchNonce ++ cgroup ++ executable ++ executableSha256 ++ graceful ++ force ++
    workingDirectory ++ (argumentCount ++ arguments) ++ (environmentCount ++ environment)
  ensure (payload.length ≤ maxFrameBytes) (.invalid "Linux helper frame exceeds bounds")
  let length ← putNumber 4 "Linux helper frame length overflow" payload.length
  pure (length ++ payload)

/-! ### Decoding -/

/-- The end of the input before the end of the frame. -/
def unexpectedEof : AdapterError :=
  .unavailable "Linux helper pipe closed before the next frame"

abbrev HelperDecoder : Type → Type :=
  Decoder AdapterError

def readByte : HelperDecoder UInt8 :=
  byte unexpectedEof

def readCount (maximum : Nat) : HelperDecoder Nat := do
  let count ← unsigned 2 unexpectedEof
  StateT.lift (ensure (count ≤ maximum) (.invalid "Linux helper collection exceeds bounds"))
  pure count

def readString (maximum : Nat) : HelperDecoder String := do
  let length ← unsigned 2 unexpectedEof
  StateT.lift (ensure (¬ (length = 0 ∨ maximum < length))
    (.invalid "Linux helper string is outside bounds"))
  let bytes ← take length unexpectedEof
  StateT.lift (orError (ofUtf8? bytes) (.invalid "Linux helper string is not UTF-8"))

def readPath : HelperDecoder String :=
  readString maxFieldBytes

def readSession : HelperDecoder SessionSelector := do
  let code ← readByte
  if code = 0 then
    pure .activeUser
  else if code = 1 then do
    let session ← unsigned 4 unexpectedEof
    pure (.explicit session)
  else
    StateT.lift (.error (.invalid "Linux helper session selector is invalid"))

/-- A duration of whole milliseconds. -/
def readMillis : HelperDecoder Nat := do
  let millis ← unsigned 8 unexpectedEof
  pure (millis * nanosPerMilli)

def readWorkingDirectory : HelperDecoder (Option String) := do
  let marker ← readByte
  if marker = 0 then
    pure none
  else if marker = 1 then do
    let path ← readPath
    pure (some path)
  else
    StateT.lift (.error (.invalid "Linux helper working-directory marker is invalid"))

def readBinding : HelperDecoder (String × String) := do
  let name ← readString maxFieldBytes
  let value ← readString maxFieldBytes
  pure (name, value)

def requestDecoder : HelperDecoder LinuxHelperRequest := do
  let magic ← take 8 unexpectedEof
  StateT.lift (ensure (magic = frameMagic) (.invalid "Linux helper frame magic is invalid"))
  let version ← readByte
  StateT.lift (ensure (version = frameVersion)
    (.unsupported "Linux helper frame version is unsupported"))
  let code ← readByte
  let component ← StateT.lift (componentFromCode code)
  let session ← readSession
  let reserved ← readByte
  StateT.lift (ensure (reserved = 0) (.invalid "Linux helper frame reserved byte is nonzero"))
  let deploymentId ← readString maxFieldBytes
  let instanceId ← readString maxFieldBytes
  let incarnation ← readString maxFieldBytes
  let launchNonce ← readString maxFieldBytes
  let cgroupPath ← readPath
  let executable ← readPath
  let executableSha256 ← readString maxFieldBytes
  let gracefulTimeout ← readMillis
  let forceTimeout ← readMillis
  let workingDirectory ← readWorkingDirectory
  let arguments ← readCount maxArguments >>= many (readString maxFieldBytes)
  let environment ← readCount maxEnvironment >>= many readBinding
  done (.invalid "Linux helper frame contains trailing bytes")
  let specification : LaunchSpec :=
    { deploymentId, instanceId, component, incarnation, launchNonce, executable, executableSha256,
      arguments, workingDirectory, environment, session, gracefulTimeout, forceTimeout }
  StateT.lift specification.validate
  pure { specification, cgroupPath }

def decodeFrame (payload : List UInt8) : Except AdapterError LinuxHelperRequest := do
  let (request, _) ← requestDecoder.run payload
  pure request

/-! ### The fields -/

/-- The texts that the encoder takes. -/
structure Writable (value : String) : Prop where
  ne_empty : value ≠ ""
  size_le : value.utf8ByteSize ≤ maxFieldBytes
  noNul : containsNul value = false

/-- The texts that the decoder takes. -/
def Readable (value : String) : Prop :=
  value ≠ "" ∧ value.utf8ByteSize ≤ maxFieldBytes

theorem Writable.readable {value : String} (h : Writable value) : Readable value :=
  ⟨h.ne_empty, h.size_le⟩

/-- A text behind its length. -/
def textBytes (value : String) : List UInt8 :=
  littleEndian 2 value.utf8ByteSize ++ utf8 value

theorem length_textBytes (value : String) :
    (textBytes value).length = 2 + value.utf8ByteSize := by
  rw [textBytes, List.length_append, length_littleEndian, length_utf8]

def workingDirectoryBytes : Option String → List UInt8
  | some path => 1 :: textBytes path
  | none => [0]

def bindingBytes (binding : String × String) : List UInt8 :=
  textBytes binding.1 ++ textBytes binding.2

theorem writes_putNumber (width : Nat) (message : String) :
    Writes (putNumber width message) (littleEndian width) fun n => n < 256 ^ width := by
  intro n bytes
  rw [putNumber, ensure_bind_eq_ok, pure_eq_ok]

theorem writes_putString : Writes putString textBytes Writable := by
  intro value bytes
  rw [putString, ensure_bind_eq_ok, (writes_putNumber _ _).bind_eq_ok, pure_eq_ok, ← and_assoc]
  refine and_congr_left fun _ => ?_
  simp only [String.isEmpty_iff, not_or, Nat.not_lt, Bool.not_eq_true]
  constructor
  · rintro ⟨⟨hempty, hsize, hnul⟩, -⟩
    exact ⟨hempty, hsize, hnul⟩
  · rintro ⟨hempty, hsize, hnul⟩
    exact ⟨⟨hempty, hsize, hnul⟩, Nat.lt_of_le_of_lt hsize (by decide)⟩

theorem writes_putCount (maximum : Nat) (hmaximum : maximum < 256 ^ 2) :
    Writes (putCount maximum) (littleEndian 2) fun count => count ≤ maximum := by
  intro count bytes
  rw [putCount, ensure_bind_eq_ok, writes_putNumber]
  constructor
  · rintro ⟨hle, -, hbytes⟩
    exact ⟨hle, hbytes⟩
  · rintro ⟨hle, hbytes⟩
    exact ⟨hle, Nat.lt_of_le_of_lt hle hmaximum, hbytes⟩

theorem writes_putWorkingDirectory : Writes putWorkingDirectory workingDirectoryBytes
    fun directory => ∀ path ∈ directory, Writable path := by
  intro directory bytes
  cases directory with
  | none => simp [putWorkingDirectory, workingDirectoryBytes, pure_eq_ok]
  | some path =>
    rw [putWorkingDirectory, putPath, writes_putString.bind_eq_ok, pure_eq_ok]
    simp [workingDirectoryBytes]

theorem writes_putBinding : Writes putBinding bindingBytes
    fun binding => Writable binding.1 ∧ Writable binding.2 := by
  intro binding bytes
  rw [putBinding, writes_putString.bind_eq_ok, writes_putString.bind_eq_ok, pure_eq_ok, and_assoc]
  rfl

theorem reads_string : Reads (readString maxFieldBytes) textBytes Readable := by
  intro input value rest
  rw [readString, bind_run_eq_ok]
  simp only [unsigned_run_eq_ok, lift_bind_run, ensure_eq_ok, take_bind_run, lift_run_eq_ok,
    orError_eq_ok, ofUtf8?_eq_some, not_or, Nat.not_lt]
  constructor
  · rintro ⟨length, _, ⟨-, rfl⟩, -, ⟨hne, hle⟩, bytes, _, rfl, rfl, rfl, rfl⟩
    rw [length_utf8] at hne hle
    refine ⟨⟨fun hempty => hne (String.utf8ByteSize_eq_zero_iff.mpr hempty), hle⟩, ?_⟩
    rw [textBytes, length_utf8, List.append_assoc]
  · rintro ⟨⟨hne, hle⟩, rfl⟩
    have hfits : value.utf8ByteSize < 256 ^ 2 := Nat.lt_of_le_of_lt hle (by decide)
    exact ⟨value.utf8ByteSize, _, ⟨hfits, List.append_assoc _ _ _⟩, (),
      ⟨fun hzero => hne (String.utf8ByteSize_eq_zero_iff.mp hzero), hle⟩, utf8 value, rest,
      length_utf8 value, rfl, rfl, rfl⟩

theorem reads_count (maximum : Nat) (hmaximum : maximum < 256 ^ 2) :
    Reads (readCount maximum) (littleEndian 2) fun count => count ≤ maximum := by
  intro input count rest
  rw [readCount, bind_run_eq_ok]
  simp only [unsigned_run_eq_ok, lift_bind_run, ensure_eq_ok, pure_run_eq_ok]
  constructor
  · rintro ⟨count, _, ⟨-, rfl⟩, -, hle, rfl, rfl⟩
    exact ⟨hle, rfl⟩
  · rintro ⟨hle, rfl⟩
    exact ⟨count, _, ⟨Nat.lt_of_le_of_lt hle hmaximum, rfl⟩, (), hle, rfl, rfl⟩

/-- The numbers of sessions have four bytes. -/
def SessionFits : SessionSelector → Prop
  | .activeUser => True
  | .explicit session => session < 2 ^ 32

theorem reads_session : Reads readSession sessionBytes SessionFits := by
  intro input session rest
  rw [readSession, readByte, byte_bind_run]
  constructor
  · rintro ⟨code, middle, rfl, hread⟩
    split_ifs at hread with hactive hexplicit
    · obtain ⟨rfl, rfl⟩ := pure_run_eq_ok.mp hread
      exact ⟨trivial, congrArg (· :: _) hactive⟩
    · obtain ⟨number, last, hnumber, hpure⟩ := bind_run_eq_ok.mp hread
      obtain ⟨hlt, rfl⟩ := unsigned_run_eq_ok.mp hnumber
      obtain ⟨rfl, rfl⟩ := pure_run_eq_ok.mp hpure
      exact ⟨hlt, congrArg (· :: _) hexplicit⟩
    · obtain ⟨herror, -⟩ := lift_run_eq_ok.mp hread
      cases herror
  · rintro ⟨hfits, rfl⟩
    cases session with
    | activeUser => exact ⟨0, rest, rfl, rfl⟩
    | explicit number =>
      refine ⟨1, littleEndian 4 number ++ rest, rfl, bind_run_eq_ok.mpr ⟨number, rest, ?_, rfl⟩⟩
      exact unsigned_run_eq_ok.mpr ⟨hfits, rfl⟩

theorem reads_workingDirectory : Reads readWorkingDirectory workingDirectoryBytes
    fun directory => ∀ path ∈ directory, Readable path := by
  intro input directory rest
  rw [readWorkingDirectory, readByte, byte_bind_run]
  constructor
  · rintro ⟨marker, middle, rfl, hread⟩
    split_ifs at hread with hnone hsome
    · obtain ⟨rfl, rfl⟩ := pure_run_eq_ok.mp hread
      exact ⟨nofun, congrArg (· :: _) hnone⟩
    · obtain ⟨path, last, hpath, rfl, hpure⟩ := reads_string.bind_run.mp hread
      obtain ⟨rfl, rfl⟩ := pure_run_eq_ok.mp hpure
      refine ⟨?_, congrArg (· :: _) hsome⟩
      rintro _ ⟨⟩
      exact hpath
    · obtain ⟨herror, -⟩ := lift_run_eq_ok.mp hread
      cases herror
  · rintro ⟨hreadable, rfl⟩
    cases directory with
    | none => exact ⟨0, rest, rfl, rfl⟩
    | some path =>
      refine ⟨1, textBytes path ++ rest, rfl, ?_⟩
      exact reads_string.bind_run.mpr ⟨path, rest, hreadable path rfl, rfl, rfl⟩

/-- The durations that the decoder returns. -/
def MillisFit (duration : Nat) : Prop :=
  nanosPerMilli ∣ duration ∧ duration / nanosPerMilli < 2 ^ 64

def millisBytes (duration : Nat) : List UInt8 :=
  littleEndian 8 (duration / nanosPerMilli)

theorem reads_millis : Reads readMillis millisBytes MillisFit := by
  intro input duration rest
  have hpos : 0 < nanosPerMilli := by decide
  rw [readMillis, bind_run_eq_ok]
  constructor
  · rintro ⟨millis, middle, hread, hpure⟩
    obtain ⟨hlt, rfl⟩ := unsigned_run_eq_ok.mp hread
    obtain ⟨rfl, rfl⟩ := pure_run_eq_ok.mp hpure
    have hdiv : millis * nanosPerMilli / nanosPerMilli = millis := Nat.mul_div_cancel _ hpos
    refine ⟨⟨Nat.dvd_mul_left _ _, ?_⟩, congrArg (littleEndian 8 · ++ middle) hdiv.symm⟩
    rw [hdiv]
    exact hlt
  · rintro ⟨⟨hdvd, hlt⟩, rfl⟩
    exact ⟨duration / nanosPerMilli, rest, unsigned_run_eq_ok.mpr ⟨hlt, rfl⟩,
      pure_run_eq_ok.mpr ⟨Nat.div_mul_cancel hdvd, rfl⟩⟩

theorem componentFromCode_eq_ok {code : UInt8} {component : ComponentKind} :
    componentFromCode code = .ok component ↔ code = componentCode component := by
  constructor
  · intro h
    rw [componentFromCode] at h
    split_ifs at h <;> cases h <;> assumption
  · rintro rfl
    cases component <;> rfl

/-! ### The frame -/

/-- The payload of a frame. -/
def wire (specification : LaunchSpec) (cgroupPath : String) : List UInt8 :=
  frameMagic ++ [frameVersion, componentCode specification.component] ++
    sessionBytes specification.session ++ [0] ++ textBytes specification.deploymentId ++
    textBytes specification.instanceId ++ textBytes specification.incarnation ++
    textBytes specification.launchNonce ++ textBytes cgroupPath ++
    textBytes specification.executable ++ textBytes specification.executableSha256 ++
    millisBytes specification.gracefulTimeout ++ millisBytes specification.forceTimeout ++
    workingDirectoryBytes specification.workingDirectory ++
    (littleEndian 2 specification.arguments.length ++ specification.arguments.flatMap textBytes) ++
    (littleEndian 2 specification.environment.length ++
      specification.environment.flatMap bindingBytes)

/-- What the encoder asks of its input. -/
structure Encodable (specification : LaunchSpec) (cgroupPath : String) : Prop where
  absolute : isAbsolute cgroupPath = true
  deploymentId : Writable specification.deploymentId
  instanceId : Writable specification.instanceId
  incarnation : Writable specification.incarnation
  launchNonce : Writable specification.launchNonce
  cgroup : Writable cgroupPath
  executable : Writable specification.executable
  executableSha256 : Writable specification.executableSha256
  graceful : specification.gracefulTimeout / nanosPerMilli < 2 ^ 64
  force : specification.forceTimeout / nanosPerMilli < 2 ^ 64
  workingDirectory : ∀ path ∈ specification.workingDirectory, Writable path
  argumentCount : specification.arguments.length ≤ maxArguments
  arguments : ∀ argument ∈ specification.arguments, Writable argument
  environmentCount : specification.environment.length ≤ maxEnvironment
  environment : ∀ binding ∈ specification.environment, Writable binding.1 ∧ Writable binding.2
  size : (wire specification cgroupPath).length ≤ maxFrameBytes

theorem encodeFrame_eq_ok {specification : LaunchSpec} {cgroupPath : String}
    {frame : List UInt8} :
    encodeFrame specification cgroupPath = .ok frame ↔ Encodable specification cgroupPath ∧
      littleEndian 4 (wire specification cgroupPath).length ++ wire specification cgroupPath =
        frame := by
  have hcount := writes_putCount maxArguments (by decide)
  have hcount' := writes_putCount maxEnvironment (by decide)
  have hfits : (wire specification cgroupPath).length ≤ maxFrameBytes →
      (wire specification cgroupPath).length < 256 ^ 4 :=
    fun hle => Nat.lt_of_le_of_lt hle (by decide)
  simp only [encodeFrame, ensure_bind_eq_ok, writes_putString.bind_eq_ok, putPath, putMillis,
    (writes_putNumber _ _).bind_eq_ok, writes_putWorkingDirectory.bind_eq_ok, hcount.bind_eq_ok,
    hcount'.bind_eq_ok, writes_putString.each.bind_eq_ok, writes_putBinding.each.bind_eq_ok,
    pure_eq_ok]
  constructor
  · rintro ⟨h₁, h₂, h₃, h₄, h₅, h₆, h₇, h₈, h₉, h₁₀, h₁₁, h₁₂, h₁₃, h₁₄, h₁₅, h₁₆, -, hframe⟩
    exact ⟨⟨h₁, h₂, h₃, h₄, h₅, h₆, h₇, h₈, h₉, h₁₀, h₁₁, h₁₂, h₁₃, h₁₄, h₁₅, h₁₆⟩, hframe⟩
  · rintro ⟨⟨h₁, h₂, h₃, h₄, h₅, h₆, h₇, h₈, h₉, h₁₀, h₁₁, h₁₂, h₁₃, h₁₄, h₁₅, h₁₆⟩, hframe⟩
    exact ⟨h₁, h₂, h₃, h₄, h₅, h₆, h₇, h₈, h₉, h₁₀, h₁₁, h₁₂, h₁₃, h₁₄, h₁₅, h₁₆, hfits h₁₆, hframe⟩

/-- What the decoder returns. -/
structure Decodable (specification : LaunchSpec) (cgroupPath : String) : Prop where
  session : SessionFits specification.session
  deploymentId : Readable specification.deploymentId
  instanceId : Readable specification.instanceId
  incarnation : Readable specification.incarnation
  launchNonce : Readable specification.launchNonce
  cgroup : Readable cgroupPath
  executable : Readable specification.executable
  executableSha256 : Readable specification.executableSha256
  graceful : MillisFit specification.gracefulTimeout
  force : MillisFit specification.forceTimeout
  workingDirectory : ∀ path ∈ specification.workingDirectory, Readable path
  arguments : specification.arguments.length ≤ maxArguments ∧
    ∀ argument ∈ specification.arguments, Readable argument
  environment : specification.environment.length ≤ maxEnvironment ∧
    ∀ binding ∈ specification.environment, Readable binding.1 ∧ Readable binding.2
  valid : specification.validate = .ok ()

theorem requestDecoder_run_eq_ok {specification : LaunchSpec} {cgroupPath : String}
    {input rest : List UInt8} :
    requestDecoder input = .ok (⟨specification, cgroupPath⟩, rest) ↔
      Decodable specification cgroupPath ∧ wire specification cgroupPath = input ∧ rest = [] := by
  have harguments := (reads_count maxArguments (by decide)).counted reads_string
  have henvironment := (reads_count maxEnvironment (by decide)).counted
    (reads_string.pair reads_string)
  simp only [requestDecoder, take_bind_run, readByte, byte_bind_run, lift_bind_run, ensure_eq_ok,
    componentFromCode_eq_ok, reads_session.bind_run, reads_string.bind_run, readPath,
    reads_millis.bind_run, reads_workingDirectory.bind_run, harguments.bind_run, readBinding,
    henvironment.bind_run, done_bind_run, pure_run_eq_ok, LinuxHelperRequest.mk.injEq]
  constructor
  · rintro ⟨magic, _, -, rfl, -, rfl, _, _, rfl, -, rfl, _, _, rfl, component, rfl, session, _,
      hsession, rfl, _, _, rfl, -, rfl, deploymentId, _, hdeploymentId, rfl, instanceId, _,
      hinstanceId, rfl, incarnation, _, hincarnation, rfl, launchNonce, _, hlaunchNonce, rfl,
      cgroup, _, hcgroup, rfl, executable, _, hexecutable, rfl, sha256, _, hsha256, rfl, graceful,
      _, hgraceful, rfl, force, _, hforce, rfl, directory, _, hdirectory, rfl, arguments, _,
      harguments, rfl, environment, _, henvironment, rfl, rfl, ⟨⟩, hvalid, ⟨rfl, rfl⟩, rfl⟩
    refine ⟨⟨hsession, hdeploymentId, hinstanceId, hincarnation, hlaunchNonce, hcgroup,
      hexecutable, hsha256, hgraceful, hforce, hdirectory, harguments, henvironment, hvalid⟩, ?_,
      rfl⟩
    simp only [wire, List.append_assoc, List.append_nil]
    rfl
  · rintro ⟨hdecodable, rfl, rfl⟩
    obtain ⟨hsession, hdeploymentId, hinstanceId, hincarnation, hlaunchNonce, hcgroup,
      hexecutable, hsha256, hgraceful, hforce, hdirectory, harguments, henvironment, hvalid⟩ :=
      hdecodable
    simp only [wire, List.append_assoc]
    exact ⟨frameMagic, _, rfl, rfl, (), rfl, _, _, rfl, (), rfl, _, _, rfl, _, rfl, _, _,
      hsession, rfl, _, _, rfl, (), rfl, _, _, hdeploymentId, rfl, _, _, hinstanceId, rfl, _, _,
      hincarnation, rfl, _, _, hlaunchNonce, rfl, _, _, hcgroup, rfl, _, _, hexecutable, rfl, _,
      _, hsha256, rfl, _, _, hgraceful, rfl, _, _, hforce, rfl, _, _, hdirectory, rfl, _, _,
      harguments, rfl, _, [], henvironment, (List.append_nil _).symm, rfl, (), hvalid,
      ⟨rfl, rfl⟩, trivial⟩

theorem decodeFrame_eq_ok {specification : LaunchSpec} {cgroupPath : String}
    {payload : List UInt8} :
    decodeFrame payload = .ok ⟨specification, cgroupPath⟩ ↔
      Decodable specification cgroupPath ∧ wire specification cgroupPath = payload := by
  rw [decodeFrame, bind_eq_ok]
  constructor
  · rintro ⟨⟨found, rest⟩, hrun, hpure⟩
    cases hpure
    obtain ⟨hdecodable, hwire, -⟩ := requestDecoder_run_eq_ok.mp hrun
    exact ⟨hdecodable, hwire⟩
  · rintro ⟨hdecodable, hwire⟩
    exact ⟨(⟨specification, cgroupPath⟩, []),
      requestDecoder_run_eq_ok.mpr ⟨hdecodable, hwire, rfl⟩, rfl⟩

/-! ### Specifications that pass the checks -/

theorem ne_empty_of_isAbsolute {path : String} (h : isAbsolute path = true) : path ≠ "" := by
  rintro rfl
  exact absurd h (by decide)

theorem writable_of_isName {value : String} {maximum : Nat} (h : isName value maximum = true)
    (hle : maximum ≤ maxFieldBytes) : Writable value := by
  simp only [isName, Bool.and_eq_true, Bool.not_eq_true', decide_eq_true_eq] at h
  obtain ⟨⟨⟨hempty, hsize⟩, hnul⟩, -⟩ := h
  refine ⟨?_, Nat.le_trans hsize hle, hnul⟩
  rintro rfl
  exact absurd hempty (by decide)

/-- Hexadecimal digits are not the zero character. -/
theorem containsNul_of_all_isHexDigit {value : String} (h : value.toList.all isHexDigit = true) :
    containsNul value = false := by
  rw [containsNul, List.any_eq_false]
  intro c hc hzero
  have hdigit := List.all_eq_true.mp h c hc
  have hnul : c = Char.ofNat 0 := by
    rw [← Char.ofNat_toNat c, beq_iff_eq.mp hzero]
  rw [hnul] at hdigit
  exact absurd hdigit (by decide)

theorem writable_of_isSha256 {value : String} (h : isSha256 value = true) : Writable value := by
  simp only [isSha256, Bool.and_eq_true, beq_iff_eq] at h
  obtain ⟨hsize, hdigits⟩ := h
  refine ⟨?_, ?_, containsNul_of_all_isHexDigit hdigits⟩
  · rintro rfl
    exact absurd hsize (by decide)
  · rw [hsize]
    decide

/-- The names and values of an environment that passes the checks. -/
theorem bindings_of_validate {seen : List String} {environment : List (String × String)}
    (h : validateBindings seen environment = .ok ()) :
    ∀ binding ∈ environment, Writable binding.1 ∧
      binding.2.utf8ByteSize ≤ maxFieldBytes ∧ containsNul binding.2 = false := by
  induction environment generalizing seen with
  | nil => nofun
  | cons binding environment ih =>
    obtain ⟨hchecks, hrest⟩ := check_bind_eq_ok.mp h
    have hchecks := ensure_eq_ok.mp hchecks
    simp only [Bool.and_eq_true, Bool.not_eq_true', decide_eq_true_eq] at hchecks
    obtain ⟨⟨⟨⟨⟨⟨⟨⟨hempty, hname⟩, hvalue⟩, -⟩, hnul⟩, -⟩, hvalueNul⟩, -⟩, -⟩ := hchecks
    have hfields : maxEnvironmentNameBytes ≤ maxFieldBytes ∧
      maxEnvironmentValueBytes ≤ maxFieldBytes := by decide
    refine List.forall_mem_cons.mpr ⟨⟨⟨?_, Nat.le_trans hname hfields.1, hnul⟩,
      Nat.le_trans hvalue hfields.2, hvalueNul⟩, ih hrest⟩
    intro hname
    rw [hname] at hempty
    exact absurd hempty (by decide)

/-- A launch that can be asked for: the specification passes the checks, and the paths have the
length that the frame allows. The numbers of sessions have four bytes by their type. -/
structure Admissible (specification : LaunchSpec) (cgroupPath : String) : Prop where
  valid : specification.validate = .ok ()
  session : SessionFits specification.session
  executable : specification.executable.utf8ByteSize ≤ maxFieldBytes
  workingDirectory : ∀ path ∈ specification.workingDirectory, path.utf8ByteSize ≤ maxFieldBytes
  cgroup_absolute : isAbsolute cgroupPath = true
  cgroup : cgroupPath.utf8ByteSize ≤ maxFieldBytes

/-- What the frame can express. -/
structure Representable (specification : LaunchSpec) (cgroupPath : String) : Prop where
  cgroup : containsNul cgroupPath = false
  executable : containsNul specification.executable = false
  workingDirectory : ∀ path ∈ specification.workingDirectory, containsNul path = false
  arguments : ∀ argument ∈ specification.arguments, argument ≠ ""
  environment : ∀ binding ∈ specification.environment, binding.2 ≠ ""
  graceful : MillisFit specification.gracefulTimeout
  force : MillisFit specification.forceTimeout

theorem length_flatMap_textBytes (arguments : List String) :
    (arguments.flatMap textBytes).length =
      2 * arguments.length + (arguments.map String.utf8ByteSize).sum := by
  induction arguments with
  | nil => rfl
  | cons argument arguments ih =>
    rw [List.flatMap_cons, List.length_append, ih, length_textBytes, List.length_cons,
      List.map_cons, List.sum_cons]
    omega

theorem length_flatMap_bindingBytes (environment : List (String × String)) :
    (environment.flatMap bindingBytes).length = 4 * environment.length +
      (environment.map fun binding => binding.1.utf8ByteSize + binding.2.utf8ByteSize).sum := by
  induction environment with
  | nil => rfl
  | cons binding environment ih =>
    rw [List.flatMap_cons, List.length_append, ih, bindingBytes, List.length_append,
      length_textBytes, length_textBytes, List.length_cons, List.map_cons, List.sum_cons]
    omega

section Admissible

variable {specification : LaunchSpec} {cgroupPath : String}

/-- The checks, read off `LaunchSpec.validate`. -/
structure Checks (specification : LaunchSpec) : Prop where
  deploymentId : isName specification.deploymentId maxIdentityBytes = true
  instanceId : isName specification.instanceId maxIdentityBytes = true
  incarnation : isName specification.incarnation maxIdentityBytes = true
  launchNonce : isName specification.launchNonce maxIdentityBytes = true
  executableSha256 : isSha256 specification.executableSha256 = true
  executable : isAbsolute specification.executable = true
  workingDirectory : ∀ path ∈ specification.workingDirectory, isAbsolute path = true
  argumentCount : specification.arguments.length ≤ Platform.maxArguments
  arguments : ∀ argument ∈ specification.arguments,
    argument.utf8ByteSize ≤ maxArgumentBytes ∧ containsNul argument = false
  environmentCount : specification.environment.length ≤ Platform.maxEnvironment
  environment : ∀ binding ∈ specification.environment, Writable binding.1 ∧
    binding.2.utf8ByteSize ≤ maxFieldBytes ∧ containsNul binding.2 = false
  launchBytes : specification.launchBytes ≤ maxLaunchBytes

theorem checks_of_validate (h : specification.validate = .ok ()) : Checks specification := by
  simp only [LaunchSpec.validate, validateIdentity, validateSha256, check_bind_eq_ok,
    ensure_eq_ok] at h
  obtain ⟨hdeployment, hinstance, hincarnation, hnonce, hsha256, hexecutable, hdirectory,
    harguments, hcount, hbindings, hbytes, -⟩ := h
  simp only [Bool.and_eq_true, decide_eq_true_eq, Bool.not_eq_true', List.any_eq_false,
    Bool.or_eq_true, not_or, Nat.not_lt, Bool.not_eq_true] at harguments
  refine ⟨hdeployment, hinstance, hincarnation, hnonce, hsha256, hexecutable, ?_, harguments.1,
    harguments.2, hcount, bindings_of_validate hbindings, hbytes⟩
  intro path hpath
  rw [hpath] at hdirectory
  exact hdirectory

/-- The frame of a launch is never too long. -/
theorem length_wire_le (h : Admissible specification cgroupPath) :
    (wire specification cgroupPath).length ≤ maxFrameBytes := by
  have hchecks := checks_of_validate h.valid
  have hsize : ∀ {value}, isName value maxIdentityBytes = true → value.utf8ByteSize ≤ 256 := by
    intro value hname
    simp only [isName, Bool.and_eq_true, decide_eq_true_eq] at hname
    exact hname.1.1.2
  have hdeployment := hsize hchecks.deploymentId
  have hinstance := hsize hchecks.instanceId
  have hincarnation := hsize hchecks.incarnation
  have hnonce := hsize hchecks.launchNonce
  have hsha256 := (writable_of_isSha256 hchecks.executableSha256).size_le
  have hexecutable := h.executable
  have hcgroup := h.cgroup
  have hsession : (sessionBytes specification.session).length ≤ 5 := by
    cases specification.session with
    | activeUser => decide
    | explicit session =>
      have hlength := length_littleEndian 4 session
      rw [sessionBytes, List.length_cons]
      omega
  have hdirectory : (workingDirectoryBytes specification.workingDirectory).length ≤
      3 + maxFieldBytes := by
    cases hpath : specification.workingDirectory with
    | none => decide
    | some path =>
      have hle := h.workingDirectory path hpath
      rw [workingDirectoryBytes, List.length_cons, length_textBytes]
      omega
  have hcounts : specification.arguments.length ≤ 64 ∧ specification.environment.length ≤ 64 :=
    ⟨hchecks.argumentCount, hchecks.environmentCount⟩
  have hbytes := hchecks.launchBytes
  have hfield : maxFieldBytes = 16384 := rfl
  have hframe : maxFrameBytes = 262144 := rfl
  have hlaunch : maxLaunchBytes = 32768 := rfl
  rw [LaunchSpec.launchBytes] at hbytes
  simp only [wire, frameMagic, millisBytes, List.length_append, List.length_cons, List.length_nil,
    length_textBytes, length_littleEndian, length_flatMap_textBytes, length_flatMap_bindingBytes]
  omega

theorem Admissible.encodable_iff (h : Admissible specification cgroupPath) :
    Encodable specification cgroupPath ↔
      containsNul cgroupPath = false ∧ containsNul specification.executable = false ∧
      (∀ path ∈ specification.workingDirectory, containsNul path = false) ∧
      (∀ argument ∈ specification.arguments, argument ≠ "") ∧
      (∀ binding ∈ specification.environment, binding.2 ≠ "") ∧
      specification.gracefulTimeout / nanosPerMilli < 2 ^ 64 ∧
      specification.forceTimeout / nanosPerMilli < 2 ^ 64 := by
  have hchecks := checks_of_validate h.valid
  constructor
  · intro hencodable
    exact ⟨hencodable.cgroup.noNul, hencodable.executable.noNul,
      fun path hpath => (hencodable.workingDirectory path hpath).noNul,
      fun argument hargument => (hencodable.arguments argument hargument).ne_empty,
      fun binding hbinding => (hencodable.environment binding hbinding).2.ne_empty,
      hencodable.graceful, hencodable.force⟩
  · rintro ⟨hcgroup, hexecutable, hdirectory, harguments, henvironment, hgraceful, hforce⟩
    have hname : ∀ {value}, isName value maxIdentityBytes = true → Writable value :=
      fun hname => writable_of_isName hname (by decide)
    exact {
      absolute := h.cgroup_absolute
      deploymentId := hname hchecks.deploymentId
      instanceId := hname hchecks.instanceId
      incarnation := hname hchecks.incarnation
      launchNonce := hname hchecks.launchNonce
      cgroup := ⟨ne_empty_of_isAbsolute h.cgroup_absolute, h.cgroup, hcgroup⟩
      executable := ⟨ne_empty_of_isAbsolute hchecks.executable, h.executable, hexecutable⟩
      executableSha256 := writable_of_isSha256 hchecks.executableSha256
      graceful := hgraceful
      force := hforce
      workingDirectory := fun path hpath =>
        ⟨ne_empty_of_isAbsolute (hchecks.workingDirectory path hpath),
          h.workingDirectory path hpath, hdirectory path hpath⟩
      argumentCount := hchecks.argumentCount
      arguments := fun argument hargument =>
        ⟨harguments argument hargument,
          Nat.le_trans (hchecks.arguments argument hargument).1 (by decide),
          (hchecks.arguments argument hargument).2⟩
      environmentCount := hchecks.environmentCount
      environment := fun binding hbinding =>
        have hvalue := (hchecks.environment binding hbinding).2
        ⟨(hchecks.environment binding hbinding).1, henvironment binding hbinding, hvalue.1,
          hvalue.2⟩
      size := length_wire_le h }

theorem Encodable.decodable (h : Encodable specification cgroupPath)
    (hadmissible : Admissible specification cgroupPath)
    (hgraceful : MillisFit specification.gracefulTimeout)
    (hforce : MillisFit specification.forceTimeout) : Decodable specification cgroupPath where
  session := hadmissible.session
  deploymentId := h.deploymentId.readable
  instanceId := h.instanceId.readable
  incarnation := h.incarnation.readable
  launchNonce := h.launchNonce.readable
  cgroup := h.cgroup.readable
  executable := h.executable.readable
  executableSha256 := h.executableSha256.readable
  graceful := hgraceful
  force := hforce
  workingDirectory path hpath := (h.workingDirectory path hpath).readable
  arguments := ⟨h.argumentCount, fun argument hargument =>
    (h.arguments argument hargument).readable⟩
  environment := ⟨h.environmentCount, fun binding hbinding =>
    ⟨(h.environment binding hbinding).1.readable, (h.environment binding hbinding).2.readable⟩⟩
  valid := hadmissible.valid

end Admissible

/-- **Handing over a launch.** A launch that passes the checks is encoded, and decoded to the same
specification and path, exactly if the frame can express it. -/
theorem helper_frame_iff (specification : LaunchSpec) (cgroupPath : String)
    (h : Admissible specification cgroupPath) :
    (∃ frame, encodeFrame specification cgroupPath = .ok frame ∧
      decodeFrame (frame.drop 4) = .ok ⟨specification, cgroupPath⟩) ↔
      Representable specification cgroupPath := by
  constructor
  · rintro ⟨frame, hencode, hdecode⟩
    obtain ⟨hencodable, rfl⟩ := encodeFrame_eq_ok.mp hencode
    obtain ⟨hdecodable, -⟩ := decodeFrame_eq_ok.mp hdecode
    obtain ⟨hcgroup, hexecutable, hdirectory, harguments, henvironment, -⟩ :=
      h.encodable_iff.mp hencodable
    exact ⟨hcgroup, hexecutable, hdirectory, harguments, henvironment, hdecodable.graceful,
      hdecodable.force⟩
  · intro hrepresentable
    have hencodable : Encodable specification cgroupPath :=
      h.encodable_iff.mpr ⟨hrepresentable.cgroup, hrepresentable.executable,
        hrepresentable.workingDirectory, hrepresentable.arguments, hrepresentable.environment,
        hrepresentable.graceful.2, hrepresentable.force.2⟩
    have hdecodable := hencodable.decodable h hrepresentable.graceful hrepresentable.force
    refine ⟨_, encodeFrame_eq_ok.mpr ⟨hencodable, rfl⟩, decodeFrame_eq_ok.mpr ⟨hdecodable, ?_⟩⟩
    rw [List.drop_left' (length_littleEndian 4 _)]

/-- A launch of a gateway with stop deadlines of one and two seconds. -/
def sampleLaunch : LaunchSpec where
  deploymentId := "d"
  instanceId := "i"
  component := .gateway
  incarnation := "n"
  launchNonce := "l"
  executable := "/bin/a"
  executableSha256 := String.ofList (List.replicate 64 'a')
  arguments := []
  workingDirectory := none
  environment := []
  session := .explicit 0
  gracefulTimeout := 1000000000
  forceTimeout := 2000000000

theorem admissible_of_validate {specification : LaunchSpec} {cgroupPath : String}
    (h : specification.validate = .ok ()) (hsession : specification.session = .explicit 0)
    (hexecutable : specification.executable = "/bin/a")
    (hdirectory : specification.workingDirectory = none) (hcgroup : cgroupPath = "/c") :
    Admissible specification cgroupPath := by
  subst hcgroup
  refine ⟨h, ?_, ?_, ?_, by decide, by decide⟩
  · rw [hsession]
    exact Nat.two_pow_pos 32
  · rw [hexecutable]
    decide
  · rw [hdirectory]
    nofun

/-- The sample is handed over. -/
theorem helper_frame_iff_sample : Admissible sampleLaunch "/c" ∧
    ((∃ frame, encodeFrame sampleLaunch "/c" = .ok frame ∧
      decodeFrame (frame.drop 4) = .ok ⟨sampleLaunch, "/c"⟩) ↔ Representable sampleLaunch "/c") :=
  have hadmissible := admissible_of_validate (by decide +kernel) rfl rfl rfl rfl
  ⟨hadmissible, helper_frame_iff sampleLaunch "/c" hadmissible⟩

/-- The sample with an empty argument cannot be encoded, and with a deadline of one millisecond
and a half it is not decoded to the same specification. -/
theorem helper_frame_loses :
    (Admissible { sampleLaunch with arguments := [""] } "/c" ∧
      ∀ frame, encodeFrame { sampleLaunch with arguments := [""] } "/c" ≠ .ok frame) ∧
    Admissible { sampleLaunch with gracefulTimeout := 1500000 } "/c" ∧
      ∀ payload, decodeFrame payload ≠
        .ok ⟨{ sampleLaunch with gracefulTimeout := 1500000 }, "/c"⟩ := by
  refine ⟨⟨?_, ?_⟩, ?_, ?_⟩
  · exact admissible_of_validate (by decide +kernel) rfl rfl rfl rfl
  · intro frame hencode
    obtain ⟨hencodable, -⟩ := encodeFrame_eq_ok.mp hencode
    exact (hencodable.arguments "" (List.mem_singleton.mpr rfl)).ne_empty rfl
  · exact admissible_of_validate (by decide +kernel) rfl rfl rfl rfl
  · intro payload hdecode
    obtain ⟨hdecodable, -⟩ := decodeFrame_eq_ok.mp hdecode
    have hdvd : nanosPerMilli ∣ 1500000 := hdecodable.graceful.1
    exact absurd hdvd (by decide)

end AscensionWatchdog.Platform.Framed
