import Mathlib.Data.List.Forall2
import AscensionWatchdog.Foundation.Files
import AscensionWatchdog.Foundation.Programs
import AscensionWatchdog.Storage.Values

/-!
# Staging of a release set

A release is assembled in a new directory of the catalog: six role artifacts and the manifest
that binds their lengths and digests. The sources of the roles belong to others, who may change
them at any time, so what a read of a source returns is taken from a list of answers and nothing
relates the answers of two reads. The files of the catalog are part of the state: a file is only
written after it was created by the staging.

Every source is read twice, by `hashFileBounded` for the manifest and by `copyBounded` for the
release. The copy stops at the recorded length and does not hash what it copies. So a staging
that succeeds gives every role its recorded length and overwrites nothing, while the recorded
digests are those of the staged files exactly if both readings of every source have the same
digest (`staged_digests_iff`). The bytes that the two passes read are kept in the state for that
statement.
-/

namespace AscensionWatchdog.Staging

open Foundation Foundation.Json

/-! ### Release manifests -/

/-- `identity`: a component of a path that is portable. -/
def isIdentityChar (c : Char) : Bool :=
  c.isAlphanum || c == '-' || c == '_' || c == '.'

def isIdentity (value : String) : Prop :=
  value ≠ "" ∧ value ≠ "." ∧ value ≠ ".." ∧ value.toList.getLast? ≠ some '.' ∧
    value.utf8ByteSize ≤ 128 ∧ value.toList.all isIdentityChar = true

instance (value : String) : Decidable (isIdentity value) :=
  inferInstanceAs (Decidable (_ ∧ _))

def isHex (value : String) (length : Nat) : Prop :=
  value.utf8ByteSize = length ∧ value.toList.all isLowerHex = true

instance (value : String) (length : Nat) : Decidable (isHex value length) :=
  inferInstanceAs (Decidable (_ ∧ _))

/-- Names that Windows reserves for devices. -/
def reservedStems : List String :=
  ["CON", "PRN", "AUX", "NUL", "COM1", "COM2", "COM3", "COM4", "COM5", "COM6", "COM7", "COM8",
    "COM9", "LPT1", "LPT2", "LPT3", "LPT4", "LPT5", "LPT6", "LPT7", "LPT8", "LPT9"]

def portableComponent (value : String) : Prop :=
  isIdentity value ∧
    String.ofList ((value.toList.takeWhile (· ≠ '.')).map Char.toUpper) ∉ reservedStems

instance (value : String) : Decidable (portableComponent value) :=
  inferInstanceAs (Decidable (_ ∧ _))

def relativePath (path : String) : Prop :=
  path ≠ "" ∧ path.utf8ByteSize ≤ 240 ∧
    ∀ component ∈ path.toList.splitOn '/', portableComponent (String.ofList component)

instance (path : String) : Decidable (relativePath path) :=
  inferInstanceAs (Decidable (_ ∧ _))

structure Revision where
  repository : String
  commit : String
  deriving DecidableEq, Repr

inductive ArtifactRole where
  | watchdog
  | gateway
  | harness
  | mcp
  | mod
  | hostBroker
  deriving DecidableEq, Repr

structure Artifact where
  role : ArtifactRole
  path : String
  sha256 : String
  bytes : Nat
  deriving DecidableEq, Repr

structure StoreCompatibility where
  owner : String
  minimumSchema : Nat
  maximumSchema : Nat
  deriving DecidableEq, Repr

structure Compatibility where
  gameBuild : String
  runtimeProfile : String
  runtimeProfileSha256 : String
  recoveryProfile : String
  recoveryProfileSha256 : String
  configurationSha256 : String
  providerAdapter : String
  providerAdapterSha256 : String
  stores : List StoreCompatibility
  deriving DecidableEq, Repr

structure ReleaseManifest where
  schemaVersion : Nat
  releaseId : String
  revisions : List Revision
  artifacts : List Artifact
  compatibility : Compatibility
  deriving DecidableEq, Repr

def requiredRepositories : List String :=
  ["ascension-watchdog", "sts2-gateway", "sts2-harness", "sts2-mcp-server", "sts2-game-mod",
    "sts2-protocol"]

def optionalRepositories : List String :=
  ["sts2-game-core", "ai-agent-observability", ".github", "AI-Ascension.github.io"]

def maxArtifactBytes : Nat :=
  1073741824

-- The loops of the source insert every key into a set and fail, with one error for all checks of
-- an element, on a key that is there already; so the keys of an accepted list are distinct.
def ReleaseManifest.validateRevisions (self : ReleaseManifest) : Except String Unit := do
  ensure (requiredRepositories.length ≤ self.revisions.length ∧ self.revisions.length ≤ 16)
    "release revision count is outside bounds"
  ensure ((∀ revision ∈ self.revisions, isIdentity revision.repository ∧
      (revision.repository ∈ requiredRepositories ∨
        revision.repository ∈ optionalRepositories) ∧
      isHex revision.commit 40) ∧ (self.revisions.map Revision.repository).Nodup)
    "invalid or duplicate source revision"
  ensure (∀ repository ∈ requiredRepositories,
      repository ∈ self.revisions.map Revision.repository)
    "release omits a required companion revision"

def ReleaseManifest.validateArtifacts (self : ReleaseManifest) : Except String Unit := do
  ensure (self.artifacts.length = 6) "release requires exactly six executable roles"
  ensure ((∀ artifact ∈ self.artifacts, relativePath artifact.path ∧
      isHex artifact.sha256 64 ∧ artifact.bytes ≠ 0 ∧ artifact.bytes ≤ maxArtifactBytes) ∧
      (self.artifacts.map Artifact.role).Nodup ∧
      (self.artifacts.map fun artifact => artifact.path.toList.map Char.toLower).Nodup)
    "invalid or duplicate release artifact"

def Compatibility.validate (self : Compatibility) : Except String Unit := do
  ensure (isIdentity self.gameBuild ∧ self.runtimeProfile = "runtime-v3-gameplay" ∧
      self.recoveryProfile = "watchdog-recovery-v1" ∧ isIdentity self.providerAdapter)
    "unsupported release compatibility identity"
  ensure (∀ digest ∈ [self.runtimeProfileSha256, self.recoveryProfileSha256,
      self.configurationSha256, self.providerAdapterSha256], isHex digest 64)
    "invalid release compatibility digest"
  ensure ((∀ store ∈ self.stores, store.owner ∈ ["watchdog", "gateway", "harness"] ∧
      store.minimumSchema ≠ 0 ∧ store.minimumSchema ≤ store.maximumSchema) ∧
      (self.stores.map StoreCompatibility.owner).Nodup)
    "invalid or duplicate store compatibility"
  ensure (self.stores.length = 3) "release requires all three owner-local store ranges"

def ReleaseManifest.validate (self : ReleaseManifest) : Except String Unit := do
  ensure (self.schemaVersion = 1 ∧ isIdentity self.releaseId)
    "unsupported release version or invalid identity"
  self.validateRevisions
  self.validateArtifacts
  self.compatibility.validate

/-! ### The text of a manifest -/

def Revision.toValue (self : Revision) : Value :=
  .ofFields [("repository", .string self.repository), ("commit", .string self.commit)]

def ArtifactRole.text : ArtifactRole → String
  | .watchdog => "watchdog"
  | .gateway => "gateway"
  | .harness => "harness"
  | .mcp => "mcp"
  | .mod => "mod"
  | .hostBroker => "host_broker"

def Artifact.toValue (self : Artifact) : Value :=
  .ofFields [("role", .string self.role.text), ("path", .string self.path),
    ("sha256", .string self.sha256), ("bytes", .ofNat self.bytes)]

def StoreCompatibility.toValue (self : StoreCompatibility) : Value :=
  .ofFields [("owner", .string self.owner), ("minimum_schema", .ofNat self.minimumSchema),
    ("maximum_schema", .ofNat self.maximumSchema)]

def Compatibility.toValue (self : Compatibility) : Value :=
  .ofFields [("game_build", .string self.gameBuild),
    ("runtime_profile", .string self.runtimeProfile),
    ("runtime_profile_sha256", .string self.runtimeProfileSha256),
    ("recovery_profile", .string self.recoveryProfile),
    ("recovery_profile_sha256", .string self.recoveryProfileSha256),
    ("configuration_sha256", .string self.configurationSha256),
    ("provider_adapter", .string self.providerAdapter),
    ("provider_adapter_sha256", .string self.providerAdapterSha256),
    ("stores", .ofItems (self.stores.map StoreCompatibility.toValue))]

def ReleaseManifest.toValue (self : ReleaseManifest) : Value :=
  .ofFields [("schema_version", .ofNat self.schemaVersion), ("release_id", .string self.releaseId),
    ("revisions", .ofItems (self.revisions.map Revision.toValue)),
    ("artifacts", .ofItems (self.artifacts.map Artifact.toValue)),
    ("compatibility", self.compatibility.toValue)]

/-- `serde_json::to_vec_pretty`; the paths of a staged manifest are names of roles, so that it
cannot fail. -/
def ReleaseManifest.toVecPretty (self : ReleaseManifest) : List UInt8 :=
  self.toValue.pretty.toUTF8.data.toList

/-! ### Answers of the file system -/

inductive StageAnswer where
  | canonical (path : Option String)
  | isDir (directory : Bool)
  /-- `symlink_metadata`: whether it is a regular file, and its length -/
  | metadata (result : Option (Bool × Nat))
  | opened (ok : Bool)
  | read (chunk : Option (List UInt8))
  | created (result : Except String Unit)
  /-- the number of bytes that a failed write has written, or `none` for a complete one -/
  | wrote (failed : Option Nat)
  | flushed (ok : Bool)

/-- The files, and the bytes that the completed passes over sources have read. -/
structure StageWorld where
  files : Files (List UInt8)
  hashed : List (List UInt8)
  copied : List (List UInt8)
  answers : List StageAnswer

abbrev StageM (α : Type) : Type :=
  Program StageWorld String α

namespace StageM

def ask {α : Type} (pick : StageAnswer → Option α) : StageM α := fun w =>
  match w.answers with
  | [] => (none, w)
  | answer :: rest =>
    match pick answer with
    | some a => (some (.ok a), { w with answers := rest })
    | none => (none, { w with answers := rest })

/-- Every round of a loop takes an answer, so that their number bounds the rounds. -/
def rounds : StageM Nat :=
  .gets (·.answers.length + 1)

def openSource (error : String) : StageM Unit := do
  let ok ← ask fun | .opened ok => some ok | _ => none
  .ofExcept (ensure (ok = true) error)

/-- A read into a buffer of a given size: at most so many bytes, and none at the end. -/
def readChunk (size : Nat) : StageM (List UInt8) := do
  let chunk ← ask fun | .read chunk => some chunk | _ => none
  let bytes ← .ofExcept (orError chunk "role artifact cannot be read")
  pure (bytes.take size)

/-- `create_new`: nothing has the path yet. -/
def createNew (path error : String) : StageM Unit := do
  let result ← ask fun | .created result => some result | _ => none
  let occupied ← .gets (·.files.occupied path)
  .ofExcept (ensure (occupied = false) error)
  .ofExcept (result.mapError fun _ => error)
  .modify fun w => { w with files := w.files.write path [] }

def append (path : String) (bytes : List UInt8) : StageM Unit :=
  .modify fun w => { w with
    files := w.files.write path ((w.files.content path).getD [] ++ bytes) }

/-- `write_all`: a write that fails may have written a part. -/
def writeAll (path : String) (bytes : List UInt8) (error : String) : StageM Unit := do
  let failed ← ask fun | .wrote failed => some failed | _ => none
  match failed with
  | none => append path bytes
  | some written => do
    append path (bytes.take written)
    .fail error

def syncAll (error : String) : StageM Unit := do
  let ok ← ask fun | .flushed ok => some ok | _ => none
  .ofExcept (ensure (ok = true) error)

def createDir (path : String) : StageM Unit := do
  let result ← ask fun | .created result => some result | _ => none
  let occupied ← .gets (·.files.occupied path)
  .ofExcept (ensure (occupied = false)
    "release directory was not created: File exists (os error 17)")
  .ofExcept (result.mapError fun error => s!"release directory was not created: {error}")
  .modify fun w => { w with files := w.files.makeDirectory path }

end StageM

open StageM

/-! ### The two passes -/

/-- `source_set::digest_hex`. -/
def digestHex (bytes : List UInt8) : String :=
  String.ofList (bytes.flatMap byteHex)

/-- The SHA-256 digest of bytes in lowercase hexadecimal. -/
def sha256Hex (crates : Crates) (bytes : List UInt8) : String :=
  digestHex (crates.sha256 ⟨bytes.toArray⟩).toList

/-- The size of the buffers. -/
def bufferBytes : Nat :=
  65536

def readToEnd : Nat → List UInt8 → StageM (List UInt8)
  | 0, _ => .interrupt
  | rounds + 1, bytes => do
    let chunk ← readChunk bufferBytes
    if chunk = [] then pure bytes
    else do
      .ofExcept (ensure (bytes.length + chunk.length < 2 ^ 64) "role artifact length overflows")
      readToEnd rounds (bytes ++ chunk)

/-- The digest and the length of a source. Its path does not matter for what is read. -/
def hashFileBounded (crates : Crates) (maximum : Nat) : StageM (String × Nat) := do
  let metadata ← ask fun | .metadata result => some result | _ => none
  let (isFile, length) ← .ofExcept (orError metadata "role artifact is unavailable")
  .ofExcept (ensure (isFile = true) "role artifact is not a regular file")
  .ofExcept (ensure (length ≠ 0 ∧ length ≤ maximum) "role artifact size is outside bounds")
  openSource "role artifact cannot be opened"
  let rounds ← rounds
  let bytes ← readToEnd rounds []
  .ofExcept (ensure (bytes.length = length) "role artifact changed while hashing")
  .modify fun w => { w with hashed := w.hashed ++ [bytes] }
  pure (sha256Hex crates bytes, bytes.length)

/-- The rounds of a copy, with what is copied already. -/
def copyChunks (destination : String) : Nat → Nat → List UInt8 → StageM (List UInt8)
  | 0, _, _ => .interrupt
  | rounds + 1, remaining, copied =>
    if remaining = 0 then pure copied
    else do
      let chunk ← readChunk (min remaining bufferBytes)
      .ofExcept (ensure (chunk ≠ []) "role artifact ended before its recorded length")
      writeAll destination chunk "staged role cannot be written"
      copyChunks destination rounds (remaining - chunk.length) (copied ++ chunk)

/-- Copy exactly `expected` bytes of a source to a new file. -/
def copyBounded (destination : String) (expected : Nat) : StageM Unit := do
  openSource "role artifact cannot be reopened"
  createNew destination "staged role cannot be created"
  let rounds ← rounds
  let bytes ← copyChunks destination rounds expected []
  .modify fun w => { w with copied := w.copied ++ [bytes] }
  syncAll "staged role cannot be flushed"

def writeNew (path : String) (bytes : List UInt8) : StageM Unit := do
  createNew path "release manifest cannot be created"
  writeAll path bytes "release manifest cannot be written"
  syncAll "release manifest cannot be flushed"

/-! ### Assembly -/

def manifestName : String :=
  "release-manifest.json"

def roles : List (String × ArtifactRole) :=
  [("watchdog", .watchdog), ("gateway", .gateway), ("harness", .harness), ("mcp", .mcp),
    ("mod", .mod), ("host_broker", .hostBroker)]

/-- The names of the roles in the order of a set. -/
def expectedRoles : List String :=
  ["gateway", "harness", "host_broker", "mcp", "mod", "watchdog"]

structure CompatibilityProfile where
  gameBuild : String
  runtimeProfileSha256 : String
  recoveryProfileSha256 : String
  providerAdapter : String
  providerAdapterSha256 : String
  stores : List StoreCompatibility

/-- A role with the digest and the length of its source. -/
structure StagedRole where
  name : String
  role : ArtifactRole
  sha256 : String
  bytes : Nat

def StagedRole.artifact (staged : StagedRole) : Artifact where
  role := staged.role
  path := staged.name
  sha256 := staged.sha256
  bytes := staged.bytes

structure StagedArtifact where
  path : String
  sha256 : String
  bytes : Nat
  deriving DecidableEq, Repr

def StagedRole.report (staged : StagedRole) : String × StagedArtifact :=
  (staged.name, { path := staged.name, sha256 := staged.sha256, bytes := staged.bytes })

structure StageSetReport where
  stagerVersion : Nat
  releaseId : String
  catalog : String
  manifest : String
  manifestSha256 : String
  revisionCount : Nat
  artifactCount : Nat
  configDigest : String
  artifacts : List (String × StagedArtifact)
  deriving DecidableEq, Repr

/-- `Path::join`. -/
def join (path name : String) : String :=
  if name.toList.head? = some '/' then name
  else if path.toList.getLast? = some '/' then path ++ name
  else path ++ "/" ++ name

/-- The roles that are supplied are the expected ones. -/
def checkRoles (roleSources : List (String × String)) : Except String Unit :=
  let supplied := roleSources.map Prod.fst
  let missing := expectedRoles.filter (· ∉ supplied)
  let unknown := supplied.filter (· ∉ expectedRoles)
  ensure (missing = [] ∧ unknown = [])
    ("release staging requires exactly the six fixed roles; missing [" ++
      ", ".intercalate missing ++ "], unknown [" ++ ", ".intercalate unknown ++ "]")

/-- The first pass over the sources. -/
def hashRoles (crates : Crates) (roleSources : List (String × String)) :
    List (String × ArtifactRole) → StageM (List StagedRole)
  | [] => pure []
  | (name, role) :: rest => do
    discard (.ofExcept (orError (roleSources.lookup name) s!"role {name} has no source"))
    let (sha256, bytes) ← hashFileBounded crates maxArtifactBytes
    let staged ← hashRoles crates roleSources rest
    pure ({ name, role, sha256, bytes } :: staged)

/-- The second pass over the sources. -/
def copyRoles (releaseDir : String) : List StagedRole → StageM Unit :=
  .forEach fun staged => copyBounded (join releaseDir staged.name) staged.bytes

/-- The manifest of a release with the staged roles. -/
def stagedManifest (releaseId : String) (revisions : List Revision)
    (profile : CompatibilityProfile) (configDigest : String) (staged : List StagedRole) :
    ReleaseManifest where
  schemaVersion := 1
  releaseId := releaseId
  revisions := revisions
  artifacts := staged.map StagedRole.artifact
  compatibility :=
    { gameBuild := profile.gameBuild
      runtimeProfile := "runtime-v3-gameplay"
      runtimeProfileSha256 := profile.runtimeProfileSha256
      recoveryProfile := "watchdog-recovery-v1"
      recoveryProfileSha256 := profile.recoveryProfileSha256
      configurationSha256 := configDigest
      providerAdapter := profile.providerAdapter
      providerAdapterSha256 := profile.providerAdapterSha256
      stores := profile.stores }

/-- The catalog, which is a directory. -/
def canonicalRoot : StageM String := do
  let canonical ← ask fun | .canonical path => some path | _ => none
  let root ← .ofExcept (orError canonical "catalog root is unavailable")
  let directory ← ask fun | .isDir directory => some directory | _ => none
  .ofExcept (ensure (directory = true) "catalog root is not a directory")
  pure root

def assembleReleaseSet (crates : Crates) (releaseId : String) (revisions : List Revision)
    (profile : CompatibilityProfile) (configDigest : String)
    (roleSources : List (String × String)) : StageM StageSetReport := do
  .ofExcept (checkRoles roleSources)
  let root ← canonicalRoot
  let releaseDir := join root releaseId
  let exist ← .gets (·.files.occupied releaseDir)
  .ofExcept (ensure (exist = false) s!"release {releaseId} already exists in the catalog")
  let staged ← hashRoles crates roleSources roles
  let manifest := stagedManifest releaseId revisions profile configDigest staged
  .ofExcept (manifest.validate.mapError fun error =>
    s!"assembled release manifest is invalid: {error}")
  createDir releaseDir
  copyRoles releaseDir staged
  let manifestBytes := manifest.toVecPretty
  let manifestPath := join releaseDir manifestName
  writeNew manifestPath manifestBytes
  pure
    { stagerVersion := 1
      releaseId := releaseId
      catalog := root
      manifest := manifestPath
      manifestSha256 := sha256Hex crates manifestBytes
      revisionCount := manifest.revisions.length
      artifactCount := manifest.artifacts.length
      configDigest := configDigest
      artifacts := staged.map StagedRole.report }

/-! ### What the calls leave -/

/-- The contents of the files and the records of the passes are as they were. -/
structure Untouched (w w' : StageWorld) : Prop where
  content : w'.files.content = w.files.content
  hashed : w'.hashed = w.hashed
  copied : w'.copied = w.copied

instance : Std.Refl Untouched where
  refl _ := ⟨rfl, rfl, rfl⟩

instance : IsTrans StageWorld Untouched where
  trans _ _ _ h h' := ⟨h'.content.trans h.content, h'.hashed.trans h.hashed,
    h'.copied.trans h.copied⟩

/-- Every file there was has its content. -/
def KeepsFiles (w w' : StageWorld) : Prop :=
  w.files.Kept w'.files

instance : Std.Refl KeepsFiles where
  refl w := .refl w.files

instance : IsTrans StageWorld KeepsFiles where
  trans _ _ _ h h' := h.trans h'

theorem Untouched.keepsFiles {w w' : StageWorld} (h : Untouched w w') : KeepsFiles w w' := by
  intro p c hc
  rw [h.content]
  exact hc

section Calls

variable {α : Type} {pick : StageAnswer → Option α} {d error : String} {bytes : List UInt8}
  {f : Files (List UInt8)} {w w' : StageWorld} {n : Nat}

theorem ask_untouched : Program.Keeps Untouched (ask pick) := by
  intro w
  unfold ask
  split
  · exact ⟨rfl, rfl, rfl⟩
  · split <;> exact ⟨rfl, rfl, rfl⟩

theorem openSource_untouched : Program.Keeps Untouched (openSource error) :=
  .bind ask_untouched fun _ => .ofExcept

theorem syncAll_untouched : Program.Keeps Untouched (syncAll error) :=
  .bind ask_untouched fun _ => .ofExcept

theorem readChunk_untouched : Program.Keeps Untouched (readChunk n) :=
  .bind ask_untouched fun _ => .bind .ofExcept fun _ => .pure

theorem readChunk_length {chunk : List UInt8} (h : readChunk n w = (some (.ok chunk), w')) :
    chunk.length ≤ n := by
  obtain ⟨_, _, -, h⟩ := Program.bind_eq_ok.mp h
  obtain ⟨read, _, -, h⟩ := Program.bind_eq_ok.mp h
  obtain ⟨rfl, -⟩ := Program.pure_eq_ok.mp h
  exact List.length_take_le n read

theorem canonicalRoot_untouched : Program.Keeps Untouched canonicalRoot :=
  .bind ask_untouched fun _ => .bind .ofExcept fun _ => .bind ask_untouched fun _ =>
    .bind .ofExcept fun _ => .pure

end Calls

/-! ### New files

A file is created and written while every file there was before, `f`, is kept. -/

section NewFiles

variable {d error : String} {f : Files (List UInt8)} {hs cs : List (List UInt8)}

/-- Every file of `f` has its content. -/
abbrev Keeping (f : Files (List UInt8)) (w : StageWorld) : Prop :=
  f.Kept w.files

/-- The content of the new file, and the records of the passes. -/
structure Writing (d : String) (hs cs : List (List UInt8)) (bytes : List UInt8)
    (w : StageWorld) : Prop where
  content : w.files.content d = some bytes
  hashed : w.hashed = hs
  copied : w.copied = cs

theorem writing_of_untouched {α : Type} {m : StageM α} (h : Program.Keeps Untouched m)
    {bytes : List UInt8} :
    Program.Triple (Keeping f) (Writing d hs cs bytes) m fun _ => Writing d hs cs bytes := by
  refine h.triple (fun w w' hw hI => ?_) fun w w' hw hP => ?_
  · exact hI.trans hw.keepsFiles
  · exact ⟨by rw [hw.content, hP.content], by rw [hw.hashed, hP.hashed],
      by rw [hw.copied, hP.copied]⟩

/-- The file did not exist, and it is empty now. -/
theorem createNew_triple :
    Program.Triple (Keeping f) (fun w => w.hashed = hs ∧ w.copied = cs) (createNew d error)
      fun _ w => f.content d = none ∧ Writing d hs cs [] w := by
  refine .bind (Q := fun _ w => w.hashed = hs ∧ w.copied = cs) ?_ fun result =>
    .gets_bind fun occupied => .ofExcept_bind fun _ hfree => .ofExcept_bind fun _ _ => ?_
  · refine ask_untouched.triple (fun w w' hw hI => hI.trans hw.keepsFiles) fun w w' hw hP => ?_
    rw [hw.hashed, hw.copied]
    exact hP
  · have hnone (w : StageWorld) (hI : Keeping f w) (hw : w.files.occupied d = occupied) :
        f.content d = none := by
      have hocc : w.files.occupied d = false := hw.trans (ensure_eq_ok.mp hfree)
      exact hI.content_eq_none (Files.content_of_not_occupied hocc)
    refine .modify (fun w hI hw => hI.write (hnone w hI hw.2)) fun w hI hw => ?_
    exact ⟨hnone w hI hw.2, Files.write_content_self, hw.1.1, hw.1.2⟩

theorem append_triple (hf : f.content d = none) (bytes chunk : List UInt8) :
    Program.Triple (Keeping f) (Writing d hs cs bytes) (append d chunk)
      fun _ => Writing d hs cs (bytes ++ chunk) := by
  refine .modify (fun w hI _ => hI.write hf) fun w _ hw => ?_
  refine ⟨?_, hw.hashed, hw.copied⟩
  simp only [hw.content, Option.getD_some, Files.write_content_self]

theorem writeAll_triple (hf : f.content d = none) (bytes chunk : List UInt8) :
    Program.Triple (Keeping f) (Writing d hs cs bytes) (writeAll d chunk error)
      fun _ => Writing d hs cs (bytes ++ chunk) := by
  refine .bind (writing_of_untouched ask_untouched) fun failed => ?_
  cases failed with
  | none => exact append_triple hf bytes chunk
  | some written => exact .bind (append_triple hf bytes _) fun _ => .fail

-- The file holds what is copied so far, and the bytes that remain are those that are missing.
theorem copyChunks_triple (hf : f.content d = none) (rounds : Nat) :
    ∀ (remaining : Nat) (bytes : List UInt8),
      Program.Triple (Keeping f) (Writing d hs cs bytes) (copyChunks d rounds remaining bytes)
        fun out w => Writing d hs cs out w ∧ out.length = bytes.length + remaining := by
  induction rounds with
  | zero => exact fun _ _ _ hI _ => ⟨hI, fun _ h => by cases h⟩
  | succ rounds ih =>
    intro remaining bytes
    unfold copyChunks
    split
    next hzero =>
      refine .pure fun w _ hw => ⟨hw, ?_⟩
      omega
    next hremaining =>
      have hread : Program.Triple (Keeping f) (Writing d hs cs bytes)
          (readChunk (min remaining bufferBytes)) fun chunk w =>
            Writing d hs cs bytes w ∧ chunk.length ≤ remaining := by
        intro w hI hw
        obtain ⟨hinv, hpost⟩ := writing_of_untouched readChunk_untouched w hI hw
        refine ⟨hinv, fun chunk hchunk => ⟨hpost chunk hchunk, ?_⟩⟩
        have hlength := readChunk_length (Prod.ext hchunk rfl)
        omega
      have hrest (chunk : List UInt8) (hchunk : chunk.length ≤ remaining) :
          Program.Triple (Keeping f) (Writing d hs cs bytes)
            (writeAll d chunk "staged role cannot be written" >>= fun _ =>
              copyChunks d rounds (remaining - chunk.length) (bytes ++ chunk))
            fun out w => Writing d hs cs out w ∧ out.length = bytes.length + remaining := by
        refine .bind (writeAll_triple hf bytes chunk) fun _ => ?_
        refine (ih (remaining - chunk.length) (bytes ++ chunk)).mono (fun _ h => h) ?_
        rintro out w ⟨hout, hlength⟩
        rw [List.length_append] at hlength
        exact ⟨hout, by omega⟩
      refine .bind hread fun chunk => .ofExcept_bind fun _ _ => ?_
      exact fun w hI hw => hrest chunk hw.2 w hI hw.1

/-- A copy leaves a new file of the expected length, with the bytes that it read. -/
theorem copyBounded_triple (expected : Nat) :
    Program.Triple (Keeping f) (fun w => w.hashed = hs ∧ w.copied = cs)
      (copyBounded d expected) fun _ w => ∃ bytes, Writing d hs (cs ++ [bytes]) bytes w ∧
        bytes.length = expected := by
  have hopen : Program.Triple (Keeping f) (fun w => w.hashed = hs ∧ w.copied = cs)
      (openSource "role artifact cannot be reopened") fun _ w =>
        w.hashed = hs ∧ w.copied = cs := by
    refine openSource_untouched.triple (fun w w' hw hI => hI.trans hw.keepsFiles) ?_
    intro w w' hw hP
    rw [hw.hashed, hw.copied]
    exact hP
  have hcopy (hf : f.content d = none) (rounds : Nat) :
      Program.Triple (Keeping f) (Writing d hs cs []) (do
        let bytes ← copyChunks d rounds expected []
        .modify fun w => { w with copied := w.copied ++ [bytes] }
        syncAll "staged role cannot be flushed") fun _ w =>
          ∃ bytes, Writing d hs (cs ++ [bytes]) bytes w ∧ bytes.length = expected := by
    refine .bind (copyChunks_triple hf rounds expected []) fun bytes => ?_
    refine .bind (Q := fun _ w => Writing d hs (cs ++ [bytes]) bytes w ∧
      bytes.length = expected) ?_ fun _ => ?_
    · refine .modify (fun w hI _ => hI) fun w _ hw => ⟨⟨hw.1.content, hw.1.hashed, ?_⟩, ?_⟩
      · rw [hw.1.copied]
      · simpa using hw.2
    · intro w hI hw
      obtain ⟨hinv, hpost⟩ := writing_of_untouched syncAll_untouched w hI hw.1
      exact ⟨hinv, fun u hu => ⟨bytes, hpost u hu, hw.2⟩⟩
  refine .bind hopen fun _ => .bind createNew_triple fun _ => .gets_bind fun rounds => ?_
  exact fun w hI hw => hcopy hw.1.1 rounds w hI hw.1.2

theorem writeNew_triple (bytes : List UInt8) :
    Program.Triple (Keeping f) (fun w => w.hashed = hs ∧ w.copied = cs) (writeNew d bytes)
      fun _ => Writing d hs cs bytes := by
  have hwrite (hf : f.content d = none) :
      Program.Triple (Keeping f) (Writing d hs cs []) (do
        writeAll d bytes "release manifest cannot be written"
        syncAll "release manifest cannot be flushed") fun _ => Writing d hs cs bytes :=
    .bind (writeAll_triple hf [] bytes) fun _ => writing_of_untouched syncAll_untouched
  refine .bind createNew_triple fun _ => ?_
  exact fun w hI hw => hwrite hw.1 w hI hw.2

end NewFiles

/-! ### The passes over all roles -/

section Passes

variable {crates : Crates} {w w' : StageWorld} {d : String} {n : Nat}

theorem copyBounded_keepsFiles : Program.Keeps KeepsFiles (copyBounded d n) :=
  fun w => (copyBounded_triple n w (.refl w.files) ⟨rfl, rfl⟩).1

theorem copyBounded_eq_ok (h : copyBounded d n w = (some (.ok ()), w')) :
    ∃ bytes, w'.files.content d = some bytes ∧ bytes.length = n ∧ w'.hashed = w.hashed ∧
      w'.copied = w.copied ++ [bytes] := by
  obtain ⟨bytes, hw', hlength⟩ := (copyBounded_triple n).of_run (.refl w.files) ⟨rfl, rfl⟩ h
  exact ⟨bytes, hw'.content, hlength, hw'.hashed, hw'.copied⟩

theorem writeNew_keepsFiles {bytes : List UInt8} : Program.Keeps KeepsFiles (writeNew d bytes) :=
  fun w => (writeNew_triple bytes w (.refl w.files) ⟨rfl, rfl⟩).1

theorem writeNew_eq_ok {bytes : List UInt8} (h : writeNew d bytes w = (some (.ok ()), w')) :
    Writing d w.hashed w.copied bytes w' :=
  (writeNew_triple bytes).of_run (.refl w.files) ⟨rfl, rfl⟩ h

theorem createDir_untouched : Program.Keeps Untouched (createDir d) :=
  .bind ask_untouched fun _ => .bind .gets fun _ => .bind .ofExcept fun _ =>
    .bind .ofExcept fun _ => .modify fun _ => ⟨rfl, rfl, rfl⟩

theorem readToEnd_untouched (rounds : Nat) :
    ∀ bytes, Program.Keeps Untouched (readToEnd rounds bytes) := by
  induction rounds with
  | zero => exact fun _ _ => Std.Refl.refl _
  | succ rounds ih =>
    intro bytes
    refine .bind readChunk_untouched fun chunk => ?_
    split
    · exact .pure
    · exact .bind .ofExcept fun _ => ih _

/-- What the first pass records of a source: the digest and the length of the bytes it read. -/
theorem hashFileBounded_eq_ok {sha256 : String} {maximum length : Nat}
    (h : hashFileBounded crates maximum w = (some (.ok (sha256, length)), w')) :
    ∃ bytes, sha256 = sha256Hex crates bytes ∧ length = bytes.length ∧
      w'.files.content = w.files.content ∧ w'.hashed = w.hashed ++ [bytes] ∧
      w'.copied = w.copied := by
  obtain ⟨metadata, w₁, hask, h⟩ := Program.bind_eq_ok.mp h
  have hw₁ := ask_untouched.of_run hask
  obtain ⟨⟨isFile, size⟩, _, hmeta, h⟩ := Program.bind_eq_ok.mp h
  obtain ⟨-, rfl⟩ := Program.ofExcept_eq_ok.mp hmeta
  obtain ⟨_, _, hfile, h⟩ := Program.bind_eq_ok.mp h
  obtain ⟨-, rfl⟩ := Program.ofExcept_eq_ok.mp hfile
  obtain ⟨_, _, hsize, h⟩ := Program.bind_eq_ok.mp h
  obtain ⟨-, rfl⟩ := Program.ofExcept_eq_ok.mp hsize
  obtain ⟨_, w₂, hopen, h⟩ := Program.bind_eq_ok.mp h
  have hw₂ := openSource_untouched.of_run hopen
  obtain ⟨rounds, _, hrounds, h⟩ := Program.bind_eq_ok.mp h
  obtain ⟨-, rfl⟩ := Program.gets_eq_ok.mp hrounds
  obtain ⟨bytes, w₃, hread, h⟩ := Program.bind_eq_ok.mp h
  have hw₃ := (readToEnd_untouched rounds []).of_run hread
  obtain ⟨_, _, hlength, h⟩ := Program.bind_eq_ok.mp h
  obtain ⟨-, rfl⟩ := Program.ofExcept_eq_ok.mp hlength
  obtain ⟨_, _, hrecord, h⟩ := Program.bind_eq_ok.mp h
  obtain rfl := Program.modify_eq_ok.mp hrecord
  obtain ⟨hresult, rfl⟩ := Program.pure_eq_ok.mp h
  obtain ⟨rfl, rfl⟩ := Prod.mk.inj hresult
  have hw : Untouched w w₃ := IsTrans.trans _ _ _ (IsTrans.trans _ _ _ hw₁ hw₂) hw₃
  exact ⟨bytes, rfl, rfl, hw.content, by rw [hw.hashed], hw.copied⟩

theorem hashFileBounded_keepsFiles {maximum : Nat} :
    Program.Keeps KeepsFiles (hashFileBounded crates maximum) := by
  have hkeeps {α : Type} {m : StageM α} (h : Program.Keeps Untouched m) :
      Program.Keeps KeepsFiles m := fun w => (h w).keepsFiles
  refine .bind (hkeeps ask_untouched) fun _ => .bind .ofExcept fun (_, _) =>
    .bind .ofExcept fun _ => .bind .ofExcept fun _ => .bind (hkeeps openSource_untouched) fun _ =>
    .bind .gets fun _ => .bind (hkeeps (readToEnd_untouched _ _)) fun _ =>
    .bind .ofExcept fun _ => .bind (.modify fun w => ?_) fun _ => .pure
  exact .refl w.files

theorem hashRoles_keepsFiles {roleSources : List (String × String)}
    (roles : List (String × ArtifactRole)) :
    Program.Keeps KeepsFiles (hashRoles crates roleSources roles) := by
  induction roles with
  | nil => exact .pure
  | cons entry rest ih =>
    refine .bind (.bind .ofExcept fun _ => .pure) fun _ =>
      .bind hashFileBounded_keepsFiles fun (_, _) => .bind ih fun _ => .pure

/-- The record of a role is that of the bytes that the first pass read. -/
def Recorded (crates : Crates) (staged : StagedRole) (bytes : List UInt8) : Prop :=
  staged.sha256 = sha256Hex crates bytes ∧ staged.bytes = bytes.length

theorem hashRoles_eq_ok {roleSources : List (String × String)} :
    ∀ {roles : List (String × ArtifactRole)} {w w' : StageWorld} {staged : List StagedRole},
      hashRoles crates roleSources roles w = (some (.ok staged), w') →
      staged.map (fun s => (s.name, s.role)) = roles ∧
        w'.files.content = w.files.content ∧ w'.copied = w.copied ∧
        ∃ hs, List.Forall₂ (Recorded crates) staged hs ∧ w'.hashed = w.hashed ++ hs := by
  intro roles
  induction roles with
  | nil =>
    intro w w' staged h
    obtain ⟨rfl, rfl⟩ := Program.pure_eq_ok.mp h
    exact ⟨rfl, rfl, rfl, [], .nil, (List.append_nil _).symm⟩
  | cons entry rest ih =>
    intro w w' staged h
    obtain ⟨_, w₁, hsource, h⟩ := Program.bind_eq_ok.mp h
    obtain ⟨_, _, hlookup, hsource⟩ := Program.bind_eq_ok.mp hsource
    obtain ⟨-, rfl⟩ := Program.ofExcept_eq_ok.mp hlookup
    obtain ⟨-, rfl⟩ := Program.pure_eq_ok.mp hsource
    obtain ⟨⟨sha256, length⟩, w₂, hhash, h⟩ := Program.bind_eq_ok.mp h
    obtain ⟨bytes, hsha, hlength, hfiles, hhashed, hcopied⟩ := hashFileBounded_eq_ok hhash
    obtain ⟨tail, w₃, hrest, h⟩ := Program.bind_eq_ok.mp h
    obtain ⟨rfl, rfl⟩ := Program.pure_eq_ok.mp h
    obtain ⟨hroles, hfiles', hcopied', hs, hrecorded, hhashed'⟩ := ih hrest
    refine ⟨?_, hfiles'.trans hfiles, hcopied'.trans hcopied, bytes :: hs,
      .cons ⟨hsha, hlength⟩ hrecorded, ?_⟩
    · rw [List.map_cons, hroles]
    · rw [hhashed', hhashed, List.append_assoc, List.singleton_append]

theorem copyRoles_keepsFiles (staged : List StagedRole) :
    Program.Keeps KeepsFiles (copyRoles d staged) :=
  .forEach (fun _ => copyBounded_keepsFiles) staged

/-- The staged file of a role. -/
def CopiedTo (releaseDir : String) (files : Files (List UInt8)) (staged : StagedRole)
    (bytes : List UInt8) : Prop :=
  files.content (join releaseDir staged.name) = some bytes ∧ bytes.length = staged.bytes

theorem CopiedTo.kept {files files' : Files (List UInt8)} {staged : StagedRole}
    {bytes : List UInt8} (h : CopiedTo d files staged bytes) (hkept : files.Kept files') :
    CopiedTo d files' staged bytes :=
  ⟨hkept _ _ h.1, h.2⟩

-- The copies of later roles keep the file of this one, since it is there when they start.
theorem copyRoles_eq_ok :
    ∀ {staged : List StagedRole} {w w' : StageWorld},
      copyRoles d staged w = (some (.ok ()), w') →
      w'.hashed = w.hashed ∧
        ∃ cs, List.Forall₂ (CopiedTo d w'.files) staged cs ∧ w'.copied = w.copied ++ cs := by
  intro staged
  induction staged with
  | nil =>
    intro w w' h
    obtain ⟨-, rfl⟩ := Program.pure_eq_ok.mp h
    exact ⟨rfl, [], .nil, (List.append_nil _).symm⟩
  | cons role rest ih =>
    intro w w' h
    obtain ⟨_, w₁, hcopy, h⟩ := Program.bind_eq_ok.mp h
    obtain ⟨bytes, hcontent, hlength, hhashed, hcopied⟩ := copyBounded_eq_ok hcopy
    obtain ⟨hhashed', cs, hcs, hcopied'⟩ := ih h
    have hkept := (copyRoles_keepsFiles rest).of_run h
    refine ⟨hhashed'.trans hhashed, bytes :: cs, .cons ⟨hkept _ _ hcontent, hlength⟩ hcs, ?_⟩
    rw [hcopied', hcopied, List.append_assoc, List.singleton_append]

end Passes

/-! ### The staged release -/

section Assembly

variable {crates : Crates} {releaseId configDigest : String} {revisions : List Revision} {profile : CompatibilityProfile}
  {roleSources : List (String × String)} {w w' : StageWorld} {report : StageSetReport}

/-- However a staging ends, no file that existed was overwritten. -/
theorem assembleReleaseSet_keepsFiles :
    Program.Keeps KeepsFiles
      (assembleReleaseSet crates releaseId revisions profile configDigest roleSources) := by
  have hkeeps {α : Type} {m : StageM α} (h : Program.Keeps Untouched m) :
      Program.Keeps KeepsFiles m := fun w => (h w).keepsFiles
  exact .bind .ofExcept fun _ => .bind (hkeeps canonicalRoot_untouched) fun _ =>
    .bind .gets fun _ => .bind .ofExcept fun _ => .bind (hashRoles_keepsFiles roles) fun _ =>
    .bind .ofExcept fun _ => .bind (hkeeps createDir_untouched) fun _ =>
    .bind (copyRoles_keepsFiles _) fun _ => .bind writeNew_keepsFiles fun _ => .pure

/-- The staged file of an artifact has the recorded length. -/
def StagedLength (releaseDir : String) (files : Files (List UInt8)) (artifact : Artifact) :
    Prop :=
  ∃ bytes, files.content (join releaseDir artifact.path) = some bytes ∧
    bytes.length = artifact.bytes

/-- The staged file of an artifact has the recorded digest. -/
def StagedDigest (crates : Crates) (releaseDir : String) (files : Files (List UInt8))
    (artifact : Artifact) : Prop :=
  ∃ bytes, files.content (join releaseDir artifact.path) = some bytes ∧
    sha256Hex crates bytes = artifact.sha256

/-- What a staging that succeeded has done. -/
theorem assembleReleaseSet_eq_ok
    (h : assembleReleaseSet crates releaseId revisions profile configDigest roleSources w =
      (some (.ok report), w')) :
    ∃ staged hs cs,
      staged.map (fun s => (s.name, s.role)) = roles ∧
      w'.files.content report.manifest =
        some (stagedManifest releaseId revisions profile configDigest staged).toVecPretty ∧
      List.Forall₂ (Recorded crates) staged hs ∧ w'.hashed = w.hashed ++ hs ∧
      List.Forall₂ (CopiedTo (join report.catalog releaseId) w'.files) staged cs ∧
      w'.copied = w.copied ++ cs := by
  obtain ⟨_, _, hroles, h⟩ := Program.bind_eq_ok.mp h
  obtain ⟨-, rfl⟩ := Program.ofExcept_eq_ok.mp hroles
  obtain ⟨root, w₁, hroot, h⟩ := Program.bind_eq_ok.mp h
  have hw₁ := canonicalRoot_untouched.of_run hroot
  obtain ⟨exist, _, hget, h⟩ := Program.bind_eq_ok.mp h
  obtain ⟨-, rfl⟩ := Program.gets_eq_ok.mp hget
  obtain ⟨_, _, hexist, h⟩ := Program.bind_eq_ok.mp h
  obtain ⟨-, rfl⟩ := Program.ofExcept_eq_ok.mp hexist
  obtain ⟨staged, w₂, hhash, h⟩ := Program.bind_eq_ok.mp h
  obtain ⟨hnames, hfiles₂, hcopied₂, hs, hrecorded, hhashed₂⟩ := hashRoles_eq_ok hhash
  obtain ⟨_, _, hvalid, h⟩ := Program.bind_eq_ok.mp h
  obtain ⟨-, rfl⟩ := Program.ofExcept_eq_ok.mp hvalid
  obtain ⟨_, w₃, hdir, h⟩ := Program.bind_eq_ok.mp h
  have hw₃ := createDir_untouched.of_run hdir
  obtain ⟨_, w₄, hcopy, h⟩ := Program.bind_eq_ok.mp h
  obtain ⟨hhashed₄, cs, hcs, hcopied₄⟩ := copyRoles_eq_ok hcopy
  obtain ⟨_, w₅, hwrite, h⟩ := Program.bind_eq_ok.mp h
  obtain ⟨rfl, rfl⟩ := Program.pure_eq_ok.mp h
  have hw₅ := writeNew_eq_ok hwrite
  have hkept := writeNew_keepsFiles.of_run hwrite
  refine ⟨staged, hs, cs, hnames, hw₅.content, hrecorded, ?_, ?_, ?_⟩
  · rw [hw₅.hashed, hhashed₄, hw₃.hashed, hhashed₂, hw₁.hashed]
  · exact hcs.imp fun _ _ hcopied => hcopied.kept hkept
  · rw [hw₅.copied, hcopied₄, hw₃.copied, hcopied₂, hw₁.copied]

-- Both lists follow the roles, so the digests are compared role by role.
theorem stagedDigests_iff_map_eq {releaseDir : String} {files : Files (List UInt8)} :
    ∀ {staged : List StagedRole} {hs cs : List (List UInt8)},
      List.Forall₂ (Recorded crates) staged hs →
      List.Forall₂ (CopiedTo releaseDir files) staged cs →
      ((∀ s ∈ staged, StagedDigest crates releaseDir files s.artifact) ↔
        cs.map (sha256Hex crates) = hs.map (sha256Hex crates)) := by
  intro staged
  induction staged with
  | nil =>
    rintro hs cs (_ | _) (_ | _)
    simp
  | cons s staged ih =>
    rintro hs cs (_ | ⟨hrecorded, hrecorded'⟩) (_ | ⟨hcopied, hcopied'⟩)
    rename_i bytes hs copy cs
    have hdigest : StagedDigest crates releaseDir files s.artifact ↔
        sha256Hex crates copy = sha256Hex crates bytes := by
      have hcontent : files.content (join releaseDir s.artifact.path) = some copy := hcopied.1
      have hsha : s.artifact.sha256 = sha256Hex crates bytes := hrecorded.1
      simp only [StagedDigest, hcontent, hsha, Option.some.injEq, exists_eq_left']
    rw [List.forall_mem_cons, hdigest, ih hrecorded' hcopied', List.map_cons, List.map_cons,
      List.cons.injEq]

theorem stagedLength_of_copied {releaseDir : String} {files : Files (List UInt8)}
    {staged : List StagedRole} {cs : List (List UInt8)}
    (h : List.Forall₂ (CopiedTo releaseDir files) staged cs) :
    ∀ s ∈ staged, StagedLength releaseDir files s.artifact := by
  induction h with
  | nil => exact fun _ hs => by cases hs
  | cons hcopied _ ih => exact List.forall_mem_cons.mpr ⟨⟨_, hcopied⟩, ih⟩

/-- A staging that succeeds has given every role a new file of the recorded length, and has
overwritten nothing. The recorded digests are those of the staged files exactly if every source
had the same digest in both passes. -/
theorem staged_digests_iff
    (h : assembleReleaseSet crates releaseId revisions profile configDigest roleSources w =
      (some (.ok report), w')) :
    ∃ (manifest : ReleaseManifest) (hs cs : List (List UInt8)),
      w'.files.content report.manifest = some manifest.toVecPretty ∧
      manifest.artifacts.map (fun artifact => (artifact.path, artifact.role)) = roles ∧
      (∀ artifact ∈ manifest.artifacts,
        StagedLength (join report.catalog releaseId) w'.files artifact) ∧
      w.files.Kept w'.files ∧
      w'.hashed = w.hashed ++ hs ∧ w'.copied = w.copied ++ cs ∧
      ((∀ artifact ∈ manifest.artifacts,
          StagedDigest crates (join report.catalog releaseId) w'.files artifact) ↔
        cs.map (sha256Hex crates) = hs.map (sha256Hex crates)) := by
  obtain ⟨staged, hs, cs, hnames, hmanifest, hrecorded, hhashed, hcopied, hcopied'⟩ :=
    assembleReleaseSet_eq_ok h
  refine ⟨_, hs, cs, hmanifest, ?_, ?_, assembleReleaseSet_keepsFiles.of_run h, hhashed,
    hcopied', ?_⟩
  · rw [← hnames]
    simp [stagedManifest, StagedRole.artifact]
  · exact List.forall_mem_map.mpr (stagedLength_of_copied hcopied)
  · rw [← stagedDigests_iff_map_eq hrecorded hcopied]
    exact List.forall_mem_map

end Assembly

/-! ### A source that changes between the passes -/

/-- The real digests of the bytes that are staged below; the default is that of the manifest. -/
def stageSha256 (bytes : ByteArray) : Vector UInt8 32 :=
  if bytes = ⟨#[1]⟩ then
    #v[75, 245, 18, 47, 52, 69, 84, 197, 59, 222, 46, 187, 140, 210, 183, 227, 209, 96, 10, 214,
      49, 195, 133, 165, 215, 204, 226, 60, 119, 133, 69, 154]
  else if bytes = ⟨#[2]⟩ then
    #v[219, 193, 180, 201, 0, 255, 228, 141, 87, 91, 93, 165, 198, 56, 4, 1, 37, 246, 93, 176,
      254, 62, 36, 73, 75, 118, 234, 152, 100, 87, 217, 134]
  else
    #v[145, 71, 211, 91, 99, 240, 119, 212, 189, 57, 157, 93, 84, 58, 186, 0, 237, 161, 128, 8,
      44, 131, 106, 240, 209, 254, 92, 28, 165, 160, 144, 184]

def stageCrates : Crates :=
  .constant stageSha256

def stageRevisions : List Revision :=
  requiredRepositories.map fun repository =>
    { repository, commit := "0123456789abcdef0123456789abcdef01234567" }

def stageDigest : String :=
  "0123456789abcdef0123456789abcdef0123456789abcdef0123456789abcdef"

def stageProfile : CompatibilityProfile where
  gameBuild := "build"
  runtimeProfileSha256 := stageDigest
  recoveryProfileSha256 := stageDigest
  providerAdapter := "adapter"
  providerAdapterSha256 := stageDigest
  stores := ["watchdog", "gateway", "harness"].map fun owner =>
    { owner, minimumSchema := 1, maximumSchema := 2 }

def stageSources : List (String × String) :=
  expectedRoles.map fun name => (name, "/sources/" ++ name)

/-- Every source has one byte, `1`, in the first pass; in the second the byte of the watchdog is
`copied`. -/
def stageWorld (copied : UInt8) : StageWorld where
  files :=
    { content := fun _ => none
      directory := fun path => path == "/catalog" }
  hashed := []
  copied := []
  answers :=
    [.canonical (some "/catalog"), .isDir true] ++
    (roles.flatMap fun _ =>
      [.metadata (some (true, 1)), .opened true, .read (some [1]), .read (some [])]) ++
    [.created (.ok ())] ++
    (roles.flatMap fun (name, _) =>
      [.opened true, .created (.ok ()),
        .read (some [if name = "watchdog" then copied else 1]), .wrote none, .flushed true]) ++
    [.created (.ok ()), .wrote none, .flushed true]

def stageRun (copied : UInt8) : Option (Except String StageSetReport) × StageWorld :=
  assembleReleaseSet stageCrates "r1" stageRevisions stageProfile stageDigest stageSources
    (stageWorld copied)

/-- Both runs succeed, and the second pass of one of them reads another byte. -/
theorem stageRun_evaluated :
    ((stageRun 1).1.bind Except.toOption).isSome = true ∧
      ((stageRun 2).1.bind Except.toOption).isSome = true ∧
      (stageRun 1).2.copied.map (sha256Hex stageCrates) =
        (stageRun 1).2.hashed.map (sha256Hex stageCrates) ∧
      (stageRun 2).2.copied.map (sha256Hex stageCrates) ≠
        (stageRun 2).2.hashed.map (sha256Hex stageCrates) := by
  decide +kernel

theorem stageRun_eq_ok {copied : UInt8}
    (h : ((stageRun copied).1.bind Except.toOption).isSome = true) :
    ∃ report, stageRun copied = (some (.ok report), (stageRun copied).2) := by
  generalize stageRun copied = run at h
  obtain ⟨_ | _ | report, w'⟩ := run
  · cases h
  · cases h
  · exact ⟨report, rfl⟩

/-- The watchdog's source has another byte in the second pass. The staging succeeds, and the
manifest records the digest of the byte that was there before. -/
theorem staged_digest_of_changed_source :
    ∃ (report : StageSetReport) (manifest : ReleaseManifest),
      stageRun 2 = (some (.ok report), (stageRun 2).2) ∧
      (stageRun 2).2.files.content report.manifest = some manifest.toVecPretty ∧
      ¬ ∀ artifact ∈ manifest.artifacts,
        StagedDigest stageCrates (join report.catalog "r1") (stageRun 2).2.files artifact := by
  obtain ⟨-, hsome, -, hne⟩ := stageRun_evaluated
  obtain ⟨report, hrun⟩ := stageRun_eq_ok hsome
  obtain ⟨staged, hs, cs, -, hmanifest, hrecorded, hhashed, hcopied, hcopied'⟩ :=
    assembleReleaseSet_eq_ok hrun
  rw [show (stageRun 2).2.hashed = hs from hhashed,
    show (stageRun 2).2.copied = cs from hcopied'] at hne
  refine ⟨report, _, hrun, hmanifest, fun hdigests => hne ?_⟩
  exact (stagedDigests_iff_map_eq hrecorded hcopied).mp (List.forall_mem_map.mp hdigests)

/-- Without a change the staged files have the recorded digests. -/
theorem staged_digests_iff_unchanged :
    ∃ (report : StageSetReport) (manifest : ReleaseManifest),
      stageRun 1 = (some (.ok report), (stageRun 1).2) ∧
      (stageRun 1).2.files.content report.manifest = some manifest.toVecPretty ∧
      ∀ artifact ∈ manifest.artifacts,
        StagedDigest stageCrates (join report.catalog "r1") (stageRun 1).2.files artifact := by
  obtain ⟨hsome, -, heq, -⟩ := stageRun_evaluated
  obtain ⟨report, hrun⟩ := stageRun_eq_ok hsome
  obtain ⟨manifest, hs, cs, hmanifest, -, -, -, hhashed, hcopied, hdigests⟩ :=
    staged_digests_iff hrun
  rw [show (stageRun 1).2.hashed = hs from hhashed,
    show (stageRun 1).2.copied = cs from hcopied] at heq
  exact ⟨report, manifest, hrun, hmanifest, hdigests.mpr heq⟩

end AscensionWatchdog.Staging
