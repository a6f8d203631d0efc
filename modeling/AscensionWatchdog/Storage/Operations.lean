import AscensionWatchdog.Foundation.Runs
import AscensionWatchdog.Storage.Backup

/-!
# Runs of the store

`Op` has one constructor for every operation of the store that can write, with the arguments of
the call, the time it is given and the identities it generates. `perform` is the state that the
call leaves, whatever it answers: a call that fails leaves the state as it was, and a call whose
answer cannot be read back has already committed.

A **run** is any list of operations, in any order, with any arguments and any times. Generated
identities are arguments too: a run in which an identity collides with a stored one is a run in
which that call fails.
-/

namespace AscensionWatchdog

open Foundation Foundation.Json

/-- A call of an operation of the store. -/
inductive Op where
  | submitJobAt (kind : String) (payload : Value) (nowMs : Nat) (id : UuidV4)
  | claimNextJob (workerId : String) (nowMs : Nat) (attemptId : UuidV4)
  | completeJobAt (jobId attemptId : String) (result : Value) (nowMs : Nat)
  | failJobAt (jobId attemptId error : String) (retryAtMs : Option Nat) (nowMs : Nat)
  | quarantineInterruptedJobs (nowMs : Nat)
  | configureWorkerBindingAt (binding : WorkerBinding) (nowMs : Nat)
  | setWorkerControlAt (control : WorkerControlWitness) (nowMs : Nat)
  | claimNextWorkerHandoff (witness : WorkerClaimWitness) (nowMs : Nat) (ids : HandoffIds)
  | markWorkerHandoffMayHaveBeenDispatchedAt (tuple : WorkerHandoffTuple) (nowMs : Nat)
  | markWorkerHandoffAdmittedAt (tuple : WorkerHandoffTuple) (nowMs : Nat)
  | completeWorkerHandoffWithAuthorityAt (tuple : WorkerHandoffTuple)
      (receipt : WorkerTerminalReceipt) (authority : TerminalAuthority) (nowMs : Nat)
  | acknowledgeWorkerHandoffWithAuthorityAt (tuple : WorkerHandoffTuple)
      (terminalDigest : String) (authority : TerminalAuthority) (nowMs : Nat)
  | admitOperatorCommand (context : OperatorCommandContext) (command : OperatorCommand)
      (response : Value) (nowMs : Nat)
  | admitOperatorJobSubmission (context : OperatorCommandContext) (kind : String)
      (payload : Value) (nowMs : Nat) (jobId : UuidV4)
  | admitOperatorQuarantine (context : OperatorCommandContext) (attemptId reason : String)
      (response : Value) (nowMs : Nat)
  | admitOperatorRetry (context : OperatorCommandContext) (attemptId : String)
      (reconstruction : Bool) (response : Value) (nowMs : Nat)
  | completeOperatorBackup (receipt : OperatorCommandReceipt) (response : Value)
      (backupId : String) (nowMs : Nat)
  | prepareReleaseActivation (requestId idempotencyKey releaseId releaseDigest : String)
      (rollback : Bool) (nowMs : Nat)
  | completeReleaseActivation (context : OperatorCommandContext)
      (releaseId releaseDigest : String) (rollback : Bool) (response : Value) (nowMs : Nat)
  | setDesiredModeAt (mode : DesiredMode) (nowMs : Nat)
  | establishNewGeneration (nowMs : Nat)
  | auditEvent (action detail : String) (nowMs : Nat)
  | recordReconciliationProgress (nowMs : Nat)
  | prepareLaunchIntent
      (componentId launchNonce expectedIncarnation expectedLaunchSpecDigest : String)
      (plannedContainmentId : Option String) (nowMs : Nat) (id : UuidV4)
  | recordLaunchProof (intentId : String) (ownershipProof : Value) (nowMs : Nat)
  | activateLaunchIntent (intentId : String) (nowMs : Nat)
  | cleanLaunchIntent (intentId : String) (nowMs : Nat)
  | bindWorkerBootstrap (intentId : String) (watchdogBootId launchNonce : UuidV4)
      (componentId frameSha256 : String) (nowMs : Nat)
  | bindGatewayHealth (intentId : String) (watchdogBootId launchNonce : UuidV4)
      (frameSha256 : String) (nowMs : Nat)
  | upsertComponent (record : ComponentRecord) (nowMs : Nat)
  | persistComponentIdentity (componentId : String) (identity : ProcessIdentity) (nowMs : Nat)
  | clearComponentIdentity (componentId : String) (nowMs : Nat)
  | recordRestartWithElapsed (componentId : String) (nowMs elapsedMs windowMs : Nat)
  | restore (config : RestoreConfig) (nowMs : Nat) (epoch : UuidV4)

/-- The time that a call is given. -/
def Op.nowMs : Op → Nat
  | .submitJobAt _ _ now _ | .claimNextJob _ now _ | .completeJobAt _ _ _ now
  | .failJobAt _ _ _ _ now | .quarantineInterruptedJobs now | .configureWorkerBindingAt _ now
  | .setWorkerControlAt _ now | .claimNextWorkerHandoff _ now _
  | .markWorkerHandoffMayHaveBeenDispatchedAt _ now | .markWorkerHandoffAdmittedAt _ now
  | .completeWorkerHandoffWithAuthorityAt _ _ _ now
  | .acknowledgeWorkerHandoffWithAuthorityAt _ _ _ now | .admitOperatorCommand _ _ _ now
  | .admitOperatorJobSubmission _ _ _ now _ | .admitOperatorQuarantine _ _ _ _ now
  | .admitOperatorRetry _ _ _ _ now | .completeOperatorBackup _ _ _ now
  | .prepareReleaseActivation _ _ _ _ _ now | .completeReleaseActivation _ _ _ _ _ now
  | .setDesiredModeAt _ now | .establishNewGeneration now | .auditEvent _ _ now
  | .recordReconciliationProgress now | .prepareLaunchIntent _ _ _ _ _ now _
  | .recordLaunchProof _ _ now | .activateLaunchIntent _ now | .cleanLaunchIntent _ now
  | .bindWorkerBootstrap _ _ _ _ _ now | .bindGatewayHealth _ _ _ _ now
  | .upsertComponent _ now | .persistComponentIdentity _ _ now | .clearComponentIdentity _ now
  | .recordRestartWithElapsed _ now _ _ | .restore _ now _ => now

/-- The state that a call leaves. -/
def perform (crates : Crates) (op : Op) (s : Store) : Store :=
  match op with
  | .submitJobAt kind payload now id => (s.submitJobAt crates kind payload now id).2
  | .claimNextJob workerId now attemptId => (s.claimNextJob crates workerId now attemptId).2
  | .completeJobAt jobId attemptId result now =>
    (s.completeJobAt crates jobId attemptId result now).2
  | .failJobAt jobId attemptId error retryAt now =>
    (s.failJobAt jobId attemptId error retryAt now).2
  | .quarantineInterruptedJobs now => (s.quarantineInterruptedJobs now).2
  | .configureWorkerBindingAt binding now => (s.configureWorkerBindingAt binding now).2
  | .setWorkerControlAt control now => (s.setWorkerControlAt control now).2
  | .claimNextWorkerHandoff witness now ids =>
    (s.claimNextWorkerHandoff crates witness now ids).2
  | .markWorkerHandoffMayHaveBeenDispatchedAt tuple now =>
    (s.markWorkerHandoffMayHaveBeenDispatchedAt crates tuple now).2
  | .markWorkerHandoffAdmittedAt tuple now =>
    (s.markWorkerHandoffAdmittedAt crates tuple now).2
  | .completeWorkerHandoffWithAuthorityAt tuple receipt authority now =>
    (s.completeWorkerHandoffWithAuthorityAt crates tuple receipt authority now).2
  | .acknowledgeWorkerHandoffWithAuthorityAt tuple digest authority now =>
    (s.acknowledgeWorkerHandoffWithAuthorityAt crates tuple digest authority now).2
  | .admitOperatorCommand context command response now =>
    (s.admitOperatorCommand crates context command response now).2
  | .admitOperatorJobSubmission context kind payload now jobId =>
    (s.admitOperatorJobSubmission crates context kind payload now jobId).2
  | .admitOperatorQuarantine context attemptId reason response now =>
    (s.admitOperatorQuarantine crates context attemptId reason response now).2
  | .admitOperatorRetry context attemptId reconstruction response now =>
    (s.admitOperatorRetry crates context attemptId reconstruction response now).2
  | .completeOperatorBackup receipt response backupId now =>
    (s.completeOperatorBackup crates receipt response backupId now).2
  | .prepareReleaseActivation requestId key releaseId digest rollback now =>
    (s.prepareReleaseActivation crates requestId key releaseId digest rollback now).2
  | .completeReleaseActivation context releaseId digest rollback response now =>
    (s.completeReleaseActivation crates context releaseId digest rollback response now).2
  | .setDesiredModeAt mode now => (s.setDesiredModeAt mode now).2
  | .establishNewGeneration now => (s.establishNewGeneration now).2
  | .auditEvent action detail now => (s.auditEvent action detail now).2
  | .recordReconciliationProgress now => (s.recordReconciliationProgress now).2
  | .prepareLaunchIntent component nonce incarnation digest containment now id =>
    (s.prepareLaunchIntent crates component nonce incarnation digest containment now id).2
  | .recordLaunchProof intentId proof now => (s.recordLaunchProof crates intentId proof now).2
  | .activateLaunchIntent intentId now => (s.activateLaunchIntent crates intentId now).2
  | .cleanLaunchIntent intentId now => (s.cleanLaunchIntent crates intentId now).2
  | .bindWorkerBootstrap intentId boot nonce component frame now =>
    (s.bindWorkerBootstrap intentId boot nonce component frame now).2
  | .bindGatewayHealth intentId boot nonce frame now =>
    (s.bindGatewayHealth intentId boot nonce frame now).2
  | .upsertComponent record now => (s.upsertComponent record now).2
  | .persistComponentIdentity component identity now =>
    (s.persistComponentIdentity component identity now).2
  | .clearComponentIdentity component now => (s.clearComponentIdentity component now).2
  | .recordRestartWithElapsed component now elapsed window =>
    (s.recordRestartWithElapsed component now elapsed window).2
  | .restore config now epoch => (s.restore config now epoch).2

/-- The state after a run of calls. -/
def Store.after (crates : Crates) (s : Store) (ops : List Op) : Store :=
  run (perform crates) s ops

/-! ### A sample deployment

One deployment with one worker and one episode, for the closed instances of the theorems about
runs. `sampleCrates` agrees with the real functions on every text of this deployment. -/

instance sixteen_neZero : NeZero 16 :=
  ⟨by decide⟩

def sampleUuid (n : Fin 16) : UuidV4 where
  text := "00000000-0000-4000-8000-00000000000" ++ String.singleton (hexDigitChar n)
  canonical := by revert n; decide +kernel

def sampleConfig : StoreConfig where
  deploymentId := "deployment"
  desiredMode := .running
  maxJobs := 16
  maxPayloadBytes := 4096
  digest := workerHandoffPayloadDigest
  compatibilityDigest := workerHandoffPayloadDigest
  deploymentId_valid := by decide +kernel
  maxJobs_pos := by decide
  maxPayloadBytes_pos := by decide
  digest_valid := by decide +kernel
  compatibilityDigest_valid := by decide +kernel

/-- The fresh store of the deployment. -/
def sampleStore : Store :=
  match Store.initialize sampleConfig 1 (sampleUuid 0) with
  | .ok s => s
  | .error _ => ⟨0, 0, "", fun _ => none, [], [], [], none, none, [], [], [], [], [], [], []⟩

theorem sampleStore_init : Store.initialize sampleConfig 1 (sampleUuid 0) = .ok sampleStore := by
  rfl

def sampleBinding : WorkerBinding where
  deploymentId := "deployment"
  workerOwnerId := "worker"
  workerProfileDigest := workerHandoffPayloadDigest
  releaseDigest := workerHandoffPayloadDigest
  configDigest := workerHandoffPayloadDigest
  schemaDigest := workerHandoffSchemaDigest

def sampleControl : WorkerControlWitness where
  deploymentId := "deployment"
  workerOwnerId := "worker"
  workerProfileDigest := workerHandoffPayloadDigest
  watchdogBootId := (sampleUuid 3).text
  workerBootId := (sampleUuid 4).text
  mode := .running
  modeSequence := 1

def sampleWitness : WorkerClaimWitness where
  deploymentId := "deployment"
  workerOwnerId := "worker"
  workerProfileDigest := workerHandoffPayloadDigest
  releaseDigest := workerHandoffPayloadDigest
  configDigest := workerHandoffPayloadDigest
  schemaDigest := workerHandoffSchemaDigest
  watchdogBootId := (sampleUuid 3).text
  workerBootId := (sampleUuid 4).text
  modeSequence := 1

def sampleIds : HandoffIds where
  handoffId := sampleUuid 5
  attemptId := sampleUuid 6
  runId := sampleUuid 7
  episodeId := sampleUuid 8
  trajectoryId := sampleUuid 9
  distinct := by decide +kernel

def sampleTuple : WorkerHandoffTuple where
  handoffId := (sampleUuid 5).text
  deploymentId := "deployment"
  jobId := (sampleUuid 1).text
  attemptId := (sampleUuid 6).text
  attemptNumber := 1
  workerOwnerId := "worker"
  workerProfileDigest := workerHandoffPayloadDigest
  runId := (sampleUuid 7).text
  episodeId := (sampleUuid 8).text
  trajectoryId := (sampleUuid 9).text
  payloadDigest := workerHandoffPayloadDigest

def sampleReceipt (status : WorkerTerminalStatus) : WorkerTerminalReceipt where
  status := status
  checkpointSequence := 1
  terminalRef := "terminal"
  resultDigest := workerHandoffPayloadDigest

/-- SHA-256 on the texts that the deployment hashes. -/
def sampleSha256 (bytes : ByteArray) : Vector UInt8 32 :=
  if bytes = emptyParameters.render.toUTF8 then
    #v[68, 19, 111, 163, 85, 179, 103, 138, 17, 70, 173, 22, 247, 232, 100, 158, 148, 251, 79, 194,
      31, 231, 126, 131, 16, 192, 96, 246, 28, 170, 255, 138]
  else if bytes = (terminalMaterial sampleTuple (sampleReceipt .failed)).render.toUTF8 then
    #v[33, 193, 76, 22, 94, 132, 38, 239, 108, 219, 171, 70, 191, 180, 21, 169, 178, 152, 58, 179,
      62, 97, 253, 23, 55, 170, 94, 50, 68, 121, 249, 129]
  else if bytes = (compactTerminalValue (sampleReceipt .failed)).render.toUTF8 then
    #v[162, 132, 203, 8, 178, 244, 141, 124, 110, 96, 227, 165, 15, 198, 230, 127, 200, 157, 36, 87,
      75, 138, 20, 74, 71, 33, 199, 87, 154, 189, 44, 231]
  else if bytes = (terminalMaterial sampleTuple (sampleReceipt .completed)).render.toUTF8 then
    #v[49, 80, 14, 185, 24, 125, 138, 175, 110, 129, 37, 148, 54, 223, 142, 154, 144, 197, 109,
      171, 59, 204, 243, 65, 142, 136, 105, 7, 96, 66, 118, 253]
  else if bytes = (compactTerminalValue (sampleReceipt .completed)).render.toUTF8 then
    #v[230, 65, 77, 66, 244, 22, 188, 27, 208, 57, 191, 169, 115, 53, 136, 69, 102, 224, 234, 84,
      49, 0, 230, 112, 134, 84, 44, 185, 127, 55, 74, 11]
  else Vector.replicate 32 0

/-- The values whose texts the deployment stores. -/
def sampleValues : List Value :=
  [emptyParameters, compactTerminalValue (sampleReceipt .failed),
    compactTerminalValue (sampleReceipt .completed), jobSubmittedResponse (sampleUuid 1).text]

def sampleCrates : Crates where
  sha256 := sampleSha256
  fromStr text := some ((sampleValues.find? (·.render == text)).getD .null)
  fromStr_empty := by decide +kernel
  fromStr_render _ _ _ := rfl

/-- The life of a job without a worker: submitted, claimed and completed. -/
def sampleJob : List Op :=
  [.submitJobAt "job" emptyParameters 1 (sampleUuid 1), .claimNextJob "worker" 2 (sampleUuid 2),
    .completeJobAt (sampleUuid 1).text (sampleUuid 2).text emptyParameters 3]

/-- Up to the claim of the episode: its handoff is prepared. -/
def sampleClaim : List Op :=
  [.configureWorkerBindingAt sampleBinding 1, .setWorkerControlAt sampleControl 1,
    .submitJobAt workerHandoffOperation emptyParameters 1 (sampleUuid 1),
    .claimNextWorkerHandoff sampleWitness 2 sampleIds]

/-- Up to the end of the episode, which the worker reports with `status`. -/
def sampleEpisode (status : WorkerTerminalStatus) : List Op :=
  sampleClaim ++
    [.markWorkerHandoffMayHaveBeenDispatchedAt sampleTuple 3,
      .completeWorkerHandoffWithAuthorityAt sampleTuple (sampleReceipt status)
        .originalIncarnation 4]

def sampleRestoreConfig : RestoreConfig where
  config := { sampleConfig with
    deploymentId := "restored"
    deploymentId_valid := by decide +kernel }
  effective := { sampleConfig with
    deploymentId := "restored"
    deploymentId_valid := by decide +kernel
    desiredMode := .stopped }
  deploymentId_eq := rfl
  desiredMode_eq := rfl
  maxJobs_eq := rfl
  maxPayloadBytes_eq := rfl

def sampleContext : OperatorCommandContext where
  requestId := (sampleUuid 10).text
  idempotencyKey := "key"
  principal := "operator"
  capability := .admin
  commandFingerprint := workerHandoffPayloadDigest

end AscensionWatchdog
