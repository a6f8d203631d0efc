import AscensionWatchdog.Broker.Ledger
import AscensionWatchdog.Foundation.JsonLines

/-!
# The text of a ledger record

A record is written as an object with its fields in the order of their declaration; the bootstrap
binding, the queued job and the request to cancel are left out where there is none. The text
determines the record, so these texts are a codec for the journal (`jsonCodec`): the assumptions
on the serializer that the results about the ledger make can be met.
-/

namespace AscensionWatchdog.Broker

open Foundation Foundation.Json

def textsValue (texts : List String) : Value :=
  .array (Items.ofList (texts.map Value.string))

def requestValue (request : BrokerRequest) : Value :=
  Value.ofFields
    [("component", .string request.component.asStr), ("instance", .string request.instanceName),
      ("incarnation", .string request.incarnation), ("nonce", .string request.nonce)]

def identityValue (identity : LaunchIdentity) : Value :=
  Value.ofFields
    [("executable", .string identity.executable),
      ("executable_sha256", .string identity.executableSha256),
      ("arguments", textsValue identity.arguments),
      ("working_directory", .string identity.workingDirectory),
      ("environment", .array (Items.ofList
        (identity.environment.map fun binding => textsValue [binding.1, binding.2]))),
      ("target_uid", .ofNat identity.targetUid), ("target_gid", .ofNat identity.targetGid),
      ("capability_bounding_set", .ofNat identity.capabilityBoundingSet),
      ("ambient_capabilities", .ofNat identity.ambientCapabilities),
      ("no_new_privileges", .bool identity.noNewPrivileges),
      ("tasks_max", .ofNat identity.tasksMax),
      ("memory_max_bytes", .ofNat identity.memoryMaxBytes),
      ("timeout_nanos", .ofNat identity.timeoutNanos)]

def BootstrapKind.asStr : BootstrapKind → String
  | .gatewayHealth => "gateway_health"
  | .worker => "worker"

def bootstrapValue (binding : BrokerBootstrapBinding) : Value :=
  Value.ofFields
    [("version", .ofNat binding.version), ("kind", .string binding.kind.asStr),
      ("watchdog_boot_id", .string binding.watchdogBootId),
      ("frame_sha256", .string binding.frameSha256)]

def jobValue (job : JobBinding) : Value :=
  Value.ofFields
    [("unit", .string job.unit), ("job_id", .ofNat job.jobId), ("job_path", .string job.jobPath)]

def LedgerState.asStr : LedgerState → String
  | .pending => "pending"
  | .committed => "committed"
  | .stopPending => "stoppending"
  | .stopped => "stopped"

def receiptValue (receipt : LaunchReceipt) : Value :=
  Value.ofFields
    [("request", requestValue receipt.request), ("unit", .string receipt.unit),
      ("pid", .ofNat receipt.pid), ("creation_token", .string receipt.creationToken),
      ("executable", .string receipt.executable),
      ("executable_sha256", .string receipt.executableSha256), ("uid", .ofNat receipt.uid),
      ("gid", .ofNat receipt.gid),
      ("capability_bounding_set", .ofNat receipt.capabilityBoundingSet),
      ("ambient_capabilities", .ofNat receipt.ambientCapabilities),
      ("control_group", .string receipt.controlGroup), ("duplicate", .bool receipt.duplicate)]

/-- The fields of a record, with no value for those that are left out. -/
def recordFields (record : LedgerRecord) : List (String × Option Value) :=
  [("request", some (requestValue record.request)), ("unit", some (.string record.unit)),
    ("identity", some (identityValue record.identity)),
    ("bootstrap", record.bootstrap.map bootstrapValue), ("job", record.job.map jobValue),
    ("cancel_requested", record.cancelRequested.map .bool),
    ("state", some (.string record.state.asStr)),
    ("receipt", some ((record.receipt.map receiptValue).getD .null))]

/-! ### The text determines the record -/

theorem BrokerComponent.asStr_injective : Function.Injective BrokerComponent.asStr := by
  intro a b h
  revert h
  cases a <;> cases b <;> decide

theorem BootstrapKind.asStr_injective : Function.Injective BootstrapKind.asStr := by
  intro a b h
  revert h
  cases a <;> cases b <;> decide

theorem LedgerState.asStr_injective : Function.Injective LedgerState.asStr := by
  intro a b h
  revert h
  cases a <;> cases b <;> decide

theorem ofNat_injective : Function.Injective Value.ofNat := by
  intro m n h
  exact toString_injective (Value.number.inj h)

theorem textsValue_injective : Function.Injective textsValue := by
  intro texts texts' h
  have hitems := Items.ofList_injective (Value.array.inj h)
  exact List.map_injective_iff.mpr (fun _ _ => Value.string.inj) hitems

theorem requestValue_injective : Function.Injective requestValue := by
  intro request request' h
  simp only [requestValue, Value.ofFields, Fields.ofList, Value.object.injEq, Fields.cons.injEq,
    Value.string.injEq, true_and, and_true] at h
  obtain ⟨hcomponent, hinstance, hincarnation, hnonce⟩ := h
  have hcomponent := BrokerComponent.asStr_injective hcomponent
  cases request
  cases request'
  simp_all

theorem bindingValue_injective :
    Function.Injective fun binding : String × String => textsValue [binding.1, binding.2] := by
  intro binding binding' h
  have htexts := textsValue_injective h
  simp only [List.cons.injEq, and_true] at htexts
  exact Prod.ext htexts.1 htexts.2

theorem identityValue_injective : Function.Injective identityValue := by
  intro identity identity' h
  simp only [identityValue, Value.ofFields, Fields.ofList, Value.object.injEq, Fields.cons.injEq,
    Value.string.injEq, Value.bool.injEq, Value.array.injEq, true_and, and_true,
    ofNat_injective.eq_iff, textsValue_injective.eq_iff] at h
  obtain ⟨hexe, hsha, harguments, hdirectory, henvironment, hrest⟩ := h
  have henvironment := List.map_injective_iff.mpr bindingValue_injective
    (Items.ofList_injective henvironment)
  cases identity
  cases identity'
  simp_all

theorem bootstrapValue_injective : Function.Injective bootstrapValue := by
  intro binding binding' h
  simp only [bootstrapValue, Value.ofFields, Fields.ofList, Value.object.injEq, Fields.cons.injEq,
    Value.string.injEq, true_and, and_true, ofNat_injective.eq_iff,
    BootstrapKind.asStr_injective.eq_iff] at h
  cases binding
  cases binding'
  simp_all

theorem jobValue_injective : Function.Injective jobValue := by
  intro job job' h
  simp only [jobValue, Value.ofFields, Fields.ofList, Value.object.injEq, Fields.cons.injEq,
    Value.string.injEq, true_and, and_true, ofNat_injective.eq_iff] at h
  cases job
  cases job'
  simp_all

theorem receiptValue_injective : Function.Injective receiptValue := by
  intro receipt receipt' h
  simp only [receiptValue, Value.ofFields, Fields.ofList, Value.object.injEq, Fields.cons.injEq,
    Value.string.injEq, Value.bool.injEq, true_and, and_true, ofNat_injective.eq_iff,
    requestValue_injective.eq_iff] at h
  cases receipt
  cases receipt'
  simp_all

theorem optionalReceipt_injective {receipt receipt' : Option LaunchReceipt}
    (h : (receipt.map receiptValue).getD .null = (receipt'.map receiptValue).getD .null) :
    receipt = receipt' := by
  cases receipt with
  | none =>
    cases receipt' with
    | none => rfl
    | some receipt' => cases h
  | some receipt =>
    cases receipt' with
    | none => cases h
    | some receipt' => exact congrArg some (receiptValue_injective h)

theorem recordFields_injective : Function.Injective recordFields := by
  intro record record' h
  simp only [recordFields, List.cons.injEq, Prod.mk.injEq, true_and, and_true, Option.some.injEq,
    Value.string.injEq, requestValue_injective.eq_iff, identityValue_injective.eq_iff,
    LedgerState.asStr_injective.eq_iff] at h
  obtain ⟨hrequest, hunit, hidentity, hbootstrap, hjob, hcancel, hstate, hreceipt⟩ := h
  have hbootstrap := Option.map_injective bootstrapValue_injective hbootstrap
  have hjob := Option.map_injective jobValue_injective hjob
  have hcancel := Option.map_injective (fun _ _ => Value.bool.inj) hcancel
  have hreceipt := optionalReceipt_injective hreceipt
  cases record
  cases record'
  simp_all

/-! ### The codec -/

theorem lexical_textsValue (texts : List String) : (textsValue texts).lexical = true := by
  refine Items.lexical_ofList fun v hv => ?_
  obtain ⟨text, -, rfl⟩ := List.mem_map.mp hv
  rfl

theorem lexical_requestValue (request : BrokerRequest) : (requestValue request).lexical = true :=
  rfl

theorem lexical_identityValue (identity : LaunchIdentity) :
    (identityValue identity).lexical = true := by
  have henvironment : (Items.ofList (identity.environment.map
      fun binding => textsValue [binding.1, binding.2])).lexical = true := by
    refine Items.lexical_ofList fun v hv => ?_
    obtain ⟨binding, -, rfl⟩ := List.mem_map.mp hv
    exact lexical_textsValue _
  simp [identityValue, Value.ofFields, Fields.ofList, Value.lexical, Fields.lexical,
    Value.lexical_ofNat, lexical_textsValue, henvironment]

theorem lexical_receiptValue (receipt : LaunchReceipt) : (receiptValue receipt).lexical = true := by
  simp [receiptValue, Value.ofFields, Fields.ofList, Value.lexical, Fields.lexical,
    Value.lexical_ofNat, lexical_requestValue]

theorem lexical_recordFields (record : LedgerRecord) :
    (Fields.present (recordFields record)).lexical = true := by
  refine Fields.lexical_present ?_
  simp only [recordFields, List.forall_mem_cons, List.not_mem_nil, false_implies, implies_true,
    and_true, Option.mem_def, Option.some.injEq, forall_eq', Option.map_eq_some_iff,
    forall_exists_index, and_imp, forall_apply_eq_imp_iff₂]
  refine ⟨lexical_requestValue _, rfl, lexical_identityValue _, ?_, ?_, ?_, rfl, ?_⟩
  · intro binding _
    simp [bootstrapValue, Value.ofFields, Fields.ofList, Value.lexical, Fields.lexical,
      Value.lexical_ofNat]
  · intro job _
    simp [jobValue, Value.ofFields, Fields.ofList, Value.lexical, Fields.lexical,
      Value.lexical_ofNat]
  · intro requested _
    rfl
  · cases record.receipt with
    | none => rfl
    | some receipt => exact lexical_receiptValue receipt

theorem present_recordFields_injective :
    Function.Injective fun record => Fields.present (recordFields record) := by
  intro record record' h
  have hkeys : ∀ record : LedgerRecord, (recordFields record).map Prod.fst =
      ["request", "unit", "identity", "bootstrap", "job", "cancel_requested", "state",
        "receipt"] := fun _ => rfl
  refine recordFields_injective (Fields.present_injective ?_ ?_ h)
  · rw [hkeys, hkeys]
  · rw [hkeys]
    decide

/-- The records as the serializer writes them. -/
noncomputable def jsonCodec : RecordCodec :=
  objectCodec (.invalid "broker ledger record is invalid")
    (fun record => Fields.present (recordFields record)) lexical_recordFields
    present_recordFields_injective

theorem length_encode_le (record : LedgerRecord) :
    (jsonCodec.encode record).length ≤
      (Value.object (Fields.present (recordFields record))).maxBytes :=
  Value.length_bytes_le _

end AscensionWatchdog.Broker
