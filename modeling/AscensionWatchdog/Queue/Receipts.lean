import AscensionWatchdog.Foundation.JsonText
import AscensionWatchdog.Queue.Handoffs

/-!
# The protocol of a handoff and its terminal receipt

A handoff moves `prepared → mayHaveBeenDispatched → (admitted) → completed | failed →
acknowledged` and in no other way. `WorkerHandoffState.next` is that protocol on states alone;
`HandoffRow.Step.next` says that the rows follow it, and `Conforms` collects what one operation
of the store may do to one handoff:

* the columns that identify it and the boots and mode sequence captured by the claim stay;
* the dispatch marker is written under the control that the claim captured, in mode `running`;
* the receipt of a terminal handoff stays.

A repeated completion or acknowledgment of a terminal handoff is answered from the row. Its
digest binds the tuple and the receipt, because compact text is unambiguous
(`terminalMaterial_injective`), so a repeated completion that is accepted brings the stored
receipt, unless the two texts collide under SHA-256.
-/

namespace AscensionWatchdog

open Foundation Foundation.Json

variable {crates : Crates}

/-! ### What the terminal digest binds -/

/-- The two texts do not collide. -/
def CollisionFree (crates : Crates) (text text' : String) : Prop :=
  crates.sha256 text.toUTF8 = crates.sha256 text'.toUTF8 → text = text'

/-- Equal digests in hexadecimal are equal digests. -/
theorem sha256_eq_of_hexDigest_eq {text text' : String}
    (h : hexDigest crates text = hexDigest crates text') :
    crates.sha256 text.toUTF8 = crates.sha256 text'.toUTF8 := by
  have hchars := String.ofList_injective h
  exact Vector.toList_inj.mp (flatMap_byteHex_injective hchars)

theorem WorkerTerminalStatus.asStr_injective {status status' : WorkerTerminalStatus}
    (h : status.asStr = status'.asStr) : status = status' := by
  revert h
  cases status <;> cases status' <;> decide

private theorem terminalMaterial_lexical (tuple : WorkerHandoffTuple)
    (receipt : WorkerTerminalReceipt) : (terminalMaterial tuple receipt).lexical = true := by
  simp [terminalMaterial, Value.ofFields, Fields.ofList, Value.lexical, Fields.lexical,
    Value.lexical_ofNat]

/-- The text under the terminal digest determines the tuple and the receipt. -/
theorem terminalMaterial_injective {tuple tuple' : WorkerHandoffTuple}
    {receipt receipt' : WorkerTerminalReceipt}
    (h : (terminalMaterial tuple receipt).render = (terminalMaterial tuple' receipt').render) :
    tuple = tuple' ∧ receipt = receipt' := by
  have hvalue := Value.render_injective (terminalMaterial_lexical tuple receipt)
    (terminalMaterial_lexical tuple' receipt') h
  simp only [terminalMaterial, Value.ofFields, Fields.ofList, Value.ofNat, Value.object.injEq,
    Fields.cons.injEq, Value.string.injEq, Value.number.injEq, true_and, and_true] at hvalue
  obtain ⟨h₁, h₂, h₃, h₄, h₅, h₆, h₇, h₈, h₉, h₁₀, h₁₁, hstatus, hcheckpoint, href, hresult⟩ :=
    hvalue
  cases tuple
  cases tuple'
  cases receipt
  cases receipt'
  have hattempt := toString_injective h₅
  have hsequence := toString_injective hcheckpoint
  have hstatus := WorkerTerminalStatus.asStr_injective hstatus
  simp_all

/-- Equal terminal digests come from the same tuple and receipt, unless their texts collide. -/
theorem terminalDigest_injective {tuple : WorkerHandoffTuple}
    {receipt receipt' : WorkerTerminalReceipt}
    (hfree : CollisionFree crates (terminalMaterial tuple receipt).render
      (terminalMaterial tuple receipt').render)
    (h : terminalDigest crates tuple receipt = terminalDigest crates tuple receipt') :
    receipt = receipt' :=
  (terminalMaterial_injective (hfree (sha256_eq_of_hexDigest_eq h))).2

/-! ### The stored receipt -/

/-- The receipt columns of a handoff, when all of them are present. -/
def HandoffRow.receipt? (h : HandoffRow) : Option WorkerTerminalReceipt :=
  match h.terminalStatus, h.checkpointSequence, h.terminalRef, h.resultDigest with
  | some status, some checkpointSequence, some terminalRef, some resultDigest =>
    some { status, checkpointSequence, terminalRef, resultDigest }
  | _, _, _, _ => none

/-- A bounded column that passed a check which its overflow marker fails. -/
private theorem projectText_eq_some {bound : Nat} {marker : Char} {value : Option String}
    {text : String} (h : projectText bound marker value = some text)
    (hmarker : text ≠ String.ofList [marker]) : value = some text := by
  cases value with
  | none => cases h
  | some stored =>
    rw [projectText, Option.map_some, Option.some.injEq] at h
    split at h
    · rw [h]
    · exact absurd h.symm hmarker

/-- The record that the reader decodes is the one in the columns. -/
theorem terminalFromRow_eq_some {h : HandoffRow} {record : WorkerTerminalRecord}
    (hrecord : terminalFromRow h = .ok (some record)) :
    h.receipt? = some record.receipt ∧ h.terminalDigest = some record.terminalDigest := by
  unfold terminalFromRow at hrecord
  split at hrecord
  · cases pure_eq_ok.mp hrecord
  · rename_i status ref result digest checkpoint hstatus href hresult hdigest hcheckpoint
    obtain ⟨-, -, hrecord⟩ := bind_eq_ok.mp hrecord
    obtain ⟨⟨⟩, hname, hrecord⟩ := bind_eq_ok.mp hrecord
    obtain ⟨⟨⟩, hresultDigest, hrecord⟩ := bind_eq_ok.mp hrecord
    obtain ⟨⟨⟩, hterminalDigest, hrecord⟩ := bind_eq_ok.mp hrecord
    cases pure_eq_ok.mp hrecord
    have hname := validateName_eq_ok.mp (toSqliteError_eq_ok.mp hname)
    have hresultDigest := validateDigestValue_eq_ok.mp (toSqliteError_eq_ok.mp hresultDigest)
    have hterminalDigest := validateDigestValue_eq_ok.mp (toSqliteError_eq_ok.mp hterminalDigest)
    -- the overflow marker is neither a name nor a digest
    have href := projectText_eq_some href (fun heq => by rw [heq] at hname; cases hname)
    have hresult := projectText_eq_some hresult
      (fun heq => by rw [heq] at hresultDigest; cases hresultDigest)
    have hdigest := projectText_eq_some hdigest
      (fun heq => by rw [heq] at hterminalDigest; cases hterminalDigest)
    refine ⟨?_, hdigest⟩
    simp only [HandoffRow.receipt?, hstatus, hcheckpoint, href, hresult]
    rfl
  · cases hrecord

/-- What the reader has checked about the receipt of a row with one. -/
theorem rawHandoffFromRow_terminal {h : HandoffRow} {raw : RawHandoff}
    {record : WorkerTerminalRecord} (hraw : rawHandoffFromRow crates h = .ok raw)
    (hrecord : raw.terminal = some record) :
    h.receipt? = some record.receipt ∧ h.terminalDigest = some record.terminalDigest ∧
      record.terminalDigest = terminalDigest crates h.tuple record.receipt := by
  obtain ⟨terminal, hreadable, rfl⟩ := rawHandoffFromRow_eq_ok.mp hraw
  obtain rfl : terminal = some record := hrecord
  obtain ⟨hreceipt, hdigest⟩ := terminalFromRow_eq_some hreadable.receipt
  exact ⟨hreceipt, hdigest, (ensure_bind_eq_ok.mp (hreadable.evidence record rfl)).1⟩

/-! ### The protocol -/

/-- The transitions of the handoff protocol. -/
def WorkerHandoffState.next : WorkerHandoffState → WorkerHandoffState → Bool
  | .prepared, .mayHaveBeenDispatched => true
  | .mayHaveBeenDispatched, .admitted => true
  | .mayHaveBeenDispatched, .completed => true
  | .mayHaveBeenDispatched, .failed => true
  | .admitted, .completed => true
  | .admitted, .failed => true
  | .completed, .acknowledged => true
  | .failed, .acknowledged => true
  | _, _ => false

/-- The current control is the one that the claim of the handoff captured, in mode `running`, and
the deployment is running. -/
def Store.AuthorizesDispatch (s : Store) (h : HandoffRow) : Prop :=
  s.desiredMode = .ok .running ∧ ∃ control updatedAt, s.workerControl = some (control, updatedAt) ∧
    control.mode = .running ∧ control.watchdogBootId = h.watchdogBootId ∧
    control.workerBootId = h.workerBootId ∧ control.modeSequence = h.modeSequence

/-- What one operation that leads from `s` to another state may do to a handoff. -/
structure HandoffRow.Conforms (s : Store) (h h' : HandoffRow) : Prop where
  tuple : h'.tuple = h.tuple
  captured : h'.watchdogBootId = h.watchdogBootId ∧ h'.workerBootId = h.workerBootId ∧
    h'.modeSequence = h.modeSequence
  state : h'.state = h.state ∨ h.state.next h'.state = true
  dispatch : h.state = .prepared → h'.state ≠ .prepared → s.AuthorizesDispatch h
  receipt : h.state.isTerminal = true → h'.receipt? = h.receipt? ∧
    h'.terminalDigest = h.terminalDigest

section Protocol

variable {s s' : Store} {h h' : HandoffRow}

theorem HandoffRow.Step.captured (hstep : HandoffRow.Step crates h h') :
    h'.watchdogBootId = h.watchdogBootId ∧ h'.workerBootId = h.workerBootId ∧
      h'.modeSequence = h.modeSequence := by
  cases hstep <;> exact ⟨rfl, rfl, rfl⟩

/-- Rows follow the protocol. -/
theorem HandoffRow.Step.next (hstep : HandoffRow.Step crates h h') :
    h'.state = h.state ∨ h.state.next h'.state = true := by
  cases hstep with
  | same => exact .inl rfl
  | dispatch now hstate => exact .inr (by rw [hstate]; rfl)
  | admission now hstate => exact .inr (by rw [hstate]; rfl)
  | terminate receipt now result hstate =>
    refine .inr ?_
    change h.state.next receipt.status.handoffState = true
    rcases hstate with hstate | hstate <;> rw [hstate] <;> cases receipt.status <;> rfl
  | acknowledge now hstate =>
    rcases hstate with hstate | hstate <;> exact .inr (by rw [hstate]; rfl)

/-- The receipt of a terminal handoff stays. -/
theorem HandoffRow.Step.receipt (hstep : HandoffRow.Step crates h h')
    (hterminal : h.state.isTerminal = true) :
    h'.receipt? = h.receipt? ∧ h'.terminalDigest = h.terminalDigest := by
  cases hstep with
  | same | dispatch | admission | acknowledge => exact ⟨rfl, rfl⟩
  | terminate receipt now result hstate =>
    rcases hstate with hstate | hstate <;> rw [hstate] at hterminal <;> cases hterminal

private theorem controlFromTx_eq_some {control : WorkerControlWitness}
    (hcontrol : controlFromTx s = .ok (some control)) :
    ∃ updatedAt, s.workerControl = some (control, updatedAt) := by
  unfold controlFromTx at hcontrol
  cases hrow : s.workerControl with
  | none =>
    rw [hrow] at hcontrol
    cases pure_eq_ok.mp hcontrol
  | some row =>
    obtain ⟨row, updatedAt⟩ := row
    rw [hrow] at hcontrol
    obtain ⟨decoded, hdecoded, hcontrol⟩ := bind_eq_ok.mp hcontrol
    obtain ⟨-, -, hdecoded⟩ := bind_eq_ok.mp hdecoded
    obtain ⟨-, -, hdecoded⟩ := bind_eq_ok.mp hdecoded
    cases pure_eq_ok.mp hdecoded
    cases pure_eq_ok.mp hcontrol
    exact ⟨updatedAt, rfl⟩

/-- What the check of the dispatch marker establishes. -/
theorem authorizesDispatch_of_validate (hvalid : validateDispatchControlTx s h = .ok ()) :
    s.AuthorizesDispatch h := by
  obtain ⟨mode, hmode, hvalid⟩ := bind_eq_ok.mp hvalid
  obtain ⟨hrunning, hvalid⟩ := ensure_bind_eq_ok.mp hvalid
  obtain ⟨binding?, _, hvalid⟩ := bind_eq_ok.mp hvalid
  obtain ⟨binding, _, hvalid⟩ := bind_eq_ok.mp hvalid
  obtain ⟨⟨⟩, _, hvalid⟩ := bind_eq_ok.mp hvalid
  obtain ⟨control?, hcontrol?, hvalid⟩ := bind_eq_ok.mp hvalid
  obtain ⟨control, hcontrol, hvalid⟩ := bind_eq_ok.mp hvalid
  rw [orError_eq_ok.mp hcontrol] at hcontrol?
  obtain ⟨updatedAt, hrow⟩ := controlFromTx_eq_some hcontrol?
  obtain ⟨hcontrolMode, ⟨-, -, -, hwatchdog, hworker⟩, hsequence⟩ := ensure_eq_ok.mp hvalid
  exact ⟨by rw [hmode, hrunning], control, updatedAt, hrow, hcontrolMode,
    hwatchdog, hworker, hsequence⟩

/-- Only the dispatch marker writes a prepared handoff. -/
theorem Writes.prepared_unselected {bound : Nat} {op : Op} {v : JobView} {w : JobWrite}
    (hop : ∀ tuple now, op ≠ .markWorkerHandoffMayHaveBeenDispatchedAt tuple now)
    (hw : Writes crates bound op v w) (hprepared : h.state = .prepared) :
    w.handoffSel h = false := by
  cases hw with
  | dispatch => exact absurd rfl (hop _ _)
  | admission => simp [admitWrite, hprepared]
  | terminate => simp [terminateWrite, hprepared]
  | acknowledge => simp [acknowledgeWrite, hprepared]
  | _ => rfl

theorem perform_prepared {op : Op}
    (hop : ∀ tuple now, op ≠ .markWorkerHandoffMayHaveBeenDispatchedAt tuple now)
    (hs : s.queue.Keyed) (hh : h ∈ s.handoffs) (hprepared : h.state = .prepared) :
    h ∈ (perform crates op s).handoffs := by
  have hmem : h ∈ ((perform crates op s).queue.view h.jobId).handoffs := by
    refine perform_view_invariant (P := fun v => h ∈ v.handoffs) ?_ hs (mem_view_handoffs hh)
    intro bound v w _ hmem hw
    have happly := JobView.mem_apply_of_mem (w := w) hmem
    rwa [if_neg (by rw [hw.prepared_unselected hop hprepared]; exact Bool.false_ne_true)] at happly
  exact (mem_of_mem_view_handoffs hmem).1

/-- A prepared handoff leaves its state only under the control that its claim captured. -/
theorem authorizesDispatch_of_perform {op : Op} (hs : s.queue.Keyed) (hh : h ∈ s.handoffs)
    (hprepared : h.state = .prepared) (hmoved : h ∉ (perform crates op s).handoffs) :
    s.AuthorizesDispatch h := by
  by_cases hop : ∃ tuple now, op = .markWorkerHandoffMayHaveBeenDispatchedAt tuple now
  · obtain ⟨tuple, now, rfl⟩ := hop
    rw [perform, Store.markWorkerHandoffMayHaveBeenDispatchedAt, commitThen_snd] at hmoved
    cases hok : markDispatchedTx crates s tuple now with
    | error e =>
      rw [hok] at hmoved
      exact absurd hh hmoved
    | ok answer =>
      obtain ⟨u, s'⟩ := answer
      obtain ⟨row, j, a, hloaded, -, -, hvalid, -, rfl⟩ := markDispatchedTx_eq_ok hok
      have hrow : row ∈ s.handoffs := (mem_of_mem_view_handoffs hloaded.handoff).1
      rw [hok] at hmoved
      by_cases hid : h.handoffId = tuple.handoffId
      · have heq : h = row := by
          refine eq_of_key_eq hs.handoffIds hh hrow ?_
          rw [hid, ← hloaded.tuple]
          rfl
        rw [heq]
        exact authorizesDispatch_of_validate hvalid
      · exact absurd (mem_updateWhere_of_not hh (by simp [hid])) hmoved
  · exact absurd (perform_prepared (fun tuple now heq => hop ⟨tuple, now, heq⟩) hs hh hprepared)
      hmoved

/-- Every operation conforms to the protocol at every handoff. -/
theorem perform_conforms (op : Op) (hs : s.queue.Keyed) (hh : h ∈ s.handoffs) :
    ∃ h' ∈ (perform crates op s).handoffs, HandoffRow.Conforms s h h' := by
  obtain ⟨h', hh', hstep⟩ := perform_handoff op hs hh
  refine ⟨h', hh', hstep.tuple, hstep.captured, hstep.next, fun hprepared hmoved => ?_,
    hstep.receipt⟩
  have hid : h'.handoffId = h.handoffId := congrArg WorkerHandoffTuple.handoffId hstep.tuple
  have hgone : h ∉ (perform crates op s).handoffs := fun hstays => by
    rw [eq_of_key_eq (perform_keyed op hs).handoffIds hh' hstays hid] at hmoved
    exact hmoved hprepared
  exact authorizesDispatch_of_perform hs hh hprepared hgone

end Protocol

/-! ### Repeated completion and acknowledgment -/

/-- The call leaves the store as it is, and succeeds only with the receipt that `h` stores. -/
def Store.CompletionReplays (crates : Crates) (s : Store) (h : HandoffRow)
    (tuple : WorkerHandoffTuple) (receipt : WorkerTerminalReceipt) (authority : TerminalAuthority)
    (now : Nat) : Prop :=
  (s.completeWorkerHandoffWithAuthorityAt crates tuple receipt authority now).2 = s ∧
    ∀ completion,
      (s.completeWorkerHandoffWithAuthorityAt crates tuple receipt authority now).1 =
        .ok completion →
      tuple = h.tuple ∧ ∃ stored, h.receipt? = some stored ∧
        (CollisionFree crates (terminalMaterial tuple receipt).render
          (terminalMaterial h.tuple stored).render → receipt = stored)

/-- The store with `h` acknowledged. -/
def Store.acknowledged (s : Store) (h : HandoffRow) (now : Nat) : Store :=
  { s with
    handoffs := updateWhere (·.handoffId == h.handoffId) (·.markAcknowledged now) s.handoffs
    audit := s.audit ++ [⟨"worker_handoff_acknowledged", h.handoffId, now⟩] }

/-- The call leaves the store as it is or is the first acknowledgment of `h`, and succeeds only
with the digest that `h` stores. -/
def Store.AcknowledgmentReplays (crates : Crates) (s : Store) (h : HandoffRow)
    (tuple : WorkerHandoffTuple) (digest : String) (authority : TerminalAuthority) (now : Nat) :
    Prop :=
  ((s.acknowledgeWorkerHandoffWithAuthorityAt crates tuple digest authority now).2 = s ∨
      (h.state = .completed ∨ h.state = .failed) ∧
        (s.acknowledgeWorkerHandoffWithAuthorityAt crates tuple digest authority now).2 =
          s.acknowledged h now) ∧
    ∀ acknowledgment,
      (s.acknowledgeWorkerHandoffWithAuthorityAt crates tuple digest authority now).1 =
        .ok acknowledgment →
      tuple = h.tuple ∧ h.terminalDigest = some digest

section Replay

variable {s : Store} {h : HandoffRow} {tuple : WorkerHandoffTuple}

private theorem loaded_eq {raw : RawHandoff} {bound : Nat} {j : JobRow} {a : AttemptRow}
    (hs : s.queue.Keyed) (hh : h ∈ s.handoffs) (hid : tuple.handoffId = h.handoffId)
    (hloaded : LoadedRows crates bound (s.queue.view tuple.jobId) tuple raw.row j a) :
    raw.row = h := by
  refine eq_of_key_eq hs.handoffIds (mem_of_mem_view_handoffs hloaded.handoff).1 hh ?_
  rw [← hid, ← hloaded.tuple]
  rfl

/-- A completion of a terminal handoff changes nothing, and succeeds only with the stored
receipt. -/
theorem completion_replays {receipt : WorkerTerminalReceipt} {authority : TerminalAuthority}
    {now : Nat} (hs : s.queue.Keyed) (hh : h ∈ s.handoffs) (hid : tuple.handoffId = h.handoffId)
    (hterminal : h.state.isTerminal = true) :
    s.CompletionReplays crates h tuple receipt authority now := by
  have hreplay : ∀ {already s'},
      completeWorkerHandoffTx crates s tuple receipt authority now = .ok (already, s') →
        s' = s ∧ tuple = h.tuple ∧ ∃ stored, h.receipt? = some stored ∧
          terminalDigest crates tuple receipt = terminalDigest crates h.tuple stored := by
    intro already s' hok
    obtain ⟨raw, j, a, hraw, hloaded, hcases⟩ := completeWorkerHandoffTx_eq_ok hs hok
    have hrow := loaded_eq hs hh hid hloaded
    have htuple : tuple = h.tuple := by rw [← hloaded.tuple, hrow]
    rcases hcases with ⟨-, rfl, existing, hexisting, hdigest⟩ | ⟨hunresolved, -⟩
    · obtain ⟨hreceipt, -, hevidence⟩ := rawHandoffFromRow_terminal hraw hexisting
      rw [hrow] at hreceipt hevidence
      exact ⟨rfl, htuple, existing.receipt, hreceipt, hdigest.symm.trans hevidence⟩
    · rw [hrow, hterminal] at hunresolved
      cases hunresolved
  constructor
  · rw [Store.completeWorkerHandoffWithAuthorityAt, commitThen_snd]
    exact commit_induction (R := fun s s' => s' = s) rfl fun _ _ hok => (hreplay hok).1
  · intro completion hanswer
    obtain ⟨already, hok, -⟩ := commitThen_eq_ok.mp (Prod.ext hanswer rfl)
    obtain ⟨-, htuple, stored, hstored, hdigest⟩ := hreplay hok
    refine ⟨htuple, stored, hstored, fun hfree => ?_⟩
    rw [← htuple] at hfree hdigest
    exact terminalDigest_injective hfree hdigest

/-- An acknowledgment of a terminal handoff changes nothing but its acknowledgment, the first
time, and succeeds only with the stored digest. -/
theorem acknowledgment_replays {digest : String} {authority : TerminalAuthority} {now : Nat}
    (hs : s.queue.Keyed) (hh : h ∈ s.handoffs) (hid : tuple.handoffId = h.handoffId) :
    s.AcknowledgmentReplays crates h tuple digest authority now := by
  have hreplay : ∀ {answer s'},
      acknowledgeWorkerHandoffTx crates s tuple digest authority now = .ok (answer, s') →
        (s' = s ∨ (h.state = .completed ∨ h.state = .failed) ∧ s' = s.acknowledged h now) ∧
          tuple = h.tuple ∧ h.terminalDigest = some digest := by
    intro answer s' hok
    obtain ⟨raw, j, a, hraw, hloaded, ⟨record, hrecord, hdigest⟩, hcases⟩ :=
      acknowledgeWorkerHandoffTx_eq_ok hok
    have hrow := loaded_eq hs hh hid hloaded
    obtain ⟨-, hstored, -⟩ := rawHandoffFromRow_terminal hraw hrecord
    rw [hrow, hdigest] at hstored
    refine ⟨?_, by rw [← hloaded.tuple, hrow], hstored⟩
    rcases hcases with ⟨-, rfl⟩ | ⟨hstate, hintent, -, -, rfl⟩
    · exact .inl rfl
    · rw [hrow] at hstate hintent
      -- the only row with this id is the loaded one, and it is selected
      have hselected : ∀ r ∈ s.handoffs, (acknowledgeWrite tuple.handoffId now).handoffSel r =
          (r.handoffId == h.handoffId) := fun r hr => by
        by_cases hrid : r.handoffId = h.handoffId
        · rw [eq_of_key_eq hs.handoffIds hr hh hrid]
          rcases hstate with hstate | hstate <;> simp [acknowledgeWrite, hid, hstate, hintent]
        · have hne : (r.handoffId == h.handoffId) = false := by simpa using hrid
          simp [acknowledgeWrite, hid, hne]
      refine .inr ⟨hstate, ?_⟩
      rw [Store.acknowledged, updateWhere_congr hselected, hid]
  rw [Store.AcknowledgmentReplays, Store.acknowledgeWorkerHandoffWithAuthorityAt]
  rcases commit_cases s (acknowledgeWorkerHandoffTx crates s tuple digest authority now) with
    ⟨answer, s', hok, hcommit⟩ | ⟨e, -, hcommit⟩
  · rw [hcommit]
    exact ⟨(hreplay hok).1, fun _ _ => (hreplay hok).2⟩
  · rw [hcommit]
    exact ⟨.inl rfl, fun _ h => by cases h⟩

end Replay

/-! ### New handoffs -/

section New

variable {s : Store} {h' : HandoffRow}

/-- A claim captures the current control. -/
theorem authorizesDispatch_of_claim {witness : WorkerClaimWitness} {ids : HandoffIds}
    {job : JobRow} {payload : Value} {n now : Nat}
    (hvalid : validateClaimWitnessTx s witness = .ok ()) :
    s.AuthorizesDispatch
      (preparedHandoff witness ids job payload n witness.modeSequence now) := by
  obtain ⟨binding?, _, hvalid⟩ := bind_eq_ok.mp hvalid
  obtain ⟨binding, _, hvalid⟩ := bind_eq_ok.mp hvalid
  obtain ⟨⟨⟩, _, hvalid⟩ := bind_eq_ok.mp hvalid
  obtain ⟨control?, hcontrol?, hvalid⟩ := bind_eq_ok.mp hvalid
  obtain ⟨control, hcontrol, hvalid⟩ := bind_eq_ok.mp hvalid
  obtain ⟨hexpected, hvalid⟩ := ensure_bind_eq_ok.mp hvalid
  obtain ⟨mode, hmode, hrunning⟩ := bind_eq_ok.mp hvalid
  rw [orError_eq_ok.mp hcontrol, hexpected] at hcontrol?
  obtain ⟨updatedAt, hrow⟩ := controlFromTx_eq_some hcontrol?
  exact ⟨by rw [hmode, ensure_eq_ok.mp hrunning], _, updatedAt, hrow, rfl, rfl, rfl, rfl⟩

/-- A handoff that was not there before is prepared, under the current control. -/
theorem perform_new_handoff {op : Op} (hs : s.queue.Keyed)
    (hh' : h' ∈ (perform crates op s).handoffs)
    (hnew : ∀ h ∈ s.handoffs, h.handoffId ≠ h'.handoffId) :
    h'.state = .prepared ∧ s.AuthorizesDispatch h' := by
  by_cases hop : ∃ now, op = .quarantineInterruptedJobs now
  · obtain ⟨now, rfl⟩ := hop
    rw [quarantineInterruptedJobs_handoffs now hs] at hh'
    exact absurd rfl (hnew h' hh')
  have hstep : QueueStep crates op s (perform crates op s) :=
    perform_step (fun now heq => hop ⟨now, heq⟩) hs
  have hmem := mem_view_handoffs (q := (perform crates op s).queue) hh'
  rcases hstep.view h'.jobId with heq | ⟨w, hw, heq⟩
  · rw [heq] at hmem
    exact absurd rfl (hnew h' (mem_of_mem_view_handoffs hmem).1)
  rw [heq] at hmem
  rcases JobView.mem_apply_handoffs hmem with ⟨h, hh, rfl⟩ | hinserted
  · refine absurd ?_ (hnew h (mem_of_mem_view_handoffs hh).1)
    exact (congrArg WorkerHandoffTuple.handoffId (hw.handoffStep (hs.view _) hh).tuple).symm
  cases hw with
  | @claimHandoff _ _ witness now ids =>
    obtain rfl := Option.some.inj hinserted
    refine ⟨rfl, ?_⟩
    -- the row is there, so the claim has committed, so its witness was checked
    rw [perform, Store.claimNextWorkerHandoff, commitThen_snd] at hh'
    cases hok : claimNextWorkerHandoffTx crates s witness now ids with
    | error e =>
      rw [hok] at hh'
      exact absurd rfl (hnew _ hh')
    | ok answer =>
      replace hok := bind_passed hok
      obtain ⟨limit, -, hok⟩ := bind_eq_ok.mp hok
      obtain ⟨⟨⟩, hvalid, -⟩ := bind_eq_ok.mp hok
      exact authorizesDispatch_of_claim hvalid
  | _ => cases hinserted

end New

/-! ### All runs -/

/-- **The handoff protocol.** In every state `s` that a run from a fresh store reaches:

* every operation takes every handoff at most one step along the protocol, keeps what the claim
  captured, writes the dispatch marker only under the captured control, and keeps the receipt of
  a terminal handoff; a new handoff is prepared under the current control;
* a completion of a terminal handoff changes nothing and succeeds only with the stored receipt;
* an acknowledgment changes nothing but the first acknowledgment and succeeds only with the
  stored digest. -/
theorem handoffs_follow_protocol {config : StoreConfig} {now : Nat} {epoch : UuidV4}
    {s₀ s : Store} (hinit : Store.initialize config now epoch = .ok s₀) (ops : List Op)
    (hs : s₀.after crates ops = s) :
    (∀ op, (∀ h ∈ s.handoffs, ∃ h' ∈ (perform crates op s).handoffs, HandoffRow.Conforms s h h') ∧
      ∀ h' ∈ (perform crates op s).handoffs,
        (∀ h ∈ s.handoffs, h.handoffId ≠ h'.handoffId) →
          h'.state = .prepared ∧ s.AuthorizesDispatch h') ∧
      ∀ h ∈ s.handoffs, h.state.isTerminal = true → ∀ tuple : WorkerHandoffTuple,
        tuple.handoffId = h.handoffId →
        (∀ receipt authority now, s.CompletionReplays crates h tuple receipt authority now) ∧
          ∀ digest authority now,
            s.AcknowledgmentReplays crates h tuple digest authority now := by
  have hkeyed : s.queue.Keyed := by
    rw [← hs]
    exact after_keyed (initialize_keyed hinit) ops
  refine ⟨fun op => ⟨fun h hh => perform_conforms op hkeyed hh, fun h' hh' hnew =>
    perform_new_handoff hkeyed hh' hnew⟩, fun h hh hterminal tuple hid => ⟨?_, ?_⟩⟩
  · intro receipt authority now
    exact completion_replays hkeyed hh hid hterminal
  · intro digest authority now
    exact acknowledgment_replays hkeyed hh hid

/-- The protocol after an episode that has failed. -/
theorem handoffs_follow_protocol_failed :
    let s := sampleStore.after sampleCrates (sampleEpisode .failed)
    (∀ op, ∀ h ∈ s.handoffs, ∃ h' ∈ (perform sampleCrates op s).handoffs,
        HandoffRow.Conforms s h h') ∧
      ∀ h ∈ s.handoffs, h.state.isTerminal = true → sampleTuple.handoffId = h.handoffId →
        s.CompletionReplays sampleCrates h sampleTuple (sampleReceipt .failed)
          .originalIncarnation 5 := by
  generalize hs : sampleStore.after sampleCrates (sampleEpisode .failed) = s
  obtain ⟨hsteps, hterminal⟩ :=
    handoffs_follow_protocol sampleStore_init (sampleEpisode .failed) hs
  exact ⟨fun op => (hsteps op).1, fun h hh hstate hid =>
    (hterminal h hh hstate sampleTuple hid).1 (sampleReceipt .failed) .originalIncarnation 5⟩

end AscensionWatchdog
