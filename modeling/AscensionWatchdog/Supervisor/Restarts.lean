import AscensionWatchdog.Storage.Operations
import AscensionWatchdog.Supervisor.Policy

/-!
# Backoff and the restart budget

Between two starts of a component the policy waits for an exponentially growing delay with a
jitter. The delay is bounded by the exponential itself and by the cap, and it grows strictly until
the cap is reached, whatever the jitter (`backoffDelayMs_bounds`).

How many starts fall into the rolling window is counted twice in the source: by the table of
restart events, and by the in-memory `RestartBudget`, which the table is meant to persist. They
forget events at different moments: the budget at every observation, the table only when it
records. On the readings of one clock they count alike (`restartCounts_eq`).
-/

namespace AscensionWatchdog

open Foundation

/-! ### Backoff -/

namespace SupervisorPolicy

variable {crates : Crates} {policy : SupervisorPolicy} {componentId : String} {attempt : Nat}

/-- The exponential part of the delay. -/
def backoffExponential (policy : SupervisorPolicy) (attempt : Nat) : Nat :=
  min (policy.restartBackoffBaseMs * 2 ^ min attempt 31) policy.restartBackoffCapMs

/-- The product does not overflow before the cap is applied. -/
theorem min_saturatingMul (hcap : policy.restartBackoffCapMs ≤ u64Max) :
    min (saturatingMul policy.restartBackoffBaseMs (2 ^ min attempt 31))
        policy.restartBackoffCapMs = policy.backoffExponential attempt := by
  rw [saturatingMul, backoffExponential, min_assoc, min_eq_right hcap]

/-- The jitter moves the delay by at most a quarter of the exponential, and never over the cap. -/
theorem backoffDelayMs_mem (hcap : policy.restartBackoffCapMs ≤ u64Max) :
    policy.backoffExponential attempt - policy.backoffExponential attempt / 4 ≤
        policy.backoffDelayMs crates componentId attempt ∧
      policy.backoffDelayMs crates componentId attempt ≤
        min (policy.backoffExponential attempt + policy.backoffExponential attempt / 4)
          policy.restartBackoffCapMs := by
  have hle : policy.backoffExponential attempt ≤ policy.restartBackoffCapMs := min_le_right _ _
  rw [backoffDelayMs, min_saturatingMul hcap]
  dsimp only
  generalize policy.backoffExponential attempt = e at hle
  split
  next hspread => omega
  next hspread =>
    generalize hsample : ((crates.sha256 (componentId.toUTF8 ++ attemptBytes attempt)).get 0).toNat +
      256 * ((crates.sha256 (componentId.toUTF8 ++ attemptBytes attempt)).get 1).toNat = sample
    have hspan : saturatingAdd (saturatingMul (e / 4) 2) 1 = 2 * (e / 4) + 1 := by
      rw [saturatingAdd, saturatingMul]
      omega
    have hjitter : sample % (2 * (e / 4) + 1) < 2 * (e / 4) + 1 := Nat.mod_lt _ (by omega)
    rw [hspan, saturatingAdd]
    omega

/-- **The delay.** It lies within a quarter of the capped exponential, and until the cap is reached
it grows from one attempt to the next, whatever the digests are. -/
theorem backoffDelayMs_bounds (crates : Crates) (policy : SupervisorPolicy) (componentId : String)
    (hcap : policy.restartBackoffCapMs ≤ u64Max) :
    (∀ attempt,
      policy.backoffExponential attempt - policy.backoffExponential attempt / 4 ≤
          policy.backoffDelayMs crates componentId attempt ∧
        policy.backoffDelayMs crates componentId attempt ≤
          min (policy.backoffExponential attempt + policy.backoffExponential attempt / 4)
            policy.restartBackoffCapMs) ∧
      ∀ k, 0 < policy.restartBackoffBaseMs → k < 31 →
        policy.restartBackoffBaseMs * 2 ^ (k + 1) ≤ policy.restartBackoffCapMs →
        policy.backoffDelayMs crates componentId k <
          policy.backoffDelayMs crates componentId (k + 1) := by
  refine ⟨fun attempt => backoffDelayMs_mem hcap, ?_⟩
  intro k hpos hk hroom
  -- below the cap the exponential doubles
  have hdouble : policy.restartBackoffBaseMs * 2 ^ (k + 1) =
      2 * (policy.restartBackoffBaseMs * 2 ^ k) := by ring
  have hthis : policy.backoffExponential k = policy.restartBackoffBaseMs * 2 ^ k := by
    rw [backoffExponential, min_eq_left hk.le]
    omega
  have hnext : policy.backoffExponential (k + 1) = 2 * (policy.restartBackoffBaseMs * 2 ^ k) := by
    rw [backoffExponential, min_eq_left (by omega : k + 1 ≤ 31), hdouble]
    omega
  have hexp : 0 < policy.restartBackoffBaseMs * 2 ^ k := by positivity
  -- five quarters of it stay below the three halves that the next delay has at least
  calc policy.backoffDelayMs crates componentId k
      ≤ min (policy.backoffExponential k + policy.backoffExponential k / 4)
          policy.restartBackoffCapMs := (backoffDelayMs_mem hcap).2
    _ < policy.backoffExponential (k + 1) - policy.backoffExponential (k + 1) / 4 := by
      rw [hthis, hnext]
      omega
    _ ≤ policy.backoffDelayMs crates componentId (k + 1) := (backoffDelayMs_mem hcap).1

/-- One second, doubled up to a minute. -/
def samplePolicy : SupervisorPolicy where
  probeIntervalMs := 1000
  suspectThreshold := 3
  startupGraceMs := 10000
  restartBackoffBaseMs := 1000
  restartBackoffCapMs := 60000
  restartBudgetCount := 5
  restartBudgetWindowMs := 600000

/-- The fourth delay is longer than the third, and at most ten seconds. -/
theorem backoffDelayMs_bounds_sample :
    samplePolicy.backoffDelayMs sampleCrates "gateway" 2 <
        samplePolicy.backoffDelayMs sampleCrates "gateway" 3 ∧
      samplePolicy.backoffDelayMs sampleCrates "gateway" 3 ≤ 10000 := by
  obtain ⟨hbounds, hgrows⟩ :=
    backoffDelayMs_bounds sampleCrates samplePolicy "gateway" (by decide)
  exact ⟨hgrows 2 (by decide) (by decide) (by decide), (hbounds 3).2.trans (by decide)⟩

end SupervisorPolicy

/-! ### The restart budget -/

/-- The largest unsigned 32-bit integer. -/
def u32Max : Nat :=
  2 ^ 32 - 1

/-- The budget in memory: the elapsed times of the restarts in the window. -/
structure RestartBudget where
  maxEvents : Nat
  windowMs : Nat
  lastElapsedMs : Nat
  events : List Nat
  deriving DecidableEq, Repr

def RestartBudget.new (maxEvents windowMs : Nat) : RestartBudget where
  maxEvents := maxEvents
  windowMs := windowMs
  lastElapsedMs := 0
  events := []

/-- Observe the clock, and forget the events that left the window. -/
def RestartBudget.observe (self : RestartBudget) (elapsedMs : Nat) : Nat × RestartBudget :=
  let lastElapsedMs := max self.lastElapsedMs elapsedMs
  let cutoff := lastElapsedMs - self.windowMs
  let events := self.events.filter (cutoff ≤ ·)
  (min events.length u32Max, { self with lastElapsedMs, events })

/-- Record a restart, if the budget has room for it. -/
def RestartBudget.record (self : RestartBudget) (elapsedMs : Nat) : Nat × RestartBudget :=
  let (count, self) := self.observe elapsedMs
  let self :=
    if count < self.maxEvents then { self with events := self.events ++ [self.lastElapsedMs] }
    else self
  (min self.events.length u32Max, self)

/-- What a caller does at a reading of the clock: it counts, or it counts and records a restart if
the count is below the budget. -/
inductive RestartCall where
  | count (elapsedMs : Nat)
  | record (elapsedMs nowMs : Nat)
  deriving DecidableEq, Repr

def RestartCall.elapsedMs : RestartCall → Nat
  | .count elapsedMs => elapsedMs
  | .record elapsedMs _ => elapsedMs

/-- The times that a call gives to the store. -/
def RestartCall.times : RestartCall → List Nat
  | .count elapsedMs => [elapsedMs]
  | .record elapsedMs nowMs => [elapsedMs, nowMs]

/-- The counts that the budget returns to a call. -/
def RestartBudget.call (self : RestartBudget) : RestartCall → List Nat × RestartBudget
  | .count elapsedMs =>
    let (count, self) := self.observe elapsedMs
    ([count], self)
  | .record elapsedMs _ =>
    let (count, self) := self.observe elapsedMs
    if count < self.maxEvents then
      let (recorded, self) := self.record elapsedMs
      ([count, recorded], self)
    else ([count], self)

def RestartBudget.counts : RestartBudget → List RestartCall → List Nat
  | _, [] => []
  | self, call :: calls => (self.call call).1 ++ (self.call call).2.counts calls

section Accounting

variable (componentId : String) (maxEvents windowMs : Nat)

/-- The counts that the store returns to a call. -/
def Store.restartCall (s : Store) : RestartCall → Result (List Nat × Store)
  | .count elapsedMs => do
    let count ← s.restartCountWithElapsed componentId elapsedMs windowMs
    return ([count], s)
  | .record elapsedMs nowMs => do
    let count ← s.restartCountWithElapsed componentId elapsedMs windowMs
    if count < maxEvents then
      let (recorded, s') := s.recordRestartWithElapsed componentId nowMs elapsedMs windowMs
      let recorded ← recorded
      return ([count, recorded], s')
    else return ([count], s)

def Store.restartCounts : Store → List RestartCall → Result (List Nat)
  | _, [] => return []
  | s, call :: calls => do
    let (counts, s) ← s.restartCall componentId maxEvents windowMs call
    let rest ← Store.restartCounts s calls
    return counts ++ rest

end Accounting

/-- The elapsed times of the events of a component. -/
def Store.restartTimes (s : Store) (componentId : String) : List Nat :=
  (s.restartEvents.filter (·.componentId == componentId)).map RestartEventRow.clockElapsedMs

/-- The budget has the events of the table that were in the window at its last observation. -/
structure Tracks (componentId : String) (s : Store) (budget : RestartBudget) : Prop where
  epoch : ∀ e ∈ s.restartEvents, e.componentId = componentId → e.clockEpoch = s.restartClockEpoch
  past : ∀ t ∈ s.restartTimes componentId, t ≤ budget.lastElapsedMs
  events : budget.events =
    (s.restartTimes componentId).filter (budget.lastElapsedMs - budget.windowMs ≤ ·)
  room : budget.events.length ≤ budget.maxEvents

section Tracking

variable {componentId : String} {s s' : Store} {budget : RestartBudget} {elapsedMs nowMs : Nat}

theorem restartCountWithElapsed_eq_ok {windowMs count : Nat} :
    s.restartCountWithElapsed componentId elapsedMs windowMs = .ok count ↔
      (isName componentId 128 = true ∧ elapsedMs - windowMs < 2 ^ 63 ∧
        countRestarts s componentId (elapsedMs - windowMs) < 2 ^ 32) ∧
      countRestarts s componentId (elapsedMs - windowMs) = count := by
  rw [Store.restartCountWithElapsed, check_bind_eq_ok, validateName_eq_ok]
  constructor
  · rintro ⟨hname, h⟩
    obtain ⟨htime, h⟩ := (bind_of_iff sqliteTimestamp_eq_ok).mp h
    obtain ⟨hcount, h⟩ := ensure_bind_eq_ok.mp h
    exact ⟨⟨hname, htime, hcount⟩, pure_eq_ok.mp h⟩
  · rintro ⟨⟨hname, htime, hcount⟩, rfl⟩
    refine ⟨hname, bind_eq_ok.mpr ⟨_, sqliteTimestamp_eq_ok.mpr ⟨htime, rfl⟩, ?_⟩⟩
    exact ensure_bind_eq_ok.mpr ⟨hcount, rfl⟩

/-- Where all events are of one epoch, the table counts those in the window. -/
theorem countRestarts_eq
    (hepoch : ∀ e ∈ s.restartEvents, e.componentId = componentId →
      e.clockEpoch = s.restartClockEpoch) (cutoff : Nat) :
    countRestarts s componentId cutoff =
      ((s.restartTimes componentId).filter (cutoff ≤ ·)).length := by
  rw [countRestarts, Store.restartTimes, List.filter_map, List.length_map, List.filter_filter,
    List.countP_eq_length_filter]
  congr 1
  refine List.filter_congr fun e he => ?_
  have hof := hepoch e he
  by_cases hid : e.componentId = componentId
  · simp [hid, hof hid]
  · simp [beq_eq_false_iff_ne.mpr hid]

/-- An observation forgets what the table does not count. -/
theorem Tracks.observe (h : Tracks componentId s budget) (hmax : budget.maxEvents ≤ u32Max)
    (hclock : budget.lastElapsedMs ≤ elapsedMs) :
    (budget.observe elapsedMs).1 =
        countRestarts s componentId (elapsedMs - budget.windowMs) ∧
      (budget.observe elapsedMs).2.lastElapsedMs = elapsedMs ∧
      Tracks componentId s (budget.observe elapsedMs).2 := by
  have hlast : max budget.lastElapsedMs elapsedMs = elapsedMs := max_eq_right hclock
  have hevents : budget.events.filter (elapsedMs - budget.windowMs ≤ ·) =
      (s.restartTimes componentId).filter (elapsedMs - budget.windowMs ≤ ·) := by
    rw [h.events, List.filter_filter]
    refine List.filter_congr fun t _ => ?_
    rw [Bool.eq_iff_iff, Bool.and_eq_true, decide_eq_true_eq, decide_eq_true_eq]
    omega
  have hroom : (budget.events.filter (elapsedMs - budget.windowMs ≤ ·)).length ≤
      budget.maxEvents := (List.length_filter_le _ _).trans h.room
  refine ⟨?_, ?_, ?_⟩
  · rw [countRestarts_eq h.epoch, RestartBudget.observe, hlast]
    dsimp only
    rw [hevents] at hroom ⊢
    exact min_eq_left (hroom.trans hmax)
  · rw [RestartBudget.observe, hlast]
  · refine ⟨h.epoch, ?_, ?_, ?_⟩
    · rw [RestartBudget.observe, hlast]
      exact fun t ht => (h.past t ht).trans hclock
    · rw [RestartBudget.observe, hlast]
      exact hevents
    · rw [RestartBudget.observe, hlast]
      exact hroom

theorem foldl_max_of_le {l : List Nat} (h : ∀ t ∈ l, t ≤ elapsedMs) :
    l.foldl max elapsedMs = elapsedMs := by
  induction l with
  | nil => rfl
  | cons t l ih =>
    obtain ⟨ht, hl⟩ := List.forall_mem_cons.mp h
    rw [List.foldl_cons, max_eq_left ht]
    exact ih hl

/-- What a recorded restart leaves in the table. -/
theorem recordRestartTx_events {windowMs count : Nat}
    (h : recordRestartTx s componentId nowMs elapsedMs windowMs = .ok (count, s')) :
    s'.restartEvents =
        s.restartEvents.filter (fun e => !(e.ofEpoch componentId s.restartClockEpoch &&
          e.clockElapsedMs < observedElapsed s componentId elapsedMs - windowMs)) ++
          [⟨componentId, nowMs, s.restartClockEpoch, observedElapsed s componentId elapsedMs⟩] ∧
      s'.restartClockEpoch = s.restartClockEpoch ∧ s'.audit.length = s.audit.length + 1 ∧
      count = countRestarts s' componentId
        (observedElapsed s componentId elapsedMs - windowMs) := by
  obtain ⟨-, h⟩ := check_bind_eq_ok.mp h
  obtain ⟨-, -, h⟩ := bind_eq_ok.mp h
  obtain ⟨now, hnow, h⟩ := bind_eq_ok.mp h
  obtain ⟨elapsed, helapsed, h⟩ := bind_eq_ok.mp h
  obtain ⟨-, rfl⟩ := sqliteTimestamp_eq_ok.mp hnow
  obtain ⟨-, rfl⟩ := sqliteTimestamp_eq_ok.mp helapsed
  obtain ⟨-, -, -, -, h⟩ := insertAuditTx_bind.mp h
  cases pure_eq_ok.mp h
  exact ⟨rfl, rfl, List.length_append, rfl⟩

/-- The elapsed time that is recorded is the reading, if no recorded one is later. -/
theorem observedElapsed_eq (hpast : ∀ t ∈ s.restartTimes componentId, t ≤ elapsedMs) :
    observedElapsed s componentId elapsedMs = elapsedMs := by
  refine foldl_max_of_le fun t ht => ?_
  obtain ⟨e, he, rfl⟩ := List.mem_map.mp ht
  obtain ⟨hmem, hof⟩ := List.mem_filter.mp he
  have hid : e.componentId == componentId := (Bool.and_eq_true_iff.mp hof).1
  exact hpast _ (List.mem_map_of_mem (List.mem_filter.mpr ⟨hmem, hid⟩))

/-- Where all events are of one epoch, a record drops the times that left the window. -/
theorem restartTimes_record {windowMs count : Nat}
    (hepoch : ∀ e ∈ s.restartEvents, e.componentId = componentId →
      e.clockEpoch = s.restartClockEpoch)
    (hpast : ∀ t ∈ s.restartTimes componentId, t ≤ elapsedMs)
    (h : recordRestartTx s componentId nowMs elapsedMs windowMs = .ok (count, s')) :
    s'.restartTimes componentId =
        (s.restartTimes componentId).filter (elapsedMs - windowMs ≤ ·) ++ [elapsedMs] ∧
      (∀ e ∈ s'.restartEvents, e.componentId = componentId →
        e.clockEpoch = s'.restartClockEpoch) ∧
      count = countRestarts s' componentId (elapsedMs - windowMs) := by
  obtain ⟨hevents, hclock, -, hcount⟩ := recordRestartTx_events h
  rw [observedElapsed_eq hpast] at hevents hcount
  refine ⟨?_, ?_, hcount⟩
  · rw [Store.restartTimes, hevents, List.filter_append, List.map_append, List.filter_filter,
      Store.restartTimes, List.filter_map, List.filter_filter]
    congr 1
    · congr 1
      refine List.filter_congr fun e he => ?_
      by_cases hid : e.componentId = componentId
      · simp [RestartEventRow.ofEpoch, hid, hepoch e he hid, decide_not.symm]
      · simp [beq_eq_false_iff_ne.mpr hid]
    · simp
  · intro e he hid
    rw [hevents] at he
    rw [hclock]
    rcases List.mem_append.mp he with hkept | hnew
    · exact hepoch e (List.mem_filter.mp hkept).1 hid
    · rw [List.mem_singleton.mp hnew]

/-- A restart that is recorded below the budget is recorded by both. -/
theorem Tracks.record {count : Nat} (h : Tracks componentId s budget)
    (hmax : budget.maxEvents ≤ u32Max) (hclock : budget.lastElapsedMs = elapsedMs)
    (hbelow : countRestarts s componentId (elapsedMs - budget.windowMs) < budget.maxEvents)
    (hrecord : recordRestartTx s componentId nowMs elapsedMs budget.windowMs = .ok (count, s')) :
    (budget.record elapsedMs).1 = count ∧ Tracks componentId s' (budget.record elapsedMs).2 := by
  obtain ⟨hcount, hlast, htracks⟩ := h.observe hmax hclock.le
  obtain ⟨htimes, hepoch, hreturned⟩ :=
    restartTimes_record h.epoch (hclock ▸ h.past) hrecord
  have hwindow : (budget.observe elapsedMs).2.windowMs = budget.windowMs := rfl
  have hlimit : (budget.observe elapsedMs).2.maxEvents = budget.maxEvents := rfl
  have hevents := htracks.events
  rw [hlast, hwindow] at hevents
  have hlength : (budget.observe elapsedMs).2.events.length < budget.maxEvents := by
    rw [hevents, ← countRestarts_eq h.epoch]
    exact hbelow
  -- the times of the table after the record are the events of the budget after it
  have hafter : (s'.restartTimes componentId).filter (elapsedMs - budget.windowMs ≤ ·) =
      (budget.observe elapsedMs).2.events ++ [elapsedMs] := by
    rw [htimes, List.filter_append, List.filter_filter, hevents]
    simp
  have hpushed : (budget.record elapsedMs).2 = { (budget.observe elapsedMs).2 with
      events := (budget.observe elapsedMs).2.events ++ [elapsedMs] } := by
    rw [RestartBudget.record]
    dsimp only
    rw [hcount, if_pos (hlimit ▸ hbelow), hlast]
  have hanswer : (budget.record elapsedMs).1 = min (budget.record elapsedMs).2.events.length
      u32Max := rfl
  refine ⟨?_, ?_⟩
  · rw [hanswer, hpushed, hreturned, countRestarts_eq hepoch, hafter, List.length_append,
      List.length_singleton]
    exact min_eq_left ((Nat.succ_le_of_lt hlength).trans hmax)
  · rw [hpushed]
    refine ⟨hepoch, ?_, ?_, ?_⟩
    · rw [htimes]
      intro t ht
      rw [hlast]
      rcases List.mem_append.mp ht with hold | hnew
      · exact hclock ▸ h.past t (List.mem_filter.mp hold).1
      · exact (List.mem_singleton.mp hnew).le
    · rw [hlast, hwindow]
      exact hafter.symm
    · rw [List.length_append, List.length_singleton]
      exact hlength

theorem RestartBudget.record_lastElapsedMs :
    (budget.record elapsedMs).2.lastElapsedMs = max budget.lastElapsedMs elapsedMs := by
  rw [RestartBudget.record]
  dsimp only
  split <;> rfl

theorem RestartBudget.record_bounds :
    (budget.record elapsedMs).2.maxEvents = budget.maxEvents ∧
      (budget.record elapsedMs).2.windowMs = budget.windowMs := by
  rw [RestartBudget.record]
  dsimp only
  split <;> exact ⟨rfl, rfl⟩

/-- A call does not change the bounds of the budget. -/
theorem RestartBudget.call_bounds (budget : RestartBudget) (call : RestartCall) :
    (budget.call call).2.maxEvents = budget.maxEvents ∧
      (budget.call call).2.windowMs = budget.windowMs := by
  cases call with
  | count elapsedMs => exact ⟨rfl, rfl⟩
  | record elapsedMs nowMs =>
    rw [RestartBudget.call]
    dsimp only
    split
    · exact RestartBudget.record_bounds
    · exact ⟨rfl, rfl⟩

/-- **One call.** The store and the budget answer alike and stay in step. -/
theorem Tracks.call {call : RestartCall} {counts : List Nat} (h : Tracks componentId s budget)
    (hmax : budget.maxEvents ≤ u32Max) (hclock : budget.lastElapsedMs ≤ call.elapsedMs)
    (hcall : s.restartCall componentId budget.maxEvents budget.windowMs call = .ok (counts, s')) :
    (budget.call call).1 = counts ∧ (budget.call call).2.lastElapsedMs = call.elapsedMs ∧
      Tracks componentId s' (budget.call call).2 := by
  cases call with
  | count elapsedMs =>
    obtain ⟨hcount, hlast, htracks⟩ := h.observe hmax hclock
    replace hcall := bind_only restartCountWithElapsed_eq_ok hcall
    cases pure_eq_ok.mp hcall
    exact ⟨congrArg (fun n => [n]) hcount, hlast, htracks⟩
  | record elapsedMs nowMs =>
    replace hclock : budget.lastElapsedMs ≤ elapsedMs := hclock
    obtain ⟨hcount, hlast, htracks⟩ := h.observe hmax hclock
    have hlimit : (budget.observe elapsedMs).2.maxEvents = budget.maxEvents := rfl
    replace hcall := bind_only restartCountWithElapsed_eq_ok hcall
    rw [RestartBudget.call]
    dsimp only
    rw [hcount, hlimit]
    split at hcall
    next hbelow =>
      rw [if_pos hbelow]
      obtain ⟨recorded, hrecorded, hcall⟩ := bind_eq_ok.mp hcall
      cases pure_eq_ok.mp hcall
      obtain ⟨count, htx, hnarrow⟩ := commitThen_eq_ok.mp (Prod.ext hrecorded rfl)
      obtain ⟨-, hnarrow⟩ := ensure_bind_eq_ok.mp hnarrow
      cases pure_eq_ok.mp hnarrow
      obtain ⟨hanswer, htracks'⟩ := htracks.record hmax hlast hbelow htx
      refine ⟨by rw [hanswer], ?_, htracks'⟩
      rw [RestartBudget.record_lastElapsedMs, hlast]
      exact max_self elapsedMs
    next habove =>
      rw [if_neg habove]
      cases pure_eq_ok.mp hcall
      exact ⟨rfl, hlast, htracks⟩

/-- A restart can be recorded while the times fit and the audit has room. -/
theorem exists_recordRestartTx (windowMs : Nat)
    (hpast : ∀ t ∈ s.restartTimes componentId, t ≤ elapsedMs)
    (hname : isName componentId 128 = true) (helapsed : elapsedMs < 2 ^ 63)
    (hnow : nowMs < 2 ^ 63) (haudit : s.audit.length < auditLimit "component_restart_recorded") :
    ∃ count s', recordRestartTx s componentId nowMs elapsedMs windowMs = .ok (count, s') ∧
      s'.audit.length = s.audit.length + 1 := by
  have htime : ∀ t, t < 2 ^ 63 → sqliteTimestamp t = .ok t :=
    fun t ht => sqliteTimestamp_eq_ok.mpr ⟨ht, rfl⟩
  have hdetail : componentId.utf8ByteSize ≤ maxAuditDetailBytes ∧
      containsNul componentId = false := by
    simp only [isName, Bool.and_eq_true, Bool.not_eq_true', decide_eq_true_eq] at hname
    exact ⟨hname.1.1.2.trans (by decide), hname.1.2⟩
  have hrecorded : ∃ r, recordRestartTx s componentId nowMs elapsedMs windowMs = .ok r := by
    have hnamed : validateName componentId "component id" 128 = .ok () :=
      validateName_eq_ok.mpr hname
    rw [recordRestartTx, hnamed]
    dsimp only
    rw [observedElapsed_eq hpast, htime _ (by omega), htime _ hnow, htime _ helapsed]
    exact ⟨_, bind_eq_ok.mpr ⟨_, rfl, bind_eq_ok.mpr ⟨_, rfl, bind_eq_ok.mpr ⟨_, rfl,
      bind_eq_ok.mpr ⟨_, rfl, bind_eq_ok.mpr ⟨_, insertAuditTx_eq_ok.mpr
        ⟨by decide +kernel, hdetail, haudit, hnow, rfl⟩, rfl⟩⟩⟩⟩⟩⟩
  obtain ⟨⟨count, s'⟩, hok⟩ := hrecorded
  exact ⟨count, s', hok, (recordRestartTx_events hok).2.2.1⟩

/-- A call is answered while its times fit and the audit has room. -/
theorem Tracks.exists_call {call : RestartCall} (h : Tracks componentId s budget)
    (hmax : budget.maxEvents ≤ u32Max) (hclock : budget.lastElapsedMs ≤ call.elapsedMs)
    (hname : isName componentId 128 = true) (htimes : ∀ t ∈ call.times, t < 2 ^ 63)
    (haudit : s.audit.length < auditLimit "component_restart_recorded") :
    ∃ counts s', s.restartCall componentId budget.maxEvents budget.windowMs call =
        .ok (counts, s') ∧ s'.audit.length ≤ s.audit.length + 1 := by
  obtain ⟨hcount, hlast, htracks⟩ := h.observe hmax hclock
  have hbound : countRestarts s componentId (call.elapsedMs - budget.windowMs) < 2 ^ 32 := by
    have hle : (budget.observe call.elapsedMs).1 ≤ u32Max := min_le_right _ _
    have hu32 : u32Max = 2 ^ 32 - 1 := rfl
    omega
  have hread : call.elapsedMs < 2 ^ 63 →
      s.restartCountWithElapsed componentId call.elapsedMs budget.windowMs =
        .ok (countRestarts s componentId (call.elapsedMs - budget.windowMs)) := fun ht =>
    restartCountWithElapsed_eq_ok.mpr ⟨⟨hname, by omega, hbound⟩, rfl⟩
  cases call with
  | count elapsedMs =>
    have helapsed : elapsedMs < 2 ^ 63 := htimes elapsedMs (by simp [RestartCall.times])
    exact ⟨_, s, bind_eq_ok.mpr ⟨_, hread helapsed, rfl⟩, Nat.le_succ _⟩
  | record elapsedMs nowMs =>
    have helapsed : elapsedMs < 2 ^ 63 := htimes elapsedMs (by simp [RestartCall.times])
    have hnow : nowMs < 2 ^ 63 := htimes nowMs (by simp [RestartCall.times])
    have hcounted : s.restartCountWithElapsed componentId elapsedMs budget.windowMs =
        .ok (countRestarts s componentId (elapsedMs - budget.windowMs)) := hread helapsed
    by_cases hbelow : countRestarts s componentId (elapsedMs - budget.windowMs) < budget.maxEvents
    · have hpast : ∀ t ∈ s.restartTimes componentId, t ≤ elapsedMs :=
        fun t ht => (htracks.past t ht).trans hlast.le
      obtain ⟨count, s', htx, hlength⟩ :=
        exists_recordRestartTx budget.windowMs hpast hname helapsed hnow haudit
      obtain ⟨hanswer, -⟩ := htracks.record hmax hlast hbelow htx
      have hnarrow : count < 2 ^ 32 := by
        have hle : count ≤ u32Max := hanswer ▸ min_le_right _ _
        have hu32 : u32Max = 2 ^ 32 - 1 := rfl
        omega
      have hrecorded : s.recordRestartWithElapsed componentId nowMs elapsedMs budget.windowMs =
          (.ok count, s') :=
        commitThen_eq_ok.mpr ⟨count, htx, ensure_bind_eq_ok.mpr ⟨hnarrow, rfl⟩⟩
      refine ⟨[countRestarts s componentId (elapsedMs - budget.windowMs), count], s',
        bind_eq_ok.mpr ⟨_, hcounted, ?_⟩, hlength.le⟩
      rw [if_pos hbelow, hrecorded]
      rfl
    · refine ⟨[countRestarts s componentId (elapsedMs - budget.windowMs)], s,
        bind_eq_ok.mpr ⟨_, hcounted, ?_⟩, Nat.le_succ _⟩
      rw [if_neg hbelow]
      rfl

/-- **Whole sequences.** From states that are in step the store answers what the budget answers,
and it answers at all while the times fit and the audit has room. -/
theorem Tracks.counts {calls : List RestartCall} (h : Tracks componentId s budget)
    (hmax : budget.maxEvents ≤ u32Max)
    (hfirst : ∀ call ∈ calls, budget.lastElapsedMs ≤ call.elapsedMs)
    (hclock : (calls.map RestartCall.elapsedMs).Pairwise (· ≤ ·)) :
    (∀ counts, s.restartCounts componentId budget.maxEvents budget.windowMs calls = .ok counts →
        counts = budget.counts calls) ∧
      (isName componentId 128 = true → (∀ call ∈ calls, ∀ t ∈ call.times, t < 2 ^ 63) →
        s.audit.length + calls.length ≤ auditLimit "component_restart_recorded" →
        ∃ counts, s.restartCounts componentId budget.maxEvents budget.windowMs calls =
          .ok counts) := by
  induction calls generalizing s budget with
  | nil =>
    refine ⟨fun counts hcounts => (pure_eq_ok.mp hcounts).symm, fun _ _ _ => ⟨[], rfl⟩⟩
  | cons call calls ih =>
    obtain ⟨hcall, -⟩ := List.forall_mem_cons.mp hfirst
    rw [List.map_cons, List.pairwise_cons] at hclock
    obtain ⟨hlater, hclock⟩ := hclock
    obtain ⟨hmax', hwindow'⟩ := RestartBudget.call_bounds budget call
    -- what holds of the rest in the states that the first call leads to
    have hih : ∀ answers s', s.restartCall componentId budget.maxEvents budget.windowMs call =
        .ok (answers, s') → _ := fun answers s' hok => by
      obtain ⟨-, hlast, htracks⟩ := h.call hmax hcall hok
      have hrest : ∀ call' ∈ calls, (budget.call call).2.lastElapsedMs ≤ call'.elapsedMs :=
        fun call' hmem => hlast.le.trans (hlater _ (List.mem_map_of_mem hmem))
      exact ih htracks (hmax'.le.trans hmax) hrest hclock
    rw [hmax', hwindow'] at hih
    constructor
    · intro counts hcounts
      obtain ⟨⟨answers, s'⟩, hok, hcounts⟩ := bind_eq_ok.mp hcounts
      obtain ⟨rest, hrest, hcounts⟩ := bind_eq_ok.mp hcounts
      cases pure_eq_ok.mp hcounts
      rw [RestartBudget.counts, (h.call hmax hcall hok).1, ← (hih answers s' hok).1 rest hrest]
    · intro hname htimes haudit
      obtain ⟨htime, htimes⟩ := List.forall_mem_cons.mp htimes
      rw [List.length_cons] at haudit
      obtain ⟨answers, s', hok, hlength⟩ := h.exists_call hmax hcall hname htime (by omega)
      obtain ⟨rest, hrest⟩ := (hih answers s' hok).2 hname htimes (by omega)
      exact ⟨answers ++ rest, bind_eq_ok.mpr ⟨_, hok, bind_eq_ok.mpr ⟨rest, hrest, rfl⟩⟩⟩

/-- **The budget is persisted.** On the readings of one clock, from a store without events of the
component, the store counts what a new budget counts. It refuses a call only where the name is
invalid, a time is outside the range of the database or the audit is full. -/
theorem restartCounts_eq (s : Store) (componentId : String) {maxEvents : Nat} (windowMs : Nat)
    (calls : List RestartCall)
    (hmax : maxEvents ≤ u32Max) (hnone : ∀ e ∈ s.restartEvents, e.componentId ≠ componentId)
    (hclock : (calls.map RestartCall.elapsedMs).Pairwise (· ≤ ·)) :
    (∀ counts, s.restartCounts componentId maxEvents windowMs calls = .ok counts →
        counts = (RestartBudget.new maxEvents windowMs).counts calls) ∧
      (isName componentId 128 = true → (∀ call ∈ calls, ∀ t ∈ call.times, t < 2 ^ 63) →
        s.audit.length + calls.length ≤ auditLimit "component_restart_recorded" →
        ∃ counts, s.restartCounts componentId maxEvents windowMs calls = .ok counts) := by
  have htimes : s.restartTimes componentId = [] := by
    rw [Store.restartTimes, List.map_eq_nil_iff, List.filter_eq_nil_iff]
    intro e he
    simpa using hnone e he
  have htracks : Tracks componentId s (RestartBudget.new maxEvents windowMs) :=
    { epoch := fun e he hid => absurd hid (hnone e he)
      past := by simp [htimes]
      events := by simp [htimes, RestartBudget.new]
      room := Nat.zero_le _ }
  exact htracks.counts hmax (fun _ _ => Nat.zero_le _) hclock

end Tracking

/-- Two restarts are admitted, a third is not, and later the window is empty again. -/
theorem restartCounts_eq_sample :
    let calls : List RestartCall := [.record 0 1, .record 5 1, .record 7 2, .count 30]
    (RestartBudget.new 2 10).counts calls = [0, 1, 1, 2, 2, 0] ∧
      sampleStore.restartCounts "gateway" 2 10 calls =
        .ok ((RestartBudget.new 2 10).counts calls) := by
  refine ⟨by decide, ?_⟩
  have hbudget : 2 ≤ u32Max := by decide
  obtain ⟨heq, hanswers⟩ := restartCounts_eq sampleStore "gateway" 10
    [.record 0 1, .record 5 1, .record 7 2, .count 30] hbudget (by decide +kernel) (by decide)
  obtain ⟨counts, hcounts⟩ := hanswers (by decide +kernel) (by decide) (by decide +kernel)
  rw [hcounts, heq counts hcounts]

end AscensionWatchdog
