import AscensionWatchdog.Platform.LinuxProcess

/-!
# Reported exits

A stop that reports an exit has to leave nothing behind: the cgroup of the launch was removed after
an empty reading of its membership, or it is missing, and for a process of known identity the exit
of the exact child was observed, or its creation token was found absent or reused. The readings
race with the processes, so this is about every sequence of answers of the host.

It holds for `force_stop` and `force_cleanup_planned_containment`. `graceful_stop` reads the
membership twice after the process was found exited, once to observe and once to clean up, and
reports the exit also where the second reading has members and the cgroup stays: its report is
sound exactly when the last membership that it has read is empty (`reported_exit_settled_iff`).
-/

namespace AscensionWatchdog.Platform

open Foundation Foundation.Program

/-! ### What a call has read -/

/-- The cgroup was removed right after an empty reading, or it is missing. -/
def Gone (log : List Event) : Prop :=
  .missing ∈ log ∨ [.members [], .removed] <:+: log

/-- The exit of the exact process is known. -/
def ExitProven (log : List Event) : Prop :=
  .exited ∈ log ∨ .status .absent ∈ log ∨ .status .reused ∈ log

def Event.membership : Event → Option (List Nat)
  | .members pids => some pids
  | _ => none

/-- The last membership that was read. -/
def lastMembers (log : List Event) : Option (List Nat) :=
  (log.filterMap Event.membership).getLast?

/-! ### What each part of a stop records -/

section Parts

variable {host : Host} {identity : ProcessIdentity} {name containment : String} {s s' : Machine}

theorem ask_eq_ok {α : Type} {answer : Nat → α} {a : α} :
    ask answer s = (some (.ok a), s') ↔
      answer s.tick = a ∧ { s with tick := s.tick + 1 } = s' := by
  simp [ask]

theorem record_eq_ok {event : Event} {u : Unit} :
    record event s = (some (.ok u), s') ↔ { s with log := s.log ++ [event] } = s' :=
  modify_eq_ok

theorem cgroupPids_eq_ok {pids : List Nat} :
    cgroupPids host name s = (some (.ok pids), s') ↔
      ∃ lines, host.procs s.tick = .ok lines ∧ collectPids name [] lines = .ok pids ∧
        s' = { s with tick := s.tick + 1, log := s.log ++ [.members pids] } := by
  unfold cgroupPids
  constructor
  · intro h
    obtain ⟨answer, t, hask, h⟩ := bind_eq_ok.mp h
    obtain ⟨hanswer, rfl⟩ := ask_eq_ok.mp hask
    cases answer with
    | error e => exact (fail_ne_ok h).elim
    | ok lines =>
      obtain ⟨collected, t, hcollect, h⟩ := bind_eq_ok.mp h
      obtain ⟨hpids, rfl⟩ := ofExcept_eq_ok.mp hcollect
      obtain ⟨u, t, hrecord, h⟩ := bind_eq_ok.mp h
      obtain ⟨rfl, rfl⟩ := pure_eq_ok.mp h
      exact ⟨lines, hanswer, hpids, (record_eq_ok.mp hrecord).symm⟩
  · rintro ⟨lines, hanswer, hcollect, rfl⟩
    refine bind_eq_ok.mpr ⟨_, _, ask_eq_ok.mpr ⟨hanswer, rfl⟩, ?_⟩
    exact bind_eq_ok.mpr ⟨pids, _, ofExcept_eq_ok.mpr ⟨hcollect, rfl⟩, rfl⟩

/-- A removal: the membership was read empty, and then the directory was removed. -/
theorem removeCgroup_eq_ok (h : removeCgroup host name s = (some (.ok ()), s')) :
    s'.log = s.log ++ [.members [], .removed] := by
  obtain ⟨pids, t, hpids, h⟩ := bind_eq_ok.mp h
  obtain ⟨lines, -, -, rfl⟩ := cgroupPids_eq_ok.mp hpids
  by_cases hempty : pids = []
  · subst hempty
    rw [if_pos rfl] at h
    obtain ⟨answer, t, hask, h⟩ := bind_eq_ok.mp h
    obtain ⟨-, rfl⟩ := ask_eq_ok.mp hask
    cases answer with
    | error e => exact (fail_ne_ok h).elim
    | ok u =>
      rw [← record_eq_ok.mp h]
      simp
  · rw [if_neg hempty] at h
    exact (fail_ne_ok h).elim

theorem maybeExisting_eq_ok {found : Bool}
    (h : maybeExisting host name s = (some (.ok found), s')) :
    s'.log = s.log ++ (if found then [] else [.missing]) := by
  obtain ⟨u, t, hname, h⟩ := bind_eq_ok.mp h
  obtain ⟨-, rfl⟩ := ofExcept_eq_ok.mp hname
  obtain ⟨answer, t, hask, h⟩ := bind_eq_ok.mp h
  obtain ⟨-, rfl⟩ := ask_eq_ok.mp hask
  match answer, h with
  | .error e, h => exact (fail_ne_ok h).elim
  | .ok true, h =>
    obtain ⟨rfl, rfl⟩ := pure_eq_ok.mp h
    simp
  | .ok false, h =>
    obtain ⟨u, t, hrecord, h⟩ := bind_eq_ok.mp h
    obtain ⟨rfl, rfl⟩ := pure_eq_ok.mp h
    rw [← record_eq_ok.mp hrecord]
    simp

theorem managed_keepExit {managed : ManagedProcess} {code : Option Int}
    (h : s.managed containment = some managed) :
    (s.keepExit containment code).managed containment =
      some { managed with exitStatus := some code } := by
  have hkey : ∀ m : ManagedProcess,
      ManagedProcess.containment { m with exitStatus := some code } = m.containment :=
    fun _ => rfl
  refine (lookup_updateWhere hkey).trans ?_
  have hcontainment : managed.containment = containment := (mem_of_lookup h).2
  rw [show lookup ManagedProcess.containment containment s.children = some managed from h]
  simp [hcontainment]

/-- A poll of the child records the exit that it reports, and keeps it. -/
theorem childState_eq_ok {state : ManagedChildState}
    (h : childState host containment s = (some (.ok state), s')) :
    s'.log = s.log ++ (if state.isExited then [.exited] else []) ∧
      (state.isExited = true → ∃ managed code,
        s'.managed containment = some managed ∧ managed.exitStatus = some code) := by
  obtain ⟨answer, t, hask, h⟩ := bind_eq_ok.mp h
  obtain ⟨-, rfl⟩ := ask_eq_ok.mp hask
  obtain ⟨managed?, t, hgets, h⟩ := bind_eq_ok.mp h
  obtain ⟨hmanaged, rfl⟩ := gets_eq_ok.mp hgets
  match managed?, h with
  | none, h =>
    obtain ⟨rfl, rfl⟩ := pure_eq_ok.mp h
    exact ⟨by simp [ManagedChildState.isExited], nofun⟩
  | some ⟨c, child, exitStatus, graceful, force⟩, h =>
    -- the cases of `ManagedProcess::state`
    match exitStatus, child, answer, h with
    | some code, child, answer, h =>
      obtain ⟨u, t, hrecord, h⟩ := bind_eq_ok.mp h
      obtain ⟨rfl, rfl⟩ := pure_eq_ok.mp h
      rw [← record_eq_ok.mp hrecord]
      exact ⟨by simp [ManagedChildState.isExited], fun _ => ⟨_, code, hmanaged, rfl⟩⟩
    | none, false, answer, h =>
      obtain ⟨rfl, rfl⟩ := pure_eq_ok.mp h
      exact ⟨by simp [ManagedChildState.isExited], nofun⟩
    | none, true, .error e, h => exact (fail_ne_ok h).elim
    | none, true, .ok none, h =>
      obtain ⟨rfl, rfl⟩ := pure_eq_ok.mp h
      exact ⟨by simp [ManagedChildState.isExited], nofun⟩
    | none, true, .ok (some code), h =>
      obtain ⟨u, t, hmodify, h⟩ := bind_eq_ok.mp h
      rw [modify_eq_ok] at hmodify
      obtain ⟨u', t', hrecord, h⟩ := bind_eq_ok.mp h
      obtain ⟨rfl, rfl⟩ := pure_eq_ok.mp h
      rw [← record_eq_ok.mp hrecord, ← hmodify]
      exact ⟨by simp [ManagedChildState.isExited, Machine.keepExit],
        fun _ => ⟨_, code, managed_keepExit hmanaged, rfl⟩⟩

/-- An exit that was read once is reported again. -/
theorem childState_of_exitStatus {managed : ManagedProcess} {code : Option Int}
    (hmanaged : s.managed containment = some managed) (hexit : managed.exitStatus = some code) :
    childState host containment s = (some (.ok (.exited code)),
      { s with tick := s.tick + 1, log := s.log ++ [.exited] }) := by
  have hgets : gets (ε := AdapterError) (·.managed containment) { s with tick := s.tick + 1 } =
      (some (.ok (some managed)), { s with tick := s.tick + 1 }) := gets_eq_ok.mpr ⟨hmanaged, rfl⟩
  refine bind_eq_ok.mpr ⟨_, _, ask_eq_ok.mpr ⟨rfl, rfl⟩, bind_eq_ok.mpr ⟨_, _, hgets, ?_⟩⟩
  simp only [hexit]
  rfl

/-- A cleanup that answered: it removed the cgroup of an exited child, it met a member, or the exit
of the child is not known. -/
theorem cleanupIfEmpty_eq_ok {cleaned : Bool}
    (h : cleanupIfEmpty host identity name s = (some (.ok cleaned), s')) :
    (cleaned = true ∧ s'.log = s.log ++ [.members [], .exited, .members [], .removed]) ∨
      (∃ pids, cleaned = false ∧ pids ≠ [] ∧ s'.log = s.log ++ [.members pids]) ∨
      (cleaned = false ∧ s'.log = s.log ++ [.members []] ∧
        ∀ managed, s.managed identity.containment = some managed → managed.exitStatus = none) := by
  obtain ⟨pids, t, hpids, h⟩ := bind_eq_ok.mp h
  obtain ⟨lines, -, -, rfl⟩ := cgroupPids_eq_ok.mp hpids
  by_cases hempty : pids = []
  · subst hempty
    rw [if_pos rfl] at h
    obtain ⟨state, t, hstate, h⟩ := bind_eq_ok.mp h
    have hlog := (childState_eq_ok hstate).1
    by_cases hexited : state.isExited = true
    · rw [if_pos hexited] at h hlog
      obtain ⟨u, t', hremove, h⟩ := bind_eq_ok.mp h
      obtain ⟨u', t'', hforget, h⟩ := bind_eq_ok.mp h
      obtain ⟨rfl, rfl⟩ := pure_eq_ok.mp h
      refine .inl ⟨rfl, ?_⟩
      rw [← modify_eq_ok.mp hforget, removeCgroup_eq_ok hremove, hlog]
      simp
    · rw [if_neg hexited] at h hlog
      obtain ⟨rfl, rfl⟩ := pure_eq_ok.mp h
      refine .inr (.inr ⟨rfl, by simpa using hlog, fun managed hmanaged => ?_⟩)
      -- a kept exit would have been reported
      cases hstatus : managed.exitStatus with
      | none => rfl
      | some code =>
        have hagain := hstate.symm.trans (childState_of_exitStatus hmanaged hstatus)
        cases hagain
        exact (hexited rfl).elim
  · rw [if_neg hempty] at h
    obtain ⟨rfl, rfl⟩ := pure_eq_ok.mp h
    exact .inr (.inl ⟨pids, rfl, hempty, rfl⟩)

/-- A round of a wait that ended it. -/
theorem waitRound_eq_ok (h : waitRound host identity name s = (some (.ok true), s')) :
    s'.log = s.log ++ [.exited, .members [], .members [], .removed] := by
  obtain ⟨state, t, hstate, h⟩ := bind_eq_ok.mp h
  obtain ⟨pids, t', hpids, h⟩ := bind_eq_ok.mp h
  obtain ⟨lines, -, -, rfl⟩ := cgroupPids_eq_ok.mp hpids
  by_cases hdone : pids = [] ∧ state.isExited = true
  · obtain ⟨rfl, hexited⟩ := hdone
    have hlog := (childState_eq_ok hstate).1
    rw [if_pos ⟨rfl, hexited⟩] at h
    rw [if_pos hexited] at hlog
    obtain ⟨u, t', hremove, h⟩ := bind_eq_ok.mp h
    obtain ⟨u', t'', hforget, h⟩ := bind_eq_ok.mp h
    obtain ⟨-, rfl⟩ := pure_eq_ok.mp h
    rw [← modify_eq_ok.mp hforget, removeCgroup_eq_ok hremove, hlog]
    simp
  · rw [if_neg hdone] at h
    cases (pure_eq_ok.mp h).1

theorem waitContainmentRound_eq_ok
    (h : waitContainmentRound host name s = (some (.ok true), s')) :
    s'.log = s.log ++ [.members [], .members [], .removed] := by
  obtain ⟨pids, t', hpids, h⟩ := bind_eq_ok.mp h
  obtain ⟨lines, -, -, rfl⟩ := cgroupPids_eq_ok.mp hpids
  by_cases hempty : pids = []
  · subst hempty
    rw [if_pos rfl] at h
    obtain ⟨u, t', hremove, h⟩ := bind_eq_ok.mp h
    obtain ⟨u', t'', hmodify, h⟩ := bind_eq_ok.mp h
    obtain ⟨-, rfl⟩ := pure_eq_ok.mp h
    rw [← modify_eq_ok.mp hmodify, removeCgroup_eq_ok hremove]
    simp
  · rw [if_neg hempty] at h
    cases (pure_eq_ok.mp h).1

/-- A wait that ended before its deadline ended with one of its rounds. -/
theorem pollRounds_eq_ok {round : AdapterM Bool} {events : List Event}
    (hround : ∀ s s', round s = (some (.ok true), s') → s'.log = s.log ++ events) (n : Nat)
    (h : pollRounds round n s = (some (.ok true), s')) : events <:+ s'.log := by
  induction n generalizing s with
  | zero => exact ⟨s.log, (hround s s' h).symm⟩
  | succ n ih =>
    obtain ⟨done, t, hdone, h⟩ := bind_eq_ok.mp h
    cases done with
    | false => exact ih h
    | true =>
      obtain ⟨-, rfl⟩ := pure_eq_ok.mp h
      exact ⟨s.log, (hround s t hdone).symm⟩

theorem awaitExit_eq_ok {graceful : Bool} {outcome : StopOutcome}
    (h : awaitExit host identity name graceful s = (some (.ok outcome), s'))
    (hexit : outcome ≠ .timedOut) :
    [.exited, .members [], .members [], .removed] <:+ s'.log := by
  obtain ⟨timeout, t, hgets, h⟩ := bind_eq_ok.mp h
  obtain ⟨done, t', hdone, h⟩ := bind_eq_ok.mp h
  cases done with
  | false => exact (hexit (pure_eq_ok.mp h).1.symm).elim
  | true =>
    obtain ⟨-, rfl⟩ := pure_eq_ok.mp h
    exact pollRounds_eq_ok (fun _ _ => waitRound_eq_ok) _ hdone

/-- What an observation of an exit has read. -/
theorem observeIdentity_exited {code : Option Int}
    (h : observeIdentity host identity name s = (some (.ok (.exited code)), s')) :
    s'.log = s.log ++ [.members [], .exited] ∧ ∃ managed code,
      s'.managed identity.containment = some managed ∧ managed.exitStatus = some code := by
  obtain ⟨pids, t, hpids, h⟩ := bind_eq_ok.mp h
  obtain ⟨lines, -, -, rfl⟩ := cgroupPids_eq_ok.mp hpids
  by_cases hempty : pids = []
  · subst hempty
    rw [if_pos rfl] at h
    obtain ⟨state, t, hstate, h⟩ := bind_eq_ok.mp h
    obtain ⟨hlog, hkept⟩ := childState_eq_ok hstate
    cases state with
    | alive => cases (pure_eq_ok.mp h).1
    | unknown => cases (pure_eq_ok.mp h).1
    | exited code =>
      obtain ⟨-, rfl⟩ := pure_eq_ok.mp h
      exact ⟨by simpa [ManagedChildState.isExited] using hlog, hkept rfl⟩
  · rw [if_neg hempty] at h
    split at h
    · cases (pure_eq_ok.mp h).1
    · obtain ⟨answer, t, hattempt, h⟩ := bind_eq_ok.mp h
      match answer, h with
      | .ok actual, h =>
        dsimp only at h
        split at h <;> cases (pure_eq_ok.mp h).1
      | .error e, h =>
        cases e with
        | unavailable message => cases (pure_eq_ok.mp h).1
        | _ => exact (fail_ne_ok h).elim

/-- An observation never reports a missing process. -/
theorem observeIdentity_ne_missing :
    observeIdentity host identity name s ≠ (some (.ok .missing), s') := by
  intro h
  obtain ⟨pids, t, hpids, h⟩ := bind_eq_ok.mp h
  split at h
  · obtain ⟨state, t, hstate, h⟩ := bind_eq_ok.mp h
    cases state <;> cases (pure_eq_ok.mp h).1
  split at h
  · cases (pure_eq_ok.mp h).1
  · obtain ⟨answer, t, hattempt, h⟩ := bind_eq_ok.mp h
    match answer, h with
    | .ok actual, h =>
      dsimp only at h
      split at h <;> cases (pure_eq_ok.mp h).1
    | .error e, h =>
      cases e with
      | unavailable message => cases (pure_eq_ok.mp h).1
      | _ => exact (fail_ne_ok h).elim

/-- A stop by the creation token has found it absent or reused, and reads nothing else. -/
theorem stopByCreation_eq_ok {outcome : StopOutcome}
    (h : stopByCreation host identity s = (some (.ok outcome), s')) :
    ∃ status, status ≠ MissingContainmentStatus.present ∧ s'.log = s.log ++ [.status status] := by
  obtain ⟨status, t, hstatus, h⟩ := bind_eq_ok.mp h
  have hpresent : status ≠ .present := by
    rintro rfl
    exact fail_ne_ok h
  obtain rfl : t = s' := by
    cases status with
    | present => exact (hpresent rfl).elim
    | absent => exact (pure_eq_ok.mp h).2
    | reused => exact (pure_eq_ok.mp h).2
  refine ⟨status, hpresent, ?_⟩
  unfold readProcessCreationStatus at hstatus
  split at hstatus
  · exact (fail_ne_ok hstatus).elim
  split at hstatus
  · exact (fail_ne_ok hstatus).elim
  obtain ⟨answer, t', hask, hstatus⟩ := bind_eq_ok.mp hstatus
  obtain ⟨-, rfl⟩ := ask_eq_ok.mp hask
  match answer, hstatus with
  | .error e, hstatus => exact (fail_ne_ok hstatus).elim
  | .ok (some none), hstatus => exact (fail_ne_ok hstatus).elim
  | .ok none, hstatus =>
    obtain ⟨u, t', hrecord, hstatus⟩ := bind_eq_ok.mp hstatus
    obtain ⟨rfl, rfl⟩ := pure_eq_ok.mp hstatus
    rw [← record_eq_ok.mp hrecord]
  | .ok (some (some ticks)), hstatus =>
    obtain ⟨u, t', hrecord, hstatus⟩ := bind_eq_ok.mp hstatus
    obtain ⟨rfl, rfl⟩ := pure_eq_ok.mp hstatus
    rw [← record_eq_ok.mp hrecord]

/-- A stop of a missing containment knows the exit, and reads no membership. -/
theorem stopMissingContainment_eq_ok {outcome : StopOutcome}
    (h : stopMissingContainment host identity s = (some (.ok outcome), s')) :
    ∃ events, s'.log = s.log ++ events ∧ ExitProven events ∧
      ∀ event ∈ events, event.membership = none := by
  obtain ⟨managed?, t, hgets, h⟩ := bind_eq_ok.mp h
  obtain ⟨-, rfl⟩ := gets_eq_ok.mp hgets
  have hproven : ∀ {status : MissingContainmentStatus}, status ≠ .present →
      ExitProven [.status status] := by
    intro status hpresent
    cases status <;> simp_all [ExitProven]
  cases managed? with
  | none =>
    obtain ⟨status, hpresent, hlog⟩ := stopByCreation_eq_ok h
    exact ⟨_, hlog, hproven hpresent, by simp [Event.membership]⟩
  | some managed =>
    obtain ⟨state, t, hstate, h⟩ := bind_eq_ok.mp h
    have hlog := (childState_eq_ok hstate).1
    cases state with
    | alive => exact (fail_ne_ok h).elim
    | exited code =>
      obtain ⟨u, t', hforget, h⟩ := bind_eq_ok.mp h
      obtain ⟨-, rfl⟩ := pure_eq_ok.mp h
      refine ⟨[.exited], ?_, .inl (by simp), by simp [Event.membership]⟩
      rw [← modify_eq_ok.mp hforget]
      exact hlog
    | unknown =>
      obtain ⟨outcome', t', hstop, h⟩ := bind_eq_ok.mp h
      obtain ⟨u, t'', hforget, h⟩ := bind_eq_ok.mp h
      obtain ⟨-, rfl⟩ := pure_eq_ok.mp h
      obtain ⟨status, hpresent, hstatus⟩ := stopByCreation_eq_ok hstop
      refine ⟨[.status status], ?_, hproven hpresent, by simp [Event.membership]⟩
      rw [← modify_eq_ok.mp hforget]
      simpa [hlog, ManagedChildState.isExited] using hstatus

end Parts

/-! ### The three calls -/

/-- The calls that report an exit. -/
inductive StopCall where
  | gracefulStop (identity : ProcessIdentity)
  | forceStop (identity : ProcessIdentity)
  | forceCleanupPlannedContainment (containment : String)

def StopCall.run (host : Host) : StopCall → AdapterM StopOutcome
  | .gracefulStop identity => Platform.gracefulStop host identity
  | .forceStop identity => Platform.forceStop host identity
  | .forceCleanupPlannedContainment containment =>
    Platform.forceCleanupPlannedContainment host containment

def StopCall.isGraceful : StopCall → Bool
  | .gracefulStop _ => true
  | _ => false

/-- What has to hold when a call has reported an exit. Only the stops know an identity. -/
def StopCall.Settled : StopCall → List Event → Prop
  | .forceCleanupPlannedContainment _, log => Gone log
  | _, log => Gone log ∧ ExitProven log

/-- A call after which nothing is left. -/
structure Clean (log : List Event) : Prop where
  gone : Gone log
  proven : ExitProven log
  empty : ∀ pids, lastMembers log = some pids → pids = []

section Calls

variable {host : Host} {identity : ProcessIdentity} {s s' : Machine} {outcome : StopOutcome}

theorem lastMembers_append {log events : List Event}
    (h : ∀ event ∈ events, event.membership = none) :
    lastMembers (log ++ events) = lastMembers log := by
  have hnone : events.filterMap Event.membership = [] := List.filterMap_eq_nil_iff.mpr h
  rw [lastMembers, List.filterMap_append, hnone, List.append_nil, lastMembers]

theorem lastMembers_of_removed {log : List Event} (h : [.members [], .removed] <:+ log) :
    lastMembers log = some [] := by
  obtain ⟨events, rfl⟩ := h
  have hread : [Event.members [], .removed].filterMap Event.membership = [[]] := rfl
  rw [lastMembers, List.filterMap_append, hread, List.getLast?_concat]

theorem Clean.of_removed {log : List Event} (hremoved : [.members [], .removed] <:+ log)
    (hproven : ExitProven log) : Clean log where
  gone := .inr hremoved.isInfix
  proven := hproven
  empty pids hread := by
    rw [lastMembers_of_removed hremoved] at hread
    exact (Option.some.inj hread).symm

theorem Clean.of_awaitExit {log : List Event}
    (h : [.exited, .members [], .members [], .removed] <:+ log) : Clean log := by
  refine .of_removed (List.IsSuffix.trans ?_ h) (.inl (h.subset (by simp)))
  exact ⟨[.exited, .members []], rfl⟩

theorem Clean.of_missing {t : Machine} (hlog : t.log = [.missing])
    (h : stopMissingContainment host identity t = (some (.ok outcome), s')) : Clean s'.log := by
  obtain ⟨events, hevents, hproven, hunread⟩ := stopMissingContainment_eq_ok h
  rw [hevents, hlog]
  refine ⟨.inl (by simp), ?_, fun pids hread => ?_⟩
  · exact hproven.imp (List.mem_cons_of_mem _)
      (Or.imp (List.mem_cons_of_mem _) (List.mem_cons_of_mem _))
  · rw [lastMembers_append hunread] at hread
    cases hread

/-- The cleanup after an observed exit either removes the cgroup or meets a member. -/
theorem cleanupIfEmpty_of_exited {name : String} {code : Option Int} {t : Machine} {cleaned : Bool}
    (hobserve : observeIdentity host identity name s = (some (.ok (.exited code)), t))
    (hclean : cleanupIfEmpty host identity name t = (some (.ok cleaned), s')) :
    (cleaned = true ∧ Clean s'.log) ∨
      ∃ pids, cleaned = false ∧ pids ≠ [] ∧
        s'.log = s.log ++ [.members [], .exited, .members pids] := by
  obtain ⟨hlog, managed, code', hmanaged, hstatus⟩ := observeIdentity_exited hobserve
  obtain ⟨rfl, hcleaned⟩ | ⟨pids, rfl, hpids, hcleaned⟩ | ⟨-, -, hunknown⟩ :=
    cleanupIfEmpty_eq_ok hclean
  · refine .inl ⟨rfl, .of_removed ?_ (.inl ?_)⟩
    · rw [hcleaned]
      exact List.IsSuffix.trans ⟨[.members [], .exited], rfl⟩ (List.suffix_append _ _)
    · simp [hcleaned]
  · exact .inr ⟨pids, rfl, hpids, by simpa [hlog] using hcleaned⟩
  · rw [hunknown managed hmanaged] at hstatus
    cases hstatus

/-- A graceful stop that reports an exit leaves nothing behind, or it found the process exited and
then read a member of its cgroup. -/
theorem gracefulStop_ending
    (h : gracefulStop host identity s.begin = (some (.ok outcome), s'))
    (hexit : outcome ≠ .timedOut) :
    Clean s'.log ∨ ∃ pids, pids ≠ [] ∧ s'.log = [.members [], .exited, .members pids] := by
  obtain ⟨name, t, hname, h⟩ := bind_eq_ok.mp h
  obtain ⟨-, rfl⟩ := ofExcept_eq_ok.mp hname
  obtain ⟨found, t, hfound, h⟩ := bind_eq_ok.mp h
  have hlog := maybeExisting_eq_ok hfound
  cases found with
  | false => exact .inl (.of_missing hlog h)
  | true =>
    obtain ⟨observation, t', hobserve, h⟩ := bind_eq_ok.mp h
    cases observation with
    | missing => exact (observeIdentity_ne_missing hobserve).elim
    | identityMismatch => exact (fail_ne_ok h).elim
    | ambiguous => exact (fail_ne_ok h).elim
    | running _ =>
      obtain ⟨u, t'', hterm, h⟩ := bind_eq_ok.mp h
      exact .inl (.of_awaitExit (awaitExit_eq_ok h hexit))
    | exited code =>
      obtain ⟨cleaned, t'', hclean, h⟩ := bind_eq_ok.mp h
      obtain ⟨-, rfl⟩ := pure_eq_ok.mp h
      have hbegin : t.log = [] := hlog
      -- the answer of the cleanup is dropped, so both of its ends are reported
      obtain ⟨-, hremoved⟩ | ⟨pids, -, hpids, hleft⟩ := cleanupIfEmpty_of_exited hobserve hclean
      · exact .inl hremoved
      · exact .inr ⟨pids, hpids, by rw [hleft, hbegin]; rfl⟩

/-- A forced stop that reports an exit leaves nothing behind. -/
theorem forceStop_ending
    (h : forceStop host identity s.begin = (some (.ok outcome), s'))
    (hexit : outcome ≠ .timedOut) : Clean s'.log := by
  obtain ⟨name, t, hname, h⟩ := bind_eq_ok.mp h
  obtain ⟨-, rfl⟩ := ofExcept_eq_ok.mp hname
  obtain ⟨found, t, hfound, h⟩ := bind_eq_ok.mp h
  have hlog := maybeExisting_eq_ok hfound
  have hkilled : ∀ {t' : Machine}, killAndAwait host identity name t' = (some (.ok outcome), s') →
      Clean s'.log := by
    intro t' hkill
    obtain ⟨u, t', -, hawait⟩ := bind_eq_ok.mp hkill
    exact .of_awaitExit (awaitExit_eq_ok hawait hexit)
  cases found with
  | false => exact .of_missing hlog h
  | true =>
    obtain ⟨observation, t', hobserve, h⟩ := bind_eq_ok.mp h
    cases observation with
    | missing => exact (observeIdentity_ne_missing hobserve).elim
    | identityMismatch => exact (fail_ne_ok h).elim
    | ambiguous => exact hkilled h
    | running _ => exact hkilled h
    | exited code =>
      obtain ⟨cleaned, t'', hclean, h⟩ := bind_eq_ok.mp h
      obtain ⟨rfl, hremoved⟩ | ⟨pids, rfl, -, -⟩ := cleanupIfEmpty_of_exited hobserve hclean
      · obtain ⟨-, rfl⟩ := pure_eq_ok.mp h
        exact hremoved
      · exact hkilled h

theorem forceCleanupPlannedContainment_ending {containment : String}
    (h : forceCleanupPlannedContainment host containment s.begin = (some (.ok outcome), s'))
    (hexit : outcome ≠ .timedOut) : [.members [], .removed] <:+ s'.log := by
  obtain ⟨name, t, hname, h⟩ := bind_eq_ok.mp h
  obtain ⟨found, t, hfound, h⟩ := bind_eq_ok.mp h
  cases found with
  | false => exact (fail_ne_ok h).elim
  | true =>
    obtain ⟨u, t, hretain, h⟩ := bind_eq_ok.mp h
    obtain ⟨u, t, hkill, h⟩ := bind_eq_ok.mp h
    obtain ⟨done, t', hdone, h⟩ := bind_eq_ok.mp h
    cases done with
    | false =>
      obtain ⟨u, t, hretain, h⟩ := bind_eq_ok.mp h
      exact (hexit (pure_eq_ok.mp h).1.symm).elim
    | true =>
      obtain ⟨-, rfl⟩ := pure_eq_ok.mp h
      refine List.IsSuffix.trans ⟨[.members []], rfl⟩ ?_
      exact pollRounds_eq_ok (fun _ _ => waitContainmentRound_eq_ok) _ hdone

/-- **A reported exit leaves nothing behind exactly when the last reading is empty.** Whatever the
host answers, when a call has reported an exit then its cgroup was removed after an empty reading or
is missing, and the exit of a process of known identity is proven, exactly when the last membership
that the call has read is empty. Only a graceful stop can read another one last. -/
theorem reported_exit_settled_iff (call : StopCall)
    (h : call.run host s.begin = (some (.ok outcome), s')) (hexit : outcome ≠ .timedOut) :
    (call.Settled s'.log ↔ ∀ pids, lastMembers s'.log = some pids → pids = []) ∧
      (call.isGraceful = false → call.Settled s'.log) := by
  cases call with
  | gracefulStop identity =>
    refine ⟨?_, nofun⟩
    obtain hclean | ⟨pids, hpids, hlog⟩ := gracefulStop_ending h hexit
    · exact ⟨fun _ => hclean.empty, fun _ => ⟨hclean.gone, hclean.proven⟩⟩
    · rw [hlog]
      constructor
      · rintro ⟨hmissing | hremoved, -⟩
        · simp at hmissing
        · have hmem : Event.removed ∈ [.members [], .exited, .members pids] :=
            hremoved.subset (by simp)
          simp at hmem
      · intro hempty
        exact (hpids (hempty pids rfl)).elim
  | forceStop identity =>
    have hclean := forceStop_ending h hexit
    exact ⟨⟨fun _ => hclean.empty, fun _ => ⟨hclean.gone, hclean.proven⟩⟩,
      fun _ => ⟨hclean.gone, hclean.proven⟩⟩
  | forceCleanupPlannedContainment containment =>
    have hremoved := forceCleanupPlannedContainment_ending h hexit
    have hgone : Gone s'.log := .inr hremoved.isInfix
    refine ⟨⟨fun _ pids hread => ?_, fun _ => hgone⟩, fun _ => hgone⟩
    rw [lastMembers_of_removed hremoved] at hread
    exact (Option.some.inj hread).symm

end Calls

/-! ### Concrete stops -/

/-- A process in the cgroup `ascension-1`. -/
def sampleIdentity : ProcessIdentity where
  deploymentId := "deployment"
  instanceId := "gateway"
  component := .gateway
  incarnation := "watchdog-generation-1"
  launchNonce := "nonce"
  creation := { token := "boot:7", pid := 7 }
  executable := "/usr/bin/gateway"
  executableSha256 := "digest"
  containment := "cgroup-v2:ascension-1"
  session := none

/-- A host on which the child has exited, and the membership is what was given for each tick. -/
def exitedHost (members : Nat → List Nat) : Host where
  bootId := "boot"
  cgroup _ := .ok true
  procs tick := .ok ((members tick).map some)
  kill _ := .ok ()
  removeDir _ := .ok ()
  tryWait _ := .ok (some (some 0))
  stat _ := .ok none
  live _ := .error (.unavailable "process 7 does not exist")
  pidfdOpen _ := .error "no such process"
  sendTerm _ := .error "no such process"
  rounds _ _ := 0

/-- The adapter that has launched the sample process. -/
def sampleMachine : Machine where
  children := [⟨"cgroup-v2:ascension-1", true, none, 1, 1⟩]
  uncertainContainments := []
  tick := 0
  log := []

/-- A forced stop of an exited process with an empty cgroup. -/
theorem reported_exit_settled_iff_forced :
    ∃ outcome s', StopCall.run (exitedHost fun _ => []) (.forceStop sampleIdentity)
        sampleMachine.begin = (some (.ok outcome), s') ∧ outcome ≠ .timedOut ∧
      (StopCall.forceStop sampleIdentity).Settled s'.log := by
  have hstop : StopCall.run (exitedHost fun _ => []) (.forceStop sampleIdentity)
      sampleMachine.begin = (some (.ok .alreadyExited), _) := rfl
  have hexit : StopOutcome.alreadyExited ≠ .timedOut := by decide
  exact ⟨_, _, hstop, hexit, (reported_exit_settled_iff _ hstop hexit).2 rfl⟩

/-- A graceful stop that reads an empty membership, sees the exit and then reads a member: it
reports an exit, and the cgroup is neither removed nor missing. -/
theorem graceful_exit_leaves_cgroup :
    ∃ s', StopCall.run (exitedHost fun tick => if tick = 3 then [8] else [])
        (.gracefulStop sampleIdentity) sampleMachine.begin = (some (.ok .alreadyExited), s') ∧
      s'.log = [.members [], .exited, .members [8]] ∧
      ¬ (StopCall.gracefulStop sampleIdentity).Settled s'.log := by
  refine ⟨_, rfl, by decide, ?_⟩
  rintro ⟨hmissing | hremoved, -⟩
  · exact absurd hmissing (by decide)
  · exact absurd (hremoved.subset (by decide : Event.removed ∈ [.members [], .removed])) (by decide)

end AscensionWatchdog.Platform
