import AscensionWatchdog.Platform.Exits
import AscensionWatchdog.Supervisor.World

/-!
# Stopping an owned Linux process

`NativeBackend::stop` asks for a graceful stop and, where that runs into its deadline or the adapter
is not able to signal, kills the cgroup. This file says when one such call ends the process and
removes its cgroup, on a host that does its part (`Host.Responsive`): the membership is readable, an
emptied cgroup stays empty, the leader is not replaced by another process, a dead direct child can
be reaped, and `cgroup.kill` empties the cgroup before the deadline.

Two more things are needed, and they are exact (`nativeStop_succeeds_iff`). The adapter holds the
`Child` of the process: an identity that was rebuilt from its proof after a restart has none, its
exit is never observed, and every wait runs into its deadline. And the leader is alive while the
graceful stage checks it, unless the cgroup is already empty: a populated cgroup without its leader
is reported as an identity mismatch, and such an error does not lead to a kill.
-/

namespace AscensionWatchdog.Platform

open Foundation Foundation.Program

/-! ### The call -/

def mapStopOutcome : StopOutcome → RuntimeStopOutcome
  | .exited => .exited none
  | .alreadyExited => .alreadyExited
  | .timedOut => .timedOut

/-- The two stages of a stop: only a deadline and a missing ability lead to the second one. -/
def stopStages (host : Host) (identity : ProcessIdentity) : AdapterM StopOutcome := do
  match ← attempt (gracefulStop host identity) with
  | .ok .timedOut => forceStop host identity
  | .error (.unavailable _) => forceStop host identity
  | .error (.unsupported _) => forceStop host identity
  | .ok outcome => return outcome
  | .error e => fail e

/-- `NativeBackend::stop` on the cgroup backend. -/
def nativeStop (host : Host) (identity : ProcessIdentity) :
    Program Machine WatchdogError RuntimeStopOutcome := do
  let outcome ← mapError mapAdapterError (stopStages host identity)
  return mapStopOutcome outcome

/-! ### A host that does its part -/

/-- The cgroup of a process with the given membership at each tick, on a host whose answers agree
with it. The leader is the direct child of the adapter that has launched it. -/
structure Host.Responsive (host : Host) (identity : ProcessIdentity) (members : Nat → List Nat) :
    Prop where
  cgroup : ∀ t, host.cgroup t = .ok true
  procs : ∀ t name, ∃ lines, host.procs t = .ok lines ∧ collectPids name [] lines = .ok (members t)
  /-- a process number of the kernel -/
  pid : 0 < identity.creation.pid ∧ identity.creation.pid < 2 ^ 31
  stays_empty : ∀ {t t'}, t ≤ t' → members t = [] → members t' = []
  stays_dead : ∀ {t t'}, t ≤ t' → identity.creation.pid ∉ members t →
    identity.creation.pid ∉ members t'
  /-- the leader is not contradicted by another process -/
  live : ∀ t, identity.creation.pid ∈ members t →
    ∃ actual, host.live t = .ok actual ∧ identitiesMatch identity actual = true
  gone : ∀ t, identity.creation.pid ∉ members t → ∃ e, host.live t = .error (.unavailable e)
  alive : ∀ t, identity.creation.pid ∈ members t → host.tryWait t = .ok none
  reapable : ∀ t, identity.creation.pid ∉ members t → ∃ code, host.tryWait t = .ok (some code)
  kill : ∀ t, host.kill t = .ok ()
  removeDir : ∀ t, members t = [] → host.removeDir t = .ok ()

/-- The adapter holds the child of the process, or has read its exit. -/
def HasChild (s : Machine) (identity : ProcessIdentity) : Prop :=
  ∃ managed, s.managed identity.containment = some managed ∧
    (managed.child = true ∨ managed.exitStatus.isSome = true)

/-- The leader passes the two membership readings around the signal, which begin at the tick; the
second one is not made where the process cannot be opened or is gone before it. -/
def LeaderHeld (host : Host) (identity : ProcessIdentity) (members : Nat → List Nat) (t : Nat) :
    Prop :=
  identity.creation.pid ∈ members t ∧ (host.pidfdOpen (t + 1) ≠ .ok () ∨
    identity.creation.pid ∉ members (t + 2) ∨ identity.creation.pid ∈ members (t + 3))

/-- What a part of a stop leaves as it was. -/
structure Kept (identity : ProcessIdentity) (s s' : Machine) : Prop where
  child : HasChild s' identity ↔ HasChild s identity
  timeout : ∀ graceful, timeoutFor identity graceful s' = timeoutFor identity graceful s
  log : s.log <+: s'.log

section Parts

variable {host : Host} {identity : ProcessIdentity} {members : Nat → List Nat} {name : String}

theorem Kept.trans {s t s' : Machine} (h : Kept identity s t) (h' : Kept identity t s') :
    Kept identity s s' where
  child := h'.child.trans h.child
  timeout graceful := (h'.timeout graceful).trans (h.timeout graceful)
  log := h.log.trans h'.log

/-- Steps that leave the children alone. -/
theorem Kept.of_children {s s' : Machine} (h : s'.children = s.children) (hlog : s.log <+: s'.log) :
    Kept identity s s' := by
  have hmanaged : s'.managed identity.containment = s.managed identity.containment := by
    rw [Machine.managed, h, Machine.managed]
  exact ⟨by rw [HasChild, hmanaged, HasChild], fun _ => by rw [timeoutFor, hmanaged, timeoutFor],
    hlog⟩

theorem cgroupPids_responsive (hr : host.Responsive identity members) (name : String)
    (s : Machine) : cgroupPids host name s = (some (.ok (members s.tick)),
      { s with tick := s.tick + 1, log := s.log ++ [.members (members s.tick)] }) := by
  obtain ⟨lines, hlines, hcollect⟩ := hr.procs s.tick name
  exact cgroupPids_eq_ok.mpr ⟨lines, hlines, hcollect, rfl⟩

theorem removeCgroup_responsive (hr : host.Responsive identity members) {s : Machine}
    (hempty : members s.tick = []) : removeCgroup host name s = (some (.ok ()),
      { s with tick := s.tick + 2, log := s.log ++ [.members []] ++ [.removed] }) := by
  have hlater : members (s.tick + 1) = [] := hr.stays_empty (Nat.le_succ _) hempty
  have hpids := cgroupPids_responsive hr name s
  rw [hempty] at hpids
  refine bind_eq_ok.mpr ⟨[], _, hpids, ?_⟩
  rw [if_pos rfl]
  exact bind_eq_ok.mpr ⟨_, _, ask_eq_ok.mpr ⟨hr.removeDir _ hlater, rfl⟩, rfl⟩

/-- Keeping an exit status changes neither that there is a child nor the deadlines. -/
theorem Kept.keepExit {s : Machine} (code : Option Int) (hchild : HasChild s identity) :
    Kept identity s (s.keepExit identity.containment code) := by
  obtain ⟨managed, hmanaged, hknown⟩ := hchild
  have hkept : (s.keepExit identity.containment code).managed identity.containment =
      some { managed with exitStatus := some code } := managed_keepExit hmanaged
  refine ⟨iff_of_true ⟨_, hkept, .inr rfl⟩ ⟨managed, hmanaged, hknown⟩, fun graceful => ?_, ?_⟩
  · simp only [timeoutFor, hkept, hmanaged]
  · exact List.prefix_rfl

/-- A poll of the child answers; it reports the exit of a dead leader, and nothing where the adapter
has no child. -/
theorem childState_responsive (hr : host.Responsive identity members) (s : Machine) :
    ∃ state s', childState host identity.containment s = (some (.ok state), s') ∧
      s'.tick = s.tick + 1 ∧ Kept identity s s' ∧
      (¬ HasChild s identity → state = .unknown) ∧
      (HasChild s identity → identity.creation.pid ∉ members s.tick → state.isExited = true) := by
  have hask : ask host.tryWait s = (some (.ok (host.tryWait s.tick)),
      { s with tick := s.tick + 1 }) := rfl
  have hgets : (gets (·.managed identity.containment) : AdapterM _) { s with tick := s.tick + 1 } =
      (some (.ok (s.managed identity.containment)), { s with tick := s.tick + 1 }) := rfl
  have hstep : ∀ log, s.log <+: log → Kept identity s { s with tick := s.tick + 1, log } :=
    fun log hlog => .of_children rfl hlog
  unfold childState
  rw [bind_of_ok hask, bind_of_ok hgets]
  cases hmanaged : s.managed identity.containment with
  | none =>
    have hnone : ¬ HasChild s identity := by
      rintro ⟨managed, h, -⟩
      rw [hmanaged] at h
      cases h
    exact ⟨.unknown, _, rfl, rfl, hstep s.log List.prefix_rfl, fun _ => rfl,
      fun h => (hnone h).elim⟩
  | some managed =>
    obtain ⟨c, child, exitStatus, graceful, force⟩ := managed
    match exitStatus, child with
    | some code, child =>
      refine ⟨.exited code, _, rfl, rfl, hstep _ (List.prefix_append _ _), fun h => ?_,
        fun _ _ => rfl⟩
      exact (h ⟨_, hmanaged, .inr rfl⟩).elim
    | none, false =>
      have hnone : ¬ HasChild s identity := by
        rintro ⟨managed, h, hknown⟩
        rw [hmanaged] at h
        cases h
        simp at hknown
      exact ⟨.unknown, _, rfl, rfl, hstep s.log List.prefix_rfl, fun _ => rfl,
        fun h => (hnone h).elim⟩
    | none, true =>
      have hchild : HasChild s identity := ⟨_, hmanaged, .inl rfl⟩
      by_cases hleader : identity.creation.pid ∈ members s.tick
      · rw [hr.alive _ hleader]
        exact ⟨.alive, _, rfl, rfl, hstep s.log List.prefix_rfl, fun h => (h hchild).elim,
          fun _ h => (h hleader).elim⟩
      · obtain ⟨code, hcode⟩ := hr.reapable _ hleader
        rw [hcode]
        refine ⟨.exited code, _, rfl, rfl, ?_, fun h => (h hchild).elim, fun _ _ => rfl⟩
        have hkeep : Kept identity { s with tick := s.tick + 1 } _ := .keepExit code hchild
        exact (hstep s.log List.prefix_rfl).trans
          (hkeep.trans (.of_children rfl (List.prefix_append _ _)))

/-! ### Waits -/

/-- A round of a wait: it ends the wait with the cgroup removed or leaves the adapter as it was. It
ends it where the cgroup is empty and there is a child, and never where there is none. -/
theorem waitRound_responsive (hr : host.Responsive identity members) (name : String)
    (s : Machine) :
    ∃ done s', waitRound host identity name s = (some (.ok done), s') ∧ s.log <+: s'.log ∧
      (done = true → Event.removed ∈ s'.log) ∧
      (done = false → s'.tick = s.tick + 2 ∧ Kept identity s s') ∧
      (HasChild s identity → members s.tick = [] → done = true) ∧
      (¬ HasChild s identity → done = false) := by
  obtain ⟨state, t, hstate, htick, hkept, hunknown, hexited⟩ := childState_responsive hr s
  have hpids := cgroupPids_responsive hr name t
  rw [htick] at hpids
  unfold waitRound
  rw [bind_of_ok hstate, bind_of_ok hpids]
  have hread : Kept identity s { t with
      tick := s.tick + 2, log := t.log ++ [.members (members (s.tick + 1))] } :=
    hkept.trans (.of_children rfl (List.prefix_append _ _))
  by_cases hdone : members (s.tick + 1) = [] ∧ state.isExited = true
  · rw [if_pos hdone]
    have hlater : members (s.tick + 2) = [] := hr.stays_empty (Nat.le_succ _) hdone.1
    rw [bind_of_ok (removeCgroup_responsive hr hlater)]
    refine ⟨true, _, rfl, ?_, fun _ => by simp, nofun, fun _ _ => rfl, fun h => ?_⟩
    · exact hread.log.trans ((List.prefix_append _ _).trans (List.prefix_append _ _))
    · rw [hunknown h] at hdone
      cases hdone.2
  · rw [if_neg hdone]
    refine ⟨false, _, rfl, hread.log, nofun, fun _ => ⟨rfl, hread⟩, fun hchild hempty => ?_,
      fun _ => rfl⟩
    have hleader : identity.creation.pid ∉ members s.tick := by
      rw [hempty]
      exact List.not_mem_nil
    exact (hdone ⟨hr.stays_empty (Nat.le_succ _) hempty, hexited hchild hleader⟩).elim

/-- A wait with a child ends where the cgroup is empty in its last round. -/
theorem pollRounds_responsive (hr : host.Responsive identity members) (name : String) (n : Nat)
    (s : Machine) :
    ∃ done s', pollRounds (waitRound host identity name) n s = (some (.ok done), s') ∧
      s.log <+: s'.log ∧ (done = true → Event.removed ∈ s'.log) ∧
      (done = false → Kept identity s s') ∧
      (HasChild s identity → members (s.tick + 2 * n) = [] → done = true) ∧
      (¬ HasChild s identity → done = false) := by
  induction n generalizing s with
  | zero =>
    obtain ⟨done, s', hround, hlog, hremoved, hkept, hends, hnever⟩ :=
      waitRound_responsive hr name s
    exact ⟨done, s', hround, hlog, hremoved, fun h => (hkept h).2, hends, hnever⟩
  | succ n ih =>
    obtain ⟨done, t, hround, hlog, hremoved, hkept, -, hnever⟩ := waitRound_responsive hr name s
    unfold pollRounds
    rw [bind_of_ok hround]
    cases done with
    | true => exact ⟨true, t, rfl, hlog, hremoved, nofun, fun _ _ => rfl, hnever⟩
    | false =>
      obtain ⟨htick, hkept⟩ := hkept rfl
      obtain ⟨done, s', hrounds, hlog', hremoved', hkept', hends, hnever'⟩ := ih t
      refine ⟨done, s', hrounds, hlog.trans hlog', hremoved', fun h => hkept.trans (hkept' h),
        fun hchild hempty => hends (hkept.child.mpr hchild) ?_,
        fun h => hnever' (mt hkept.child.mp h)⟩
      rw [htick]
      have hlast : s.tick + 2 + 2 * n = s.tick + 2 * (n + 1) := by omega
      rw [hlast]
      exact hempty

/-- The end of a stage. -/
theorem awaitExit_responsive (hr : host.Responsive identity members) (name : String)
    (graceful : Bool) (s : Machine) :
    ∃ outcome s', awaitExit host identity name graceful s = (some (.ok outcome), s') ∧
      s.log <+: s'.log ∧ (outcome = .exited ∨ outcome = .timedOut) ∧
      (outcome = .exited → Event.removed ∈ s'.log ∧ HasChild s identity) ∧
      (outcome = .timedOut → Kept identity s s') ∧
      (HasChild s identity →
        members (s.tick + 2 * host.rounds (timeoutFor identity graceful s) s.tick) = [] →
        outcome = .exited) := by
  have hgets : (gets (timeoutFor identity graceful) : AdapterM Nat) s =
      (some (.ok (timeoutFor identity graceful s)), s) := rfl
  obtain ⟨done, s', hrounds, hlog, hremoved, hkept, hends, hnever⟩ := pollRounds_responsive hr name
    (host.rounds (timeoutFor identity graceful s) s.tick) s
  have hwait : waitForEmpty host identity name (timeoutFor identity graceful s) s =
      (some (.ok done), s') := hrounds
  unfold awaitExit
  rw [bind_of_ok hgets, bind_of_ok hwait]
  cases done with
  | true =>
    refine ⟨.exited, s', rfl, hlog, .inl rfl, fun _ => ⟨hremoved rfl, ?_⟩, nofun, fun _ _ => rfl⟩
    by_contra hnone
    cases hnever hnone
  | false =>
    refine ⟨.timedOut, s', rfl, hlog, .inr rfl, nofun, fun _ => hkept rfl, fun hchild hempty => ?_⟩
    cases hends hchild hempty

/-! ### The graceful stage -/

theorem readLiveProcess_apply {pid : Nat} (hpid : pid ≠ 0) (s : Machine) :
    readLiveProcess host pid s = (some (host.live s.tick), { s with tick := s.tick + 1 }) := by
  unfold readLiveProcess
  rw [if_neg hpid, bind_of_ok (show ask host.live s = (some (.ok (host.live s.tick)), _) from rfl)]
  cases host.live s.tick <;> rfl

/-- What an observation reports: the exit of the child of an empty cgroup, the leader where it is
alive, and otherwise nothing that a graceful stop acts on. -/
theorem observeIdentity_responsive (hr : host.Responsive identity members) (name : String)
    (s : Machine) :
    ∃ observation s', observeIdentity host identity name s = (some (.ok observation), s') ∧
      s'.tick = s.tick + (if members s.tick = [] ∨ identity.creation.pid ∈ members s.tick then 2
        else 1) ∧ Kept identity s s' ∧
      ((members s.tick = [] ∧ HasChild s identity ∧ (∃ code, observation = .exited code)) ∨
        (¬ (members s.tick = [] ∧ HasChild s identity) ∧
          identity.creation.pid ∉ members (s.tick + 1) ∧ observation = .ambiguous) ∨
        (identity.creation.pid ∈ members (s.tick + 1) ∧ observation = .running identity)) := by
  have hread : Kept identity s { s with
      tick := s.tick + 1, log := s.log ++ [.members (members s.tick)] } :=
    .of_children rfl (List.prefix_append _ _)
  unfold observeIdentity
  rw [bind_of_ok (cgroupPids_responsive hr name s)]
  by_cases hempty : members s.tick = []
  · rw [if_pos hempty, if_pos (.inl hempty)]
    have hdead : identity.creation.pid ∉ members (s.tick + 1) := by
      rw [hr.stays_empty (Nat.le_succ _) hempty]
      exact List.not_mem_nil
    obtain ⟨state, t, hstate, htick, hkept, hunknown, hexited⟩ := childState_responsive hr
      { s with tick := s.tick + 1, log := s.log ++ [.members (members s.tick)] }
    rw [bind_of_ok hstate]
    by_cases hchild : HasChild s identity
    · have hstate := hexited (hread.child.mpr hchild) hdead
      cases state with
      | alive => cases hstate
      | unknown => cases hstate
      | exited code =>
        exact ⟨.exited code, t, rfl, htick, hread.trans hkept, .inl ⟨hempty, hchild, code, rfl⟩⟩
    · rw [hunknown (mt hread.child.mp hchild)]
      exact ⟨.ambiguous, t, rfl, htick, hread.trans hkept,
        .inr (.inl ⟨fun h => hchild h.2, hdead, rfl⟩)⟩
  · rw [if_neg hempty]
    by_cases hleader : identity.creation.pid ∈ members s.tick
    · rw [if_neg (by simpa using hleader), if_pos (.inr hleader)]
      have hzero : identity.creation.pid ≠ 0 := Nat.ne_of_gt hr.pid.1
      rw [bind_of_ok (attempt_of_answer (readLiveProcess_apply hzero _))]
      by_cases hlater : identity.creation.pid ∈ members (s.tick + 1)
      · obtain ⟨actual, hactual, hmatch⟩ := hr.live _ hlater
        simp only [hactual]
        rw [if_pos hmatch]
        exact ⟨_, _, rfl, rfl, .of_children rfl (List.prefix_append _ _),
          .inr (.inr ⟨hlater, rfl⟩)⟩
      · obtain ⟨e, he⟩ := hr.gone _ hlater
        simp only [he]
        exact ⟨.ambiguous, _, rfl, rfl, .of_children rfl (List.prefix_append _ _),
          .inr (.inl ⟨fun h => hempty h.1, hlater, rfl⟩)⟩
    · rw [if_pos (by simpa using hleader), if_neg (by simp [hempty, hleader])]
      have hlater := hr.stays_dead (Nat.le_succ s.tick) hleader
      exact ⟨.ambiguous, _, rfl, rfl, hread, .inr (.inl ⟨fun h => hempty h.1, hlater, rfl⟩)⟩

/-- The signal: it is sent or cannot be sent where the leader is held, and otherwise the identity
is reported as contradicted. -/
theorem sendGracefulTerm_responsive (hr : host.Responsive identity members) (name : String)
    (s : Machine) :
    ∃ r s', sendGracefulTerm host identity name s = (some r, s') ∧ Kept identity s s' ∧
      (LeaderHeld host identity members s.tick → r = .ok () ∨ ∃ e, r = .error (.unavailable e)) ∧
      (¬ LeaderHeld host identity members s.tick → ∃ e, r = .error (.identityMismatch e)) := by
  have hzero : identity.creation.pid ≠ 0 := Nat.ne_of_gt hr.pid.1
  have hrange : ¬ 2 ^ 31 ≤ identity.creation.pid := Nat.not_le_of_gt hr.pid.2
  unfold sendGracefulTerm
  rw [bind_of_ok (cgroupPids_responsive hr name s)]
  by_cases hleader : identity.creation.pid ∈ members s.tick
  case neg =>
    rw [if_pos (by simpa using hleader)]
    exact ⟨_, _, rfl, .of_children rfl (List.prefix_append _ _), fun h => (hleader h.1).elim,
      fun _ => ⟨_, rfl⟩⟩
  rw [if_neg (by simpa using hleader), if_neg hrange, if_neg hzero,
    bind_of_ok (show ask host.pidfdOpen _ = (some (.ok (host.pidfdOpen (s.tick + 1))), _) from rfl)]
  cases hopen : host.pidfdOpen (s.tick + 1) with
  | error e =>
    exact ⟨_, _, rfl, .of_children rfl (List.prefix_append _ _), fun _ => .inr ⟨_, rfl⟩,
      fun h => (h ⟨hleader, .inl (by simp [hopen])⟩).elim⟩
  | ok u =>
    simp only
    by_cases hlive : identity.creation.pid ∈ members (s.tick + 2)
    case neg =>
      obtain ⟨e, he⟩ := hr.gone _ hlive
      have hread : readLiveProcess host identity.creation.pid { s with
          tick := s.tick + 2, log := s.log ++ [.members (members s.tick)] } =
          (some (.error (.unavailable e)), _) :=
        (readLiveProcess_apply hzero _).trans (by rw [he])
      rw [bind_of_error hread]
      exact ⟨_, _, rfl, .of_children rfl (List.prefix_append _ _), fun _ => .inr ⟨e, rfl⟩,
        fun h => (h ⟨hleader, .inr (.inl hlive)⟩).elim⟩
    obtain ⟨actual, hactual, hmatch⟩ := hr.live _ hlive
    have hread : readLiveProcess host identity.creation.pid { s with
        tick := s.tick + 2, log := s.log ++ [.members (members s.tick)] } =
        (some (.ok actual), _) :=
      (readLiveProcess_apply hzero _).trans (by rw [hactual])
    rw [bind_of_ok hread, if_neg (by simp [hmatch]), bind_of_ok (cgroupPids_responsive hr name _)]
    have hlog : s.log <+: s.log ++ [.members (members s.tick)] ++
        [.members (members (s.tick + 3))] :=
      (List.prefix_append _ _).trans (List.prefix_append _ _)
    by_cases hlater : identity.creation.pid ∈ members (s.tick + 3)
    case neg =>
      rw [if_pos (by simpa using hlater)]
      refine ⟨_, _, rfl, .of_children rfl hlog, fun h => ?_, fun _ => ⟨_, rfl⟩⟩
      rcases h.2 with hopened | hdead | hheld
      · exact (hopened hopen).elim
      · exact (hdead hlive).elim
      · exact (hlater hheld).elim
    have hheld : LeaderHeld host identity members s.tick := ⟨hleader, .inr (.inr hlater)⟩
    rw [if_neg (by simpa using hlater), bind_of_ok
      (show ask host.sendTerm _ = (some (.ok (host.sendTerm (s.tick + 4))), _) from rfl)]
    cases host.sendTerm (s.tick + 4) with
    | error e =>
      exact ⟨_, _, rfl, .of_children rfl hlog, fun _ => .inr ⟨_, rfl⟩, fun h => (h hheld).elim⟩
    | ok u =>
      exact ⟨.ok (), _, rfl, .of_children rfl (hlog.trans (List.prefix_append _ _)),
        fun _ => .inl rfl, fun h => (h hheld).elim⟩

theorem cleanupIfEmpty_responsive (hr : host.Responsive identity members) (name : String)
    {s : Machine} (hempty : members s.tick = []) (hchild : HasChild s identity) :
    ∃ s', cleanupIfEmpty host identity name s = (some (.ok true), s') ∧
      Event.removed ∈ s'.log := by
  have hpids := cgroupPids_responsive hr name s
  rw [hempty] at hpids
  have hlater : ∀ {t}, s.tick ≤ t → members t = [] := fun ht => hr.stays_empty ht hempty
  obtain ⟨state, t, hstate, htick, hkept, -, hexited⟩ := childState_responsive hr
    { s with tick := s.tick + 1, log := s.log ++ [.members []] }
  have hdead : identity.creation.pid ∉ members (s.tick + 1) := by
    rw [hlater (Nat.le_succ _)]
    exact List.not_mem_nil
  have hstate' := hexited hchild hdead
  have hremove : members t.tick = [] := by
    rw [htick]
    exact hlater (Nat.le_add_right s.tick 2)
  unfold cleanupIfEmpty
  rw [bind_of_ok hpids, if_pos rfl, bind_of_ok hstate, if_pos hstate',
    bind_of_ok (removeCgroup_responsive hr hremove)]
  exact ⟨_, rfl, by simp⟩

theorem maybeExisting_responsive (hr : host.Responsive identity members)
    (hname : validateCgroupName name = .ok ()) (s : Machine) :
    maybeExisting host name s = (some (.ok true), { s with tick := s.tick + 1 }) := by
  refine bind_eq_ok.mpr ⟨(), s, ofExcept_eq_ok.mpr ⟨hname, rfl⟩, ?_⟩
  exact bind_eq_ok.mpr ⟨_, _, ask_eq_ok.mpr ⟨hr.cgroup _, rfl⟩, rfl⟩

theorem validateCgroupName_of_containmentName {containment : String}
    (h : containmentName containment = .ok name) : validateCgroupName name = .ok () := by
  obtain ⟨-, h⟩ := ensure_bind_eq_ok.mp h
  obtain ⟨hvalid, h⟩ := check_bind_eq_ok.mp h
  exact Foundation.pure_eq_ok.mp h ▸ hvalid

end Parts

/-! ### The two stages -/

section Stages

variable {host : Host} {identity : ProcessIdentity} {members : Nat → List Nat} {name : String}

/-- The checks of the graceful stage, which begins at the tick, find the cgroup empty or hold the
leader. -/
def Verified (host : Host) (identity : ProcessIdentity) (members : Nat → List Nat) (t : Nat) :
    Prop :=
  members (t + 1) = [] ∨ LeaderHeld host identity members (t + 3)

/-- A graceful stop: the process is ended and its cgroup removed, or its identity is not verified,
or the second stage follows. -/
theorem gracefulStop_responsive (hr : host.Responsive identity members)
    (hname : containmentName identity.containment = .ok name) (s : Machine) :
    ∃ r s', gracefulStop host identity s = (some r, s') ∧
      ((HasChild s identity ∧ Verified host identity members s.tick ∧ Event.removed ∈ s'.log ∧
          (r = .ok .alreadyExited ∨ r = .ok .exited)) ∨
        (¬ (HasChild s identity ∧ Verified host identity members s.tick) ∧
          ∃ e, r = .error (.identityMismatch e)) ∨
        (Verified host identity members s.tick ∧ Kept identity s s' ∧
          (r = .ok .timedOut ∨ ∃ e, r = .error (.unavailable e)))) := by
  have hparsed : (Program.ofExcept (containmentName identity.containment) : AdapterM String) s =
      (some (.ok name), s) := ofExcept_eq_ok.mpr ⟨hname, rfl⟩
  have hexists := maybeExisting_responsive hr (validateCgroupName_of_containmentName hname) s
  have hfound : Kept identity s { s with tick := s.tick + 1 } := .of_children rfl List.prefix_rfl
  obtain ⟨observation, t, hobserve, htick, hkept, hcases⟩ :=
    observeIdentity_responsive hr name { s with tick := s.tick + 1 }
  unfold gracefulStop
  rw [bind_of_ok hparsed, bind_of_ok hexists, if_pos rfl, bind_of_ok hobserve]
  obtain ⟨hempty, hchild, code, rfl⟩ | ⟨hunsettled, hdead, rfl⟩ | ⟨hleader, rfl⟩ := hcases
  · -- the cgroup is empty and the child has exited
    have hlater : members t.tick = [] :=
      hr.stays_empty (by rw [htick]; exact Nat.le_add_right _ _) hempty
    obtain ⟨s', hclean, hremoved⟩ :=
      cleanupIfEmpty_responsive hr name hlater (hkept.child.mpr hchild)
    exact ⟨.ok .alreadyExited, s', by simp only [bind_of_ok hclean]; rfl,
      .inl ⟨hchild, .inl hempty, hremoved, .inl rfl⟩⟩
  · -- populated without its leader, or empty and without a child
    refine ⟨_, _, rfl, .inr (.inl ⟨?_, _, rfl⟩)⟩
    rintro ⟨hchild, hempty | hheld⟩
    · exact hunsettled ⟨hempty, hchild⟩
    · exact hr.stays_dead (Nat.le_succ _) hdead hheld.1
  · -- the leader was seen alive
    have hpopulated : identity.creation.pid ∈ members (s.tick + 1) := by
      by_contra hdead
      exact hr.stays_dead (Nat.le_succ _) hdead hleader
    have hverified : Verified host identity members s.tick ↔
        LeaderHeld host identity members (s.tick + 3) := by
      refine or_iff_right fun hempty => ?_
      rw [hempty] at hpopulated
      cases hpopulated
    rw [if_pos (.inr hpopulated)] at htick
    obtain ⟨r, t', hterm, hkept', hsent, hrefused⟩ := sendGracefulTerm_responsive hr name t
    rw [htick, ← hverified] at hsent hrefused
    by_cases hheld : Verified host identity members s.tick
    case neg =>
      obtain ⟨e, rfl⟩ := hrefused hheld
      exact ⟨_, t', by simp only [bind_of_error hterm], .inr (.inl ⟨fun h => hheld h.2, e, rfl⟩)⟩
    obtain rfl | ⟨e, rfl⟩ := hsent hheld
    case inr =>
      exact ⟨_, t', by simp only [bind_of_error hterm],
        .inr (.inr ⟨hheld, hfound.trans (hkept.trans hkept'), .inr ⟨e, rfl⟩⟩)⟩
    have hbefore : Kept identity s t' := hfound.trans (hkept.trans hkept')
    obtain ⟨outcome, s', hawait, -, houtcome, hexited, htimedOut, -⟩ :=
      awaitExit_responsive hr name true t'
    refine ⟨.ok outcome, s', by simp only [bind_of_ok hterm]; exact hawait, ?_⟩
    obtain rfl | rfl := houtcome
    · obtain ⟨hremoved, hchild⟩ := hexited rfl
      exact .inl ⟨hbefore.child.mp hchild, hheld, hremoved, .inr rfl⟩
    · exact .inr (.inr ⟨hheld, hbefore.trans (htimedOut rfl), .inl rfl⟩)

/-- Killing the cgroup ends a process whose child is held, and no other. -/
theorem killAndAwait_responsive (hr : host.Responsive identity members) (name : String)
    (s : Machine) :
    ∃ outcome s', killAndAwait host identity name s = (some (.ok outcome), s') ∧
      Event.killed s.tick ∈ s'.log ∧
      (HasChild s identity → members (s.tick + 1 +
          2 * host.rounds (timeoutFor identity false s) (s.tick + 1)) = [] →
        outcome = .exited ∧ Event.removed ∈ s'.log) ∧
      (¬ HasChild s identity → outcome = .timedOut) := by
  have hkill : killAll host s = (some (.ok ()),
      { s with tick := s.tick + 1, log := s.log ++ [.killed s.tick] }) := by
    unfold killAll
    rw [bind_of_ok (show (gets (·.tick) : AdapterM Nat) s = (some (.ok s.tick), s) from rfl),
      bind_of_ok (ask_eq_ok.mpr ⟨hr.kill s.tick, rfl⟩)]
    rfl
  obtain ⟨outcome, s', hawait, hlog, houtcome, hexited, -, hends⟩ := awaitExit_responsive hr name
    false { s with tick := s.tick + 1, log := s.log ++ [.killed s.tick] }
  unfold killAndAwait
  rw [bind_of_ok hkill]
  refine ⟨outcome, s', hawait, hlog.subset (by simp), fun hchild hempty => ?_, fun hnone => ?_⟩
  · have hdone := hends hchild hempty
    exact ⟨hdone, (hexited hdone).1⟩
  · obtain rfl | rfl := houtcome
    · exact (hnone (hexited rfl).2).elim
    · rfl

/-- A forced stop ends a process whose child is held, and no other. -/
theorem forceStop_responsive (hr : host.Responsive identity members)
    (hname : containmentName identity.containment = .ok name) (s : Machine) :
    ∃ outcome s', forceStop host identity s = (some (.ok outcome), s') ∧
      (HasChild s identity →
        (∀ k, Event.killed k ∈ s'.log →
          members (k + 1 + 2 * host.rounds (timeoutFor identity false s) (k + 1)) = []) →
        outcome ≠ .timedOut ∧ Event.removed ∈ s'.log) ∧
      (¬ HasChild s identity → outcome = .timedOut) := by
  have hparsed : (Program.ofExcept (containmentName identity.containment) : AdapterM String) s =
      (some (.ok name), s) := ofExcept_eq_ok.mpr ⟨hname, rfl⟩
  have hexists := maybeExisting_responsive hr (validateCgroupName_of_containmentName hname) s
  have hfound : Kept identity s { s with tick := s.tick + 1 } := .of_children rfl List.prefix_rfl
  obtain ⟨observation, t, hobserve, htick, hkept, hcases⟩ :=
    observeIdentity_responsive hr name { s with tick := s.tick + 1 }
  have hbefore : Kept identity s t := hfound.trans hkept
  obtain ⟨outcome, s', hkill, hkilled, hends, hnever⟩ := killAndAwait_responsive hr name t
  have hstop : (HasChild s identity →
      (∀ k, Event.killed k ∈ s'.log →
        members (k + 1 + 2 * host.rounds (timeoutFor identity false s) (k + 1)) = []) →
      outcome ≠ .timedOut ∧ Event.removed ∈ s'.log) ∧
      (¬ HasChild s identity → outcome = .timedOut) := by
    refine ⟨fun hchild hemptied => ?_, fun hnone => hnever (mt hbefore.child.mp hnone)⟩
    have hempty := hemptied _ hkilled
    rw [← hbefore.timeout] at hempty
    obtain ⟨rfl, hremoved⟩ := hends (hbefore.child.mpr hchild) hempty
    exact ⟨by decide, hremoved⟩
  unfold forceStop
  rw [bind_of_ok hparsed, bind_of_ok hexists, if_pos rfl, bind_of_ok hobserve]
  obtain ⟨hempty, hchild, code, rfl⟩ | ⟨-, -, rfl⟩ | ⟨-, rfl⟩ := hcases
  · have hlater : members t.tick = [] :=
      hr.stays_empty (by rw [htick]; exact Nat.le_add_right _ _) hempty
    obtain ⟨s', hclean, hremoved⟩ :=
      cleanupIfEmpty_responsive hr name hlater (hkept.child.mpr hchild)
    refine ⟨.alreadyExited, s', by simp only [bind_of_ok hclean]; rfl,
      fun _ _ => ⟨by decide, hremoved⟩, fun hnone => (hnone hchild).elim⟩
  · exact ⟨outcome, s', hkill, hstop⟩
  · exact ⟨outcome, s', hkill, hstop⟩

/-- **When a stop ends the process.** On a responsive host whose `cgroup.kill` empties the cgroup
before the last round of the forced wait, one stop reports the exit and removes the cgroup exactly
when the adapter holds the child of the process and the graceful stage finds the cgroup empty or
holds the leader. -/
theorem nativeStop_succeeds_iff (hr : host.Responsive identity members)
    (hname : containmentName identity.containment = .ok name) (s : Machine)
    (hemptied : ∀ k, Event.killed k ∈ (nativeStop host identity s.begin).2.log →
      members (k + 1 + 2 * host.rounds (timeoutFor identity false s) (k + 1)) = []) :
    ((∃ outcome, (nativeStop host identity s.begin).1 = some (.ok outcome) ∧
        outcome.isGone = true) ∧ Event.removed ∈ (nativeStop host identity s.begin).2.log) ↔
      HasChild s identity ∧ Verified host identity members s.tick := by
  obtain ⟨r, t, hgraceful, hcases⟩ := gracefulStop_responsive hr hname s.begin
  have hattempt : (attempt (gracefulStop host identity) : AdapterM _) s.begin =
      (some (.ok r), t) := attempt_of_answer hgraceful
  -- a stage that has answered is reported as it is
  have hreport : ∀ {outcome s'}, stopStages host identity s.begin = (some (.ok outcome), s') →
      nativeStop host identity s.begin = (some (.ok (mapStopOutcome outcome)), s') := by
    intro outcome s' h
    exact bind_eq_ok.mpr ⟨outcome, s', mapError_of_answer h, rfl⟩
  obtain ⟨hchild, hverified, hremoved, hr'⟩ | ⟨hunverified, e, rfl⟩ | ⟨hverified, hkept, hr'⟩ :=
    hcases
  · obtain ⟨outcome, hstages, hgone⟩ : ∃ outcome,
        stopStages host identity s.begin = (some (.ok outcome), t) ∧
          (mapStopOutcome outcome).isGone = true := by
      unfold stopStages
      rw [bind_of_ok hattempt]
      obtain rfl | rfl := hr'
      · exact ⟨.alreadyExited, rfl, rfl⟩
      · exact ⟨.exited, rfl, rfl⟩
    rw [hreport hstages]
    exact iff_of_true ⟨⟨_, rfl, hgone⟩, hremoved⟩ ⟨hchild, hverified⟩
  · refine iff_of_false ?_ hunverified
    have hstages : stopStages host identity s.begin = (some (.error (.identityMismatch e)), t) := by
      unfold stopStages
      rw [bind_of_ok hattempt]
      rfl
    have hfailed : nativeStop host identity s.begin = (some (.error (.identityMismatch e)), t) :=
      bind_of_error (mapError_of_answer hstages)
    rintro ⟨⟨outcome, houtcome, -⟩, -⟩
    rw [hfailed] at houtcome
    cases houtcome
  · obtain ⟨outcome, s', hforce, hends, hnever⟩ := forceStop_responsive hr hname t
    have hstages : stopStages host identity s.begin = (some (.ok outcome), s') := by
      unfold stopStages
      rw [bind_of_ok hattempt]
      obtain rfl | ⟨e, rfl⟩ := hr'
      · exact hforce
      · exact hforce
    rw [hreport hstages] at hemptied ⊢
    by_cases hchild : HasChild s identity
    · have htimeout : timeoutFor identity false t = timeoutFor identity false s :=
        hkept.timeout false
      obtain ⟨hexit, hremoved⟩ := hends (hkept.child.mpr hchild) (htimeout ▸ hemptied)
      refine iff_of_true ⟨⟨_, rfl, ?_⟩, hremoved⟩ ⟨hchild, hverified⟩
      cases outcome with
      | timedOut => exact (hexit rfl).elim
      | exited => rfl
      | alreadyExited => rfl
    · refine iff_of_false ?_ fun h => hchild h.1
      obtain rfl := hnever (mt hkept.child.mp hchild)
      rintro ⟨⟨outcome, houtcome, hgone⟩, -⟩
      cases houtcome
      cases hgone

end Stages

/-! ### Concrete stops -/

/-- A host on which the sample process and its cgroup are what the membership says, and a wait that
begins at the tick `14` has a second round. -/
def sampleHost (members : Nat → List Nat) : Host where
  bootId := "boot"
  cgroup _ := .ok true
  procs t := .ok ((members t).map some)
  kill _ := .ok ()
  removeDir _ := .ok ()
  tryWait t := .ok (if 7 ∈ members t then none else some (some 0))
  stat _ := .ok none
  live t := if 7 ∈ members t then .ok ⟨"boot:7", "/usr/bin/gateway", "digest", false⟩
    else .error (.unavailable "process 7 does not exist")
  pidfdOpen _ := .ok ()
  sendTerm _ := .ok ()
  rounds _ t := if t = 14 then 1 else 0

theorem sampleHost_responsive {members : Nat → List Nat}
    (hparse : ∀ t name, collectPids name [] ((members t).map some) = .ok (members t))
    (hempty : ∀ {t t'}, t ≤ t' → members t = [] → members t' = [])
    (hdead : ∀ {t t'}, t ≤ t' → 7 ∉ members t → 7 ∉ members t') :
    (sampleHost members).Responsive sampleIdentity members where
  cgroup _ := rfl
  procs t name := ⟨_, rfl, hparse t name⟩
  pid := by decide
  stays_empty := hempty
  stays_dead := hdead
  live t h := ⟨_, if_pos h, by decide⟩
  gone t h := ⟨_, if_neg h⟩
  alive t h := congrArg Except.ok (if_pos h)
  reapable t h := ⟨_, congrArg Except.ok (if_neg h)⟩
  kill _ := rfl
  removeDir _ _ := rfl

/-- The leader `7` and its descendant `8` until the kill has taken effect. -/
def stubborn (t : Nat) : List Nat :=
  if t < 15 then [7, 8] else []

private theorem stubborn_responsive :
    (sampleHost stubborn).Responsive sampleIdentity stubborn := by
  refine sampleHost_responsive (fun t name => ?_) (fun hle h => ?_) fun hle h => ?_
  · unfold stubborn
    split <;> rfl
  · simp only [stubborn, ite_eq_right_iff] at h ⊢
    exact fun hlt => h (by omega)
  · intro hmem
    refine h ?_
    simp only [stubborn] at hmem ⊢
    split at hmem
    · rw [if_pos (by omega)]
      simp
    · cases hmem

/-- A descendant `8` that has outlived its leader. -/
def orphaned (_ : Nat) : List Nat :=
  [8]

private theorem orphaned_responsive :
    (sampleHost orphaned).Responsive sampleIdentity orphaned :=
  sampleHost_responsive (fun _ _ => rfl) (fun _ h => h) (fun _ h => h)

private theorem sampleIdentity_name :
    containmentName sampleIdentity.containment = .ok "ascension-1" := by
  decide +kernel

private theorem stubborn_log :
    (nativeStop (sampleHost stubborn) sampleIdentity sampleMachine.begin).2.log =
      [.members [7, 8], .members [7, 8], .members [7, 8], .signalled, .members [7, 8],
        .members [7, 8], .killed 13, .members [], .exited, .members [], .members [], .removed] := by
  decide +kernel

/-- A launched process that ignores the signal: the kill ends it. -/
theorem nativeStop_succeeds_iff_stubborn :
    (∃ outcome, (nativeStop (sampleHost stubborn) sampleIdentity sampleMachine.begin).1 =
        some (.ok outcome) ∧ outcome.isGone = true) ∧
      Event.removed ∈
        (nativeStop (sampleHost stubborn) sampleIdentity sampleMachine.begin).2.log := by
  refine (nativeStop_succeeds_iff stubborn_responsive sampleIdentity_name sampleMachine ?_).mpr
    ⟨⟨⟨"cgroup-v2:ascension-1", true, none, 1, 1⟩, by decide +kernel, .inl rfl⟩,
      .inr ⟨by decide, .inr (.inr (by decide))⟩⟩
  intro k hk
  rw [stubborn_log] at hk
  obtain rfl : k = 13 := by simpa using hk
  decide

/-- The adapter of a supervisor that was started again. -/
def restartedMachine : Machine :=
  { sampleMachine with children := [] }

/-- The same process after a restart of its supervisor, where the adapter has no child: the kill
empties the cgroup, and the stop runs into its deadline and leaves the cgroup. And a launched
process whose leader has died before its descendant: the stop fails, and nothing is killed. -/
theorem rebuilt_or_orphaned_not_stopped :
    ((sampleHost stubborn).Responsive sampleIdentity stubborn ∧
      (nativeStop (sampleHost stubborn) sampleIdentity restartedMachine).1 =
        some (.ok .timedOut) ∧
      (nativeStop (sampleHost stubborn) sampleIdentity restartedMachine).2.log =
        [.members [7, 8], .members [7, 8], .members [7, 8], .signalled, .members [7, 8],
          .members [7, 8], .killed 13, .members [], .members []]) ∧
    ((sampleHost orphaned).Responsive sampleIdentity orphaned ∧
      (nativeStop (sampleHost orphaned) sampleIdentity sampleMachine).1 =
        some (.error (.identityMismatch "cannot gracefully stop an unverified cgroup member")) ∧
      (nativeStop (sampleHost orphaned) sampleIdentity sampleMachine).2.log = [.members [8]]) :=
  ⟨⟨stubborn_responsive, by decide +kernel⟩, ⟨orphaned_responsive, by decide +kernel⟩⟩

end AscensionWatchdog.Platform
