import AscensionWatchdog.Foundation.History
import AscensionWatchdog.Foundation.Programs
import AscensionWatchdog.Foundation.Runs
import AscensionWatchdog.Storage.Values

/-!
# The owned child of a process group

A synthetic component is a direct child of the watchdog and the leader of a process group of its
own. The number of the group is reserved for it until the leader is reaped; after that another
group may have it. So the group is killed, and read until no other member is found, before the
leader is reaped, and it is never signalled again.

The calls are programs whose system calls are answered from a list, as for the supervisor: every
call may fail, a reading of `/proc` may find anything, and a list that ends interrupts the call.
The events are the signals, the readings that found no other member, the reap, and the readings
after it that found the group gone.
-/

namespace AscensionWatchdog.Process

open Foundation

/-! ### System calls -/

/-- The end of a `kill` of the group. -/
inductive SignalResult where
  | delivered
  | noSuchProcess
  | failed (message : String)
  deriving DecidableEq, Repr

/-- The status of the group, read by a signal that is not sent. -/
inductive GroupStatus where
  | present
  | gone
  | failed (message : String)
  deriving DecidableEq, Repr

/-- The `stat` file of a process: what its text says of the process and its group, if it can be
made out. -/
inductive ProcStat where
  | missing
  | failed (message : String)
  | read (identity : Option (Nat × Int))
  deriving DecidableEq, Repr

/-- An entry of `/proc`, with the number that its name is, if it is one. -/
inductive ProcEntry where
  | failed (message : String)
  | named (pid : Option Nat) (stat : ProcStat)
  deriving DecidableEq, Repr

/-- An answer to one call of the system. -/
inductive ChildAnswer where
  /-- `waitid` without a reap: whether the child has exited -/
  | exited (result : Except String Bool)
  | signalled (result : SignalResult)
  | group (status : GroupStatus)
  | proc (entries : Except String (List ProcEntry))
  | reaped (result : Except String Int)
  | identity (result : Except WatchdogError Unit)
  /-- whether `/proc/<pid>/exe` is the approved executable -/
  | image (approved : Bool)
  /-- whether the deadline has passed -/
  | late (passed : Bool)

/-- What was done to the group and its leader. -/
inductive ChildEvent where
  | signalled
  /-- a signal to the direct child only -/
  | killed
  /-- a reading found no other member of the group -/
  | cleared
  | reaped
  /-- the group was found to be gone after the reap -/
  | gone
  deriving DecidableEq, Repr

/-- The handle of a child: the exit status that the standard library keeps after a reap, and whether
the authority over the group is disarmed. -/
structure OwnedChild where
  pid : Nat
  status : Option Int
  leaderReaped : Bool

structure ChildWorld where
  child : OwnedChild
  events : List ChildEvent
  answers : List ChildAnswer

abbrev ChildM (α : Type) : Type :=
  Program ChildWorld WatchdogError α

namespace ChildM

def ask {α : Type} (pick : ChildAnswer → Option α) : ChildM α := fun w =>
  match w.answers with
  | [] => (none, w)
  | answer :: rest =>
    match pick answer with
    | some a => (some (.ok a), { w with answers := rest })
    | none => (none, { w with answers := rest })

def emit (event : ChildEvent) : ChildM Unit :=
  .modify fun w => { w with events := w.events ++ [event] }

/-- Every round of a loop takes an answer, so that their number bounds the rounds. -/
def rounds : ChildM Nat :=
  .gets (·.answers.length + 1)

def checkDeadline (message : String) : ChildM Unit := do
  let late ← ask fun | .late passed => some passed | _ => none
  .ofExcept (ensure (late = false) (.timeout message))

end ChildM

open ChildM

/-! ### Observations -/

def observeChildExit : ChildM Bool := do
  let result ← ask fun | .exited r => some r | _ => none
  .ofExcept (result.mapError .io)

def ensureIdentity : ChildM Unit := do
  let result ← ask fun | .identity r => some r | _ => none
  .ofExcept result

def waitForChildExit : Nat → ChildM Unit
  | 0 => .interrupt
  | rounds + 1 => do
    let exited ← observeChildExit
    if exited then pure ()
    else do
      checkDeadline "owned child did not exit before cleanup deadline"
      waitForChildExit rounds

/-- The members of the group among the entries of `/proc`, the leader apart. -/
def scanMembers (pid : Nat) : List ProcEntry → Except WatchdogError Bool
  | [] => .ok false
  | .failed message :: _ => .error (.io message)
  | .named none _ :: entries => scanMembers pid entries
  | .named (some member) stat :: entries =>
    if member = pid then scanMembers pid entries
    else
      match stat with
      | .missing => scanMembers pid entries
      | .failed message => .error (.io message)
      | .read none =>
        .error (.conflict s!"cannot prove process-group membership for pid {member}")
      | .read (some (_, group)) =>
        if group = pid then .ok true else scanMembers pid entries

def readMembers : ChildM Bool := do
  let status ← ask fun | .group s => some s | _ => none
  match status with
  | .gone => pure false
  | .failed message => .fail (.io message)
  | .present => do
    let entries ← ask fun | .proc r => some r | _ => none
    let entries ← .ofExcept (entries.mapError .io)
    let child ← .gets ChildWorld.child
    .ofExcept (scanMembers child.pid entries)

/-- Whether the group has a member other than its leader. -/
def groupHasOtherMembers : ChildM Bool := do
  let others ← readMembers
  if others then pure true
  else do
    emit .cleared
    pure false

/-! ### The authority over the group -/

def isArmed : ChildM Bool :=
  .gets fun w => !w.child.leaderReaped

def disarmAfterReap : ChildM Unit :=
  .modify fun w => { w with child := { w.child with leaderReaped := true } }

def kill : ChildM Unit := do
  let armed ← isArmed
  .ofExcept (ensure (armed = true)
    (.conflict "owned child process-group authority was already disarmed"))
  emit .signalled
  let result ← ask fun | .signalled r => some r | _ => none
  match result with
  | .delivered | .noSuchProcess => pure ()
  | .failed message => .fail (.io message)

/-- Kill the group until a reading finds no member but the leader. -/
def cleanupBeforeReap : Nat → ChildM Unit
  | 0 => .interrupt
  | rounds + 1 => do
    kill
    let others ← groupHasOtherMembers
    if others then do
      let child ← .gets ChildWorld.child
      checkDeadline s!"owned process group {child.pid} did not become empty before leader reap"
      cleanupBeforeReap rounds
    else pure ()

/-- Read the status of the group, which is not signalled any more, until it is gone. -/
def waitGoneAfterReap : Nat → ChildM Unit
  | 0 => .interrupt
  | rounds + 1 => do
    let status ← ask fun | .group s => some s | _ => none
    match status with
    | .gone => emit .gone
    | .failed message => .fail (.io message)
    | .present => do
      let child ← .gets ChildWorld.child
      checkDeadline s!"owned process group {child.pid} remained after leader reap"
      waitGoneAfterReap rounds

/-! ### The child -/

/-- `Child::wait`, which reaps the child unless its status is known. -/
def childWait : ChildM Int := do
  let child ← .gets ChildWorld.child
  match child.status with
  | some status => pure status
  | none => do
    let result ← ask fun | .reaped r => some r | _ => none
    let status ← .ofExcept (result.mapError .io)
    .modify fun w => { w with
      child := { w.child with status := some status }
      events := w.events ++ [.reaped] }
    pure status

/-- `Child::kill`, which signals the child unless its status is known. -/
def childKill : ChildM Unit := do
  let child ← .gets ChildWorld.child
  match child.status with
  | some _ => pure ()
  | none => emit .killed

/-- The reap, after which the group is not signalled any more. -/
def reapAndDisarm : ChildM Int := do
  let status ← childWait
  disarmAfterReap
  pure status

def reapAfterGroupCleanup : ChildM Int := do
  cleanupBeforeReap (← rounds)
  let status ← reapAndDisarm
  waitGoneAfterReap (← rounds)
  pure status

def isRunning : ChildM Bool := do
  let exited ← observeChildExit
  if exited then pure false
  else do
    ensureIdentity
    pure true

def tryWait : ChildM (Option Int) := do
  let exited ← observeChildExit
  if exited then do
    let status ← reapAfterGroupCleanup
    pure (some status)
  else do
    ensureIdentity
    pure none

/-- Observe the child until it has exited. -/
def awaitExit : Nat → ChildM Unit
  | 0 => .interrupt
  | rounds + 1 => do
    let exited ← observeChildExit
    if exited then pure () else awaitExit rounds

def wait : ChildM Int := do
  let exited ← observeChildExit
  if exited then pure ()
  else do
    ensureIdentity
    awaitExit (← rounds)
  reapAfterGroupCleanup

/-- Observe the child until it has exited or the deadline has passed. -/
def awaitTermination : Nat → ChildM Unit
  | 0 => .interrupt
  | rounds + 1 => do
    let exited ← observeChildExit
    if exited then pure ()
    else do
      let child ← .gets ChildWorld.child
      checkDeadline s!"owned child {child.pid} did not terminate"
      awaitTermination rounds

def terminate : ChildM Int := do
  let armed ← isArmed
  if armed then do
    let exited ← observeChildExit
    if exited then pure ()
    else do
      ensureIdentity
      kill
    awaitTermination (← rounds)
    reapAfterGroupCleanup
  else do
    waitGoneAfterReap (← rounds)
    childWait

/-- The proof of a `drop` that the group is empty. -/
def proveEmpty : ChildM Bool := do
  let observed ← (waitForChildExit (← rounds)).attempt
  match observed with
  | .error _ => pure false
  | .ok () => do
    let cleaned ← (cleanupBeforeReap (← rounds)).attempt
    match cleaned with
    | .error _ => pure false
    | .ok () => pure true

/-- The destructor: nothing fails, and what is not proved is not reaped. -/
def drop : ChildM Unit := do
  let armed ← isArmed
  if armed then do
    let _ ← kill.attempt
    let proven ← proveEmpty
    if proven then do
      let reaped ← reapAndDisarm.attempt
      match reaped with
      | .error _ => pure ()
      | .ok _ => do
        let _ ← (waitGoneAfterReap (← rounds)).attempt
        pure ()
    else childKill
  else pure ()

/-! ### The end of a spawn -/

inductive ProcessSpawnError where
  | ordinary (error : WatchdogError)
  | cleanupUncertain (error : WatchdogError)
  deriving DecidableEq, Repr

def ProcessSpawnError.intoWatchdogError : ProcessSpawnError → WatchdogError
  | .ordinary error | .cleanupUncertain error => error

def cleanupSpawnedChild : ChildM Unit := do
  kill
  waitForChildExit (← rounds)
  cleanupBeforeReap (← rounds)
  let _ ← reapAndDisarm
  waitGoneAfterReap (← rounds)

def abortSpawnedChild : ChildM Unit := do
  let cleaned ← cleanupSpawnedChild.attempt
  match cleaned with
  | .ok () => pure ()
  | .error error => do
    let armed ← isArmed
    if armed then do
      let _ ← kill.attempt
      pure ()
    else pure ()
    childKill
    .fail error

def reportSpawnCleanup (original : WatchdogError) : Except WatchdogError Unit → ProcessSpawnError
  | .ok () => .ordinary original
  | .error cleanup => .cleanupUncertain (.conflict
      s!"spawn failed ({original.display}); exact containment cleanup is uncertain ({cleanup.display})")

/-- The image of a child settles while it enters the approved executable. -/
def ensureSpawnIdentity : Nat → ChildM Unit
  | 0 => .interrupt
  | rounds + 1 => do
    let exited ← observeChildExit
    if exited then pure ()
    else do
      let approved ← ask fun | .image approved => some approved | _ => none
      if approved then ensureIdentity
      else do
        let late ← ask fun | .late passed => some passed | _ => none
        if late then ensureIdentity else ensureSpawnIdentity rounds

/-- A child that was created and cannot be identified is aborted. -/
def abandonSpawn (error : WatchdogError) : Program ChildWorld ProcessSpawnError Unit := do
  let cleanup ← abortSpawnedChild.attempt
  .fail (reportSpawnCleanup error cleanup)

/-- What a spawn does after the child was created. -/
def finishSpawn : Program ChildWorld ProcessSpawnError Unit := do
  let observed ← observeChildExit.attempt
  match observed with
  | .error error => abandonSpawn error
  | .ok true => pure ()
  | .ok false => do
    let answers ← .gets (·.answers.length + 1)
    let identified ← (ensureSpawnIdentity answers).attempt
    match identified with
    | .error error => abandonSpawn error
    | .ok () => pure ()

/-! ### Histories -/

/-- When an event may follow a history. -/
def Permits (l : List ChildEvent) : ChildEvent → Prop
  | .signalled | .killed => .reaped ∉ l
  | .cleared => True
  | .reaped => .reaped ∉ l ∧ l.getLast? = some .cleared
  | .gone => .reaped ∈ l

/-- The invariant of the calls: the history is lawful, the status is known once the leader is
reaped, and then the authority is disarmed. -/
structure Sound (w : ChildWorld) : Prop where
  lawful : History.Lawful Permits w.events
  status : w.child.status.isSome = true ↔ .reaped ∈ w.events
  disarmed : w.child.leaderReaped = w.child.status.isSome

/-- Nothing has changed but the answers to come. -/
def Quiet (w w' : ChildWorld) : Prop :=
  ∃ answers, w' = { w with answers := answers }

instance : Std.Refl Quiet where
  refl w := ⟨w.answers, rfl⟩

instance : IsTrans ChildWorld Quiet where
  trans := by
    rintro w _ _ ⟨answers, rfl⟩ ⟨answers', rfl⟩
    exact ⟨answers', rfl⟩

section Runs

variable {w w' : ChildWorld} {e : ChildEvent} {α : Type} {m : ChildM α} {P : ChildWorld → Prop}

theorem Sound.quiet (h : Sound w) (hquiet : Quiet w w') : Sound w' := by
  obtain ⟨answers, rfl⟩ := hquiet
  exact ⟨h.lawful, h.status, h.disarmed⟩

/-- A leader that is reaped is known to be. -/
theorem Sound.leaderReaped_iff (h : Sound w) :
    w.child.leaderReaped = true ↔ .reaped ∈ w.events := by
  rw [h.disarmed, h.status]

/-- An event that is not the reap. -/
theorem Sound.emit (h : Sound w) (he : e ≠ .reaped) (hpermits : Permits w.events e) :
    Sound { w with events := w.events ++ [e] } := by
  refine ⟨.concat h.lawful hpermits, ?_, h.disarmed⟩
  rw [h.status, List.mem_append, List.mem_singleton]
  exact ⟨.inl, fun hmem => hmem.resolve_right (Ne.symm he)⟩

/-- The reap, with the authority disarmed. -/
theorem Sound.reap (h : Sound w) (hpermits : Permits w.events .reaped) (status : Int) :
    Sound { w with
      child := { w.child with status := some status, leaderReaped := true }
      events := w.events ++ [.reaped] } := by
  refine ⟨.concat h.lawful hpermits, ?_, rfl⟩
  simp

theorem ask_quiet {α : Type} (pick : ChildAnswer → Option α) : Program.Keeps Quiet (ask pick) := by
  intro w
  unfold ask
  split
  · exact ⟨w.answers, rfl⟩
  next answer rest _ =>
    cases pick answer with
    | none => exact ⟨rest, rfl⟩
    | some a => exact ⟨rest, rfl⟩

theorem observeChildExit_quiet : Program.Keeps Quiet observeChildExit :=
  .bind (ask_quiet _) fun _ => .ofExcept

theorem ensureIdentity_quiet : Program.Keeps Quiet ensureIdentity :=
  .bind (ask_quiet _) fun _ => .ofExcept

theorem checkDeadline_quiet (message : String) : Program.Keeps Quiet (checkDeadline message) :=
  .bind (ask_quiet _) fun _ => .ofExcept

theorem interrupt_quiet : Program.Keeps Quiet (.interrupt : ChildM α) :=
  .of_eq fun _ => rfl

/-- A loop that observes the child until it has exited. -/
theorem waitForChildExit_quiet (n : Nat) : Program.Keeps Quiet (waitForChildExit n) := by
  induction n with
  | zero => exact interrupt_quiet
  | succ n ih =>
    refine .bind observeChildExit_quiet fun exited => ?_
    cases exited with
    | true => exact .pure
    | false => exact .bind (checkDeadline_quiet _) fun _ => ih

theorem awaitExit_quiet (n : Nat) : Program.Keeps Quiet (awaitExit n) := by
  induction n with
  | zero => exact interrupt_quiet
  | succ n ih =>
    refine .bind observeChildExit_quiet fun exited => ?_
    cases exited with
    | true => exact .pure
    | false => exact ih

theorem awaitTermination_quiet (n : Nat) : Program.Keeps Quiet (awaitTermination n) := by
  induction n with
  | zero => exact interrupt_quiet
  | succ n ih =>
    refine .bind observeChildExit_quiet fun exited => ?_
    cases exited with
    | true => exact .pure
    | false => exact .bind .gets fun _ => .bind (checkDeadline_quiet _) fun _ => ih

theorem ensureSpawnIdentity_quiet (n : Nat) : Program.Keeps Quiet (ensureSpawnIdentity n) := by
  induction n with
  | zero => exact interrupt_quiet
  | succ n ih =>
    refine .bind observeChildExit_quiet fun exited => ?_
    cases exited with
    | true => exact .pure
    | false =>
      refine .bind (ask_quiet _) fun approved => ?_
      cases approved with
      | true => exact ensureIdentity_quiet
      | false =>
        refine .bind (ask_quiet _) fun late => ?_
        cases late with
        | true => exact ensureIdentity_quiet
        | false => exact ih

theorem readMembers_quiet : Program.Keeps Quiet readMembers := by
  refine .bind (ask_quiet _) fun status => ?_
  cases status with
  | gone => exact .pure
  | failed message => exact .fail
  | present =>
    exact .bind (ask_quiet _) fun _ => .bind .ofExcept fun _ => .bind .gets fun _ => .ofExcept

/-! ### What the calls keep -/

/-- The triples of the calls. -/
abbrev Runs (P : ChildWorld → Prop) (m : ChildM α) (Q : α → ChildWorld → Prop) : Prop :=
  Program.Triple Sound P m Q

/-- Assertions that do not speak of the answers. -/
def On (F : OwnedChild → List ChildEvent → Prop) (w : ChildWorld) : Prop :=
  F w.child w.events

theorem runs_quiet {F : OwnedChild → List ChildEvent → Prop} (hm : Program.Keeps Quiet m) :
    Runs (On F) m fun _ => On F := by
  refine hm.triple (fun _ _ hquiet h => h.quiet hquiet) ?_
  rintro w _ ⟨answers, rfl⟩ h
  exact h

/-- What every state satisfies. -/
abbrev Any : OwnedChild → List ChildEvent → Prop := fun _ _ => True

/-- The leader is not reaped. -/
abbrev Armed : OwnedChild → List ChildEvent → Prop := fun child _ => child.leaderReaped = false

/-- The leader is not reaped, and a reading has just found no other member of its group. -/
abbrev Cleared : OwnedChild → List ChildEvent → Prop := fun child l =>
  child.leaderReaped = false ∧ l.getLast? = some .cleared

/-- The leader is reaped. -/
abbrev Reaped : OwnedChild → List ChildEvent → Prop := fun child _ => child.leaderReaped = true

/-- The leader is reaped, and its group has just been found to be gone. -/
abbrev Gone : OwnedChild → List ChildEvent → Prop := fun child l =>
  child.leaderReaped = true ∧ l.getLast? = some .gone

theorem Sound.not_reaped (h : Sound w) (harmed : w.child.leaderReaped = false) :
    .reaped ∉ w.events := by
  rw [← h.leaderReaped_iff, harmed]
  exact Bool.false_ne_true

theorem runs_kill : Runs (On Any) kill fun _ => On Armed := by
  refine .bind (Q := fun armed => On fun child _ => armed = !child.leaderReaped)
    (.gets fun _ _ _ => rfl) fun armed => ?_
  refine .ofExcept_bind fun _ harmed => ?_
  rw [ensure_eq_ok] at harmed
  subst harmed
  refine .bind (Q := fun _ => On Armed) (.modify ?_ ?_) fun _ => ?_
  · intro w h harmed
    refine h.emit (by decide) (h.not_reaped ?_)
    simpa using harmed.symm
  · intro w _ harmed
    show w.child.leaderReaped = false
    simpa using harmed.symm
  · refine .bind (runs_quiet (ask_quiet _)) fun result => ?_
    cases result with
    | delivered => exact .pure fun _ _ h => h
    | noSuchProcess => exact .pure fun _ _ h => h
    | failed message => exact .fail

theorem runs_groupHasOtherMembers : Runs (On Armed) groupHasOtherMembers fun others => On
    fun child l => child.leaderReaped = false ∧ (others = false → l.getLast? = some .cleared) := by
  refine .bind (runs_quiet readMembers_quiet) fun others => ?_
  cases others with
  | true => exact .pure fun _ _ h => ⟨h, nofun⟩
  | false =>
    refine .bind (Q := fun _ => On Cleared) (.modify ?_ ?_) fun _ => .pure fun _ _ h =>
      ⟨h.1, fun _ => h.2⟩
    · exact fun w h _ => h.emit (by decide) trivial
    · exact fun w _ h => ⟨h, List.getLast?_concat⟩

theorem runs_cleanupBeforeReap (n : Nat) :
    Runs (On Any) (cleanupBeforeReap n) fun _ => On Cleared := by
  induction n with
  | zero => exact fun _ h _ => ⟨h, fun _ h => by cases h⟩
  | succ n ih =>
    refine .bind runs_kill fun _ => .bind runs_groupHasOtherMembers fun others => ?_
    cases others with
    | false => exact .pure fun _ _ h => ⟨h.1, h.2 rfl⟩
    | true =>
      refine .bind (runs_quiet .gets) fun _ => .bind (runs_quiet (checkDeadline_quiet _)) fun _ => ?_
      exact ih.mono (fun _ _ => trivial) fun _ _ h => h

/-- How a reap of a leader whose status is not known ends. -/
inductive WaitEnd (w : ChildWorld) : Option (Except WatchdogError Int) → ChildWorld → Prop where
  | reaped {w₁ : ChildWorld} (status : Int) : Quiet w w₁ →
      WaitEnd w (some (.ok status)) { w₁ with
        child := { w₁.child with status := some status }
        events := w₁.events ++ [.reaped] }
  | refused {result : Option (Except WatchdogError Int)} {w₁ : ChildWorld} : Quiet w w₁ →
      (∀ status, result ≠ some (.ok status)) → WaitEnd w result w₁

theorem childWait_end (hstatus : w.child.status = none) :
    WaitEnd w (childWait w).1 (childWait w).2 := by
  rw [childWait, Program.gets_bind_apply, hstatus]
  have hasked := ask_quiet (fun | .reaped r => some r | _ => none) w
  refine Program.bind_ends ?_ fun _ _ => .refused hasked
  · intro result w₂ heq
    rw [heq] at hasked
    cases result with
    | ok status => exact .reaped status hasked
    | error message => exact .refused hasked (by simp [Bind.bind, Except.mapError,
        Program.ofExcept, Program.fail])

/-- The reap needs the reading just before it. -/
theorem runs_reapAndDisarm : Runs (On Cleared) reapAndDisarm fun _ => On Reaped := by
  rintro w h ⟨harmed, hcleared⟩
  have hstatus : w.child.status = none := by
    have hisSome := h.disarmed.symm.trans harmed
    simpa using hisSome
  have hpermits : Permits w.events .reaped := ⟨h.not_reaped harmed, hcleared⟩
  have hend := childWait_end hstatus
  refine Program.bind_ends (E := fun r w' => Sound w' ∧ ∀ a, r = some (.ok a) → On Reaped w')
    ?_ ?_
  · intro status w₁ heq
    rw [heq] at hend
    cases hend with
    | reaped _ hquiet =>
      obtain ⟨answers, rfl⟩ := hquiet
      exact ⟨(h.reap hpermits status).quiet ⟨answers, rfl⟩, fun _ _ => rfl⟩
    | refused _ hresult => exact absurd rfl (hresult status)
  · intro r hnot hr
    generalize childWait w = result at hend hnot ⊢
    obtain ⟨result, w'⟩ := result
    cases hend with
    | reaped status _ => exact absurd rfl (hnot status)
    | refused hquiet _ => exact ⟨h.quiet hquiet, fun a h => absurd h (hr a)⟩

theorem runs_waitGoneAfterReap (n : Nat) :
    Runs (On Reaped) (waitGoneAfterReap n) fun _ => On Gone := by
  induction n with
  | zero => exact fun _ h _ => ⟨h, fun _ h => by cases h⟩
  | succ n ih =>
    refine .bind (runs_quiet (ask_quiet _)) fun status => ?_
    cases status with
    | gone =>
      refine .modify ?_ ?_
      · exact fun w h hreaped => h.emit (by decide) (h.leaderReaped_iff.mp hreaped)
      · exact fun w _ hreaped => ⟨hreaped, List.getLast?_concat⟩
    | failed message => exact .fail
    | present =>
      exact .bind (runs_quiet .gets) fun _ =>
        .bind (runs_quiet (checkDeadline_quiet _)) fun _ => ih

theorem runs_reapAfterGroupCleanup :
    Runs (On Any) reapAfterGroupCleanup fun _ => On Gone := by
  refine .bind (runs_quiet .gets) fun n => .bind (runs_cleanupBeforeReap n) fun _ => ?_
  refine .bind runs_reapAndDisarm fun status => ?_
  refine .bind (runs_quiet .gets) fun n => .bind (runs_waitGoneAfterReap n) fun _ => ?_
  exact .pure fun _ _ h => h

/-- A status that is returned comes with the reading that found the group gone. -/
def StatusGone : Option Int → ChildWorld → Prop
  | some _, w => On Gone w
  | none, _ => True

theorem runs_isRunning : Runs (On Any) isRunning fun _ => On Any := by
  refine .bind (runs_quiet observeChildExit_quiet) fun exited => ?_
  cases exited with
  | true => exact .pure fun _ _ h => h
  | false => exact .bind (runs_quiet ensureIdentity_quiet) fun _ => .pure fun _ _ h => h

theorem runs_tryWait : Runs (On Any) tryWait StatusGone := by
  refine .bind (runs_quiet observeChildExit_quiet) fun exited => ?_
  cases exited with
  | true => exact .bind runs_reapAfterGroupCleanup fun _ => .pure fun _ _ h => h
  | false => exact .bind (runs_quiet ensureIdentity_quiet) fun _ => .pure fun _ _ _ => trivial

theorem runs_wait : Runs (On Any) wait fun _ => On Gone := by
  refine .bind (runs_quiet observeChildExit_quiet) fun exited => ?_
  cases exited with
  | true => exact runs_reapAfterGroupCleanup
  | false =>
    refine .bind (runs_quiet ensureIdentity_quiet) fun _ => ?_
    refine .bind (runs_quiet .gets) fun n => .bind (runs_quiet (awaitExit_quiet n)) fun _ => ?_
    exact runs_reapAfterGroupCleanup

/-- The status of a leader that is reaped is known. -/
theorem runs_childWait_gone : Runs (On Gone) childWait fun _ => On Gone := by
  intro w h hgone
  have hisSome := h.disarmed.symm.trans hgone.1
  obtain ⟨status, hstatus⟩ := Option.isSome_iff_exists.mp hisSome
  rw [childWait, Program.gets_bind_apply, hstatus]
  exact ⟨h, fun _ _ => hgone⟩

/-- Whether the authority is armed. -/
theorem runs_isArmed {β : Type} {ε : Type} {f : Bool → Program ChildWorld ε β}
    {R : β → ChildWorld → Prop} (harmed : Program.Triple Sound (On Armed) (f true) R)
    (hdisarmed : Program.Triple Sound (On Reaped) (f false) R) :
    Program.Triple Sound (On Any) (do let armed ← .gets fun w => !w.child.leaderReaped; f armed)
      R := by
  refine .gets_bind fun armed => ?_
  cases armed with
  | true => exact harmed.mono (fun w h => by simpa [On] using h.2) fun _ _ h => h
  | false => exact hdisarmed.mono (fun w h => by simpa [On] using h.2) fun _ _ h => h

theorem runs_terminate : Runs (On Any) terminate fun _ => On Gone := by
  refine runs_isArmed ?_ ?_
  · have hrest : Runs (On Armed) (do
        awaitTermination (← rounds)
        reapAfterGroupCleanup) fun _ => On Gone := by
      refine .bind (runs_quiet .gets) fun n => ?_
      refine .bind (runs_quiet (awaitTermination_quiet n)) fun _ => ?_
      exact runs_reapAfterGroupCleanup.mono (fun _ _ => trivial) fun _ _ h => h
    refine .bind (runs_quiet observeChildExit_quiet) fun exited => ?_
    cases exited with
    | true => exact hrest
    | false =>
      refine .bind (runs_quiet ensureIdentity_quiet) fun _ => ?_
      refine .bind (runs_kill.mono (fun _ _ => trivial) fun _ _ h => h) fun _ => hrest
  · refine .bind (runs_quiet .gets) fun n => .bind (runs_waitGoneAfterReap n) fun _ => ?_
    exact runs_childWait_gone

theorem runs_childKill : Runs (On Any) childKill fun _ => On Any := by
  refine .gets_bind fun child => ?_
  cases hstatus : child.status with
  | some status => exact .pure fun _ _ _ => trivial
  | none =>
    refine .modify ?_ fun _ _ _ => trivial
    rintro w h ⟨-, rfl⟩
    refine h.emit (by decide) (h.not_reaped ?_)
    rw [h.disarmed, hstatus]
    rfl

theorem runs_proveEmpty : Runs (On Any) proveEmpty fun proven w => proven = true → On Cleared w := by
  refine .bind (runs_quiet .gets) fun n => ?_
  refine .bind (runs_quiet (waitForChildExit_quiet n)).attempt fun observed => ?_
  cases observed with
  | error error => exact .pure fun _ _ _ h => by cases h
  | ok u =>
    refine Program.Triple.mono ?_ (fun w h => h u rfl) fun _ _ h => h
    refine .bind (runs_quiet .gets) fun n => .bind (runs_cleanupBeforeReap n).attempt fun cleaned => ?_
    cases cleaned with
    | error error => exact .pure fun _ _ _ h => by cases h
    | ok u => exact .pure fun _ _ h _ => h u rfl

theorem runs_drop : Runs (On Any) drop fun _ => On Any := by
  refine runs_isArmed ?_ (.pure fun _ _ _ => trivial)
  refine .bind (runs_kill.mono (fun _ _ => trivial) fun _ _ h => h).attempt fun _ => ?_
  refine Program.Triple.mono (P := On Any) ?_ (fun _ _ => trivial) fun _ _ h => h
  refine .bind runs_proveEmpty fun proven => ?_
  cases proven with
  | false => exact runs_childKill.mono (fun _ _ => trivial) fun _ _ h => h
  | true =>
    refine Program.Triple.mono ?_ (fun w h => h rfl) fun _ _ h => h
    refine .bind runs_reapAndDisarm.attempt fun reaped => ?_
    cases reaped with
    | error error => exact .pure fun _ _ _ => trivial
    | ok status =>
      refine Program.Triple.mono ?_ (fun w h => h status rfl) fun _ _ h => h
      refine .bind (runs_quiet .gets) fun n => .bind (runs_waitGoneAfterReap n).attempt fun _ => ?_
      exact .pure fun _ _ _ => trivial

theorem runs_cleanupSpawnedChild : Runs (On Any) cleanupSpawnedChild fun _ => On Any := by
  refine .bind runs_kill fun _ => ?_
  refine Program.Triple.mono (P := On Any) ?_ (fun _ _ => trivial) fun _ _ h => h
  refine .bind (runs_quiet .gets) fun n => .bind (runs_quiet (waitForChildExit_quiet n)) fun _ => ?_
  refine .bind (runs_quiet .gets) fun n => .bind (runs_cleanupBeforeReap n) fun _ => ?_
  refine .bind runs_reapAndDisarm fun _ => ?_
  refine .bind (runs_quiet .gets) fun n => ?_
  exact (runs_waitGoneAfterReap n).mono (fun _ h => h) fun _ _ _ => trivial

theorem runs_abortSpawnedChild : Runs (On Any) abortSpawnedChild fun _ => On Any := by
  refine .bind runs_cleanupSpawnedChild.attempt fun cleaned => ?_
  refine Program.Triple.mono (P := On Any) ?_ (fun _ _ => trivial) fun _ _ h => h
  cases cleaned with
  | ok u => exact .pure fun _ _ h => h
  | error error =>
    refine runs_isArmed ?_ ?_
    · refine .bind (runs_kill.mono (fun _ _ => trivial) fun _ _ h => h).attempt fun _ => ?_
      refine Program.Triple.mono (P := On Any) ?_ (fun _ _ => trivial) fun _ _ h => h
      exact .bind runs_childKill fun _ => .fail
    · refine Program.Triple.mono (P := On Any) ?_ (fun _ _ => trivial) fun _ _ h => h
      exact .bind runs_childKill fun _ => .fail

theorem runs_abandonSpawn (error : WatchdogError) :
    Program.Triple Sound (On Any) (abandonSpawn error) fun _ => On Any :=
  .bind runs_abortSpawnedChild.attempt fun _ => .fail

theorem runs_finishSpawn : Program.Triple Sound (On Any) finishSpawn fun _ => On Any := by
  refine .bind (runs_quiet observeChildExit_quiet).attempt fun observed => ?_
  refine Program.Triple.mono (P := On Any) ?_ (fun _ _ => trivial) fun _ _ h => h
  match observed with
  | .error error => exact runs_abandonSpawn error
  | .ok true => exact .pure fun _ _ h => h
  | .ok false =>
    refine .bind (Q := fun _ => On Any) (.gets fun _ _ h => h) fun n => ?_
    refine .bind (runs_quiet (ensureSpawnIdentity_quiet n)).attempt fun identified => ?_
    refine Program.Triple.mono (P := On Any) ?_ (fun _ _ => trivial) fun _ _ h => h
    cases identified with
    | error error => exact runs_abandonSpawn error
    | ok u => exact .pure fun _ _ h => h

end Runs

/-! ### Sequences of calls -/

/-- The calls on a child: the end of its spawn, the methods and the destructor. -/
inductive ChildCall where
  | spawn
  | isRunning
  | tryWait
  | wait
  | terminate
  | drop
  deriving DecidableEq, Repr

/-- A call, with the exit status that it returns, if any. -/
def ChildCall.perform : ChildCall → ChildM (Option Int)
  | .spawn => do
    .mapError ProcessSpawnError.intoWatchdogError finishSpawn
    pure none
  | .isRunning => do
    let _ ← Process.isRunning
    pure none
  | .tryWait => Process.tryWait
  | .wait => some <$> Process.wait
  | .terminate => some <$> Process.terminate
  | .drop => do
    Process.drop
    pure none

/-- A child that was just created. -/
def ChildWorld.created (pid : Nat) : ChildWorld where
  child := ⟨pid, none, false⟩
  events := []
  answers := []

/-- One call, with the answers of the system to it. -/
def ChildWorld.step (op : ChildCall × List ChildAnswer) (w : ChildWorld) : ChildWorld :=
  (op.1.perform { w with answers := op.2 }).2

/-- The child after a sequence of calls. -/
def ChildWorld.after (pid : Nat) (ops : List (ChildCall × List ChildAnswer)) : ChildWorld :=
  run ChildWorld.step (.created pid) ops

theorem runs_perform (call : ChildCall) : Runs (On Any) call.perform StatusGone := by
  have hmap : ∀ {m : ChildM Int}, Runs (On Any) m (fun _ => On Gone) →
      Runs (On Any) (some <$> m) StatusGone :=
    fun h => .bind h fun _ => .pure fun _ _ h => h
  cases call with
  | spawn => exact .bind runs_finishSpawn.mapError fun _ => .pure fun _ _ _ => trivial
  | isRunning => exact .bind runs_isRunning fun _ => .pure fun _ _ _ => trivial
  | tryWait => exact runs_tryWait
  | wait => exact hmap runs_wait
  | terminate => exact hmap runs_terminate
  | drop => exact .bind runs_drop fun _ => .pure fun _ _ _ => trivial

theorem ChildWorld.sound_after (pid : Nat) (ops : List (ChildCall × List ChildAnswer)) :
    Sound (ChildWorld.after pid ops) := by
  refine run_invariant ?_ ⟨.nil, by simp [ChildWorld.created], rfl⟩ ops
  intro op w h
  have hanswers : Sound { w with answers := op.2 } := h.quiet ⟨op.2, rfl⟩
  exact (runs_perform op.1 _ hanswers trivial).1

/-- **In every sequence of calls, whatever the system answers, the group is not signalled after its
leader was reaped, the leader is reaped right after a reading that found no other member, and a
call that returns an exit status has just observed that the group is gone.** -/
theorem group_safe (pid : Nat) (ops : List (ChildCall × List ChildAnswer)) :
    (∀ before after, (ChildWorld.after pid ops).events = before ++ .signalled :: after →
        .reaped ∉ before) ∧
      (∀ before after, (ChildWorld.after pid ops).events = before ++ .reaped :: after →
        before.getLast? = some .cleared) ∧
      ∀ call answers status w, ChildCall.perform call { ChildWorld.after pid ops with
          answers := answers } = (some (.ok (some status)), w) →
        .reaped ∈ w.events ∧ w.events.getLast? = some .gone := by
  have hsound := ChildWorld.sound_after pid ops
  refine ⟨?_, ?_, ?_⟩
  · intro before after hevents
    have hlawful := hsound.lawful
    rw [hevents] at hlawful
    exact hlawful.permits_of_eq
  · intro before after hevents
    have hlawful := hsound.lawful
    rw [hevents] at hlawful
    exact hlawful.permits_of_eq.2
  · intro call answers status w hperform
    have hquiet : Sound { ChildWorld.after pid ops with answers := answers } :=
      hsound.quiet ⟨answers, rfl⟩
    obtain ⟨hsound', hpost⟩ := runs_perform call _ hquiet trivial
    rw [hperform] at hsound' hpost
    obtain ⟨hreaped, hgone⟩ := hpost (some status) rfl
    exact ⟨hsound'.leaderReaped_iff.mp hreaped, hgone⟩

/-- A child that exits, with one member of its group that outlives the first signal. -/
def sampleChildOps : List (ChildCall × List ChildAnswer) :=
  [(.spawn, [.exited (.ok false), .image true, .identity (.ok ())]),
    (.tryWait, [.exited (.ok true), .signalled .delivered, .group .present,
      .proc (.ok [.named none .missing, .named (some 700) .missing,
        .named (some 701) (.read (some (701, 700)))]), .late false,
      .signalled .delivered, .group .present,
      .proc (.ok [.named (some 700) .missing]), .reaped (.ok 9), .group .present, .late true])]

theorem group_safe_sample :
    let w := ChildWorld.after 700 sampleChildOps
    w.events = [.signalled, .signalled, .cleared, .reaped] ∧
      ChildEvent.reaped ∉ [.signalled] ∧
      [.signalled, .signalled, .cleared].getLast? = some ChildEvent.cleared ∧
      (ChildCall.perform .terminate { w with answers := [.group .gone] }).1 =
        some (.ok (some 9)) ∧
      (ChildCall.perform .terminate { w with answers := [.group .gone] }).2.events.getLast? =
        some .gone := by
  intro w
  obtain ⟨hsignalled, hreaped, hreturned⟩ := group_safe 700 sampleChildOps
  have hevents : w.events = [.signalled, .signalled, .cleared, .reaped] := by
    decide +kernel
  have hresult : (ChildCall.perform .terminate { w with answers := [.group .gone] }).1 =
      some (.ok (some 9)) := by
    decide +kernel
  refine ⟨hevents, hsignalled [.signalled] [.cleared, .reaped] hevents,
    hreaped [.signalled, .signalled, .cleared] [] hevents, hresult, ?_⟩
  exact (hreturned .terminate [.group .gone] 9 _ (Prod.ext hresult rfl)).2

end AscensionWatchdog.Process
