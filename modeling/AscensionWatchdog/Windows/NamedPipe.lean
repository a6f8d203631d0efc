import AscensionWatchdog.Foundation.History
import AscensionWatchdog.Foundation.Runs
import AscensionWatchdog.Windows.Lifecycle

/-!
# The lifecycle pipe

The server of the lifecycle pipe has one connection at a time. It reads frames of an
authenticated peer only, and it keeps a replay window: a frame has to carry the configured epoch
and nonce and a sequence number above the last one. The window outlives the connections; a new
epoch, which has to be above the old one, opens a new window.

What the server did is a history of events, and the statement is about every history: what an
accepted frame, a response and a new policy may follow (`permits`). From the history alone one
reads the policy in force and the current connection; the server's fields agree with them
(`Tracks`). Every answer of Windows is a parameter of the call that asks, so that the frames, the
identities and the failures of a run are arbitrary.
-/

namespace AscensionWatchdog.Windows

open Foundation Foundation.Binary Foundation.History

def maxPipeFrame : Nat := 8 * 1024

/-! ### The server -/

structure NamedPipePeer where
  processId : Nat
  creationTime100ns : Nat
  sessionId : Nat
  executable : String
  deriving DecidableEq, Repr

/-- The server without its handles: of the handle of the peer's process it is kept whether there
is one. -/
structure NamedPipeServer where
  connected : Bool
  peer : Option NamedPipePeer
  peerProcess : Bool
  expectedSession : Option Nat
  expectedExecutable : Option String
  expectedEpoch : Option UInt64
  expectedNonce : Option String
  authenticated : Bool
  lastSequence : UInt64
  lastFrame : Option LifecycleFrame
  deriving DecidableEq, Repr

/-- The result of a native call and the last error. -/
structure NativeResult where
  succeeded : Bool
  code : Nat
  deriving DecidableEq, Repr

def errorBrokenPipe : Nat := 109

def errorNoData : Nat := 232

def errorPipeNotConnected : Nat := 233

def errorPipeConnected : Nat := 535

def errorPipeListening : Nat := 536

def errorOperationAborted : Nat := 995

def errorNotFound : Nat := 1168

/-- Removes the markers of verbatim paths. -/
def trimVerbatim : List Char → List Char
  | '\\' :: '\\' :: '?' :: '\\' :: rest => trimVerbatim rest
  | path => path

def normalizePath (path : String) : String :=
  String.ofList ((trimVerbatim path.toList).map fun c => (if c = '/' then '\\' else c).toLower)

/-- A timeout in nanoseconds, of at most thirty seconds. -/
def validateLifecycleTimeout (timeout : Nat) : Except PlatformError Unit :=
  ensure (¬ (timeout = 0 ∨ 30 * 1000000000 < timeout))
    (.invalid "lifecycle pipe timeout must be between 1ms and 30s")

def validateReplayPolicy (epoch : UInt64) (nonce : String) : Except PlatformError Unit :=
  (LifecycleFrame.new nonce epoch 1 (.heartbeat "policy" "policy" 1)).validate

namespace NamedPipeServer

variable (opened : Except PlatformError Unit) (self : NamedPipeServer) (timeout : Nat)
  (expectedSession : Option Nat) (canonical : Except PlatformError String) (queries : PeerQueries)

/-- A server with its policies; `opened` is the outcome of the checks on the name and of the
native calls. -/
def createInner (expectedExecutable : Option String) (expectedEpoch : Option UInt64)
    (expectedNonce : Option String) : Except PlatformError NamedPipeServer := do
  ensure (expectedExecutable.isSome = expectedEpoch.isSome ∧
      expectedEpoch.isSome = expectedNonce.isSome)
    (.invalid "lifecycle peer and replay policy must be configured together")
  opened
  pure
    { connected := false
      peer := none
      peerProcess := false
      expectedSession
      expectedExecutable
      expectedEpoch
      expectedNonce
      authenticated := false
      lastSequence := 0
      lastFrame := none }

def create : Except PlatformError NamedPipeServer :=
  createInner opened none none none none

def createWithPolicy (epoch : UInt64) (nonce : String) : Except PlatformError NamedPipeServer := do
  let expectedExecutable ← canonical
  validateReplayPolicy epoch nonce
  createInner opened expectedSession (some expectedExecutable) (some epoch) (some nonce)

/-- The epoch of a policy goes up. -/
def checkEpoch (epoch : UInt64) : Except PlatformError Unit :=
  match self.expectedEpoch with
  | some previousEpoch =>
    ensure (previousEpoch < epoch) (.identityMismatch
      "lifecycle replay policy epoch must advance before its sequence can reset")
  | none =>
    ensure (self.expectedNonce = none) (.invalid "lifecycle replay policy epoch is missing")

def configureReplayPolicy (epoch : UInt64) (nonce : String) :
    Except PlatformError NamedPipeServer := do
  ensure (¬ (self.authenticated ∨ self.lastFrame.isSome))
    (.invalid "lifecycle replay policy cannot change after authentication")
  validateReplayPolicy epoch nonce
  self.checkEpoch epoch
  pure { self with
    expectedEpoch := some epoch
    expectedNonce := some nonce
    lastSequence := 0
    lastFrame := none }

/-- Gives the connection up. The sequence number stays. -/
def resetListener (disconnect : NativeResult) : Except PlatformError NamedPipeServer := do
  ensure (self.connected = true → disconnect.succeeded = true ∨ disconnect.code = errorNotFound ∨
      disconnect.code = errorPipeNotConnected ∨ disconnect.code = errorBrokenPipe ∨
      disconnect.code = errorNoData)
    (.win32 "DisconnectNamedPipe" disconnect.code)
  pure { self with
    connected := false
    peer := none
    peerProcess := false
    authenticated := false
    lastFrame := none }

/-- One attempt to accept a client: the result of the call, the peer that is captured, and the
result of the call that gives the connection up. -/
structure ConnectAttempt where
  result : NativeResult
  capture : Except PlatformError NamedPipePeer
  disconnect : NativeResult

/-- A client is connected. -/
def captureConnected (attempt : ConnectAttempt) :
    Except PlatformError (Option NamedPipePeer) × NamedPipeServer :=
  let connected := { self with connected := true }
  match attempt.capture with
  | .ok peer => (.ok (some peer), { connected with peer := some peer, peerProcess := true })
  | .error e =>
    match connected.resetListener attempt.disconnect with
    | .ok reset => (.error e, reset)
    | .error _ => (.error e, connected)

/-- No client is connected. -/
def afterAttempt (attempt : ConnectAttempt) : Except PlatformError NamedPipeServer :=
  if attempt.result.code = errorNoData ∨ attempt.result.code = errorPipeNotConnected then
    self.resetListener attempt.disconnect
  else do
    ensure (attempt.result.code = errorPipeListening ∨
        attempt.result.code = errorOperationAborted)
      (.win32 "ConnectNamedPipe" attempt.result.code)
    pure self

/-- The attempts up to the deadline, which is after the last of them. -/
def acceptLoop (self : NamedPipeServer) (attempt : ConnectAttempt)
    (later : List ConnectAttempt) :
    Except PlatformError (Option NamedPipePeer) × NamedPipeServer :=
  if attempt.result.succeeded ∨ attempt.result.code = errorPipeConnected then
    self.captureConnected attempt
  else
    match self.afterAttempt attempt with
    | .error e => (.error e, self)
    | .ok self =>
      match later with
      | [] => (.ok none, self)
      | next :: later => acceptLoop self next later

def accept (attempt : ConnectAttempt) (later : List ConnectAttempt) :
    Except PlatformError (Option NamedPipePeer) × NamedPipeServer :=
  match (do
    validateLifecycleTimeout timeout
    ensure (self.connected = false) (.invalid "named pipe already has a connected client") :
      Except PlatformError Unit) with
  | .error e => (.error e, self)
  | .ok () => self.acceptLoop attempt later

/-- What Windows answers about the process of the peer. -/
structure PeerQueries where
  processId : Nat
  creationTime : Except PlatformError Nat
  session : Except PlatformError Nat
  imagePath : Except PlatformError String

def verifyPeerIdentity : Except PlatformError Unit := do
  ensure (self.connected = true) (.invalid "named pipe has no connected client")
  let peer ← orError self.peer (.invalid "named pipe peer identity is missing")
  ensure (self.peerProcess = true) (.invalid "named pipe peer handle is missing")
  ensure (queries.processId = peer.processId)
    (.identityMismatch "named-pipe peer process identity changed")
  let creationTime ← queries.creationTime
  ensure (creationTime = peer.creationTime100ns)
    (.identityMismatch "named-pipe peer process identity changed")
  let session ← queries.session
  ensure (session = peer.sessionId)
    (.identityMismatch "named-pipe peer session or executable changed")
  let imagePath ← queries.imagePath
  ensure (normalizePath imagePath = normalizePath peer.executable)
    (.identityMismatch "named-pipe peer session or executable changed")

/-- The check of the peer against the policy. -/
def approvePeer : Except PlatformError NamedPipePeer := do
  self.verifyPeerIdentity queries
  let peer ← orError self.peer (.invalid "named pipe has no accepted peer")
  let expected ← orError self.expectedExecutable
    (.invalid "named-pipe peer executable policy must be configured before reads")
  ensure (∀ session ∈ self.expectedSession, session = peer.sessionId)
    (.identityMismatch "named-pipe peer session is not approved")
  ensure (normalizePath expected = normalizePath peer.executable)
    (.identityMismatch "named-pipe peer executable is not approved")
  pure peer

def authenticateConfiguredPeer : Except PlatformError NamedPipePeer × NamedPipeServer :=
  match self.approvePeer queries with
  | .ok peer => (.ok peer, { self with authenticated := true })
  | .error e => (.error e, self)

/-- The policy of an explicit call has to agree with the configured one. -/
def adoptPolicy : Except PlatformError NamedPipeServer := do
  let expected ← canonical
  ensure (¬ (self.expectedExecutable.isSome = true ∧ self.expectedSession ≠ expectedSession))
    (.identityMismatch "named-pipe session policy differs from configured authority")
  ensure (∀ configured ∈ self.expectedExecutable,
      normalizePath configured = normalizePath expected)
    (.identityMismatch "named-pipe executable policy differs from configured authority")
  pure { self with expectedExecutable := some expected, expectedSession := expectedSession }

def authenticatePeer : Except PlatformError NamedPipePeer × NamedPipeServer :=
  match self.adoptPolicy expectedSession canonical with
  | .error e => (.error e, self)
  | .ok adopted => adopted.authenticateConfiguredPeer queries

def requireAuthenticated : Except PlatformError Unit := do
  ensure (self.authenticated = true)
    (.identityMismatch "lifecycle peer must be authenticated before reading")
  ensure (self.expectedEpoch.isSome = true ∧ self.expectedNonce.isSome = true)
    (.identityMismatch "lifecycle replay policy is not configured")

def verifyReplay (frame : LifecycleFrame) : Except PlatformError Unit := do
  ensure (self.expectedEpoch = some frame.epoch ∧ self.expectedNonce = some frame.nonce)
    (.identityMismatch "lifecycle frame belongs to a different nonce or epoch")
  ensure (self.lastSequence < frame.sequence)
    (.identityMismatch "lifecycle frame sequence was replayed or regressed")

/-- What is read from the pipe: the four bytes of the length, and the payload. -/
structure PipeInput where
  header : Except PlatformError (List UInt8)
  payload : Except PlatformError (List UInt8)

def readLengthPrefixed (input : PipeInput) : Except PlatformError (List UInt8) := do
  validateLifecycleTimeout timeout
  let header ← input.header
  let length := ofLittleEndian header
  ensure (¬ (length = 0 ∨ maxPipeFrame < length)) (.invalid "lifecycle frame exceeds bounds")
  input.payload

/-- The frame that is read, if it passes. -/
def receive (input : PipeInput) : Except PlatformError LifecycleFrame := do
  self.requireAuthenticated
  self.verifyPeerIdentity queries
  let payload ← readLengthPrefixed timeout input
  let frame ← LifecycleFrame.decodePayload payload
  self.verifyReplay frame
  pure frame

def readFrame (input : PipeInput) : Except PlatformError LifecycleFrame × NamedPipeServer :=
  match self.receive timeout queries input with
  | .ok frame =>
    (.ok frame, { self with lastSequence := frame.sequence, lastFrame := some frame })
  | .error e => (.error e, self)

/-- The checks on a response, up to the payload that is written. -/
def responsePayload (frame : LifecycleFrame) (timeout : Nat) (queries : PeerQueries) :
    Except PlatformError (List UInt8) := do
  self.requireAuthenticated
  self.verifyPeerIdentity queries
  frame.validate
  ensure (self.expectedEpoch = some frame.epoch ∧ self.expectedNonce = some frame.nonce ∧
      ∃ last ∈ self.lastFrame, last.sequence = frame.sequence ∧
        last.request.capability = frame.request.capability)
    (.identityMismatch "lifecycle response is outside the current authenticated frame")
  let payload ← frame.encodePayload
  validateLifecycleTimeout timeout
  ensure (¬ (payload = [] ∨ maxPipeFrame < payload.length))
    (.invalid "lifecycle frame exceeds bounds")
  pure payload

/-- The frame of a response to the last request. -/
def responseFrame (request : LifecycleRequest) : Except PlatformError LifecycleFrame := do
  let last ← orError self.lastFrame (.invalid "lifecycle response has no preceding request")
  pure (.new last.nonce last.epoch last.sequence request)

end NamedPipeServer

/-! ### Histories -/

/-- What the server did. -/
inductive PipeEvent where
  | configured (epoch : UInt64) (nonce : String)
  | connected (peer : NamedPipePeer)
  | authenticated (peer : NamedPipePeer)
  | accepted (frame : LifecycleFrame)
  | wrote (frame : LifecycleFrame)
  | disconnected
  deriving DecidableEq, Repr

/-- The last policy of a history. -/
def policy (history : List PipeEvent) : Option (UInt64 × String) :=
  history.foldl (fun current event =>
    match event with
    | .configured epoch nonce => some (epoch, nonce)
    | _ => current) none

/-- The current connection: the peer, the peer that was authenticated, and the last frame. -/
structure Link where
  peer : Option NamedPipePeer
  authenticated : Option NamedPipePeer
  lastFrame : Option LifecycleFrame
  deriving DecidableEq, Repr

def Link.next (self : Link) : PipeEvent → Link
  | .connected peer => ⟨some peer, none, none⟩
  | .authenticated peer => { self with authenticated := some peer }
  | .accepted frame => { self with lastFrame := some frame }
  | .disconnected => ⟨none, none, none⟩
  | .configured _ _ | .wrote _ => self

def link (history : List PipeEvent) : Link :=
  history.foldl Link.next ⟨none, none, none⟩

/-- The order of the frames: by epoch, and within an epoch by sequence number. -/
def Precedes (f g : LifecycleFrame) : Prop :=
  f.epoch < g.epoch ∨ f.epoch = g.epoch ∧ f.sequence < g.sequence

/-- **What may follow a history.**

* An accepted frame carries the epoch and the nonce of the policy, is read of a peer that was
  authenticated on this connection, and comes after all frames that were accepted before.
* A response has the sequence number and the capability of the last frame of the connection.
* An epoch is configured once, with one nonce, and after all lower ones. -/
def permits (history : List PipeEvent) : PipeEvent → Prop
  | .accepted frame =>
    policy history = some (frame.epoch, frame.nonce) ∧
    (∃ peer, (link history).peer = some peer ∧ (link history).authenticated = some peer) ∧
    ∀ earlier, .accepted earlier ∈ history → Precedes earlier frame
  | .wrote frame =>
    ∃ last, (link history).lastFrame = some last ∧ frame.sequence = last.sequence ∧
      frame.capability = last.capability
  | .configured epoch _ =>
    ∀ earlier nonce, .configured earlier nonce ∈ history → earlier < epoch
  | .connected _ => True
  | .authenticated peer => (link history).peer = some peer
  | .disconnected => True

section Folds

variable {history : List PipeEvent} {event : PipeEvent}

theorem link_concat : link (history ++ [event]) = (link history).next event :=
  List.foldl_append

theorem policy_concat_configured {epoch : UInt64} {nonce : String} :
    policy (history ++ [.configured epoch nonce]) = some (epoch, nonce) :=
  List.foldl_append

theorem policy_concat (h : ∀ epoch nonce, event ≠ .configured epoch nonce) :
    policy (history ++ [event]) = policy history := by
  rw [policy, List.foldl_append]
  cases event with
  | configured epoch nonce => exact absurd rfl (h epoch nonce)
  | connected | authenticated | accepted | wrote | disconnected => rfl

end Folds

/-! ### Runs -/

structure PipeSession where
  server : NamedPipeServer
  history : List PipeEvent
  deriving DecidableEq, Repr

/-- The calls of the server, with what Windows answers. Reading a request is reading a frame. -/
inductive PipeOp where
  | configureReplayPolicy (epoch : UInt64) (nonce : String)
  | accept (timeout : Nat) (attempt : NamedPipeServer.ConnectAttempt)
      (later : List NamedPipeServer.ConnectAttempt)
  | authenticatePeer (expectedSession : Option Nat) (canonical : Except PlatformError String)
      (queries : NamedPipeServer.PeerQueries)
  | authenticateConfiguredPeer (queries : NamedPipeServer.PeerQueries)
  | readFrame (timeout : Nat) (queries : NamedPipeServer.PeerQueries)
      (input : NamedPipeServer.PipeInput)
  | writeFrame (frame : LifecycleFrame) (timeout : Nat) (queries : NamedPipeServer.PeerQueries)
  | writeRequest (request : LifecycleRequest) (timeout : Nat)
      (queries : NamedPipeServer.PeerQueries)
  | cancel
  | disconnect (result : NativeResult)

/-- The session with a new server and the event of a call that succeeded. -/
def PipeSession.extend {α : Type} (self : PipeSession) (event : α → List PipeEvent)
    (outcome : Except PlatformError α × NamedPipeServer) : PipeSession where
  server := outcome.2
  history := self.history ++ match outcome.1 with
    | .ok a => event a
    | .error _ => []

/-- A call of the server. A response counts as written when the first of its bytes may be. -/
def PipeSession.step (op : PipeOp) (self : PipeSession) : PipeSession :=
  let server := self.server
  match op with
  | .configureReplayPolicy epoch nonce =>
    match server.configureReplayPolicy epoch nonce with
    | .ok server => ⟨server, self.history ++ [.configured epoch nonce]⟩
    | .error _ => self
  | .accept timeout attempt later =>
    self.extend (fun peer => peer.toList.map .connected) (server.accept timeout attempt later)
  | .authenticatePeer expectedSession canonical queries =>
    self.extend (fun peer => [.authenticated peer])
      (server.authenticatePeer expectedSession canonical queries)
  | .authenticateConfiguredPeer queries =>
    self.extend (fun peer => [.authenticated peer]) (server.authenticateConfiguredPeer queries)
  | .readFrame timeout queries input =>
    self.extend (fun frame => [.accepted frame]) (server.readFrame timeout queries input)
  | .writeFrame frame timeout queries =>
    self.extend (fun _ => [.wrote frame]) (server.responsePayload frame timeout queries, server)
  | .writeRequest request timeout queries =>
    match server.responseFrame request with
    | .ok frame =>
      self.extend (fun _ => [.wrote frame]) (server.responsePayload frame timeout queries, server)
    | .error _ => self
  | .cancel => self
  | .disconnect result =>
    match server.resetListener result with
    | .ok server => ⟨server, self.history ++ [.disconnected]⟩
    | .error _ => self

/-- How a server is created. -/
inductive PipeStart (opened : Except PlatformError Unit) : PipeSession → Prop where
  | create {server : NamedPipeServer} : NamedPipeServer.create opened = .ok server →
      PipeStart opened ⟨server, []⟩
  | withPolicy {server : NamedPipeServer} {expectedSession : Option Nat}
      {canonical : Except PlatformError String} {epoch : UInt64} {nonce : String} :
      NamedPipeServer.createWithPolicy opened expectedSession canonical epoch nonce = .ok server →
      PipeStart opened ⟨server, [.configured epoch nonce]⟩

/-! ### The server and the history -/

/-- No peer is known. -/
structure NamedPipeServer.Idle (server : NamedPipeServer) : Prop where
  peer : server.peer = none
  authenticated : server.authenticated = false
  lastFrame : server.lastFrame = none

/-- Two servers with the same replay window. -/
structure SameWindow (server server' : NamedPipeServer) : Prop where
  epoch : server'.expectedEpoch = server.expectedEpoch
  nonce : server'.expectedNonce = server.expectedNonce
  sequence : server'.lastSequence = server.lastSequence

theorem SameWindow.refl (server : NamedPipeServer) : SameWindow server server :=
  ⟨rfl, rfl, rfl⟩

theorem SameWindow.trans {a b c : NamedPipeServer} (h : SameWindow a b) (h' : SameWindow b c) :
    SameWindow a c :=
  ⟨h'.epoch.trans h.epoch, h'.nonce.trans h.nonce, h'.sequence.trans h.sequence⟩

/-- The fields of the server agree with what the history says of the policy and of the
connection, and the replay window is above everything that was accepted. -/
structure Tracks (server : NamedPipeServer) (history : List PipeEvent) : Prop where
  epoch : server.expectedEpoch = (policy history).map Prod.fst
  nonce : server.expectedNonce = (policy history).map Prod.snd
  peer : server.peer = (link history).peer
  authenticated : server.authenticated = true →
    ∃ peer, (link history).peer = some peer ∧ (link history).authenticated = some peer
  lastFrame : server.lastFrame = (link history).lastFrame
  capability : ∀ frame, server.lastFrame = some frame →
    frame.capability = frame.request.capability
  window : ∀ frame, .accepted frame ∈ history → ∃ epoch, server.expectedEpoch = some epoch ∧
    (frame.epoch < epoch ∨ frame.epoch = epoch ∧ frame.sequence ≤ server.lastSequence)
  epochs : ∀ earlier nonce, .configured earlier nonce ∈ history →
    ∃ epoch, server.expectedEpoch = some epoch ∧ earlier ≤ epoch
  idle : server.connected = false → server.Idle

section Tracking

variable {server server' : NamedPipeServer} {history : List PipeEvent}

theorem resetListener_eq_ok {disconnect : NativeResult}
    (h : server.resetListener disconnect = .ok server') :
    server'.Idle ∧ SameWindow server server' := by
  obtain ⟨-, h⟩ := check_bind_eq_ok.mp h
  cases h
  exact ⟨⟨rfl, rfl, rfl⟩, ⟨rfl, rfl, rfl⟩⟩

theorem afterAttempt_eq_ok {attempt : NamedPipeServer.ConnectAttempt} (hidle : server.Idle)
    (h : server.afterAttempt attempt = .ok server') :
    server'.Idle ∧ SameWindow server server' := by
  rw [NamedPipeServer.afterAttempt] at h
  split at h
  · exact resetListener_eq_ok h
  · obtain ⟨-, h⟩ := check_bind_eq_ok.mp h
    cases h
    exact ⟨hidle, .refl server⟩

/-- What accepting leaves: a connection with its peer, or none. -/
def AcceptLeaves (server : NamedPipeServer)
    (outcome : Except PlatformError (Option NamedPipePeer) × NamedPipeServer) : Prop :=
  (∃ peer before, before.Idle ∧ SameWindow server before ∧
    outcome = (.ok (some peer),
      { before with connected := true, peer := some peer, peerProcess := true })) ∨
  (∀ peer, outcome.1 ≠ .ok (some peer)) ∧ outcome.2.Idle ∧ SameWindow server outcome.2

theorem captureConnected_leaves (hidle : server.Idle)
    (attempt : NamedPipeServer.ConnectAttempt) :
    AcceptLeaves server (server.captureConnected attempt) := by
  rw [NamedPipeServer.captureConnected]
  split
  next peer _ => exact .inl ⟨peer, server, hidle, .refl server, rfl⟩
  next e _ =>
    refine .inr ?_
    split
    next reset hreset =>
      obtain ⟨hreset, hsame⟩ := resetListener_eq_ok hreset
      exact ⟨nofun, hreset, hsame.epoch, hsame.nonce, hsame.sequence⟩
    next => exact ⟨nofun, ⟨hidle.peer, hidle.authenticated, hidle.lastFrame⟩, ⟨rfl, rfl, rfl⟩⟩

/-- The induction is over the attempts that are left; the window is the same after each. -/
theorem acceptLoop_leaves (hidle : server.Idle) (attempt : NamedPipeServer.ConnectAttempt)
    (later : List NamedPipeServer.ConnectAttempt) :
    AcceptLeaves server (server.acceptLoop attempt later) := by
  induction later generalizing server attempt with
  | nil =>
    rw [NamedPipeServer.acceptLoop]
    split
    · exact captureConnected_leaves hidle attempt
    · split
      next => exact .inr ⟨nofun, hidle, .refl server⟩
      next after hafter =>
        obtain ⟨hafterIdle, hsame⟩ := afterAttempt_eq_ok hidle hafter
        exact .inr ⟨nofun, hafterIdle, hsame⟩
  | cons next later ih =>
    rw [NamedPipeServer.acceptLoop]
    split
    · exact captureConnected_leaves hidle attempt
    · split
      next => exact .inr ⟨nofun, hidle, .refl server⟩
      next after hafter =>
        obtain ⟨hafterIdle, hsame⟩ := afterAttempt_eq_ok hidle hafter
        obtain ⟨peer, before, hbefore, hwindow, houtcome⟩ | ⟨hnone, hleft, hwindow⟩ :=
          ih hafterIdle next
        · exact .inl ⟨peer, before, hbefore, hsame.trans hwindow, houtcome⟩
        · exact .inr ⟨hnone, hleft, hsame.trans hwindow⟩

/-- Changes that the history does not see. -/
theorem Tracks.congr (h : Tracks server history) (hwindow : SameWindow server server')
    (hpeer : server'.peer = server.peer)
    (hauthenticated : server'.authenticated = server.authenticated)
    (hlastFrame : server'.lastFrame = server.lastFrame)
    (hidle : server'.connected = false → server'.Idle) : Tracks server' history where
  epoch := hwindow.epoch.trans h.epoch
  nonce := hwindow.nonce.trans h.nonce
  peer := hpeer.trans h.peer
  authenticated hauth := h.authenticated (hauthenticated ▸ hauth)
  lastFrame := hlastFrame.trans h.lastFrame
  capability frame hframe := h.capability frame (hlastFrame ▸ hframe)
  window frame hframe := by
    rw [hwindow.epoch, hwindow.sequence]
    exact h.window frame hframe
  epochs earlier nonce hconfigured := by
    rw [hwindow.epoch]
    exact h.epochs earlier nonce hconfigured
  idle := hidle

/-- An event that changes neither the policy nor the window. -/
theorem Tracks.concat {event : PipeEvent} (h : Tracks server history)
    (hwindow : SameWindow server server')
    (hconfigured : ∀ epoch nonce, event ≠ .configured epoch nonce)
    (haccepted : ∀ frame, event ≠ .accepted frame)
    (hpeer : server'.peer = ((link history).next event).peer)
    (hauthenticated : server'.authenticated = true →
      ∃ peer, ((link history).next event).peer = some peer ∧
        ((link history).next event).authenticated = some peer)
    (hlastFrame : server'.lastFrame = ((link history).next event).lastFrame)
    (hcapability : ∀ frame, server'.lastFrame = some frame →
      frame.capability = frame.request.capability)
    (hidle : server'.connected = false → server'.Idle) :
    Tracks server' (history ++ [event]) := by
  have hlink : link (history ++ [event]) = (link history).next event := link_concat
  have hpolicy : policy (history ++ [event]) = policy history := policy_concat hconfigured
  refine ⟨?_, ?_, ?_, ?_, ?_, hcapability, ?_, ?_, hidle⟩
  · rw [hpolicy, hwindow.epoch, h.epoch]
  · rw [hpolicy, hwindow.nonce, h.nonce]
  · rw [hlink, hpeer]
  · rw [hlink]
    exact hauthenticated
  · rw [hlink, hlastFrame]
  · intro frame hframe
    rw [hwindow.epoch, hwindow.sequence]
    rcases List.mem_append.mp hframe with hold | hnew
    · exact h.window frame hold
    · exact absurd (List.mem_singleton.mp hnew).symm (haccepted frame)
  · intro earlier nonce hearlier
    rw [hwindow.epoch]
    rcases List.mem_append.mp hearlier with hold | hnew
    · exact h.epochs earlier nonce hold
    · exact absurd (List.mem_singleton.mp hnew).symm (hconfigured earlier nonce)

end Tracking

/-! ### One call -/

/-- Every event was permitted, and the server agrees with the history. -/
structure PipeInvariant (s : PipeSession) : Prop where
  lawful : Lawful permits s.history
  tracks : Tracks s.server s.history

section Calls

variable {s : PipeSession}

theorem PipeInvariant.configured (h : PipeInvariant s) {server : NamedPipeServer} {epoch : UInt64}
    {nonce : String} (hcall : s.server.configureReplayPolicy epoch nonce = .ok server) :
    PipeInvariant ⟨server, s.history ++ [.configured epoch nonce]⟩ := by
  have htracks := h.tracks
  obtain ⟨hquiet, hcall⟩ := ensure_bind_eq_ok.mp hcall
  obtain ⟨-, hcall⟩ := check_bind_eq_ok.mp hcall
  obtain ⟨hadvance, hcall⟩ := check_bind_eq_ok.mp hcall
  cases hcall
  -- the new epoch is above every epoch that was configured or accepted
  have habove : ∀ previous, s.server.expectedEpoch = some previous → previous < epoch := by
    intro previous hprevious
    rw [NamedPipeServer.checkEpoch, hprevious] at hadvance
    exact ensure_eq_ok.mp hadvance
  refine ⟨h.lawful.concat ?_, ⟨?_, ?_, ?_, ?_, ?_, nofun, ?_, ?_, ?_⟩⟩
  · intro earlier nonce' hearlier
    obtain ⟨previous, hprevious, hle⟩ := htracks.epochs earlier nonce' hearlier
    exact UInt64.lt_of_le_of_lt hle (habove previous hprevious)
  · rw [policy_concat_configured]
    rfl
  · rw [policy_concat_configured]
    rfl
  · rw [link_concat]
    exact htracks.peer
  · rw [link_concat]
    exact htracks.authenticated
  · rw [link_concat]
    simp only [not_or, Bool.not_eq_true, Option.isSome_eq_false_iff, Option.isNone_iff_eq_none]
      at hquiet
    exact hquiet.2.symm.trans htracks.lastFrame
  · intro frame hframe
    rcases List.mem_append.mp hframe with hold | hnew
    · obtain ⟨previous, hprevious, hbelow⟩ := htracks.window frame hold
      refine ⟨epoch, rfl, .inl ?_⟩
      rcases hbelow with hlt | ⟨heq, -⟩
      · exact UInt64.lt_trans hlt (habove previous hprevious)
      · exact heq ▸ habove previous hprevious
    · cases List.mem_singleton.mp hnew
  · intro earlier nonce' hearlier
    refine ⟨epoch, rfl, ?_⟩
    rcases List.mem_append.mp hearlier with hold | hnew
    · obtain ⟨previous, hprevious, hle⟩ := htracks.epochs earlier nonce' hold
      exact UInt64.le_of_lt (UInt64.lt_of_le_of_lt hle (habove previous hprevious))
    · cases List.mem_singleton.mp hnew
      exact UInt64.le_refl epoch
  · intro hconnected
    obtain ⟨hpeer, hauthenticated, -⟩ := htracks.idle hconnected
    exact ⟨hpeer, hauthenticated, rfl⟩

theorem PipeInvariant.disconnected (h : PipeInvariant s) {server : NamedPipeServer}
    {disconnect : NativeResult} (hcall : s.server.resetListener disconnect = .ok server) :
    PipeInvariant ⟨server, s.history ++ [.disconnected]⟩ := by
  obtain ⟨hidle, hwindow⟩ := resetListener_eq_ok hcall
  refine ⟨h.lawful.concat trivial, h.tracks.concat hwindow nofun nofun hidle.peer ?_ hidle.lastFrame
    ?_ fun _ => hidle⟩
  · intro hauthenticated
    cases hidle.authenticated.symm.trans hauthenticated
  · intro frame hframe
    cases hidle.lastFrame.symm.trans hframe

theorem PipeInvariant.accept (h : PipeInvariant s) (timeout : Nat)
    (attempt : NamedPipeServer.ConnectAttempt) (later : List NamedPipeServer.ConnectAttempt) :
    PipeInvariant (s.step (.accept timeout attempt later)) := by
  have htracks := h.tracks
  simp only [PipeSession.step, NamedPipeServer.accept]
  split
  next =>
    simp only [PipeSession.extend, List.append_nil]
    exact h
  next hchecks =>
    obtain ⟨-, hchecks⟩ := check_bind_eq_ok.mp hchecks
    have hidle := htracks.idle (ensure_eq_ok.mp hchecks)
    obtain ⟨peer, before, hbefore, hwindow, houtcome⟩ | ⟨hnone, hleft, hwindow⟩ :=
      acceptLoop_leaves hidle attempt later
    · rw [houtcome]
      refine ⟨h.lawful.concat trivial, htracks.concat ?_ (by simp) (by simp) rfl ?_
        hbefore.lastFrame ?_ fun h => by cases h⟩
      · exact ⟨hwindow.epoch, hwindow.nonce, hwindow.sequence⟩
      · intro hauthenticated
        cases hbefore.authenticated.symm.trans hauthenticated
      · intro frame hframe
        cases hbefore.lastFrame.symm.trans hframe
    · -- no peer: the history is the same
      have hsame : (s.extend (fun peer => peer.toList.map PipeEvent.connected)
          (s.server.acceptLoop attempt later)).history = s.history := by
        rw [PipeSession.extend]
        split
        next found hfound =>
          cases found with
          | none => exact List.append_nil _
          | some peer => exact absurd hfound (hnone peer)
        next => exact List.append_nil _
      refine ⟨?_, ?_⟩
      · rw [hsame]
        exact h.lawful
      · rw [hsame]
        exact htracks.congr hwindow (hleft.peer.trans hidle.peer.symm)
          (hleft.authenticated.trans hidle.authenticated.symm)
          (hleft.lastFrame.trans hidle.lastFrame.symm) fun _ => hleft

/-- A peer that is approved is the peer of the connection. -/
theorem peer_of_approvePeer {server : NamedPipeServer} {queries : NamedPipeServer.PeerQueries}
    {peer : NamedPipePeer} (h : server.approvePeer queries = .ok peer) :
    server.connected = true ∧ server.peer = some peer := by
  obtain ⟨hidentity, h⟩ := check_bind_eq_ok.mp h
  obtain ⟨hconnected, -⟩ := ensure_bind_eq_ok.mp hidentity
  obtain ⟨found, hfound, h⟩ := orError_bind.mp h
  obtain ⟨expected, -, h⟩ := bind_eq_ok.mp h
  obtain ⟨-, h⟩ := ensure_bind_eq_ok.mp h
  obtain ⟨-, h⟩ := ensure_bind_eq_ok.mp h
  cases h
  exact ⟨hconnected, hfound⟩

theorem PipeInvariant.authenticateConfigured (h : PipeInvariant s) {server : NamedPipeServer}
    (htracks : Tracks server s.history) (queries : NamedPipeServer.PeerQueries) :
    PipeInvariant (s.extend (fun peer => [.authenticated peer])
      (server.authenticateConfiguredPeer queries)) := by
  rw [NamedPipeServer.authenticateConfiguredPeer]
  split
  next peer happroved =>
    obtain ⟨hconnected, hpeer⟩ := peer_of_approvePeer happroved
    have hlink : (link s.history).peer = some peer := htracks.peer.symm.trans hpeer
    refine ⟨h.lawful.concat hlink, htracks.concat ⟨rfl, rfl, rfl⟩ nofun nofun htracks.peer
      (fun _ => ⟨peer, hlink, rfl⟩) htracks.lastFrame htracks.capability fun hnot => ?_⟩
    cases hconnected.symm.trans hnot
  next =>
    simp only [PipeSession.extend, List.append_nil]
    exact ⟨h.lawful, htracks⟩

theorem Tracks.adoptPolicy {server server' : NamedPipeServer} {history : List PipeEvent}
    {expectedSession : Option Nat} {canonical : Except PlatformError String}
    (h : Tracks server history)
    (hadopt : server.adoptPolicy expectedSession canonical = .ok server') :
    Tracks server' history := by
  obtain ⟨expected, -, hadopt⟩ := bind_eq_ok.mp hadopt
  obtain ⟨-, hadopt⟩ := ensure_bind_eq_ok.mp hadopt
  obtain ⟨-, hadopt⟩ := ensure_bind_eq_ok.mp hadopt
  cases hadopt
  refine h.congr ⟨rfl, rfl, rfl⟩ rfl rfl rfl fun hconnected => ?_
  obtain ⟨hpeer, hauthenticated, hlastFrame⟩ := h.idle hconnected
  exact ⟨hpeer, hauthenticated, hlastFrame⟩

theorem PipeInvariant.authenticatePeer (h : PipeInvariant s) (expectedSession : Option Nat)
    (canonical : Except PlatformError String) (queries : NamedPipeServer.PeerQueries) :
    PipeInvariant (s.step (.authenticatePeer expectedSession canonical queries)) := by
  simp only [PipeSession.step, NamedPipeServer.authenticatePeer]
  split
  next =>
    simp only [PipeSession.extend, List.append_nil]
    exact h
  next adopted hadopted => exact h.authenticateConfigured (h.tracks.adoptPolicy hadopted) queries

/-- What is known of a frame that is received. -/
theorem receive_eq_ok {server : NamedPipeServer} {timeout : Nat}
    {queries : NamedPipeServer.PeerQueries} {input : NamedPipeServer.PipeInput}
    {frame : LifecycleFrame} (h : server.receive timeout queries input = .ok frame) :
    server.authenticated = true ∧ server.connected = true ∧ frame.Valid ∧
      server.expectedEpoch = some frame.epoch ∧ server.expectedNonce = some frame.nonce ∧
      server.lastSequence < frame.sequence := by
  obtain ⟨hauthenticated, h⟩ := check_bind_eq_ok.mp h
  obtain ⟨hauthenticated, -⟩ := ensure_bind_eq_ok.mp hauthenticated
  obtain ⟨hidentity, h⟩ := check_bind_eq_ok.mp h
  obtain ⟨hconnected, -⟩ := ensure_bind_eq_ok.mp hidentity
  obtain ⟨payload, -, h⟩ := bind_eq_ok.mp h
  obtain ⟨found, hdecode, h⟩ := bind_eq_ok.mp h
  obtain ⟨hreplay, h⟩ := check_bind_eq_ok.mp h
  cases h
  obtain ⟨⟨hepoch, hnonce⟩, hsequence⟩ := ensure_bind_eq_ok.mp hreplay
  exact ⟨hauthenticated, hconnected, (LifecycleFrame.decodePayload_eq_ok.mp hdecode).1, hepoch,
    hnonce, ensure_eq_ok.mp hsequence⟩

theorem policy_of_expected {server : NamedPipeServer} {history : List PipeEvent}
    (h : Tracks server history) {epoch : UInt64} {nonce : String}
    (hepoch : server.expectedEpoch = some epoch) (hnonce : server.expectedNonce = some nonce) :
    policy history = some (epoch, nonce) := by
  have hfst := h.epoch.symm.trans hepoch
  have hsnd := h.nonce.symm.trans hnonce
  cases hpolicy : policy history with
  | none =>
    rw [hpolicy] at hfst
    cases hfst
  | some current =>
    rw [hpolicy] at hfst hsnd
    exact congrArg some (Prod.ext (Option.some.inj hfst) (Option.some.inj hsnd))

theorem PipeInvariant.readFrame (h : PipeInvariant s) (timeout : Nat)
    (queries : NamedPipeServer.PeerQueries) (input : NamedPipeServer.PipeInput) :
    PipeInvariant (s.step (.readFrame timeout queries input)) := by
  have htracks := h.tracks
  simp only [PipeSession.step, NamedPipeServer.readFrame]
  split
  next frame hreceive =>
    obtain ⟨hauthenticated, hconnected, hvalid, hepoch, hnonce, hsequence⟩ :=
      receive_eq_ok hreceive
    have hpolicy := policy_of_expected htracks hepoch hnonce
    have hlink : link (s.history ++ [.accepted frame]) =
        { link s.history with lastFrame := some frame } := link_concat
    have hsame : policy (s.history ++ [.accepted frame]) = policy s.history := policy_concat nofun
    refine ⟨h.lawful.concat ⟨hpolicy, htracks.authenticated hauthenticated, ?_⟩,
      ⟨?_, ?_, ?_, ?_, ?_, ?_, ?_, ?_, ?_⟩⟩
    · -- the frames before are below the window
      intro earlier hearlier
      obtain ⟨epoch, hcurrent, hbelow⟩ := htracks.window earlier hearlier
      cases hcurrent.symm.trans hepoch
      rcases hbelow with hlt | ⟨heq, hle⟩
      · exact .inl hlt
      · exact .inr ⟨heq, UInt64.lt_of_le_of_lt hle hsequence⟩
    · exact htracks.epoch.trans (congrArg (Option.map Prod.fst) hsame.symm)
    · exact htracks.nonce.trans (congrArg (Option.map Prod.snd) hsame.symm)
    · exact htracks.peer.trans (congrArg Link.peer hlink).symm
    · intro hauth
      obtain ⟨peer, hpeer, hpeer'⟩ := htracks.authenticated hauth
      exact ⟨peer, (congrArg Link.peer hlink).trans hpeer,
        (congrArg Link.authenticated hlink).trans hpeer'⟩
    · exact (congrArg Link.lastFrame hlink).symm
    · rintro _ ⟨⟩
      exact hvalid.capability
    · intro accepted haccepted
      refine ⟨frame.epoch, hepoch, ?_⟩
      rcases List.mem_append.mp haccepted with hold | hnew
      · obtain ⟨epoch, hcurrent, hbelow⟩ := htracks.window accepted hold
        cases hcurrent.symm.trans hepoch
        exact hbelow.imp_right fun ⟨heq, hle⟩ =>
          ⟨heq, UInt64.le_of_lt (UInt64.lt_of_le_of_lt hle hsequence)⟩
      · cases List.mem_singleton.mp hnew
        exact .inr ⟨rfl, UInt64.le_refl _⟩
    · intro earlier nonce hearlier
      rcases List.mem_append.mp hearlier with hold | hnew
      · exact htracks.epochs earlier nonce hold
      · cases List.mem_singleton.mp hnew
    · intro hnot
      cases hconnected.symm.trans hnot
  next =>
    simp only [PipeSession.extend, List.append_nil]
    exact h

/-- A response that is written repeats the last frame. -/
theorem PipeInvariant.wrote (h : PipeInvariant s) (frame : LifecycleFrame) (timeout : Nat)
    (queries : NamedPipeServer.PeerQueries) :
    PipeInvariant (s.extend (fun _ => [.wrote frame])
      (s.server.responsePayload frame timeout queries, s.server)) := by
  have htracks := h.tracks
  cases hcall : s.server.responsePayload frame timeout queries with
  | error e =>
    simp only [PipeSession.extend, List.append_nil]
    exact h
  | ok payload =>
    obtain ⟨-, hcall⟩ := check_bind_eq_ok.mp hcall
    obtain ⟨-, hcall⟩ := check_bind_eq_ok.mp hcall
    obtain ⟨hvalid, hcall⟩ := check_bind_eq_ok.mp hcall
    obtain ⟨⟨-, -, last, hlast, hsequence, hcapability⟩, -⟩ := ensure_bind_eq_ok.mp hcall
    have hframe := (LifecycleFrame.validate_eq_ok.mp hvalid).capability
    have hpermits : permits s.history (.wrote frame) := by
      refine ⟨last, htracks.lastFrame.symm.trans hlast, hsequence.symm, ?_⟩
      rw [hframe, htracks.capability last hlast, hcapability]
    exact ⟨h.lawful.concat hpermits, htracks.concat (.refl _) nofun nofun htracks.peer
      htracks.authenticated htracks.lastFrame htracks.capability htracks.idle⟩

/-- **One call.** -/
theorem PipeInvariant.step (h : PipeInvariant s) (op : PipeOp) : PipeInvariant (s.step op) := by
  cases op with
  | configureReplayPolicy epoch nonce =>
    simp only [PipeSession.step]
    split
    next server hcall => exact h.configured hcall
    next => exact h
  | accept timeout attempt later => exact h.accept timeout attempt later
  | authenticatePeer expectedSession canonical queries =>
    exact h.authenticatePeer expectedSession canonical queries
  | authenticateConfiguredPeer queries => exact h.authenticateConfigured h.tracks queries
  | readFrame timeout queries input => exact h.readFrame timeout queries input
  | writeFrame frame timeout queries => exact h.wrote frame timeout queries
  | writeRequest request timeout queries =>
    simp only [PipeSession.step]
    split
    next frame _ => exact h.wrote frame timeout queries
    next => exact h
  | cancel => exact h
  | disconnect result =>
    simp only [PipeSession.step]
    split
    next server hcall => exact h.disconnected hcall
    next => exact h

end Calls

/-! ### All runs -/

theorem PipeStart.invariant {opened : Except PlatformError Unit} {s : PipeSession}
    (h : PipeStart opened s) : PipeInvariant s := by
  cases h with
  | create hcreate =>
    obtain ⟨-, hcreate⟩ := ensure_bind_eq_ok.mp hcreate
    obtain ⟨-, hcreate⟩ := check_bind_eq_ok.mp hcreate
    cases hcreate
    exact ⟨.nil, rfl, rfl, rfl, nofun, rfl, nofun, nofun, nofun, fun _ => ⟨rfl, rfl, rfl⟩⟩
  | @withPolicy server expectedSession canonical epoch nonce hcreate =>
    obtain ⟨executable, -, hcreate⟩ := bind_eq_ok.mp hcreate
    obtain ⟨-, hcreate⟩ := check_bind_eq_ok.mp hcreate
    obtain ⟨-, hcreate⟩ := ensure_bind_eq_ok.mp hcreate
    obtain ⟨-, hcreate⟩ := check_bind_eq_ok.mp hcreate
    cases hcreate
    refine ⟨.concat .nil nofun, rfl, rfl, rfl, nofun, rfl, nofun, ?_, ?_,
      fun _ => ⟨rfl, rfl, rfl⟩⟩
    · intro frame hframe
      cases List.mem_singleton.mp hframe
    · intro earlier nonce' hearlier
      cases List.mem_singleton.mp hearlier
      exact ⟨epoch, rfl, UInt64.le_refl epoch⟩

/-- **Runs of the pipe.** In every run of a server, with any calls and any answers of Windows,
what was accepted, written and configured was permitted when it happened. -/
theorem pipe_run_lawful (opened : Except PlatformError Unit) (start : PipeSession)
    (hstart : PipeStart opened start) (ops : List PipeOp) (before : List PipeEvent)
    (event : PipeEvent) (after : List PipeEvent)
    (hhistory : (run PipeSession.step start ops).history = before ++ event :: after) :
    permits before event := by
  have hinvariant : PipeInvariant (run PipeSession.step start ops) :=
    run_invariant (P := PipeInvariant) (fun op _ h => h.step op) hstart.invariant ops
  have hlawful := hinvariant.lawful
  rw [hhistory] at hlawful
  exact hlawful.permits_of_eq

/-- A server with a policy, its peer, and a frame of the peer. -/
def samplePipe : NamedPipeServer where
  connected := false
  peer := none
  peerProcess := false
  expectedSession := none
  expectedExecutable := some "a"
  expectedEpoch := some 1
  expectedNonce := some "n"
  authenticated := false
  lastSequence := 0
  lastFrame := none

def samplePeer : NamedPipePeer := ⟨7, 1, 0, "a"⟩

def sampleQueries : NamedPipeServer.PeerQueries := ⟨7, .ok 1, .ok 0, .ok "a"⟩

def sampleFrame : LifecycleFrame := .new "n" 1 1 (.heartbeat "i" "j" 1)

def sampleInput : NamedPipeServer.PipeInput :=
  ⟨.ok (littleEndian 4 sampleFrame.wire.length), .ok sampleFrame.wire⟩

/-- The peer connects and is authenticated. -/
def sampleCalls : List PipeOp :=
  [.accept 1 ⟨⟨true, 0⟩, .ok samplePeer, ⟨true, 0⟩⟩ [], .authenticateConfiguredPeer sampleQueries]

def sampleReader : NamedPipeServer :=
  { samplePipe with
    connected := true
    peer := some samplePeer
    peerProcess := true
    authenticated := true }

def sampleHistory : List PipeEvent :=
  [.configured 1 "n", .connected samplePeer, .authenticated samplePeer]

theorem receive_sample {server : NamedPipeServer}
    (hauthenticated : server.requireAuthenticated = .ok ())
    (hidentity : server.verifyPeerIdentity sampleQueries = .ok ())
    (hreplay : server.verifyReplay sampleFrame = .ok ()) :
    server.receive 1 sampleQueries sampleInput = .ok sampleFrame := by
  have hcheck : sampleFrame.validate = .ok () := by decide +kernel
  have hvalid := LifecycleFrame.validate_eq_ok.mp hcheck
  have hread : NamedPipeServer.readLengthPrefixed 1 sampleInput = .ok sampleFrame.wire := by
    decide +kernel
  have hdecode : LifecycleFrame.decodePayload sampleFrame.wire = .ok sampleFrame :=
    LifecycleFrame.decodePayload_eq_ok.mpr ⟨hvalid, rfl⟩
  exact check_bind_eq_ok.mpr ⟨hauthenticated, check_bind_eq_ok.mpr ⟨hidentity, bind_eq_ok.mpr
    ⟨_, hread, bind_eq_ok.mpr ⟨_, hdecode, check_bind_eq_ok.mpr ⟨hreplay, rfl⟩⟩⟩⟩⟩

/-- Then its frame is read. -/
theorem history_sample :
    (run PipeSession.step ⟨samplePipe, [.configured 1 "n"]⟩
      (sampleCalls ++ [.readFrame 1 sampleQueries sampleInput])).history =
        sampleHistory ++ [.accepted sampleFrame] := by
  have hcalls : run PipeSession.step ⟨samplePipe, [.configured 1 "n"]⟩ sampleCalls =
      ⟨sampleReader, sampleHistory⟩ := by
    decide +kernel
  rw [run_append, hcalls, run_cons, run_nil, PipeSession.step, NamedPipeServer.readFrame,
    receive_sample (by decide +kernel) (by decide +kernel) (by decide +kernel)]
  rfl

/-- The statement for the frame of the sample. -/
theorem pipe_run_lawful_sample : permits sampleHistory (.accepted sampleFrame) := by
  have hstart : NamedPipeServer.createWithPolicy (.ok ()) none (.ok "a") 1 "n" =
      .ok samplePipe := by
    decide +kernel
  exact pipe_run_lawful (.ok ()) ⟨samplePipe, [.configured 1 "n"]⟩ (.withPolicy hstart) _ _ _ []
    history_sample

end AscensionWatchdog.Windows
