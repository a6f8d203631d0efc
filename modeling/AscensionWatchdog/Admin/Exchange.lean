import AscensionWatchdog.Admin.Idempotency

/-!
# The admin exchange

Connection threads ask the cache before they hand a command to the reconciliation loop: a thread
whose `begin` was answered `new` holds a **ticket** for its key, enqueues the command, and abandons
the key when the queue does not take it. One loop receives the commands, dispatches them (or lets
those expire that came too late), and completes their records.

Between any two accesses of a thread the other threads may act, so a run is a list of `ExchangeStep`s
in any order. `Exchange.Coherent` says that the tickets are those of the pending records, at most one
for each.
-/

namespace AscensionWatchdog

open Foundation

/-- A cache of the given capacity: its two structures hold the same keys, within the capacity. -/
structure IdempotencyCache (ρ : Type) (capacity : Nat) where
  state : CacheState ρ
  wellFormed : state.WellFormed capacity

variable {ρ : Type} {capacity : Nat}

variable {c : IdempotencyCache ρ capacity} {key fingerprint : String}

namespace IdempotencyCache

def empty : IdempotencyCache ρ capacity :=
  ⟨.empty, CacheState.wellFormed_empty capacity⟩

/-- The cache after a call. -/
def perform (call : CacheCall ρ) (c : IdempotencyCache ρ capacity) : IdempotencyCache ρ capacity :=
  ⟨c.state.perform capacity call, c.wellFormed.perform call⟩

def lookup (c : IdempotencyCache ρ capacity) (key : String) : Option (CacheRecord ρ) :=
  c.state.records.lookup key

/-- The answer to a `begin`. -/
def ask (c : IdempotencyCache ρ capacity) (key fingerprint : String) : CacheLookup ρ :=
  (c.state.begin capacity key fingerprint).1

/-- A retained key is answered from its record. -/
theorem ask_of_lookup {key : String} {record : CacheRecord ρ}
    (h : c.lookup key = some record) (fingerprint : String) :
    c.ask key fingerprint = CacheState.answer fingerprint record := by
  have hlookup : c.state.records.lookup key = some record := h
  unfold ask CacheState.begin
  rw [hlookup]

/-- A key that is answered `new` was not retained, and is pending afterwards. -/
theorem lookup_of_ask_new
    (h : c.ask key fingerprint = .new) :
    c.lookup key = none ∧
      (c.perform (.begin key fingerprint)).lookup key = some (.pending fingerprint) := by
  unfold ask CacheState.begin at h
  unfold lookup perform CacheState.perform CacheState.begin
  cases hlookup : c.state.records.lookup key with
  | some record =>
    rw [hlookup] at h
    cases record <;> simp only [CacheState.answer] at h <;> split at h <;> cases h
  | none =>
    refine ⟨rfl, ?_⟩
    simp only [hlookup] at h ⊢
    split
    next c' heq =>
      rw [heq] at h
      cases h
    next c' heq => exact AList.lookup_insert _

/-- What is answered about a retained key is never `new`. -/
theorem ask_ne_new {key : String}
    (h : (c.lookup key).isSome) (fingerprint : String) : c.ask key fingerprint ≠ .new := by
  intro hnew
  rw [(lookup_of_ask_new hnew).1] at h
  cases h

/-- A completed record does not change while it is retained. -/
theorem lookup_complete_of_retained
    {response : ρ} {call : CacheCall ρ} (h : c.lookup key = some (.complete fingerprint response))
    (hretained : ((c.perform call).lookup key).isSome) :
    (c.perform call).lookup key = some (.complete fingerprint response) := by
  have hcases := CacheState.lookup_perform_complete h capacity call
  rcases hcases with hsame | ⟨-, hgone⟩
  · exact hsame
  · have hnone : (c.perform call).lookup key = none := hgone
    rw [hnone] at hretained
    cases hretained

end IdempotencyCache

/-! ### Tickets -/

/-- What a thread holds after its `begin` was answered `new`. -/
structure Ticket where
  key : String
  fingerprint : String
  deriving DecidableEq, Repr

/-- The cache, the threads that hold a ticket, the commands in the queue, and the one that the loop
works on, with the response once it has one. -/
structure Exchange (ρ : Type) (capacity : Nat) where
  cache : IdempotencyCache ρ capacity
  admitted : List Ticket
  queue : List Ticket
  processing : Option (Ticket × Option ρ)

/-- A step of a connection thread or of the loop. -/
inductive ExchangeStep (ρ : Type) where
  | begin (key fingerprint : String)
  | enqueue (ticket : Ticket)
  | abandon (ticket : Ticket)
  | receive
  /-- the loop dispatches the command that it works on -/
  | dispatch (response : ρ)
  /-- the deadline of the command has passed: it is answered without a dispatch -/
  | expire (response : ρ)
  | finish

namespace Exchange

def empty : Exchange ρ capacity :=
  ⟨.empty, [], [], none⟩

/-- The state after a step; a step that its thread cannot take leaves the state as it is. -/
def step (queueCapacity : Nat) (op : ExchangeStep ρ) (e : Exchange ρ capacity) :
    Exchange ρ capacity :=
  match op with
  | .begin key fingerprint =>
    { e with
      cache := e.cache.perform (.begin key fingerprint)
      admitted :=
        match e.cache.ask key fingerprint with
        | .new => ⟨key, fingerprint⟩ :: e.admitted
        | _ => e.admitted }
  | .enqueue ticket =>
    if ticket ∈ e.admitted ∧ e.queue.length < queueCapacity then
      { e with admitted := e.admitted.erase ticket, queue := e.queue ++ [ticket] }
    else e
  | .abandon ticket =>
    if ticket ∈ e.admitted then
      { e with
        cache := e.cache.perform (.abandon ticket.key ticket.fingerprint)
        admitted := e.admitted.erase ticket }
    else e
  | .receive =>
    match e.processing, e.queue with
    | none, ticket :: rest => { e with queue := rest, processing := some (ticket, none) }
    | _, _ => e
  | .dispatch response | .expire response =>
    match e.processing with
    | some (ticket, none) => { e with processing := some (ticket, some response) }
    | _ => e
  | .finish =>
    match e.processing with
    | some (ticket, some response) =>
      { e with
        cache := e.cache.perform (.complete ticket.key ticket.fingerprint response)
        processing := none }
    | _ => e

/-- The tickets that are still held by a thread, by the queue or by the loop. -/
def tickets (e : Exchange ρ capacity) : List Ticket :=
  e.admitted ++ (e.queue ++ (e.processing.map Prod.fst).toList)

/-- The step dispatches a command of the key. -/
def dispatches (key : String) (op : ExchangeStep ρ) (e : Exchange ρ capacity) : Bool :=
  match op, e.processing with
  | .dispatch _, some (ticket, none) => ticket.key == key
  | _, _ => false

/-- Every ticket is the one of a pending record. -/
structure Coherent (e : Exchange ρ capacity) : Prop where
  distinct : (e.tickets.map Ticket.key).Nodup
  pending : ∀ ticket ∈ e.tickets, e.cache.lookup ticket.key = some (.pending ticket.fingerprint)

theorem coherent_empty : (empty : Exchange ρ capacity).Coherent :=
  ⟨List.nodup_nil, fun _ h => by cases h⟩

/-- Tickets may change hands. -/
theorem Coherent.of_perm {e e' : Exchange ρ capacity} (h : e.Coherent)
    (hcache : e'.cache = e.cache) (htickets : e'.tickets.Perm e.tickets) : e'.Coherent := by
  refine ⟨(htickets.map Ticket.key).nodup_iff.mpr h.distinct, fun ticket hticket => ?_⟩
  rw [hcache]
  exact h.pending ticket (htickets.mem_iff.mp hticket)

/-- A ticket may be given back with its record, if the call touches no other record. -/
theorem Coherent.of_cons {e e' : Exchange ρ capacity} {ticket : Ticket} (h : e.Coherent)
    (htickets : e.tickets.Perm (ticket :: e'.tickets))
    (hcache : ∀ key fingerprint, key ≠ ticket.key →
      e.cache.lookup key = some (.pending fingerprint) →
      e'.cache.lookup key = some (.pending fingerprint)) : e'.Coherent := by
  have hdistinct := (htickets.map Ticket.key).nodup_iff.mp h.distinct
  rw [List.map_cons, List.nodup_cons] at hdistinct
  refine ⟨hdistinct.2, fun other hother => ?_⟩
  have hne : other.key ≠ ticket.key := by
    intro heq
    exact hdistinct.1 (heq ▸ List.mem_map_of_mem hother)
  exact hcache _ _ hne (h.pending other (htickets.mem_iff.mpr (List.mem_cons_of_mem _ hother)))

variable {e : Exchange ρ capacity}

theorem perm_erase_admitted {ticket : Ticket} (h : ticket ∈ e.admitted)
    (rest : List Ticket) :
    (e.admitted ++ rest).Perm (ticket :: (e.admitted.erase ticket ++ rest)) :=
  (List.perm_cons_erase h).append_right rest

/-- Every step keeps the exchange coherent. -/
theorem Coherent.step (h : e.Coherent) (queueCapacity : Nat)
    (op : ExchangeStep ρ) : (e.step queueCapacity op).Coherent := by
  cases op with
  | begin key fingerprint =>
    -- no call but an abandon removes a pending record, so the old tickets stay what they are
    have hpending : ∀ ticket ∈ e.tickets,
        (e.cache.perform (.begin key fingerprint)).lookup ticket.key =
          some (.pending ticket.fingerprint) := by
      intro ticket hticket
      have hcases := CacheState.lookup_perform_pending (h.pending ticket hticket) capacity
        (.begin key fingerprint)
      rcases hcases with hsame | ⟨response, hcall, -⟩ | ⟨hcall, -⟩
      · exact hsame
      · cases hcall
      · cases hcall
    unfold Exchange.step
    dsimp only
    split
    next hnew =>
      obtain ⟨hnone, hnow⟩ := IdempotencyCache.lookup_of_ask_new hnew
      refine ⟨?_, ?_⟩
      · refine List.nodup_cons.mpr ⟨fun hmem => ?_, h.distinct⟩
        obtain ⟨ticket, hticket, hkey⟩ := List.mem_map.mp hmem
        have hold := h.pending ticket hticket
        rw [hkey, hnone] at hold
        cases hold
      · intro ticket hticket
        rcases List.mem_cons.mp hticket with rfl | hold
        · exact hnow
        · exact hpending ticket hold
    next => exact ⟨h.distinct, hpending⟩
  | enqueue ticket =>
    unfold Exchange.step
    dsimp only
    split
    next hready =>
      refine h.of_perm rfl ?_
      have hback := (perm_erase_admitted hready.1
        (e.queue ++ (e.processing.map Prod.fst).toList)).symm
      refine List.Perm.trans ?_ hback
      unfold tickets
      dsimp only
      rw [List.append_assoc, List.singleton_append, ← List.append_assoc]
      exact List.perm_middle.trans (by rw [List.append_assoc])
    next => exact h
  | abandon ticket =>
    unfold Exchange.step
    dsimp only
    split
    next hready =>
      refine h.of_cons (perm_erase_admitted hready _) fun key fingerprint hne hkey => ?_
      rcases CacheState.lookup_abandon e.cache.state key ticket.key ticket.fingerprint with
        hsame | ⟨heq, -⟩
      · exact hsame.trans hkey
      · exact absurd heq.symm hne
    next => exact h
  | receive =>
    unfold Exchange.step
    dsimp only
    split
    next ticket rest hprocessing hqueue =>
      refine h.of_perm rfl ?_
      unfold tickets
      dsimp only
      rw [hprocessing, hqueue]
      refine List.Perm.append_left _ ?_
      simp
    next => exact h
  | dispatch response | expire response =>
    unfold Exchange.step
    dsimp only
    split
    next ticket hprocessing =>
      refine h.of_perm rfl ?_
      unfold tickets
      dsimp only
      rw [hprocessing]
      exact .refl _
    next => exact h
  | finish =>
    unfold Exchange.step
    dsimp only
    split
    next ticket response hprocessing =>
      have htickets : e.tickets.Perm (ticket :: (e.admitted ++ (e.queue ++ []))) := by
        unfold tickets
        rw [hprocessing]
        simp [← List.append_assoc]
      refine h.of_cons htickets fun key fingerprint hne hkey => ?_
      rcases CacheState.lookup_complete e.cache.state key ticket.key ticket.fingerprint response
        with hsame | ⟨heq, -⟩
      · exact hsame.trans hkey
      · exact absurd heq.symm hne
    next => exact h

/-- The record of the key is retained by the step. -/
def Retains (queueCapacity : Nat) (key : String) (op : ExchangeStep ρ) (e : Exchange ρ capacity) :
    Prop :=
  ((e.step queueCapacity op).cache.lookup key).isSome

/-- No command of the key is waiting for its dispatch. -/
structure Spent (key : String) (e : Exchange ρ capacity) : Prop where
  admitted : ∀ ticket ∈ e.admitted, ticket.key ≠ key
  queue : ∀ ticket ∈ e.queue, ticket.key ≠ key
  processing : ∀ ticket, e.processing = some (ticket, none) → ticket.key ≠ key

/-- While the record of a key is retained, no new ticket is given out for it. -/
theorem Spent.step {key : String} (h : e.Spent key)
    (hretained : (e.cache.lookup key).isSome) (queueCapacity : Nat) (op : ExchangeStep ρ) :
    (e.step queueCapacity op).Spent key := by
  cases op with
  | begin other fingerprint =>
    unfold Exchange.step
    dsimp only
    refine ⟨fun ticket hticket => ?_, h.queue, h.processing⟩
    split at hticket
    next hnew =>
      rcases List.mem_cons.mp hticket with rfl | hold
      · rintro rfl
        exact IdempotencyCache.ask_ne_new hretained fingerprint hnew
      · exact h.admitted ticket hold
    next => exact h.admitted ticket hticket
  | enqueue ticket =>
    unfold Exchange.step
    dsimp only
    split
    next hready =>
      refine ⟨fun other hother => h.admitted other (List.mem_of_mem_erase hother),
        fun other hother => ?_, h.processing⟩
      rcases List.mem_append.mp hother with hold | hnew
      · exact h.queue other hold
      · rw [List.mem_singleton.mp hnew]
        exact h.admitted ticket hready.1
    next => exact h
  | abandon ticket =>
    unfold Exchange.step
    dsimp only
    split
    · exact ⟨fun other hother => h.admitted other (List.mem_of_mem_erase hother), h.queue,
        h.processing⟩
    · exact h
  | receive =>
    unfold Exchange.step
    dsimp only
    split
    next ticket rest hprocessing hqueue =>
      have hwaiting : ∀ other ∈ ticket :: rest, other.key ≠ key := hqueue ▸ h.queue
      obtain ⟨hfirst, hrest⟩ := List.forall_mem_cons.mp hwaiting
      refine ⟨h.admitted, hrest, fun other hother => ?_⟩
      cases hother
      exact hfirst
    next => exact h
  | dispatch response | expire response =>
    unfold Exchange.step
    dsimp only
    split
    · exact ⟨h.admitted, h.queue, fun other hother => by cases hother⟩
    · exact h
  | finish =>
    unfold Exchange.step
    dsimp only
    split
    · exact ⟨h.admitted, h.queue, fun other hother => by cases hother⟩
    · exact h

/-- After the dispatch of a key, no other command of it is waiting: the tickets are distinct. -/
theorem spent_of_dispatches {key : String} {op : ExchangeStep ρ}
    (h : e.Coherent) (hdispatches : dispatches key op e = true) (queueCapacity : Nat) :
    (e.step queueCapacity op).Spent key := by
  unfold dispatches at hdispatches
  split at hdispatches
  next response ticket hprocessing =>
    have hkey : ticket.key = key := by simpa using hdispatches
    have hdistinct := h.distinct
    rw [tickets, hprocessing, ← List.append_assoc, List.map_append] at hdistinct
    have hother : ∀ other ∈ e.admitted ++ e.queue, other.key ≠ key := by
      intro other hmem heq
      have hin : ticket.key ∈ (e.admitted ++ e.queue).map Ticket.key := by
        rw [hkey, ← heq]
        exact List.mem_map_of_mem hmem
      exact List.disjoint_of_nodup_append hdistinct hin (by simp)
    unfold Exchange.step
    dsimp only
    rw [hprocessing]
    refine ⟨fun other hmem => hother other (List.mem_append_left _ hmem),
      fun other hmem => hother other (List.mem_append_right _ hmem), fun other heq => ?_⟩
    cases heq
  next => cases hdispatches

theorem not_dispatches_of_spent {key : String} (h : e.Spent key)
    (op : ExchangeStep ρ) : dispatches key op e = false := by
  unfold dispatches
  split
  next response ticket hprocessing =>
    exact beq_eq_false_iff_ne.mpr (h.processing ticket hprocessing)
  next => rfl

/-- From a coherent exchange that retains a key, one command of the key is dispatched at most, as
long as the key is retained. -/
theorem occurrences_dispatches_le_one {key : String}
    {queueCapacity : Nat} {more : List (ExchangeStep ρ)} (h : e.Coherent)
    (hretained : (e.cache.lookup key).isSome)
    (hmore : Meets (step queueCapacity) (Retains queueCapacity key) e more) :
    occurrences (step queueCapacity) (dispatches key) e more ≤ 1 :=
  occurrences_le_one_of_meets (P := fun e => e.Coherent ∧ (e.cache.lookup key).isSome)
    (Q := Spent key) (fun op _ he hkeep => ⟨he.1.step queueCapacity op, hkeep⟩)
    (fun op _ he hspent _ => hspent.step he.2 queueCapacity op)
    (fun op _ _ hspent => not_dispatches_of_spent hspent op)
    (fun _ _ he _ hdispatch => spent_of_dispatches he.1 hdispatch queueCapacity)
    ⟨h, hretained⟩ hmore

end Exchange

namespace IdempotencyCache

/-- The record of the key is retained by the call. -/
def Retains (key : String) (call : CacheCall ρ) (c : IdempotencyCache ρ capacity) : Prop :=
  ((c.perform call).lookup key).isSome

theorem lookup_isSome_of_meets {key : String}
    {calls : List (CacheCall ρ)} (h : (c.lookup key).isSome)
    (hcalls : Meets perform (Retains key) c calls) :
    ((run perform c calls).lookup key).isSome :=
  run_invariant_of_meets (P := fun c : IdempotencyCache ρ capacity => (c.lookup key).isSome)
    (fun _ _ _ hkeep => hkeep) h hcalls

/-- A complete record keeps its response over every run that retains it. -/
theorem lookup_complete_of_meets
    {response : ρ} {calls : List (CacheCall ρ)}
    (h : c.lookup key = some (.complete fingerprint response))
    (hcalls : Meets perform (Retains key) c calls) :
    (run perform c calls).lookup key = some (.complete fingerprint response) :=
  run_invariant_of_meets
    (P := fun c : IdempotencyCache ρ capacity =>
      c.lookup key = some (.complete fingerprint response))
    (fun _ _ hc hkeep => lookup_complete_of_retained hc hkeep) h hcalls

/-- An answer `complete` comes from a complete record with the asked fingerprint. -/
theorem lookup_of_ask_complete
    {response : ρ} (h : c.ask key fingerprint = .complete response) :
    c.lookup key = some (.complete fingerprint response) := by
  cases hlookup : c.lookup key with
  | none =>
    have hstate : c.state.records.lookup key = none := hlookup
    unfold ask CacheState.begin at h
    rw [hstate] at h
    dsimp only at h
    split at h <;> cases h
  | some record =>
    rw [ask_of_lookup hlookup] at h
    cases record with
    | pending current =>
      rw [CacheState.answer] at h
      split at h <;> cases h
    | complete current stored =>
      rw [CacheState.answer] at h
      split at h
      next hfp =>
        cases h
        rw [hfp]
      next => cases h

end IdempotencyCache

/-- The cache keeps its two structures together and within its capacity, loses a pending record only
to its own `abandon`, and keeps a complete one unchanged until it is evicted. So, as long as a key
that was answered `new` is retained, it is not answered `new` again and a response once given stays
the response; and in every interleaving of the connection threads with the loop at most one command
of the key is dispatched in that time. -/
theorem idempotencyCache_dispatches_once (ρ : Type) (capacity queueCapacity : Nat) :
    (∀ calls : List (CacheCall ρ),
      let c := run IdempotencyCache.perform (.empty : IdempotencyCache ρ capacity) calls
      (c.state.order.Nodup ∧ ∀ key, key ∈ c.state.order ↔ (c.lookup key).isSome) ∧
      c.state.size ≤ capacity ∧
      (∀ call key fingerprint, c.lookup key = some (.pending fingerprint) →
        (c.perform call).lookup key = none → call = .abandon key fingerprint) ∧
      (∀ call key fingerprint response, c.lookup key = some (.complete fingerprint response) →
        (c.perform call).lookup key = some (.complete fingerprint response) ∨
          (c.perform call).lookup key = none ∧ ∃ other fp, call = .begin other fp ∧ other ≠ key) ∧
      ∀ key fingerprint more, c.ask key fingerprint = .new →
        let begun := c.perform (.begin key fingerprint)
        Meets IdempotencyCache.perform (IdempotencyCache.Retains key) begun more →
        let c' := run IdempotencyCache.perform begun more
        (∀ fp, c'.ask key fp ≠ .new) ∧
        ∀ fp response again, c'.ask key fp = .complete response →
          Meets IdempotencyCache.perform (IdempotencyCache.Retains key) c' again →
          (run IdempotencyCache.perform c' again).ask key fp = .complete response) ∧
    ∀ (steps more : List (ExchangeStep ρ)) (key fingerprint : String),
      let e := run (Exchange.step queueCapacity) (.empty : Exchange ρ capacity) steps
      e.cache.ask key fingerprint = .new →
      let begun := e.step queueCapacity (.begin key fingerprint)
      Meets (Exchange.step queueCapacity) (Exchange.Retains queueCapacity key) begun more →
      occurrences (Exchange.step queueCapacity) (Exchange.dispatches key) begun more ≤ 1 := by
  refine ⟨fun calls => ?_, fun steps more key fingerprint hnew hmore => ?_⟩
  · intro c
    refine ⟨⟨c.wellFormed.nodup, fun key => ?_⟩, c.wellFormed.size, ?_, ?_, ?_⟩
    · rw [c.wellFormed.mem_order]
      exact AList.lookup_isSome.symm
    · intro call key fingerprint hpending hgone
      have hcases := CacheState.lookup_perform_pending hpending capacity call
      rcases hcases with hsame | ⟨response, -, hdone⟩ | ⟨hcall, -⟩
      · cases hgone.symm.trans hsame
      · cases hgone.symm.trans hdone
      · exact hcall
    · intro call key fingerprint response hcomplete
      have hcases := CacheState.lookup_perform_complete hcomplete capacity call
      rcases hcases with hsame | ⟨hcall, hgone⟩
      · exact .inl hsame
      · exact .inr ⟨hgone, hcall⟩
    · intro key fingerprint more hnew begun hmore c'
      have hbegun : (begun.lookup key).isSome := by
        rw [(IdempotencyCache.lookup_of_ask_new hnew).2]
        rfl
      refine ⟨fun fp => ?_, fun fp response again hanswer hagain => ?_⟩
      · exact IdempotencyCache.ask_ne_new
          (IdempotencyCache.lookup_isSome_of_meets hbegun hmore) fp
      · have hrecord := IdempotencyCache.lookup_complete_of_meets
          (IdempotencyCache.lookup_of_ask_complete hanswer) hagain
        rw [IdempotencyCache.ask_of_lookup hrecord, CacheState.answer, if_pos rfl]
  · have hcoherent := run_invariant (P := Exchange.Coherent)
      (fun op e he => he.step queueCapacity op)
      (@Exchange.coherent_empty ρ capacity) steps
    have hretained := (IdempotencyCache.lookup_of_ask_new hnew).2
    refine Exchange.occurrences_dispatches_le_one (hcoherent.step queueCapacity _) ?_ hmore
    exact Option.isSome_of_eq_some hretained

end AscensionWatchdog
