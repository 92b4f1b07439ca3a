import MqttApp.Proofs.Frame

/-! # Clients, timers and buffers are released exactly once

The history of an object is what the trace did to it: its creation (`true`), then its releases
(`false`). `Ledger` says of one kind of object that every history is empty, a lone creation for the
object the statics hold, or a creation and one release. `Books` keeps the three ledgers (clients,
timers, heap buffers) with the buffer a call still holds, and that nothing `NULL` is released.
Each state operation of `mqtt_app_start` and `mqtt_app_stop` keeps `Books` by one primitive lemma:
the start's chain keeps them through `StartClosed`, the stop follows its own code through those
lemmas, and `Owned` (the books balanced with no buffer pending, a client exactly when a timer)
holds in every reachable state.
-/

namespace MqttApp
open State

namespace Call

/-- How a call bears on clients: `some (h, true)` creates `h`, `some (h, false)` releases it. -/
def clientEvent : Call → Option (Nat × Bool)
  | .clientInit _ (some h) => some (h, true)
  | .clientDestroy (some h) => some (h, false)
  | _ => none

def timerEvent : Call → Option (Nat × Bool)
  | .timerCreate (some h) => some (h, true)
  | .timerDelete (some h) => some (h, false)
  | _ => none

def bufferEvent : Call → Option (Nat × Bool)
  | .malloc _ (some h) => some (h, true)
  | .free h => some (h, false)
  | _ => none

def releasesNull : Call → Bool
  | .clientDestroy none | .timerDelete none => true
  | _ => false

/-- A call that creates and releases nothing. -/
def neutral (c : Call) : Bool :=
  c.clientEvent.isNone && c.timerEvent.isNone && c.bufferEvent.isNone && !c.releasesNull

theorem neutral_of_isMessage {c : Call} (h : c.isMessage) : c.neutral := by
  cases c <;> first | rfl | exact absurd h Bool.false_ne_true

end Call

/-- What the calls `l` did to object `h` of the kind `ev` describes, in order. -/
def history (ev : Call → Option (Nat × Bool)) (h : Nat) (l : List Call) : List Bool :=
  l.filterMap fun c => (ev c).bind fun p => if p.1 = h then some p.2 else none

@[simp] theorem history_append (ev : Call → Option (Nat × Bool)) (h : Nat) (l₁ l₂ : List Call) :
    history ev h (l₁ ++ l₂) = history ev h l₁ ++ history ev h l₂ :=
  List.filterMap_append _ _ _

theorem history_singleton (ev : Call → Option (Nat × Bool)) (h : Nat) (c : Call) :
    history ev h [c] = match ev c with
      | some (h', b) => if h' = h then [b] else []
      | none => [] := by
  simp only [history, List.filterMap_cons, List.filterMap_nil]
  cases ev c with
  | none => rfl
  | some p => obtain ⟨h', b⟩ := p; by_cases e : h' = h <;> simp [e]

/-- Calls that do not bear on a kind of object leave every history of that kind as it was. -/
theorem history_eq_nil {ev : Call → Option (Nat × Bool)} {l : List Call}
    (hl : ∀ c ∈ l, ev c = none) (h : Nat) : history ev h l = [] := by
  simp only [history, List.filterMap_eq_nil_iff]
  intro c hc
  simp [hl c hc]

/-- The objects of one kind in a trace: every one was created once, under a name below `fresh`;
`held` is live and every other one was released exactly once. -/
structure Ledger (ev : Call → Option (Nat × Bool)) (held : Option Nat) (fresh : Nat)
    (trace : List Call) : Prop where
  live : ∀ h, held = some h → history ev h trace = [true]
  released : ∀ h, held ≠ some h → history ev h trace = [] ∨ history ev h trace = [true, false]
  unused : ∀ h, fresh ≤ h → history ev h trace = []

namespace Ledger
variable {ev : Call → Option (Nat × Bool)} {held : Option Nat} {fresh : Nat}
  {trace : List Call}

theorem others (L : Ledger ev held fresh trace) {l : List Call} (hl : ∀ c ∈ l, ev c = none) :
    Ledger ev held fresh (trace ++ l) := by
  refine ⟨fun h e => ?_, fun h e => ?_, fun h e => ?_⟩ <;>
    simp only [history_append, history_eq_nil hl, List.append_nil]
  exacts [L.live h e, L.released h e, L.unused h e]

theorem empty : Ledger ev none fresh [] :=
  ⟨fun _ e => by simp at e, fun _ _ => .inl rfl, fun _ _ => rfl⟩

theorem next (L : Ledger ev held fresh trace) : Ledger ev held (fresh + 1) trace :=
  ⟨L.live, L.released, fun h e => L.unused h (by omega)⟩

theorem create (L : Ledger ev none fresh trace) {c : Call} (hc : ev c = some (fresh, true)) :
    Ledger ev (some fresh) (fresh + 1) (trace ++ [c]) := by
  refine ⟨fun h e => ?_, fun h e => ?_, fun h e => ?_⟩ <;>
    simp only [history_append, history_singleton, hc]
  · obtain rfl := Option.some.inj e; simp [L.unused fresh le_rfl]
  · have : fresh ≠ h := fun h' => e (h' ▸ rfl)
    simpa [this] using L.released h (by simp)
  · simp [L.unused h (by omega), show fresh ≠ h by omega]

theorem release {h₀ : Nat} (L : Ledger ev (some h₀) fresh trace) {c : Call}
    (hc : ev c = some (h₀, false)) : Ledger ev none fresh (trace ++ [c]) := by
  have hlt : h₀ < fresh := by
    by_contra hn; have := L.live h₀ rfl; rw [L.unused h₀ (by omega)] at this; simp at this
  refine ⟨fun h e => by simp at e, fun h _ => ?_, fun h e => ?_⟩ <;>
    simp only [history_append, history_singleton, hc]
  · by_cases e : h₀ = h
    · subst e; simp [L.live h₀ rfl]
    · simpa [e] using L.released h (fun h' => e (Option.some.inj h'))
  · simp [L.unused h e, show h₀ ≠ h by omega]

end Ledger

/-- The ledgers of a state, `pending` being the heap buffer the running call still holds. -/
structure Books (s : State) (pending : Option Nat) : Prop where
  clients : Ledger Call.clientEvent s.client s.fresh s.trace
  timers : Ledger Call.timerEvent s.reconnectTimer s.fresh s.trace
  buffers : Ledger Call.bufferEvent pending s.fresh s.trace
  noNull : ∀ c ∈ s.trace, c.releasesNull = false

namespace Books
variable {s : State} {p : Option Nat}

/-- Calls that create and release nothing. -/
theorem calls (B : Books s p) {l : List Call} (hl : ∀ c ∈ l, c.neutral) :
    Books { s with trace := s.trace ++ l } p := by
  simp only [Call.neutral, Bool.and_eq_true, Option.isNone_iff_eq_none, Bool.not_eq_true'] at hl
  refine ⟨B.clients.others fun c hc => (hl c hc).1.1.1, B.timers.others fun c hc => (hl c hc).1.1.2,
    B.buffers.others fun c hc => (hl c hc).1.2, ?_⟩
  simp only [List.mem_append]
  rintro c (hc | hc)
  exacts [B.noNull c hc, (hl c hc).2]

theorem call (B : Books s p) {c : Call} (hc : c.neutral) : Books (s.call c) p :=
  B.calls (l := [c]) (by simpa using hc)

theorem next (B : Books s p) : Books s.next p :=
  ⟨B.clients.next, B.timers.next, B.buffers.next, B.noNull⟩

/-- `Books` reads only the handles, `fresh` and the trace. -/
theorem congr {t : State} (B : Books s p) (hc : t.client = s.client)
    (ht : t.reconnectTimer = s.reconnectTimer) (hf : t.fresh = s.fresh) (htr : t.trace = s.trace) :
    Books t p := by
  obtain ⟨B₁, B₂, B₃, B₄⟩ := B
  exact ⟨hc ▸ hf ▸ htr ▸ B₁, ht ▸ hf ▸ htr ▸ B₂, hf ▸ htr ▸ B₃, htr ▸ B₄⟩

theorem message {s' : State} (B : Books s p) (h : MessageStep s s') : Books s' p := by
  obtain ⟨l, e, hl⟩ := h.trace
  exact (B.calls fun c hc => Call.neutral_of_isMessage (hl c hc)).congr h.client h.reconnectTimer
    h.fresh e

theorem noNull_append (B : Books s p) {c : Call} (hc : c.releasesNull = false) :
    ∀ c' ∈ s.trace ++ [c], c'.releasesNull = false := by
  intro c' h'
  rcases List.mem_append.1 h' with h | h
  exacts [B.noNull c' h, List.mem_singleton.1 h ▸ hc]

/-- `malloc` succeeds: the call now holds the next name. -/
theorem malloc (B : Books s none) (n : Nat) :
    Books (s.call (.malloc n (some s.fresh))).next (some s.fresh) :=
  ⟨(B.clients.others (l := [_]) (by simp [Call.clientEvent])).next,
    (B.timers.others (l := [_]) (by simp [Call.timerEvent])).next, B.buffers.create rfl,
    B.noNull_append rfl⟩

/-- `free` of the buffer the call holds. -/
theorem free {b : Nat} (B : Books s (some b)) : Books (s.call (.free b)) none :=
  ⟨B.clients.others (l := [_]) (by simp [Call.clientEvent]),
    B.timers.others (l := [_]) (by simp [Call.timerEvent]), B.buffers.release rfl,
    B.noNull_append rfl⟩

theorem clientInit (B : Books s p) (hc : s.client = none) (env : Env) (cfg : ClientConfig) :
    Books (clientInit env cfg s) p := by
  unfold State.clientInit
  split
  · exact ⟨(hc ▸ B.clients).create rfl, (B.timers.others (l := [_]) (by simp [Call.timerEvent])).next,
      (B.buffers.others (l := [_]) (by simp [Call.bufferEvent])).next,
      B.noNull_append rfl⟩
  · exact (B.call (c := .clientInit cfg none) rfl).congr hc.symm rfl rfl rfl

theorem timerCreate (B : Books s p) (ht : s.reconnectTimer = none) (env : Env) :
    Books (timerCreate env s) p := by
  unfold State.timerCreate
  split
  · exact ⟨(B.clients.others (l := [_]) (by simp [Call.clientEvent])).next, (ht ▸ B.timers).create rfl,
      (B.buffers.others (l := [_]) (by simp [Call.bufferEvent])).next,
      B.noNull_append rfl⟩
  · exact B.call rfl

theorem destroyClient {h : Nat} (B : Books s p) (hc : s.client = some h) :
    Books (destroyClient s) p :=
  ⟨by rw [destroyClient_trace, hc]; exact (hc ▸ B.clients).release rfl,
    by rw [destroyClient_trace, hc]; exact B.timers.others (l := [_]) (by simp [Call.timerEvent]),
    by rw [destroyClient_trace, hc]; exact B.buffers.others (l := [_]) (by simp [Call.bufferEvent]),
    by rw [destroyClient_trace, hc]; exact B.noNull_append rfl⟩

theorem deleteTimer {h : Nat} (B : Books s p) (ht : s.reconnectTimer = some h) :
    Books (deleteTimer s) p :=
  ⟨by rw [deleteTimer_trace, ht]; exact B.clients.others (l := [_]) (by simp [Call.clientEvent]),
    by rw [deleteTimer_trace, ht]; exact (ht ▸ B.timers).release rfl,
    by rw [deleteTimer_trace, ht]; exact B.buffers.others (l := [_]) (by simp [Call.bufferEvent]),
    by rw [deleteTimer_trace, ht]; exact B.noNull_append rfl⟩

end Books

/-! ## `mqtt_app_start` from the pre-start condition -/

/-- The books are a property the start's chain keeps. -/
theorem Books.startClosed : StartClosed Books :=
  ⟨fun _ B => B.call rfl, fun _ B => B.malloc 20, fun _ _ env cfg hc B => B.clientInit hc env cfg,
    fun _ _ env ht B => B.timerCreate ht env, fun _ _ B => B.call rfl,
    fun s _ B => (B.congr (t := { s with mqttRetryCount := 0 }) rfl rfl rfl rfl).call (c := .clientStart s.client) rfl,
    fun _ _ _ hc B => B.destroyClient hc,
    fun _ _ _ ht B => B.deleteTimer ht, fun _ _ B => B.free⟩

/-- From no client and no timer, a start leaves both or neither: the client and the timer it
created, or nothing after a failure. -/
theorem mqttAppStart_handles (env : Env) {s : State} (hc : s.client = none)
    (ht : s.reconnectTimer = none) :
    (mqttAppStart env s).client = (if startSucceeds env then some (s.fresh + 1) else none) ∧
    (mqttAppStart env s).reconnectTimer = (if startSucceeds env then some (s.fresh + 2) else none) := by
  rw [mqttAppStart_eq_startWith, startWith_spec _ _ hc]
  by_cases h : startSucceeds env = true
  · simp [h, startStage_eq_five.2 h]
  · simp [h, mt startStage_eq_five.1 h, ht]

theorem history_buffer_startCalls (cfg : ClientConfig) (n : Nat) :
    ∀ k, history Call.bufferEvent n (startCalls cfg n k) = if k = 0 then [] else [true, false]
  | 0 => rfl
  | 1 | 2 | 3 | 4 | _ + 5 => by
    simp only [startCalls, history, List.filterMap_cons, List.filterMap_nil, Call.bufferEvent,
      Option.some_bind, Option.none_bind, if_true, ite_self]
    simp

/-- The client-id buffer of a start is its first fresh name, allocated and freed within the call. -/
theorem mqttAppStart_buffer (env : Env) {s : State} (hc : s.client = none) :
    history Call.bufferEvent s.fresh (mqttAppStart env s).trace =
      history Call.bufferEvent s.fresh s.trace ++ (if env.mallocOk then [true, false] else []) := by
  rw [mqttAppStart_eq_startWith, startWith_spec _ _ hc, history_append, history_buffer_startCalls]
  cases hm : env.mallocOk <;> simp [startStage_eq_zero, hm]

/-! ## The invariant between calls -/

/-- Between calls: every client, timer and buffer created so far is held or was released exactly
once, no call holds a buffer, and there is a client exactly when there is a timer. -/
structure Owned (s : State) : Prop where
  books : Books s none
  paired : s.client.isSome = s.reconnectTimer.isSome

namespace Owned
variable {s s' : State}

theorem noTimer (O : Owned s) (hc : s.client = none) : s.reconnectTimer = none := by
  simpa [hc] using O.paired.symm

theorem congr {t : State} (O : Owned s) (hc : t.client = s.client)
    (ht : t.reconnectTimer = s.reconnectTimer) (hf : t.fresh = s.fresh) (htr : t.trace = s.trace) :
    Owned t :=
  ⟨O.books.congr hc ht hf htr, by rw [hc, ht, O.paired]⟩

theorem message (O : Owned s) (h : MessageStep s s') : Owned s' :=
  ⟨O.books.message h, by rw [h.client, h.reconnectTimer, O.paired]⟩

theorem call (O : Owned s) {c : Call} (hc : c.neutral) : Owned (s.call c) :=
  ⟨O.books.call hc, O.paired⟩

theorem mqttAppStart (O : Owned s) (env : Env) : Owned (mqttAppStart env s) := by
  cases hc : s.client with
  | some c => simpa [State.mqttAppStart, hc] using O
  | none =>
    have ht := O.noTimer hc
    obtain ⟨h₁, h₂⟩ := mqttAppStart_handles env hc ht
    refine ⟨?_, by rw [h₁, h₂]; split <;> rfl⟩
    rw [State.mqttAppStart_eq_startWith]
    exact Books.startClosed.startWith O.books hc ht _ env

theorem mqttAppStop (O : Owned s) (env : Env) : Owned (mqttAppStop env s) := by
  cases hc : s.client with
  | none => simpa [State.mqttAppStop, hc] using O
  | some c =>
    obtain ⟨t, ht⟩ := Option.isSome_iff_exists.1 (show s.reconnectTimer.isSome by simp [← O.paired, hc])
    unfold State.mqttAppStop
    simp only [hc, ht, Option.isNone_some, Option.isSome_some, Bool.false_eq_true, if_true, if_false]
    have B₁ : Books (deleteTimer (if env.timerIsActive then s.call (.timerStop (some t)) else s)) none := by
      split
      · exact (O.books.call (by rfl)).deleteTimer ht
      · exact O.books.deleteTimer ht
    have hc₁ : (deleteTimer (if env.timerIsActive then s.call (.timerStop (some t)) else s)).client =
        some c := by split <;> simp [hc]
    have ht₁ := deleteTimer_reconnectTimer (if env.timerIsActive then s.call (.timerStop (some t)) else s)
    generalize deleteTimer _ = s₁ at *
    split
    · exact ⟨(((B₁.call (by rfl)).call (by rfl)).call (by rfl)).destroyClient (by simpa using hc₁), by simp [ht₁]⟩
    · exact ⟨(B₁.call (by rfl)).destroyClient (by simpa using hc₁), by simp [ht₁]⟩

theorem mqttEventHandler (O : Owned s) (e : Event) (env : Env) :
    Owned (mqttEventHandler e env s) := by
  cases e with
  | connected =>
    exact ((O.congr (t := { s with mqttRetryCount := 0, mqttConnected := true }) rfl rfl rfl rfl).call
      (by rfl)).message (publishJsonStatus_step ..)
  | disconnected =>
    have O₁ := O.congr (t := { s with mqttConnected := false }) rfl rfl rfl rfl
    simp only [State.mqttEventHandler]
    split
    · exact (O₁.call (by rfl)).congr rfl rfl rfl rfl
    · exact O₁
  | data topic topicLen data =>
    simp only [State.mqttEventHandler]
    split
    · have B₁ := O.books.malloc (data.length + 1)
      have h : MessageStep (s.call (.malloc (data.length + 1) (some s.fresh))).next
          (if strncmp topic mqttTopicDeviceCommands.at mqttTopicDeviceCommands.length = 0 then
            processJsonCommand (data ++ [0]) env (s.call (.malloc (data.length + 1) (some s.fresh))).next
          else (s.call (.malloc (data.length + 1) (some s.fresh))).next) := by
        split
        · exact processJsonCommand_step ..
        · exact .refl _
      exact ⟨(B₁.message h).free, by simp [h.client, h.reconnectTimer, O.paired]⟩
    · exact O.call (by rfl)
  | _ => exact O

theorem step (O : Owned s) (a : Action) (env : Env) : Owned (MqttApp.step s a env) := by
  cases a with
  | start => exact O.mqttAppStart env
  | stop => exact O.mqttAppStop env
  | event e => exact O.mqttEventHandler e env
  | setIp ip => cases ip <;> exact O.congr rfl rfl rfl rfl
  | reconnectTimerExpiry =>
    simp only [MqttApp.step, mqttReconnectTimerCallback]
    split
    · exact O.call (by rfl)
    · exact O
  | _ => exact O.message (step_message (by rfl) s env)

end Owned

theorem Reachable.owned {s : State} (h : Reachable s) : Owned s := by
  induction h with
  | init => exact ⟨⟨.empty, .empty, .empty, by simp [State.init]⟩, rfl⟩
  | step a env _ ih => exact ih.step a env

/-- Whatever the collaborators answer: between calls a client exists exactly when a timer does,
and every client, timer and buffer ever created is the one held or was released exactly once; a
start that gets past its `client != NULL` check and fails leaves neither; the client-id buffer of
a start is allocated and freed within that call. -/
theorem lifecycle_ownership :
    (∀ s, Reachable s → Owned s) ∧
    (∀ s env, Reachable s → s.client = none → startSucceeds env = false →
      (mqttAppStart env s).client = none ∧ (mqttAppStart env s).reconnectTimer = none) ∧
    (∀ s env, Reachable s → s.client = none → env.mallocOk = true →
      history Call.bufferEvent s.fresh s.trace = [] ∧
      history Call.bufferEvent s.fresh (mqttAppStart env s).trace = [true, false]) := by
  refine ⟨fun s h => h.owned, fun s env h hc hf => ?_, fun s env h hc hm => ?_⟩
  · simpa [hf] using mqttAppStart_handles env hc (h.owned.noTimer hc)
  · have h₀ := h.owned.books.buffers.unused s.fresh le_rfl
    simp [mqttAppStart_buffer env hc, h₀, hm]

end MqttApp