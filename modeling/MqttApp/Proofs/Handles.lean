import MqttApp.Proofs.Link

/-! # What the collaborators are handed

Two things the session code never does, in any run. It never passes a released handle: every call
into the MQTT client or `esp_timer` passes a handle read from the statics, and every release is
followed by `client = NULL` or `reconnect_timer = NULL`. `LiveUses` says of a trace that each call
passed only handles created before it and not yet released, `NULL` apart; `Safe` keeps it together
with `Books`, which knows which handles are live, and every step of both versions keeps `Safe`.
For the earlier version this also gives the ownership invariant of the later one. And the later
version hands the LED executor nothing but `A`, `B` and `C` (`NamedLeds`), where the earlier one
hands it the byte of any one-byte message.

The message layer makes three kinds of request; `MessageClosed` names a property that each keeps,
and the message functions keep every such property.
-/

namespace MqttApp
open State

namespace Call

/-- The client handle a call passes to the MQTT client, if any. -/
def clientArg : Call → Option Nat
  | .clientRegisterEvent c | .clientStart c | .clientStop c | .clientDestroy c
  | .clientDisconnect c => c
  | .clientPublish c .. | .clientSubscribe c .. | .clientUnsubscribe c .. => c
  | _ => none

/-- The timer handle a call passes to `esp_timer`, if any. -/
def timerArg : Call → Option Nat
  | .timerStartOnce t _ | .timerStop t | .timerDelete t => t
  | _ => none

theorem timerArg_of_isMessage {c : Call} (h : c.isMessage) : c.timerArg = none := by
  cases c <;> first | rfl | exact absurd h Bool.false_ne_true

end Call

/-- The topic, QoS and retain flag of each kind of publish the message layer makes: status
retained, responses and telemetry not, all at QoS 1. -/
def messagePublishes : List (Bytes × Int × Bool) :=
  [(mqttTopicDeviceStatus, 1, true), (mqttTopicDeviceResponse, 1, false), (mqttTopicDeviceTelemetry, 1, false)]

/-- A property of states that the requests of the message layer keep: moving the status mark, a
publish request on the client the state holds, of one of the `messagePublishes` kinds, and the LED
commands `A`, `B` and `C`. -/
structure MessageClosed (P : State → Prop) : Prop where
  mark : ∀ s t, P s → P { s with lastUpdateTime := t }
  publish : ∀ s topic data len qos retain, (topic, qos, retain) ∈ messagePublishes →
    P s → P (s.call (.clientPublish s.client topic data len qos retain))
  led : ∀ s x, x = 65 ∨ x = 66 ∨ x = 67 → P s → P (s.call (.processLedCommand x))

namespace MessageClosed
variable {P : State → Prop} {s : State}

theorem publishJsonStatus (hP : MessageClosed P) (h : P s) (status : Bytes) (env : Env) :
    P (publishJsonStatus status env s).2 := by
  unfold State.publishJsonStatus
  split
  · exact h
  split
  · exact h
  dsimp only
  generalize (if env.publishMsgId > 0 then espOk else espFail) = r
  have h₁ := hP.mark s (UInt32.ofNat (env.timeUs 1 / 1000000)) h
  split
  · exact hP.publish _ _ _ _ _ _ (.head _) h₁
  · exact h₁

theorem publishJsonMessage (hP : MessageClosed P) (h : P s) {topic : Bytes} (ht : (topic, 1, false) ∈ messagePublishes)
    (type : Bytes) (payload : Option Item) (env : Env) : P (publishJsonMessage topic type payload env s).2 := by
  unfold State.publishJsonMessage
  split
  · exact h
  split
  · exact h
  split
  · exact h
  dsimp only
  generalize (if env.publishMsgId > 0 then espOk else espFail) = r
  split
  · exact hP.publish _ _ _ _ _ _ ht h
  · exact h

theorem ledCommand (hP : MessageClosed P) (h : P s) (cmd : Bytes) : P (ledCommand cmd s) := by
  unfold State.ledCommand
  split_ifs
  · exact hP.led _ _ (.inl rfl) h
  · exact hP.led _ _ (.inr (.inl rfl)) h
  · exact hP.led _ _ (.inr (.inr rfl)) h
  · exact h

theorem processJsonCommand (hP : MessageClosed P) (h : P s) (jsonStr : Bytes) (env : Env) :
    P (processJsonCommand jsonStr env s) := by
  have hr : (mqttTopicDeviceResponse, 1, false) ∈ messagePublishes := .tail _ (.head _)
  unfold State.processJsonCommand
  repeat' split
  all_goals first
    | exact h
    | exact hP.publish _ _ _ _ _ _ hr h
    | exact hP.publishJsonMessage (hP.ledCommand h _) hr ..

end MessageClosed

/-! ## Live handles -/

/-- A call made after the calls `l` passes only handles that `l` created and has not released. -/
def UsesLive (l : List Call) (c : Call) : Prop :=
  (∀ h, c.clientArg = some h → history Call.clientEvent h l = [true]) ∧
  (∀ h, c.timerArg = some h → history Call.timerEvent h l = [true])

/-- Every call of a trace passed only handles that were live when it was made. -/
def LiveUses (trace : List Call) : Prop := ∀ l c r, trace = l ++ c :: r → UsesLive l c

theorem LiveUses.nil : LiveUses [] := fun _ _ _ e => by simp at e

theorem LiveUses.snoc {t : List Call} (hu : LiveUses t) {c : Call} (hc : UsesLive t c) :
    LiveUses (t ++ [c]) := by
  intro l c' r e
  rcases List.eq_nil_or_concat r with rfl | ⟨r', x, rfl⟩
  · obtain ⟨rfl, h⟩ := List.append_inj' e rfl
    exact (List.singleton_inj.1 h) ▸ hc
  · rw [List.concat_eq_append, ← List.cons_append, ← List.append_assoc] at e
    exact hu l c' r' (List.append_inj_left' e rfl)

/-- The calls the lifecycle code makes pass the statics' handles, or none. -/
theorem Books.usesLive {s : State} {p : Option Nat} (B : Books s p) {c : Call}
    (hc : c.clientArg = none ∨ c.clientArg = s.client)
    (ht : c.timerArg = none ∨ c.timerArg = s.reconnectTimer) : UsesLive s.trace c := by
  refine ⟨fun h e => B.clients.live h ?_, fun h e => B.timers.live h ?_⟩
  · rcases hc with hc | hc
    · rw [hc] at e; cases e
    · rw [← hc, e]
  · rcases ht with ht | ht
    · rw [ht] at e; cases e
    · rw [← ht, e]

/-- `Books`, and no call so far passed a dead handle. -/
structure Safe (s : State) (pending : Option Nat) : Prop where
  books : Books s pending
  uses : LiveUses s.trace

namespace Safe
variable {s : State} {p : Option Nat}

theorem congr {t : State} (S : Safe s p) (hc : t.client = s.client)
    (ht : t.reconnectTimer = s.reconnectTimer) (hf : t.fresh = s.fresh) (htr : t.trace = s.trace) :
    Safe t p :=
  ⟨S.books.congr hc ht hf htr, htr ▸ S.uses⟩

/-- A call that creates and releases nothing and passes the statics' handles, or none. -/
theorem call (S : Safe s p) {c : Call} (hn : c.neutral)
    (hc : c.clientArg = none ∨ c.clientArg = s.client)
    (ht : c.timerArg = none ∨ c.timerArg = s.reconnectTimer) : Safe (s.call c) p :=
  ⟨S.books.call hn, S.uses.snoc (S.books.usesLive hc ht)⟩

theorem message (S : Safe s p) {c : Call} (hm : c.isMessage)
    (hc : c.clientArg = none ∨ c.clientArg = s.client) : Safe (s.call c) p :=
  S.call (Call.neutral_of_isMessage hm) hc (.inl (Call.timerArg_of_isMessage hm))

theorem next (S : Safe s p) : Safe s.next p := ⟨S.books.next, S.uses⟩

theorem malloc (S : Safe s none) (n : Nat) :
    Safe (s.call (.malloc n (some s.fresh))).next (some s.fresh) :=
  ⟨S.books.malloc n, S.uses.snoc (S.books.usesLive (.inl (by rfl)) (.inl (by rfl)))⟩

theorem free {b : Nat} (S : Safe s (some b)) : Safe (s.call (.free b)) none :=
  ⟨S.books.free, S.uses.snoc (S.books.usesLive (.inl (by rfl)) (.inl (by rfl)))⟩

theorem clientInit (S : Safe s p) (hc : s.client = none) (env : Env) (cfg : ClientConfig) :
    Safe (clientInit env cfg s) p := by
  refine ⟨S.books.clientInit hc env cfg, ?_⟩
  unfold State.clientInit
  split <;> exact S.uses.snoc (S.books.usesLive (.inl (by rfl)) (.inl (by rfl)))

theorem timerCreate (S : Safe s p) (ht : s.reconnectTimer = none) (env : Env) :
    Safe (timerCreate env s) p := by
  refine ⟨S.books.timerCreate ht env, ?_⟩
  unfold State.timerCreate
  split <;> exact S.uses.snoc (S.books.usesLive (.inl (by rfl)) (.inl (by rfl)))

theorem destroyClient {h : Nat} (S : Safe s p) (hc : s.client = some h) : Safe (destroyClient s) p :=
  ⟨S.books.destroyClient hc, S.uses.snoc (S.books.usesLive (.inr (by rfl)) (.inl (by rfl)))⟩

theorem deleteTimer {h : Nat} (S : Safe s p) (ht : s.reconnectTimer = some h) : Safe (deleteTimer s) p :=
  ⟨S.books.deleteTimer ht, S.uses.snoc (S.books.usesLive (.inl (by rfl)) (.inr (by rfl)))⟩

theorem gatedClientCall (S : Safe s p) (call : Option Nat → Call) (hm : ∀ c, (call c).isMessage)
    (hc : ∀ c, (call c).clientArg = c) (msgId : Int) : Safe (gatedClientCall call msgId s).2 p := by
  unfold State.gatedClientCall
  split
  · exact S
  · exact S.message (hm _) (.inr (hc _))

theorem messageClosed (p : Option Nat) : MessageClosed (Safe · p) :=
  ⟨fun _ _ S => S.congr rfl rfl rfl rfl, fun _ _ _ _ _ _ _ S => S.message (by rfl) (.inr (by rfl)),
    fun _ _ _ S => S.message (by rfl) (.inl (by rfl))⟩

/-- `Safe` is a property the start's chain keeps. -/
theorem startClosed : StartClosed Safe :=
  ⟨fun _ S => S.call rfl (.inl rfl) (.inl rfl), fun _ S => S.malloc 20,
    fun _ _ env cfg hc S => S.clientInit hc env cfg, fun _ _ env ht S => S.timerCreate ht env,
    fun _ _ S => S.call rfl (.inr rfl) (.inl rfl),
    fun s _ S => (S.congr (t := { s with mqttRetryCount := 0 }) rfl rfl rfl rfl).call
      (c := .clientStart s.client) rfl (.inr rfl) (.inl rfl),
    fun _ _ _ hc S => S.destroyClient hc, fun _ _ _ ht S => S.deleteTimer ht, fun _ _ S => S.free⟩

theorem startWith (S : Safe s none) (ht : s.client = none → s.reconnectTimer = none)
    (config : Bytes → ClientConfig) (env : Env) : Safe (startWith config env s) none := by
  cases hc : s.client with
  | some c => rw [startWith_of_isSome _ _ (by simp [hc])]; exact S
  | none => exact startClosed.startWith S hc (ht hc) config env

theorem stopWith (S : Safe s none) (goodbye : State → Call) (hm : ∀ t, (goodbye t).isMessage)
    (hc : ∀ t, (goodbye t).clientArg = t.client) (env : Env) : Safe (stopWith goodbye env s) none := by
  unfold State.stopWith
  cases hcl : s.client with
  | none => simpa [hcl] using S
  | some c =>
    simp only [Option.isNone_some, Bool.false_eq_true, if_false]
    have S₁ : Safe (if s.reconnectTimer.isSome then
        State.deleteTimer (if env.timerIsActive then s.call (.timerStop s.reconnectTimer) else s) else s) none := by
      cases ht : s.reconnectTimer with
      | none => exact S
      | some t =>
        simp only [Option.isSome_some, if_true]
        split
        · exact (S.call (c := .timerStop (some t)) (by rfl) (.inl (by rfl)) (.inr ht.symm)).deleteTimer ht
        · exact S.deleteTimer ht
    have hc₁ : (if s.reconnectTimer.isSome then
        State.deleteTimer (if env.timerIsActive then s.call (.timerStop s.reconnectTimer) else s) else s).client =
        some c := by split_ifs <;> simp [hcl]
    generalize (if s.reconnectTimer.isSome then _ else s) = s₁ at *
    have S₂ : Safe (if s₁.mqttConnected then (s₁.call (goodbye s₁)).call (.clientDisconnect s₁.client)
        else s₁) none := by
      split
      · exact (S₁.message (hm _) (.inr (hc _))).call (by rfl) (.inr (by rfl)) (.inl (by rfl))
      · exact S₁
    have hc₂ : (if s₁.mqttConnected then (s₁.call (goodbye s₁)).call (.clientDisconnect s₁.client)
        else s₁).client = some c := by split_ifs <;> simp [hc₁]
    generalize (if s₁.mqttConnected then _ else s₁) = s₂ at *
    exact (S₂.call (by rfl) (.inr (by rfl)) (.inl (by rfl))).destroyClient (by simpa using hc₂)

theorem mqttReconnectTimerCallback (S : Safe s p) : Safe (mqttReconnectTimerCallback s) p := by
  unfold State.mqttReconnectTimerCallback
  split
  · exact S.call (by rfl) (.inr (by rfl)) (.inl (by rfl))
  · exact S

theorem mqttEventHandler (S : Safe s none) (e : Event) (env : Env) :
    Safe (State.mqttEventHandler e env s) none := by
  cases e with
  | connected =>
    exact (messageClosed _).publishJsonStatus
      ((S.congr (t := { s with mqttRetryCount := 0, mqttConnected := true }) rfl rfl rfl rfl).message
        (by rfl) (.inr (by rfl))) _ env
  | disconnected =>
    have S₁ := S.congr (t := { s with mqttConnected := false }) rfl rfl rfl rfl
    simp only [State.mqttEventHandler]
    split
    · exact (S₁.call (by rfl) (.inl (by rfl)) (.inr (by rfl))).congr rfl rfl rfl rfl
    · exact S₁
  | data topic topicLen data =>
    simp only [State.mqttEventHandler]
    split
    · have S₁ := S.malloc (data.length + 1)
      have S₂ : Safe (if strncmp topic mqttTopicDeviceCommands.at mqttTopicDeviceCommands.length = 0 then
            State.processJsonCommand (data ++ [0]) env (s.call (.malloc (data.length + 1) (some s.fresh))).next
          else (s.call (.malloc (data.length + 1) (some s.fresh))).next) (some s.fresh) := by
        split
        · exact (messageClosed _).processJsonCommand S₁ ..
        · exact S₁
      exact S₂.free
    · exact S.call (by rfl) (.inl (by rfl)) (.inl (by rfl))
  | _ => exact S

theorem step (S : Safe s none) (O : Owned s) (a : Action) (env : Env) :
    Safe (MqttApp.step s a env) none := by
  cases a with
  | start => rw [MqttApp.step, mqttAppStart_eq_startWith]; exact S.startWith O.noTimer _ env
  | stop =>
    rw [MqttApp.step, mqttAppStop_eq_stopWith]; exact S.stopWith _ (fun _ => by rfl) (fun _ => by rfl) env
  | publish => exact S.gatedClientCall _ (fun _ => by rfl) (fun _ => by rfl) _
  | subscribe => exact S.gatedClientCall _ (fun _ => by rfl) (fun _ => by rfl) _
  | unsubscribe => exact S.gatedClientCall _ (fun _ => by rfl) (fun _ => by rfl) _
  | setIp ip => cases ip <;> exact S.congr rfl rfl rfl rfl
  | publishStatus status => exact (messageClosed _).publishJsonStatus S status env
  | publishTelemetry payload =>
    exact (messageClosed _).publishJsonMessage S (.tail _ (.tail _ (.head _))) _ payload env
  | event e => exact S.mqttEventHandler e env
  | reconnectTimerExpiry => exact S.mqttReconnectTimerCallback

theorem variantEventHandler (S : Safe s none) (e : Event) (env : Env) :
    Safe (Variant.mqttEventHandler e env s) none := by
  cases e with
  | connected =>
    exact ((S.congr (t := { s with mqttRetryCount := 0, mqttConnected := true }) rfl rfl rfl rfl).message
      (by rfl) (.inr (by rfl))).message (by rfl) (.inr (by rfl))
  | disconnected => exact S.mqttEventHandler .disconnected env
  | data topic topicLen data =>
    simp only [Variant.mqttEventHandler]
    split
    · exact S.message (by rfl) (.inl (by rfl))
    · exact S
  | _ => exact S

/-- A step of the earlier version keeps `Safe` from a state whose link is healthy. -/
theorem variantStep (S : Safe s none) (H : (link s).Healthy) (a : Variant.Action) (env : Env) :
    Safe (Variant.step s a env) none := by
  have ht : s.client = none → s.reconnectTimer = none := fun hc => by
    have := H.paired; simp only [link, hc, Option.isSome_none] at this
    exact Option.not_isSome_iff_eq_none.1 (by rw [← this]; exact Bool.false_ne_true)
  cases a with
  | start => exact S.startWith ht _ env
  | stop =>
    simp only [Variant.step, Variant.mqttAppStop]
    exact S.stopWith _ (fun _ => by rfl) (fun _ => by rfl) env
  | publish => exact S.gatedClientCall _ (fun _ => by rfl) (fun _ => by rfl) _
  | subscribe => exact S.gatedClientCall _ (fun _ => by rfl) (fun _ => by rfl) _
  | unsubscribe => exact S.gatedClientCall _ (fun _ => by rfl) (fun _ => by rfl) _
  | event e => exact S.variantEventHandler e env
  | reconnectTimerExpiry => exact S.mqttReconnectTimerCallback

end Safe

theorem Safe.init : Safe State.init none := ⟨⟨.empty, .empty, .empty, by simp [State.init]⟩, .nil⟩

theorem Reachable.safe {s : State} (h : Reachable s) : Safe s none := by
  induction h with
  | init => exact .init
  | step a env h ih => exact ih.step h.owned a env

theorem Variant.safe_run (r : List (Variant.Action × Env)) :
    ∀ s, Safe s none → (link s).Healthy → Safe (Variant.run s r) none := by
  induction r with
  | nil => intro s S _; exact S
  | cons p r ih =>
    intro s S H
    exact ih _ (S.variantStep H p.1 p.2) (Variant.link_step s p.1 p.2 ▸ H.step _ _)

/-- In both versions, along every run from boot, each call into the MQTT client or `esp_timer`
passes `NULL` or a handle that was created before it and not yet released. -/
theorem handles_live :
    (∀ r, LiveUses (run State.init r).trace) ∧ (∀ r, LiveUses (Variant.run State.init r).trace) :=
  ⟨fun r => ((Reachable.init.run r).safe).uses,
    fun r => (Variant.safe_run r _ .init link_init_healthy).uses⟩

/-- The earlier version keeps the ownership invariant of the later one along every run from boot:
there is a client exactly when there is a timer, and every client, timer and buffer it created is
the one held or was released exactly once. -/
theorem variant_ownership (r : List (Variant.Action × Env)) : Owned (Variant.run State.init r) :=
  ⟨(Variant.safe_run r _ .init link_init_healthy).books,
    (Variant.link_run r State.init ▸ link_init_healthy.run _).paired⟩

/-! ## The LED executor -/

namespace Call

/-- The command a call hands the LED executor, if any. -/
def ledCommand? : Call → Option UInt8
  | .processLedCommand x => some x
  | _ => none

end Call

/-- The commands a trace handed the LED executor, in order. -/
def ledCommands (trace : List Call) : List UInt8 := trace.filterMap Call.ledCommand?

/-- Every command handed to the LED executor is `A`, `B` or `C`. -/
def NamedLeds (trace : List Call) : Prop := ∀ x ∈ ledCommands trace, x = 65 ∨ x = 66 ∨ x = 67

theorem NamedLeds.call {t : List Call} (h : NamedLeds t) {c : Call}
    (hc : ∀ x, c.ledCommand? = some x → x = 65 ∨ x = 66 ∨ x = 67) : NamedLeds (t ++ [c]) := by
  intro x hx
  simp only [ledCommands, List.filterMap_append, List.mem_append, List.filterMap_cons,
    List.filterMap_nil] at hx
  rcases hx with hx | hx
  · exact h x hx
  · cases e : c.ledCommand? with
    | none => simp [e] at hx
    | some y => simp only [e, List.mem_singleton] at hx; exact hc x (hx ▸ e)

theorem namedLeds_messageClosed : MessageClosed (NamedLeds ·.trace) :=
  ⟨fun _ _ h => h, fun _ _ _ _ _ _ _ h => h.call (fun _ e => by cases e),
    fun _ _ hx h => h.call (fun _ e => by cases e; exact hx)⟩

/-- A property of traces that lifecycle calls keep survives any number of them. -/
theorem lifecycle_append {P : List Call → Prop} (hl : ∀ t c, c.isLifecycle → P t → P (t ++ [c])) :
    ∀ l : List Call, (∀ c ∈ l, c.isLifecycle) → ∀ t, P t → P (t ++ l)
  | [], _, t, h => by rwa [List.append_nil]
  | c :: l, hc, t, h => by
    rw [← List.singleton_append, ← List.append_assoc]
    exact lifecycle_append hl l (fun c h => hc c (.tail _ h)) _ (hl t c (hc c (.head _)) h)

/-- The lifecycle code both versions share keeps every property of traces that lifecycle calls keep. -/
theorem trace_startWith {P : List Call → Prop} (hl : ∀ t c, c.isLifecycle → P t → P (t ++ [c]))
    (config : Bytes → ClientConfig) (env : Env) {s : State} (h : P s.trace) :
    P (startWith config env s).trace := by
  obtain ⟨l, e, hls⟩ := startWith_trace config env s
  exact e ▸ lifecycle_append hl l hls _ h

/-- Likewise for `mqtt_app_stop`, given that the goodbye keeps the property too. -/
theorem trace_stopWith {P : List Call → Prop} (hl : ∀ t c, c.isLifecycle → P t → P (t ++ [c]))
    (goodbye : State → Call) (hg : ∀ t u, P t → P (t ++ [goodbye u])) (env : Env) {s : State}
    (h : P s.trace) : P (stopWith goodbye env s).trace := by
  have q : ∀ {u : State} {c : Call}, P u.trace → c.isLifecycle → P (u.call c).trace :=
    fun hu hc => hl _ _ hc hu
  unfold State.stopWith
  split
  · exact h
  have h₁ : P (if s.reconnectTimer.isSome then
      deleteTimer (if env.timerIsActive then s.call (.timerStop s.reconnectTimer) else s) else s).trace := by
    split
    · refine q ?_ rfl
      split
      · exact q h rfl
      · exact h
    · exact h
  generalize (if s.reconnectTimer.isSome then _ else s) = u at h₁
  refine q (q ?_ rfl) rfl
  split
  · exact q (hg _ u h₁) rfl
  · exact h₁

theorem NamedLeds.mqttEventHandler {s : State} (h : NamedLeds s.trace) (e : Event) (env : Env) :
    NamedLeds (State.mqttEventHandler e env s).trace := by
  cases e with
  | connected => exact namedLeds_messageClosed.publishJsonStatus (h.call fun _ e => by cases e) _ env
  | disconnected =>
    simp only [State.mqttEventHandler]
    split
    · exact h.call fun _ e => by cases e
    · exact h
  | data topic topicLen data =>
    simp only [State.mqttEventHandler]
    split
    · refine NamedLeds.call (c := .free s.fresh) ?_ fun _ e => by cases e
      split
      · exact namedLeds_messageClosed.processJsonCommand
          (s := (s.call (.malloc (data.length + 1) (some s.fresh))).next) (h.call fun _ e => by cases e) _ env
      · exact h.call fun _ e => by cases e
    · exact h.call fun _ e => by cases e
  | _ => exact h

theorem NamedLeds.step {s : State} (h : NamedLeds s.trace) (a : Action) (env : Env) :
    NamedLeds (step s a env).trace := by
  have hl : ∀ t c, c.isLifecycle → NamedLeds t → NamedLeds (t ++ [c]) := fun _ c hc h =>
    h.call fun _ e => by cases c <;> first | exact absurd hc Bool.false_ne_true | cases e
  cases a with
  | start => rw [MqttApp.step, mqttAppStart_eq_startWith]; exact trace_startWith hl _ env h
  | stop =>
    rw [MqttApp.step, mqttAppStop_eq_stopWith]
    exact trace_stopWith hl _ (fun _ _ h => h.call fun _ e => by cases e) env h
  | publish | subscribe | unsubscribe =>
    simp only [MqttApp.step, mqttAppPublish, mqttAppSubscribe, mqttAppUnsubscribe, gatedClientCall]
    split
    · exact h
    · exact h.call fun _ e => by cases e
  | setIp ip => cases ip <;> exact h
  | publishStatus status => exact namedLeds_messageClosed.publishJsonStatus h status env
  | publishTelemetry payload =>
    exact namedLeds_messageClosed.publishJsonMessage h (.tail _ (.tail _ (.head _))) _ payload env
  | event e => exact h.mqttEventHandler e env
  | reconnectTimerExpiry =>
    simp only [MqttApp.step, mqttReconnectTimerCallback]
    split
    · exact h.call fun _ e => by cases e
    · exact h

/-- The byte a step of the earlier version receives alone in a message, on whatever topic. -/
def Variant.Action.loneByte? : Variant.Action → Option UInt8
  | .event (.data _ _ [b]) => some b
  | _ => none

theorem ledCommands_snoc (t : List Call) (c : Call) :
    ledCommands (t ++ [c]) = ledCommands t ++ c.ledCommand?.toList := by
  simp only [ledCommands, List.filterMap_append, List.filterMap_cons, List.filterMap_nil]
  cases c.ledCommand? <;> rfl

/-- A step of the earlier version hands the LED executor the byte of a one-byte message, and
nothing else. -/
theorem ledCommands_variantStep (s : State) (a : Variant.Action) (env : Env) :
    ledCommands (Variant.step s a env).trace = ledCommands s.trace ++ a.loneByte?.toList := by
  have hq : ∀ t c, c.ledCommand? = none → ledCommands t = ledCommands s.trace →
      ledCommands (t ++ [c]) = ledCommands s.trace := fun t c hc h => by
    rw [ledCommands_snoc, h, hc, Option.toList_none, List.append_nil]
  have hl : ∀ t c, c.isLifecycle → ledCommands t = ledCommands s.trace →
      ledCommands (t ++ [c]) = ledCommands s.trace :=
    fun t c hc => hq t c (by cases c <;> first | rfl | exact absurd hc Bool.false_ne_true)
  rw [← List.append_nil (ledCommands s.trace)] at hl hq
  cases a with
  | start => exact trace_startWith hl _ env (List.append_nil _).symm
  | stop =>
    rw [Variant.step, Variant.mqttAppStop]
    refine trace_stopWith hl _ ?_ env (List.append_nil _).symm
    exact fun t _ => hq t _ rfl
  | publish | subscribe | unsubscribe =>
    simp only [Variant.step, mqttAppPublish, mqttAppSubscribe, mqttAppUnsubscribe, gatedClientCall]
    split
    · exact (List.append_nil _).symm
    · exact hq _ _ rfl (List.append_nil _).symm
  | event e =>
    cases e with
    | connected => exact hq _ _ rfl (hq _ _ rfl (List.append_nil _).symm)
    | disconnected =>
      simp only [Variant.step, Variant.mqttEventHandler, State.mqttEventHandler]
      split
      · exact hq _ _ rfl (List.append_nil _).symm
      · exact (List.append_nil _).symm
    | data topic topicLen data =>
      match data with
      | [b] => exact ledCommands_snoc _ _
      | [] | _ :: _ :: _ => exact (List.append_nil _).symm
    | _ => exact (List.append_nil _).symm
  | reconnectTimerExpiry =>
    simp only [Variant.step, mqttReconnectTimerCallback]
    split
    · exact hq _ _ rfl (List.append_nil _).symm
    · exact (List.append_nil _).symm

theorem ledCommands_variantRun (r : List (Variant.Action × Env)) : ∀ s : State,
    ledCommands (Variant.run s r).trace = ledCommands s.trace ++ r.filterMap fun p => p.1.loneByte? := by
  induction r with
  | nil => intro s; exact (List.append_nil _).symm
  | cons p r ih =>
    intro s
    rw [Variant.run, ih, ledCommands_variantStep, List.filterMap_cons]
    cases p.1.loneByte? <;> simp

/-- The later version hands the LED executor only `A`, `B` and `C`, along every run from boot; the
earlier one hands it exactly the bytes that arrive alone in a message, on any topic, in order. -/
theorem led_commands_named :
    (∀ r, NamedLeds (run State.init r).trace) ∧
    (∀ r, ledCommands (Variant.run State.init r).trace = r.filterMap fun p => p.1.loneByte?) := by
  refine ⟨fun r => ?_, fun r => ledCommands_variantRun r State.init⟩
  suffices ∀ r s, NamedLeds s.trace → NamedLeds (run s r).trace from this r _ (by simp [NamedLeds, ledCommands, State.init])
  intro r
  induction r with
  | nil => exact fun _ h => h
  | cons p r ih => exact fun s h => ih _ (h.step p.1 p.2)

end MqttApp
