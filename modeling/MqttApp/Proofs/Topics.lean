import MqttApp.Proofs.Handles

/-! # The topics the session uses

What the session code asks the MQTT client to publish and to subscribe to: topic, QoS and retain
flag. The later version publishes retained status on `/device/status` and unretained responses and
telemetry on `/device/response` and `/device/telemetry`, all at QoS 1, and subscribes to
`/device/commands` at QoS 1; the earlier one publishes unretained texts on `/test/topic` at QoS 1
and subscribes to `/led/command` at QoS 0. Beyond these, each makes only the requests its
application passes to `mqtt_app_publish` and `mqtt_app_subscribe`. The later version's own
publishes never go to a topic that starts with `/device/commands`, the test of its dispatcher, so it
never sends itself a command unless its application does.
-/

namespace MqttApp
open State

namespace Call

/-- The topic, QoS and retain flag of a publish request, if the call is one. -/
def published? : Call → Option (Bytes × Int × Bool)
  | .clientPublish _ topic _ _ qos retain => some (topic, qos, retain)
  | _ => none

/-- The topic and QoS of a subscription request, if the call is one. -/
def subscribed? : Call → Option (Bytes × Int)
  | .clientSubscribe _ topic qos => some (topic, qos)
  | _ => none

theorem published?_of_isLifecycle {c : Call} (h : c.isLifecycle) : c.published? = none := by
  cases c <;> first | rfl | exact absurd h Bool.false_ne_true

theorem subscribed?_of_isLifecycle {c : Call} (h : c.isLifecycle) : c.subscribed? = none := by
  cases c <;> first | rfl | exact absurd h Bool.false_ne_true

end Call

/-- The topic, QoS and retain flag `mqtt_app_publish` is called with. -/
def Action.published? : Action → Option (Bytes × Int × Bool)
  | .publish topic _ _ qos retain => some (topic, qos, retain)
  | _ => none

/-- The topic and QoS `mqtt_app_subscribe` is called with. -/
def Action.subscribed? : Action → Option (Bytes × Int)
  | .subscribe topic qos => some (topic, qos)
  | _ => none

/-- Every publish request of a trace is one `pub` allows, and every subscription one that `sub`
allows. -/
structure RequestsIn (pub : Bytes × Int × Bool → Prop) (sub : Bytes × Int → Prop) (trace : List Call) :
    Prop where
  publish : ∀ x ∈ trace.filterMap Call.published?, pub x
  subscribe : ∀ x ∈ trace.filterMap Call.subscribed?, sub x

namespace RequestsIn
variable {pub : Bytes × Int × Bool → Prop} {sub : Bytes × Int → Prop} {t : List Call}

theorem nil : RequestsIn pub sub [] :=
  ⟨fun _ h => absurd h (List.not_mem_nil _), fun _ h => absurd h (List.not_mem_nil _)⟩

theorem mem_filterMap_snoc {α : Type} {f : Call → Option α} {c : Call} {x : α}
    (hx : x ∈ (t ++ [c]).filterMap f) : x ∈ t.filterMap f ∨ f c = some x := by
  rw [List.filterMap_append, List.mem_append] at hx
  exact hx.imp_right fun h => by simpa only [List.mem_filterMap, List.mem_singleton, exists_eq_left] using h

theorem call (h : RequestsIn pub sub t) {c : Call} (hp : ∀ x, c.published? = some x → pub x)
    (hs : ∀ x, c.subscribed? = some x → sub x) : RequestsIn pub sub (t ++ [c]) :=
  ⟨fun x hx => (mem_filterMap_snoc hx).elim (h.publish x) (hp x),
    fun x hx => (mem_filterMap_snoc hx).elim (h.subscribe x) (hs x)⟩

/-- A call that asks for no publish and no subscription. -/
theorem quiet (h : RequestsIn pub sub t) {c : Call} (hp : c.published? = none)
    (hs : c.subscribed? = none) : RequestsIn pub sub (t ++ [c]) :=
  h.call (fun _ e => nomatch hp.symm.trans e) (fun _ e => nomatch hs.symm.trans e)

theorem messageClosed (hm : ∀ x ∈ messagePublishes, pub x) : MessageClosed (RequestsIn pub sub ·.trace) :=
  ⟨fun _ _ h => h, fun _ _ _ _ _ _ ht h => h.call (fun _ e => by cases e; exact hm _ ht) (fun _ e => nomatch e),
    fun _ _ _ h => h.quiet rfl rfl⟩

/-- Lifecycle calls ask for no publish and no subscription. -/
theorem lifecycle (h : RequestsIn pub sub t) {c : Call} (hc : c.isLifecycle) : RequestsIn pub sub (t ++ [c]) :=
  h.quiet (Call.published?_of_isLifecycle hc) (Call.subscribed?_of_isLifecycle hc)

theorem startWith {s : State} (h : RequestsIn pub sub s.trace) (config : Bytes → ClientConfig) (env : Env) :
    RequestsIn pub sub (startWith config env s).trace :=
  trace_startWith (fun _ _ hc h => h.lifecycle hc) config env h

theorem stopWith {s : State} (h : RequestsIn pub sub s.trace) (goodbye : State → Call)
    (hp : ∀ s x, (goodbye s).published? = some x → pub x) (hs : ∀ s, (goodbye s).subscribed? = none)
    (env : Env) : RequestsIn pub sub (stopWith goodbye env s).trace :=
  trace_stopWith (fun _ _ hc h => h.lifecycle hc) goodbye
    (fun _ u h => h.call (hp u) fun _ e => nomatch (hs u).symm.trans e) env h

end RequestsIn

/-! ## One step of either version -/

namespace RequestsIn
variable {pub : Bytes × Int × Bool → Prop} {sub : Bytes × Int → Prop} {s : State}

theorem mqttEventHandler (h : RequestsIn pub sub s.trace) (hm : ∀ x ∈ messagePublishes, pub x)
    (hc : sub (mqttTopicDeviceCommands, 1)) (e : Event) (env : Env) :
    RequestsIn pub sub (State.mqttEventHandler e env s).trace := by
  cases e with
  | connected =>
    have h₁ : RequestsIn pub sub (({ s with mqttRetryCount := 0, mqttConnected := true }).call
        (.clientSubscribe s.client mqttTopicDeviceCommands 1)).trace :=
      h.call (fun _ e => nomatch e) fun _ e => by cases e; exact hc
    exact (messageClosed hm).publishJsonStatus h₁ _ env
  | disconnected =>
    simp only [State.mqttEventHandler]
    split
    · exact h.quiet rfl rfl
    · exact h
  | data topic topicLen data =>
    simp only [State.mqttEventHandler]
    split
    · refine RequestsIn.quiet (c := .free s.fresh) ?_ rfl rfl
      split
      · exact (messageClosed hm).processJsonCommand
          (s := (s.call (.malloc (data.length + 1) (some s.fresh))).next) (h.quiet rfl rfl) _ env
      · exact h.quiet rfl rfl
    · exact h.quiet rfl rfl
  | _ => exact h

theorem step (h : RequestsIn pub sub s.trace) (hm : ∀ x ∈ messagePublishes, pub x)
    (hc : sub (mqttTopicDeviceCommands, 1)) {a : Action} (hp : ∀ x, a.published? = some x → pub x)
    (hs : ∀ x, a.subscribed? = some x → sub x) (env : Env) :
    RequestsIn pub sub (step s a env).trace := by
  cases a with
  | start => rw [MqttApp.step, mqttAppStart_eq_startWith]; exact h.startWith _ env
  | stop =>
    rw [MqttApp.step, mqttAppStop_eq_stopWith]
    apply h.stopWith
    · intro _ _ e
      cases e
      exact hm _ (.head _)
    · exact fun _ => rfl
  | publish topic =>
    simp only [MqttApp.step, mqttAppPublish, gatedClientCall]
    split
    · exact h
    · exact h.call (fun _ e => hp _ e) (fun _ e => nomatch e)
  | subscribe topic =>
    simp only [MqttApp.step, mqttAppSubscribe, gatedClientCall]
    split
    · exact h
    · exact h.call (fun _ e => nomatch e) (fun _ e => hs _ e)
  | unsubscribe =>
    simp only [MqttApp.step, mqttAppUnsubscribe, gatedClientCall]
    split
    · exact h
    · exact h.quiet rfl rfl
  | setIp ip => cases ip <;> exact h
  | publishStatus status => exact (messageClosed hm).publishJsonStatus h status env
  | publishTelemetry payload =>
    exact (messageClosed hm).publishJsonMessage h (.tail _ (.tail _ (.head _))) _ payload env
  | event e => exact h.mqttEventHandler hm hc e env
  | reconnectTimerExpiry =>
    simp only [MqttApp.step, mqttReconnectTimerCallback]
    split
    · exact h.quiet rfl rfl
    · exact h

end RequestsIn

namespace RequestsIn
variable {pub : Bytes × Int × Bool → Prop} {sub : Bytes × Int → Prop} {s : State}

theorem variantEventHandler (h : RequestsIn pub sub s.trace) (ht : pub (Variant.testTopic, 1, false))
    (hl : sub (Variant.ledCommandTopic, 0)) (e : Event) (env : Env) :
    RequestsIn pub sub (Variant.mqttEventHandler e env s).trace := by
  cases e with
  | connected =>
    have h₁ : RequestsIn pub sub (({ s with mqttRetryCount := 0, mqttConnected := true }).call
        (.clientSubscribe s.client Variant.ledCommandTopic 0)).trace :=
      h.call (fun _ e => nomatch e) fun _ e => by cases e; exact hl
    exact h₁.call (fun _ e => by cases e; exact ht) (fun _ e => nomatch e)
  | disconnected =>
    simp only [Variant.mqttEventHandler, State.mqttEventHandler]
    split
    · exact h.quiet rfl rfl
    · exact h
  | data topic topicLen data =>
    simp only [Variant.mqttEventHandler]
    split
    · exact h.quiet rfl rfl
    · exact h
  | _ => exact h

theorem variantStep (h : RequestsIn pub sub s.trace) (ht : pub (Variant.testTopic, 1, false))
    (hl : sub (Variant.ledCommandTopic, 0)) {a : Variant.Action}
    (hp : ∀ x, a.toAction.published? = some x → pub x)
    (hs : ∀ x, a.toAction.subscribed? = some x → sub x) (env : Env) :
    RequestsIn pub sub (Variant.step s a env).trace := by
  cases a with
  | start => exact h.startWith _ env
  | stop =>
    rw [Variant.step, Variant.mqttAppStop]
    apply h.stopWith
    · intro _ _ e
      cases e
      exact ht
    · exact fun _ => rfl
  | publish topic =>
    simp only [Variant.step, mqttAppPublish, gatedClientCall]
    split
    · exact h
    · exact h.call (fun _ e => hp _ e) (fun _ e => nomatch e)
  | subscribe topic =>
    simp only [Variant.step, mqttAppSubscribe, gatedClientCall]
    split
    · exact h
    · exact h.call (fun _ e => nomatch e) (fun _ e => hs _ e)
  | unsubscribe =>
    simp only [Variant.step, mqttAppUnsubscribe, gatedClientCall]
    split
    · exact h
    · exact h.quiet rfl rfl
  | event e => exact h.variantEventHandler ht hl e env
  | reconnectTimerExpiry =>
    simp only [Variant.step, mqttReconnectTimerCallback]
    split
    · exact h.quiet rfl rfl
    · exact h

end RequestsIn

/-! ## Along every run -/

namespace RequestsIn
variable {pub : Bytes × Int × Bool → Prop} {sub : Bytes × Int → Prop}

theorem run (hm : ∀ x ∈ messagePublishes, pub x) (hc : sub (mqttTopicDeviceCommands, 1)) :
    ∀ (r : List (Action × Env)) {s : State}, RequestsIn pub sub s.trace →
      (∀ p ∈ r, ∀ x, p.1.published? = some x → pub x) →
      (∀ p ∈ r, ∀ x, p.1.subscribed? = some x → sub x) → RequestsIn pub sub (run s r).trace
  | [], _, h, _, _ => h
  | (_, env) :: r, _, h, hp, hs =>
    run hm hc r (h.step hm hc (hp _ (.head _)) (hs _ (.head _)) env) (fun p h => hp p (.tail _ h))
      (fun p h => hs p (.tail _ h))

end RequestsIn

end MqttApp
