import MqttApp.Proofs.Resources

/-! # The connection gates

Five public functions guard the transport with three different tests: `mqtt_app_publish`,
`mqtt_app_subscribe` and `mqtt_app_unsubscribe` require a client and the flag `mqtt_connected`
(`gatedClientCall`), `publish_json_status` requires the flag unless the status is `"offline"`, and
`publish_json_message` requires the flag and a payload. The flag is set by `CONNECTED`, cleared by
`DISCONNECTED`, and left as it is by `mqtt_app_stop`: after a stop without a `DISCONNECTED` the
next client counts as connected as soon as it exists.
-/

namespace MqttApp
open State Item

/-- Collaborators that all succeed, at uptime 0. -/
def Env.allOk : Env where
  mallocOk := true
  mac := []
  clientInitOk := true
  timerCreateErr := espOk
  registerEventErr := espOk
  clientStartErr := espOk
  timerIsActive := false
  publishMsgId := 1
  subscribeMsgId := 1
  unsubscribeMsgId := 1
  timeUs := fun _ => 0
  freeHeapSize := 0
  cJsonAlloc := fun _ => true

namespace State

/-- The gate of `gatedClientCall` is `mqtt_app_is_connected`. -/
theorem gatedClientCall_eq (call : Option Nat → Call) (msgId : Int) (s : State) :
    gatedClientCall call msgId s =
      if mqttAppIsConnected s then (if msgId < 0 then espFail else espOk, s.call (call s.client))
      else (espFail, s) := by
  unfold gatedClientCall mqttAppIsConnected
  cases s.client <;> cases s.mqttConnected <;> rfl

/-- A gated call fails with the state unchanged, or makes its one transport call on the client. -/
theorem gatedClientCall_cases (call : Option Nat → Call) (msgId : Int) (s : State) :
    (mqttAppIsConnected s = false ∧ gatedClientCall call msgId s = (espFail, s)) ∨
    (mqttAppIsConnected s = true ∧
      ∃ c, s.client = some c ∧ (gatedClientCall call msgId s).2 = s.call (call (some c))) := by
  rw [gatedClientCall_eq]
  cases h : mqttAppIsConnected s
  · exact .inl ⟨rfl, rfl⟩
  · obtain ⟨c, hc⟩ := Option.isSome_iff_exists.1
      (show s.client.isSome by simp_all [mqttAppIsConnected])
    exact .inr ⟨rfl, c, hc, by simp [hc]⟩

theorem publishJsonStatus_gate (status : Bytes) (env : Env) {s : State}
    (hf : s.mqttConnected = false) (hs : cstr status ≠ ascii "offline") :
    publishJsonStatus status env s = (espFail, s) := by
  have : strcmp status (ascii "offline") ≠ 0 := by
    rwa [Ne, strcmp_eq_zero_iff, show cstr (ascii "offline") = ascii "offline" from rfl]
  simp [publishJsonStatus, hf, this]

theorem publishJsonMessage_gate (topic type : Bytes) (payload : Option Item) (env : Env)
    {s : State} (hf : s.mqttConnected = false) :
    publishJsonMessage topic type payload env s = (espFail, s) := by
  unfold publishJsonMessage
  cases payload <;> simp [hf]

/-- With its allocations granted, `publish_json_status` publishes its envelope once, on the current
handle, whenever it passes its gate. -/
theorem publishJsonStatus_publishes (status : Bytes) {env : Env} (ha : ∀ i, env.cJsonAlloc i = true)
    {s : State} (hg : s.mqttConnected = true ∨ strcmp status (ascii "offline") = 0) :
    ∃ json, (publishJsonStatus status env s).2.trace =
      s.trace ++ [.clientPublish s.client mqttTopicDeviceStatus json 0 1 true] := by
  have hp : ∀ r : Option Item, r.isSome → ∃ json, cJsonPrint true r = some json := by
    rintro (_ | v) h
    exacts [absurd h (by simp), ⟨_, rfl⟩]
  obtain ⟨json, hj⟩ := hp (statusMembers status env s.deviceIp
    (timeSinceLast s.lastUpdateTime (UInt32.ofNat (env.timeUs 1 / 1000000))) (some (.object [])))
    (by simp [statusMembers, ha, cJsonAddStringToObject, cJsonAddNumberToObject, addItemToObject])
  refine ⟨json, ?_⟩
  rcases hg with hg | hg <;> simp [publishJsonStatus, hg, ha, cJsonCreateObject, hj]

end State

/-- Boot, a start, the client's `CONNECTED`, a stop and a second start, every collaborator
succeeding and no `DISCONNECTED` delivered. -/
def restartRun : List (Action × Env) :=
  [(.start, .allOk), (.event .connected, .allOk), (.stop, .allOk), (.start, .allOk)]

/-- The only `CONNECTED` of `restartRun` came from the first client (handle 1), yet right after
the second start `mqtt_app_is_connected` holds for the second client (handle 4), which has reported
nothing. -/
theorem restart_reports_connected :
    (run State.init (restartRun.take 2)).client = some 1 ∧
    (run State.init restartRun).client = some 4 ∧
    mqttAppIsConnected (run State.init restartRun) = true :=
  ⟨rfl, rfl, rfl⟩

/-- At boot, with no client, `mqtt_app_publish_status("offline")` passes its gate and publishes
on the `NULL` handle. -/
theorem offline_status_without_client :
    Reachable State.init ∧ mqttAppIsConnected State.init = false ∧
    ∃ json, (mqttAppPublishStatus (ascii "offline") .allOk State.init).2.trace =
      [.clientPublish none mqttTopicDeviceStatus json 0 1 true] :=
  ⟨.init, rfl, _, rfl⟩

/-- In every state: the three client calls fail and change nothing unless `mqtt_app_is_connected`,
and then use the live handle; `mqtt_app_publish_status` with a status other than `"offline"` and
`mqtt_app_publish_telemetry` fail and change nothing while the flag is clear; the status
`"offline"` skips the gate and, its allocations granted, publishes on the current handle. -/
theorem connection_gates :
    (∀ s env topic data len qos retain,
      (mqttAppIsConnected s = false ∧ mqttAppPublish topic data len qos retain env s = (espFail, s)) ∨
      mqttAppIsConnected s = true ∧ ∃ c, s.client = some c ∧
        (mqttAppPublish topic data len qos retain env s).2 =
          s.call (.clientPublish (some c) topic data len qos retain)) ∧
    (∀ s env topic qos,
      (mqttAppIsConnected s = false ∧ mqttAppSubscribe topic qos env s = (espFail, s)) ∨
      mqttAppIsConnected s = true ∧ ∃ c, s.client = some c ∧
        (mqttAppSubscribe topic qos env s).2 = s.call (.clientSubscribe (some c) topic qos)) ∧
    (∀ s env topic,
      (mqttAppIsConnected s = false ∧ mqttAppUnsubscribe topic env s = (espFail, s)) ∨
      mqttAppIsConnected s = true ∧ ∃ c, s.client = some c ∧
        (mqttAppUnsubscribe topic env s).2 = s.call (.clientUnsubscribe (some c) topic)) ∧
    (∀ s env status, s.mqttConnected = false → cstr status ≠ ascii "offline" →
      mqttAppPublishStatus status env s = (espFail, s)) ∧
    (∀ s env payload, s.mqttConnected = false →
      mqttAppPublishTelemetry payload env s = (espFail, s)) ∧
    (∀ s env, (∀ i, env.cJsonAlloc i = true) →
      ∃ json, (mqttAppPublishStatus (ascii "offline") env s).2.trace =
        s.trace ++ [.clientPublish s.client mqttTopicDeviceStatus json 0 1 true]) :=
  ⟨fun s env topic data len qos retain =>
      gatedClientCall_cases (fun c => .clientPublish c topic data len qos retain) env.publishMsgId s,
    fun s env topic qos =>
      gatedClientCall_cases (fun c => .clientSubscribe c topic qos) env.subscribeMsgId s,
    fun s env topic => gatedClientCall_cases (fun c => .clientUnsubscribe c topic) env.unsubscribeMsgId s,
    fun _ env status hf hs => publishJsonStatus_gate status env hf hs,
    fun _ env payload hf => publishJsonMessage_gate _ _ payload env hf,
    fun _ _ ha => publishJsonStatus_publishes _ ha (.inr (by decide))⟩

end MqttApp
