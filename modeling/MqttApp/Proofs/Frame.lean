import MqttApp.Proofs.Start

/-! # What each operation may touch

`MessageStep s s'`: the message layer (the gated calls, the two envelope publishers, the dispatcher)
only records transport requests and LED commands, and moves the status mark. It is proved once per
function here; the invariants of the lifecycle statics then treat every message operation alike.
The result of `mqtt_app_start` is given once, by `startWith_spec`; the other lifecycle operations
(`mqtt_app_stop`, the handler's `CONNECTED`, `DISCONNECTED` and `DATA` branches, the timer callback)
get their own lemmas where they are used, except for the two statics the status messages read:
`device_ip`, which only `mqtt_app_set_ip` writes, and the mark of `publish_json_status`, which the
lifecycle leaves alone.
-/

namespace MqttApp
open State

namespace Call

/-- A transport request on the client, or an LED command: a call that creates, releases or arms
nothing. -/
def isMessage : Call → Bool
  | .clientPublish .. | .clientSubscribe .. | .clientUnsubscribe .. | .processLedCommand _ => true
  | _ => false

end Call

/-- What the message layer can do to a state: record transport requests and LED commands, and
move the status mark. -/
structure MessageStep (s s' : State) : Prop where
  client : s'.client = s.client
  reconnectTimer : s'.reconnectTimer = s.reconnectTimer
  mqttRetryCount : s'.mqttRetryCount = s.mqttRetryCount
  mqttConnected : s'.mqttConnected = s.mqttConnected
  deviceIp : s'.deviceIp = s.deviceIp
  fresh : s'.fresh = s.fresh
  trace : ∃ l, s'.trace = s.trace ++ l ∧ ∀ c ∈ l, c.isMessage

namespace MessageStep
variable {s₁ s₂ s₃ s s' : State}

theorem refl (s : State) : MessageStep s s :=
  ⟨rfl, rfl, rfl, rfl, rfl, rfl, [], by simp, by simp⟩

theorem trans (h₁ : MessageStep s₁ s₂) (h₂ : MessageStep s₂ s₃) : MessageStep s₁ s₃ := by
  obtain ⟨l₁, e₁, m₁⟩ := h₁.trace
  obtain ⟨l₂, e₂, m₂⟩ := h₂.trace
  refine ⟨h₂.1.trans h₁.1, h₂.2.trans h₁.2, h₂.3.trans h₁.3, h₂.4.trans h₁.4, h₂.5.trans h₁.5,
    h₂.6.trans h₁.6, l₁ ++ l₂, by rw [e₂, e₁, List.append_assoc], ?_⟩
  simp only [List.mem_append]
  rintro c (hc | hc)
  exacts [m₁ c hc, m₂ c hc]

theorem call (h : MessageStep s s') {c : Call} (hc : c.isMessage) : MessageStep s (s'.call c) :=
  h.trans ⟨rfl, rfl, rfl, rfl, rfl, rfl, [c], rfl, by simpa using hc⟩

theorem lastUpdateTime (h : MessageStep s s') (t : UInt32) :
    MessageStep s { s' with lastUpdateTime := t } :=
  h.trans ⟨rfl, rfl, rfl, rfl, rfl, rfl, [], by simp, by simp⟩

end MessageStep

/-! ## The message layer -/

theorem gatedClientCall_step (call : Option Nat → Call) (hc : ∀ c, (call c).isMessage)
    (msgId : Int) (s : State) : MessageStep s (gatedClientCall call msgId s).2 := by
  unfold gatedClientCall; split
  · exact .refl s
  · exact (MessageStep.refl s).call (hc _)

theorem mqttAppPublish_step (topic data : Bytes) (len qos : Int) (retain : Bool) (env : Env)
    (s : State) : MessageStep s (mqttAppPublish topic data len qos retain env s).2 :=
  gatedClientCall_step (fun c => .clientPublish c topic data len qos retain) (fun _ => rfl) _ s

theorem mqttAppSubscribe_step (topic : Bytes) (qos : Int) (env : Env) (s : State) :
    MessageStep s (mqttAppSubscribe topic qos env s).2 :=
  gatedClientCall_step (fun c => .clientSubscribe c topic qos) (fun _ => rfl) _ s

theorem mqttAppUnsubscribe_step (topic : Bytes) (env : Env) (s : State) :
    MessageStep s (mqttAppUnsubscribe topic env s).2 :=
  gatedClientCall_step (fun c => .clientUnsubscribe c topic) (fun _ => rfl) _ s

theorem publishJsonStatus_step (status : Bytes) (env : Env) (s : State) :
    MessageStep s (publishJsonStatus status env s).2 := by
  unfold publishJsonStatus
  split
  · exact .refl s
  split
  · exact .refl s
  dsimp only
  generalize (if env.publishMsgId > 0 then espOk else espFail) = r
  split
  · exact ((MessageStep.refl s).lastUpdateTime _).call rfl
  · exact (MessageStep.refl s).lastUpdateTime _

theorem publishJsonMessage_step (topic type : Bytes) (payload : Option Item) (env : Env)
    (s : State) : MessageStep s (publishJsonMessage topic type payload env s).2 := by
  unfold publishJsonMessage
  split
  · exact .refl s
  split
  · exact .refl s
  split
  · exact .refl s
  dsimp only
  generalize (if env.publishMsgId > 0 then espOk else espFail) = r
  split
  · exact (MessageStep.refl s).call rfl
  · exact .refl s

theorem ledCommand_step (cmd : Bytes) (s : State) : MessageStep s (ledCommand cmd s) := by
  unfold ledCommand
  split_ifs <;> first | exact .refl s | exact (MessageStep.refl s).call rfl

theorem processJsonCommand_step (jsonStr : Bytes) (env : Env) (s : State) :
    MessageStep s (processJsonCommand jsonStr env s) := by
  unfold processJsonCommand
  repeat' split
  all_goals first
    | exact .refl s
    | exact (MessageStep.refl s).call rfl
    | exact (ledCommand_step _ s).trans (publishJsonMessage_step _ _ _ _ _)

/-- The public functions of the message layer. -/
def Action.isMessage : Action → Bool
  | .publish .. | .subscribe .. | .unsubscribe _ | .publishStatus _ | .publishTelemetry _ => true
  | _ => false

theorem step_message {a : Action} (ha : a.isMessage) (s : State) (env : Env) :
    MessageStep s (step s a env) := by
  cases a <;> simp only [Action.isMessage, Bool.false_eq_true] at ha
  · exact mqttAppPublish_step ..
  · exact mqttAppSubscribe_step ..
  · exact mqttAppUnsubscribe_step ..
  · exact publishJsonStatus_step ..
  · exact publishJsonMessage_step ..

/-! ## `device_ip` and the status mark -/

theorem mqttAppStart_statics (env : Env) (s : State) :
    (mqttAppStart env s).deviceIp = s.deviceIp ∧
      (mqttAppStart env s).lastUpdateTime = s.lastUpdateTime := by
  rw [mqttAppStart_eq_startWith]
  exact (startWith_statics _ env s).2

theorem mqttAppStop_statics (env : Env) (s : State) :
    (mqttAppStop env s).deviceIp = s.deviceIp ∧
      (mqttAppStop env s).lastUpdateTime = s.lastUpdateTime := by
  unfold mqttAppStop
  dsimp only
  split_ifs <;> simp

theorem mqttEventHandler_deviceIp (e : Event) (env : Env) (s : State) :
    (mqttEventHandler e env s).deviceIp = s.deviceIp := by
  cases e with
  | connected => exact (publishJsonStatus_step ..).deviceIp
  | disconnected => dsimp only [mqttEventHandler]; split_ifs <;> rfl
  | data topic topicLen data =>
    dsimp only [mqttEventHandler]
    split_ifs
    · rw [call_deviceIp, (processJsonCommand_step _ _ _).deviceIp]; rfl
    all_goals rfl
  | _ => rfl

/-- The string a step hands `mqtt_app_set_ip`, if any. -/
def Action.ipSet : Action → Option Bytes
  | .setIp ip => ip
  | _ => none

/-- Only `mqtt_app_set_ip` writes `device_ip`, and then with the `strncpy` of 15 bytes and a NUL. -/
theorem step_deviceIp (s : State) (a : Action) (env : Env) :
    (step s a env).deviceIp = (a.ipSet.map fun ip => strncpy ip 15 ++ [0]).getD s.deviceIp := by
  cases a with
  | start => exact (mqttAppStart_statics env s).1
  | stop => exact (mqttAppStop_statics env s).1
  | setIp ip => cases ip <;> rfl
  | event e => exact mqttEventHandler_deviceIp e env s
  | reconnectTimerExpiry => unfold step mqttReconnectTimerCallback; split_ifs <;> rfl
  | _ => refine (step_message ?_ s env).deviceIp; rfl

end MqttApp
