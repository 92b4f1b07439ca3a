import MqttApp.Session.Messages

/-! # Events, backoff and runs

`mqtt_event_handler` with `exponential_backoff`, and the session as a state machine: an `Action` is
a call of a public function, a transport event delivered to the handler, or an expiry of the
reconnection timer; each runs with the collaborators' answers of its own `Env`. Events may arrive in
any state and in any order, so every statement over `Reachable` states also covers a transport that
reports events after its client was stopped.
-/

namespace MqttApp
namespace State

def mqttReconnectTimeoutMs : UInt32 := 5000

/-- `exponential_backoff`. The `int` product `MQTT_RECONNECT_TIMEOUT_MS * (1 << retry_count)` is
taken as the hardware computes it, modulo `2^32` and with the shift amount modulo 32; C leaves it
undefined from `retry_count = 19` on. -/
def exponentialBackoff (retryCount : UInt8) : UInt32 :=
  let delay : UInt32 := mqttReconnectTimeoutMs * ((1 : UInt32) <<< retryCount.toUInt32)
  if delay > 300000 then 300000 else delay

/-- An event of the MQTT client. For a data event, `topic` is the memory at `event->topic`: its
first `topicLen` bytes are the topic, and the transport does not terminate it. -/
inductive Event where
  | beforeConnect
  | connected
  | disconnected
  | subscribed
  | unsubscribed
  | published
  | data (topic : Nat → UInt8) (topicLen : Nat) (data : Bytes)
  | error (errorType espTlsLastEspErr espTlsStackErr espTransportSockErrno : Int)
  | other (eventId : Int)

/-- The timeout the `MQTT_EVENT_DISCONNECTED` branch arms the timer with: `delay * 1000`
microseconds in `uint32_t` arithmetic, `delay` the backoff of the counter taken as a `uint8_t`. -/
def reconnectTimeoutUs (retryCount : Int) : UInt64 :=
  (exponentialBackoff (UInt8.ofNat (retryCount % 256).toNat) * 1000).toUInt64

/-- `mqtt_event_handler`. The branches for `BEFORE_CONNECT`, `SUBSCRIBED`, `UNSUBSCRIBED`,
`PUBLISHED`, `ERROR` (`handle_mqtt_error`) and any other event only log. -/
def mqttEventHandler (event : Event) (env : Env) (s : State) : State :=
  match event with
  | .connected =>
    let s := { s with mqttRetryCount := 0, mqttConnected := true }
    let s := s.call (.clientSubscribe s.client mqttTopicDeviceCommands 1)
    (publishJsonStatus (ascii "online") env s).2
  | .disconnected =>
    let s := { s with mqttConnected := false }
    if s.mqttRetryCount < mqttMaxRetryCount then
      { s.call (.timerStartOnce s.reconnectTimer (reconnectTimeoutUs s.mqttRetryCount)) with
        mqttRetryCount := s.mqttRetryCount + 1 }
    else s
  | .data topic _ data =>
    if env.mallocOk then
      let buf := s.fresh
      let s := (s.call (.malloc (data.length + 1) (some buf))).next
      let s := if strncmp topic mqttTopicDeviceCommands.at mqttTopicDeviceCommands.length = 0 then
          processJsonCommand (data ++ [0]) env s
        else s
      s.call (.free buf)
    else s.call (.malloc (data.length + 1) none)
  | _ => s

end State

open State

/-- A step of the session: a call of a public function, an event, or a timer expiry. -/
inductive Action where
  | start
  | stop
  | publish (topic data : Bytes) (len qos : Int) (retain : Bool)
  | subscribe (topic : Bytes) (qos : Int)
  | unsubscribe (topic : Bytes)
  | setIp (ip : Option Bytes)
  | publishStatus (status : Bytes)
  | publishTelemetry (payload : Option Item)
  | event (e : Event)
  | reconnectTimerExpiry

def step (s : State) (a : Action) (env : Env) : State :=
  match a with
  | .start => mqttAppStart env s
  | .stop => mqttAppStop env s
  | .publish topic data len qos retain => (mqttAppPublish topic data len qos retain env s).2
  | .subscribe topic qos => (mqttAppSubscribe topic qos env s).2
  | .unsubscribe topic => (mqttAppUnsubscribe topic env s).2
  | .setIp ip => mqttAppSetIp ip s
  | .publishStatus status => (mqttAppPublishStatus status env s).2
  | .publishTelemetry payload => (mqttAppPublishTelemetry payload env s).2
  | .event e => mqttEventHandler e env s
  | .reconnectTimerExpiry => mqttReconnectTimerCallback s

/-- The state after the steps of `r`, in order. -/
def run : State → List (Action × Env) → State
  | s, [] => s
  | s, (a, env) :: r => run (step s a env) r

theorem run_append (s : State) (r₁ r₂ : List (Action × Env)) : run s (r₁ ++ r₂) = run (run s r₁) r₂ := by
  induction r₁ generalizing s with
  | nil => rfl
  | cons p r₁ ih => exact ih _

/-- The states a session reaches from boot. -/
inductive Reachable : State → Prop where
  | init : Reachable State.init
  | step {s : State} (a : Action) (env : Env) : Reachable s → Reachable (step s a env)

theorem Reachable.run {s : State} (h : Reachable s) : ∀ r, Reachable (run s r)
  | [] => h
  | (a, env) :: r => (h.step a env).run r

end MqttApp
