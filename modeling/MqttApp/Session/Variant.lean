import MqttApp.Session.Handler

/-! # The raw-text version of the module

The repository also carries an earlier `mqtt_app.c` of the same design, without `device_ip`,
without JSON and without a last will. It connects with a longer keepalive and no last will,
subscribes to `/led/command`, announces itself and its stop with plain texts on `/test/topic`, and
hands the LED executor the byte of any one-byte message, whatever its topic. Its
`generate_client_id`, `exponential_backoff`, timer callback, `DISCONNECTED` branch, gated calls and
`mqtt_app_is_connected` are the code of the later version, and are modelled by the same
definitions. Its `mqtt_app_start` and `mqtt_app_stop` differ from the later ones only in the
configuration and in the goodbye message: each pair is one definition (`startWith`, `stopWith`)
at two arguments, and the later version's functions are shown to be theirs.
-/

namespace MqttApp
namespace State

/-- `mqtt_app_start` of either version, given the configuration it builds from the client id. -/
def startWith (config : Bytes → ClientConfig) (env : Env) (s : State) : State :=
  if s.client.isSome then s else
  match generateClientId env s with
  | (none, s) => s
  | (some (buf, clientId), s) =>
    let s := clientInit env (config clientId) s
    if s.client.isNone then s.call (.free buf) else
    let s := timerCreate env s
    if env.timerCreateErr ≠ espOk then (destroyClient s).call (.free buf) else
    let s := s.call (.clientRegisterEvent s.client)
    if env.registerEventErr ≠ espOk then (destroyClient (deleteTimer s)).call (.free buf) else
    let s := { s with mqttRetryCount := 0 }.call (.clientStart s.client)
    let s := if env.clientStartErr ≠ espOk then destroyClient (deleteTimer s) else s
    s.call (.free buf)

/-- `mqtt_app_stop` of either version, given the goodbye it publishes while connected. -/
def stopWith (goodbye : State → Call) (env : Env) (s : State) : State :=
  if s.client.isNone then s else
  let s := if s.reconnectTimer.isSome then
      deleteTimer (if env.timerIsActive then s.call (.timerStop s.reconnectTimer) else s)
    else s
  let s := if s.mqttConnected then (s.call (goodbye s)).call (.clientDisconnect s.client) else s
  destroyClient (s.call (.clientStop s.client))

/-- The later `mqtt_app_start` configures the client with the last will of the `device_ip` it
starts with. -/
theorem mqttAppStart_eq_startWith (env : Env) (s : State) :
    mqttAppStart env s = startWith (fun clientId => mqttCfg clientId (lwtMessage s.deviceIp)) env s := by
  unfold mqttAppStart startWith generateClientId
  split
  · rfl
  · cases env.mallocOk <;> rfl

/-- The later `mqtt_app_stop` says goodbye with the offline message on the status topic. -/
theorem mqttAppStop_eq_stopWith (env : Env) (s : State) :
    mqttAppStop env s = stopWith (fun s =>
      .clientPublish s.client mqttTopicDeviceStatus (offlineMessage s.deviceIp)
        (offlineMessage s.deviceIp).length 1 true) env s := rfl

end State

namespace Variant
open State

def ledCommandTopic : Bytes := ascii "/led/command"

def testTopic : Bytes := ascii "/test/topic"

/-- The configuration of the earlier `mqtt_app_start`. It sets no last will, which the record holds
as an empty topic and message; its `disable_clean_session = false` and
`disable_auto_reconnect = true` are not fields of `ClientConfig`. -/
def mqttCfg (clientId : Bytes) : ClientConfig where
  brokerAddressUri := ascii "mqtt://broker.emqx.io"
  brokerAddressPort := 1883
  sessionKeepalive := 120
  networkTimeoutMs := mqttNetworkTimeoutMs
  credentialsClientId := clientId
  credentialsUsername := none
  lastWillTopic := []
  lastWillMsg := []
  lastWillMsgLen := 0
  lastWillQos := 0
  lastWillRetain := false

def mqttAppStart (env : Env) (s : State) : State := startWith mqttCfg env s

def mqttAppStop (env : Env) (s : State) : State :=
  stopWith (fun s => .clientPublish s.client testTopic (ascii "ESP32 desconectado") 0 1 false) env s

/-- `mqtt_event_handler` of the earlier version: its `CONNECTED` branch subscribes to
`/led/command` at QoS 0 and publishes a text, and its `DATA` branch forwards a one-byte message
from any topic. -/
def mqttEventHandler (event : Event) (env : Env) (s : State) : State :=
  match event with
  | .connected =>
    let s := { s with mqttRetryCount := 0, mqttConnected := true }
    let s := s.call (.clientSubscribe s.client ledCommandTopic 0)
    s.call (.clientPublish s.client testTopic (ascii "ESP32 conectado!") 0 1 false)
  | .disconnected => State.mqttEventHandler .disconnected env s
  | .data _ _ data =>
    match data with
    | [command] => s.call (.processLedCommand command)
    | _ => s
  | _ => s

/-- A step of the earlier version. It has no `mqtt_app_set_ip`, `mqtt_app_publish_status` or
`mqtt_app_publish_telemetry`. -/
inductive Action where
  | start
  | stop
  | publish (topic data : Bytes) (len qos : Int) (retain : Bool)
  | subscribe (topic : Bytes) (qos : Int)
  | unsubscribe (topic : Bytes)
  | event (e : Event)
  | reconnectTimerExpiry

/-- The same call of the later version. -/
def Action.toAction : Action → MqttApp.Action
  | .start => .start
  | .stop => .stop
  | .publish topic data len qos retain => .publish topic data len qos retain
  | .subscribe topic qos => .subscribe topic qos
  | .unsubscribe topic => .unsubscribe topic
  | .event e => .event e
  | .reconnectTimerExpiry => .reconnectTimerExpiry

def step (s : State) (a : Action) (env : Env) : State :=
  match a with
  | .start => mqttAppStart env s
  | .stop => mqttAppStop env s
  | .publish topic data len qos retain => (mqttAppPublish topic data len qos retain env s).2
  | .subscribe topic qos => (mqttAppSubscribe topic qos env s).2
  | .unsubscribe topic => (mqttAppUnsubscribe topic env s).2
  | .event e => mqttEventHandler e env s
  | .reconnectTimerExpiry => mqttReconnectTimerCallback s

def run : State → List (Action × Env) → State
  | s, [] => s
  | s, (a, env) :: r => run (step s a env) r

theorem run_append (s : State) (r₁ r₂ : List (Action × Env)) : run s (r₁ ++ r₂) = run (run s r₁) r₂ := by
  induction r₁ generalizing s with
  | nil => rfl
  | cons p r₁ ih => exact ih _

end Variant
end MqttApp
