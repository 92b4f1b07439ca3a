import MqttApp.Session.State

/-! # Client lifecycle and the gated transport calls

`mqtt_app_start`, `mqtt_app_stop`, `mqtt_app_is_connected`, the three gated calls
(`mqtt_app_publish`, `mqtt_app_subscribe`, `mqtt_app_unsubscribe`), `mqtt_app_set_ip` and the
reconnection timer's callback. `mqtt_app_start` is a chain of constructions, each with its own
early return; the statement pairs it repeats on those paths (`esp_mqtt_client_destroy(client);
client = NULL;` and `esp_timer_delete(reconnect_timer); reconnect_timer = NULL;`) are
`destroyClient` and `deleteTimer`.
-/

namespace MqttApp
namespace State

/-- `snprintf(buf, size, ...)`: the C string it leaves in `buf`, given the formatted text. -/
def snprintf (size : Nat) (text : Bytes) : Bytes := text.take (size - 1)

/-- `%02x`. -/
def hex2 (c : UInt8) : Bytes := [Item.hexDigit (c.toNat / 16), Item.hexDigit (c.toNat % 16)]

/-- The text `generate_client_id` prints into its buffer: `esp32_` and the station MAC in hex. -/
def clientIdText (mac : Bytes) : Bytes :=
  snprintf 20 (ascii "esp32_" ++ (List.range 6).flatMap fun i => hex2 (mac.getD i 0))

/-- `generate_client_id`: a 20-byte heap buffer holding the id; `NULL` when `malloc` fails. -/
def generateClientId (env : Env) (s : State) : Option (Nat × Bytes) × State :=
  if env.mallocOk then (some (s.fresh, clientIdText env.mac), (s.call (.malloc 20 (some s.fresh))).next)
  else (none, s.call (.malloc 20 none))

/-- The last-will message `mqtt_app_start` formats into its 100-byte buffer. -/
def lwtMessage (deviceIp : Bytes) : Bytes :=
  snprintf 100
    (ascii "\x7b\"type\":\"status\",\"status\":\"offline\",\"ip\":\"" ++ cstr deviceIp ++ ascii "\"\x7d")

/-- The offline message `mqtt_app_stop` formats into its 100-byte buffer. -/
def offlineMessage (deviceIp : Bytes) : Bytes :=
  snprintf 100 (ascii "\x7b\"status\":\"offline\",\"ip\":\"" ++ cstr deviceIp ++ ascii "\"\x7d")

def mqttCfg (clientId lwt : Bytes) : ClientConfig where
  brokerAddressUri := ascii "mqtt://broker.emqx.io"
  brokerAddressPort := 1883
  sessionKeepalive := 30
  networkTimeoutMs := mqttNetworkTimeoutMs
  credentialsClientId := clientId
  credentialsUsername := none
  lastWillTopic := mqttTopicDeviceStatus
  lastWillMsg := lwt
  lastWillMsgLen := lwt.length
  lastWillQos := 1
  lastWillRetain := true

/-- `client = esp_mqtt_client_init(&mqtt_cfg)`. -/
def clientInit (env : Env) (cfg : ClientConfig) (s : State) : State :=
  if env.clientInitOk then
    { s.call (.clientInit cfg (some s.fresh)) with client := some s.fresh }.next
  else { s.call (.clientInit cfg none) with client := none }

/-- `esp_timer_create(&timer_args, &reconnect_timer)`, which writes the handle only on success. -/
def timerCreate (env : Env) (s : State) : State :=
  if env.timerCreateErr = espOk then
    { s.call (.timerCreate (some s.fresh)) with reconnectTimer := some s.fresh }.next
  else s.call (.timerCreate none)

/-- `esp_mqtt_client_destroy(client); client = NULL;` -/
def destroyClient (s : State) : State := { s.call (.clientDestroy s.client) with client := none }

/-- `esp_timer_delete(reconnect_timer); reconnect_timer = NULL;` -/
def deleteTimer (s : State) : State :=
  { s.call (.timerDelete s.reconnectTimer) with reconnectTimer := none }

def mqttAppStart (env : Env) (s : State) : State :=
  if s.client.isSome then s else
  match generateClientId env s with
  | (none, s) => s
  | (some (buf, clientId), s) =>
    let s := clientInit env (mqttCfg clientId (lwtMessage s.deviceIp)) s
    if s.client.isNone then s.call (.free buf) else
    let s := timerCreate env s
    if env.timerCreateErr ≠ espOk then (destroyClient s).call (.free buf) else
    let s := s.call (.clientRegisterEvent s.client)
    if env.registerEventErr ≠ espOk then (destroyClient (deleteTimer s)).call (.free buf) else
    let s := { s with mqttRetryCount := 0 }.call (.clientStart s.client)
    let s := if env.clientStartErr ≠ espOk then destroyClient (deleteTimer s) else s
    s.call (.free buf)

def mqttAppStop (env : Env) (s : State) : State :=
  if s.client.isNone then s else
  let s := if s.reconnectTimer.isSome then
      deleteTimer (if env.timerIsActive then s.call (.timerStop s.reconnectTimer) else s)
    else s
  let s := if s.mqttConnected then
      let msg := offlineMessage s.deviceIp
      (s.call (.clientPublish s.client mqttTopicDeviceStatus msg msg.length 1 true)).call
        (.clientDisconnect s.client)
    else s
  destroyClient (s.call (.clientStop s.client))

def mqttAppIsConnected (s : State) : Bool := s.client.isSome && s.mqttConnected

/-- The shape of `mqtt_app_publish`, `mqtt_app_subscribe` and `mqtt_app_unsubscribe`: `ESP_FAIL`
unless a client exists and the flag is set; otherwise the transport call on the client, whose
negative message id is `ESP_FAIL`. -/
def gatedClientCall (call : Option Nat → Call) (msgId : Int) (s : State) : EspErr × State :=
  if s.client.isNone || !s.mqttConnected then (espFail, s)
  else (if msgId < 0 then espFail else espOk, s.call (call s.client))

def mqttAppPublish (topic data : Bytes) (len qos : Int) (retain : Bool) (env : Env) (s : State) :
    EspErr × State :=
  gatedClientCall (fun c => .clientPublish c topic data len qos retain) env.publishMsgId s

def mqttAppSubscribe (topic : Bytes) (qos : Int) (env : Env) (s : State) : EspErr × State :=
  gatedClientCall (fun c => .clientSubscribe c topic qos) env.subscribeMsgId s

def mqttAppUnsubscribe (topic : Bytes) (env : Env) (s : State) : EspErr × State :=
  gatedClientCall (fun c => .clientUnsubscribe c topic) env.unsubscribeMsgId s

/-- `mqtt_app_set_ip`: `strncpy` of 15 bytes, then `device_ip[15] = '\0'`. -/
def mqttAppSetIp (ip : Option Bytes) (s : State) : State :=
  match ip with
  | some ip => { s with deviceIp := strncpy ip 15 ++ [0] }
  | none => s

def mqttReconnectTimerCallback (s : State) : State :=
  if s.client.isSome then s.call (.clientStart s.client) else s

/-! ## Field lemmas -/

@[simp] theorem destroyClient_client (s : State) : (destroyClient s).client = none := rfl
@[simp] theorem destroyClient_reconnectTimer (s : State) :
    (destroyClient s).reconnectTimer = s.reconnectTimer := rfl
@[simp] theorem destroyClient_mqttRetryCount (s : State) :
    (destroyClient s).mqttRetryCount = s.mqttRetryCount := rfl
@[simp] theorem destroyClient_mqttConnected (s : State) :
    (destroyClient s).mqttConnected = s.mqttConnected := rfl
@[simp] theorem destroyClient_deviceIp (s : State) : (destroyClient s).deviceIp = s.deviceIp := rfl
@[simp] theorem destroyClient_lastUpdateTime (s : State) :
    (destroyClient s).lastUpdateTime = s.lastUpdateTime := rfl
@[simp] theorem destroyClient_fresh (s : State) : (destroyClient s).fresh = s.fresh := rfl
@[simp] theorem destroyClient_trace (s : State) :
    (destroyClient s).trace = s.trace ++ [.clientDestroy s.client] := rfl

@[simp] theorem deleteTimer_client (s : State) : (deleteTimer s).client = s.client := rfl
@[simp] theorem deleteTimer_reconnectTimer (s : State) : (deleteTimer s).reconnectTimer = none := rfl
@[simp] theorem deleteTimer_mqttRetryCount (s : State) :
    (deleteTimer s).mqttRetryCount = s.mqttRetryCount := rfl
@[simp] theorem deleteTimer_mqttConnected (s : State) :
    (deleteTimer s).mqttConnected = s.mqttConnected := rfl
@[simp] theorem deleteTimer_deviceIp (s : State) : (deleteTimer s).deviceIp = s.deviceIp := rfl
@[simp] theorem deleteTimer_lastUpdateTime (s : State) :
    (deleteTimer s).lastUpdateTime = s.lastUpdateTime := rfl
@[simp] theorem deleteTimer_fresh (s : State) : (deleteTimer s).fresh = s.fresh := rfl
@[simp] theorem deleteTimer_trace (s : State) :
    (deleteTimer s).trace = s.trace ++ [.timerDelete s.reconnectTimer] := rfl

@[simp] theorem clientInit_client (env : Env) (cfg : ClientConfig) (s : State) :
    (clientInit env cfg s).client = if env.clientInitOk then some s.fresh else none := by
  unfold clientInit; split <;> rfl
@[simp] theorem clientInit_reconnectTimer (env : Env) (cfg : ClientConfig) (s : State) :
    (clientInit env cfg s).reconnectTimer = s.reconnectTimer := by
  unfold clientInit; split <;> rfl
@[simp] theorem clientInit_deviceIp (env : Env) (cfg : ClientConfig) (s : State) :
    (clientInit env cfg s).deviceIp = s.deviceIp := by
  unfold clientInit; split <;> rfl
@[simp] theorem clientInit_mqttConnected (env : Env) (cfg : ClientConfig) (s : State) :
    (clientInit env cfg s).mqttConnected = s.mqttConnected := by
  unfold clientInit; split <;> rfl
@[simp] theorem clientInit_lastUpdateTime (env : Env) (cfg : ClientConfig) (s : State) :
    (clientInit env cfg s).lastUpdateTime = s.lastUpdateTime := by
  unfold clientInit; split <;> rfl

@[simp] theorem timerCreate_client (env : Env) (s : State) :
    (timerCreate env s).client = s.client := by
  unfold timerCreate; split <;> rfl
@[simp] theorem timerCreate_reconnectTimer (env : Env) (s : State) :
    (timerCreate env s).reconnectTimer =
      if env.timerCreateErr = espOk then some s.fresh else s.reconnectTimer := by
  unfold timerCreate; split <;> rfl
@[simp] theorem timerCreate_mqttConnected (env : Env) (s : State) :
    (timerCreate env s).mqttConnected = s.mqttConnected := by
  unfold timerCreate; split <;> rfl
@[simp] theorem timerCreate_deviceIp (env : Env) (s : State) :
    (timerCreate env s).deviceIp = s.deviceIp := by
  unfold timerCreate; split <;> rfl
@[simp] theorem timerCreate_lastUpdateTime (env : Env) (s : State) :
    (timerCreate env s).lastUpdateTime = s.lastUpdateTime := by
  unfold timerCreate; split <;> rfl

end State
end MqttApp
