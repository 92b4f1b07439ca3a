import MqttApp.Json.Parse

/-! # The session state of `mqtt_app.c`

The file-scope statics of `mqtt_app.c` (and the `static` of `publish_json_status`), together with
the record of every call the session code makes into its collaborators: the ESP-IDF MQTT client,
`esp_timer`, the heap and the LED executor. Whatever a collaborator answers is an input: each
operation reads the answers of its own call from an `Env`. The objects a collaborator hands out
(clients, timers, heap buffers) are named by the order of their creation, so `fresh` is the next
name.
-/

namespace MqttApp

/-- `esp_err_t`. -/
abbrev EspErr := Int

def espOk : EspErr := 0

def espFail : EspErr := -1

def mqttMaxRetryCount : Int := 5

def mqttNetworkTimeoutMs : Nat := 10000

def mqttTopicDeviceCommands : Bytes := ascii "/device/commands"

def mqttTopicDeviceStatus : Bytes := ascii "/device/status"

def mqttTopicDeviceTelemetry : Bytes := ascii "/device/telemetry"

def mqttTopicDeviceResponse : Bytes := ascii "/device/response"

def mqttMsgTypeCommand : Bytes := ascii "command"

def mqttMsgTypeStatus : Bytes := ascii "status"

def mqttMsgTypeTelemetry : Bytes := ascii "telemetry"

def mqttMsgTypeResponse : Bytes := ascii "response"

/-- `current_active_led`: nothing in the file writes it. -/
def currentActiveLed : Nat := 0

/-- The fields of `esp_mqtt_client_config_t` that `mqtt_app_start` sets. -/
structure ClientConfig where
  brokerAddressUri : Bytes
  brokerAddressPort : Nat
  sessionKeepalive : Nat
  networkTimeoutMs : Nat
  credentialsClientId : Bytes
  credentialsUsername : Option Bytes
  lastWillTopic : Bytes
  lastWillMsg : Bytes
  lastWillMsgLen : Nat
  lastWillQos : Int
  lastWillRetain : Bool
  deriving Repr

/-- A call of the session code into a collaborator, with the handle it passed (`none` is `NULL`)
or, for a constructor, the handle it got back. -/
inductive Call where
  | malloc (size : Nat) (result : Option Nat)
  | free (buf : Nat)
  | clientInit (cfg : ClientConfig) (result : Option Nat)
  | clientRegisterEvent (client : Option Nat)
  | clientStart (client : Option Nat)
  | clientStop (client : Option Nat)
  | clientDestroy (client : Option Nat)
  | clientDisconnect (client : Option Nat)
  | clientPublish (client : Option Nat) (topic data : Bytes) (len qos : Int) (retain : Bool)
  | clientSubscribe (client : Option Nat) (topic : Bytes) (qos : Int)
  | clientUnsubscribe (client : Option Nat) (topic : Bytes)
  | timerCreate (result : Option Nat)
  | timerStartOnce (timer : Option Nat) (timeoutUs : UInt64)
  | timerStop (timer : Option Nat)
  | timerDelete (timer : Option Nat)
  | processLedCommand (command : UInt8)
  deriving Repr

/-- What the collaborators answer during one call into the session code. `esp_timer_get_time`
and cJSON's allocations are asked several times a call: `timeUs i` is the `i`-th reading, and
`cJsonAlloc i` the outcome of the allocation at site `i` of the function (sites are numbered in
the order they appear in the source). -/
structure Env where
  mallocOk : Bool
  mac : Bytes
  clientInitOk : Bool
  timerCreateErr : EspErr
  registerEventErr : EspErr
  clientStartErr : EspErr
  timerIsActive : Bool
  publishMsgId : Int
  subscribeMsgId : Int
  unsubscribeMsgId : Int
  timeUs : Nat → Nat
  freeHeapSize : UInt32
  cJsonAlloc : Nat → Bool

/-- The statics of `mqtt_app.c` and the record of collaborator calls. -/
structure State where
  client : Option Nat
  reconnectTimer : Option Nat
  mqttRetryCount : Int
  mqttConnected : Bool
  /-- The 16 bytes of `device_ip`. -/
  deviceIp : Bytes
  /-- The `static` of `publish_json_status`. -/
  lastUpdateTime : UInt32
  fresh : Nat
  trace : List Call

namespace State

/-- The statics at boot. -/
def init : State where
  client := none
  reconnectTimer := none
  mqttRetryCount := 0
  mqttConnected := false
  deviceIp := ascii "0.0.0.0" ++ List.replicate 9 0
  lastUpdateTime := 0
  fresh := 0
  trace := []

/-- Record a collaborator call. -/
def call (s : State) (c : Call) : State := { s with trace := s.trace ++ [c] }

/-- A collaborator hands out the next object name. -/
def next (s : State) : State := { s with fresh := s.fresh + 1 }

@[simp] theorem call_client (s : State) (c : Call) : (s.call c).client = s.client := rfl
@[simp] theorem call_reconnectTimer (s : State) (c : Call) :
    (s.call c).reconnectTimer = s.reconnectTimer := rfl
@[simp] theorem call_mqttRetryCount (s : State) (c : Call) :
    (s.call c).mqttRetryCount = s.mqttRetryCount := rfl
@[simp] theorem call_mqttConnected (s : State) (c : Call) :
    (s.call c).mqttConnected = s.mqttConnected := rfl
@[simp] theorem call_deviceIp (s : State) (c : Call) : (s.call c).deviceIp = s.deviceIp := rfl
@[simp] theorem call_lastUpdateTime (s : State) (c : Call) :
    (s.call c).lastUpdateTime = s.lastUpdateTime := rfl
@[simp] theorem call_fresh (s : State) (c : Call) : (s.call c).fresh = s.fresh := rfl
@[simp] theorem call_trace (s : State) (c : Call) : (s.call c).trace = s.trace ++ [c] := rfl

@[simp] theorem next_client (s : State) : s.next.client = s.client := rfl
@[simp] theorem next_reconnectTimer (s : State) : s.next.reconnectTimer = s.reconnectTimer := rfl
@[simp] theorem next_mqttRetryCount (s : State) : s.next.mqttRetryCount = s.mqttRetryCount := rfl
@[simp] theorem next_mqttConnected (s : State) : s.next.mqttConnected = s.mqttConnected := rfl
@[simp] theorem next_deviceIp (s : State) : s.next.deviceIp = s.deviceIp := rfl
@[simp] theorem next_lastUpdateTime (s : State) : s.next.lastUpdateTime = s.lastUpdateTime := rfl
@[simp] theorem next_fresh (s : State) : s.next.fresh = s.fresh + 1 := rfl
@[simp] theorem next_trace (s : State) : s.next.trace = s.trace := rfl

end State

end MqttApp
