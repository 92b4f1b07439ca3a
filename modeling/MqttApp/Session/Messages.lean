import MqttApp.Session.Client

/-! # JSON envelopes and the command dispatcher

`publish_json_status`, `publish_json_message`, `process_json_command` and the two public wrappers
over the first two. The envelopes are built with the cJSON builders, so each member is added only
when its allocation succeeds; the allocation sites are numbered in source order (`Env.cJsonAlloc`).
`process_json_command` hands `publish_json_message` the allocation outcomes after its own twelve.
-/

namespace MqttApp
open Item

/-- The allocation outcomes of a callee whose sites come after the first `k` of its caller. -/
def Env.shiftAlloc (env : Env) (k : Nat) : Env := { env with cJsonAlloc := fun i => env.cJsonAlloc (i + k) }

namespace State

/-- `time_since_last_update`, with its `uint32_t` subtraction and `0` for "no earlier update". -/
def timeSinceLast (lastUpdateTime currentTime : UInt32) : UInt32 :=
  if lastUpdateTime > 0 then currentTime - lastUpdateTime else 0

/-- The members `publish_json_status` adds to its object (allocation sites 1 to 7). -/
def statusMembers (status : Bytes) (env : Env) (deviceIp : Bytes) (timeSince : UInt32)
    (root : Option Item) : Option Item :=
  let root := cJsonAddStringToObject (env.cJsonAlloc 1) root (ascii "type") mqttMsgTypeStatus
  let root := cJsonAddStringToObject (env.cJsonAlloc 2) root (ascii "status") status
  let root := cJsonAddStringToObject (env.cJsonAlloc 3) root (ascii "ip") deviceIp
  let root := cJsonAddNumberToObject (env.cJsonAlloc 4) root (ascii "uptime") (env.timeUs 0 / 1000000)
  let root := cJsonAddNumberToObject (env.cJsonAlloc 5) root (ascii "free_heap") env.freeHeapSize.toNat
  let root := cJsonAddNumberToObject (env.cJsonAlloc 6) root (ascii "active_led") currentActiveLed
  cJsonAddNumberToObject (env.cJsonAlloc 7) root (ascii "time_since_last_update") timeSince.toNat

def publishJsonStatus (status : Bytes) (env : Env) (s : State) : EspErr × State :=
  if !s.mqttConnected && strcmp status (ascii "offline") != 0 then (espFail, s) else
  match cJsonCreateObject (env.cJsonAlloc 0) with
  | none => (espFail, s)
  | some root =>
    let currentTime := UInt32.ofNat (env.timeUs 1 / 1000000)
    let root := statusMembers status env s.deviceIp (timeSinceLast s.lastUpdateTime currentTime) (some root)
    let s := { s with lastUpdateTime := currentTime }
    match cJsonPrint (env.cJsonAlloc 8) root with
    | some json =>
      (if env.publishMsgId > 0 then espOk else espFail,
        s.call (.clientPublish s.client mqttTopicDeviceStatus json 0 1 true))
    | none => (espFail, s)

def publishJsonMessage (topic type : Bytes) (payload : Option Item) (env : Env) (s : State) :
    EspErr × State :=
  match payload with
  | none => (espFail, s)
  | some payload =>
    if !s.mqttConnected then (espFail, s) else
    match cJsonCreateObject (env.cJsonAlloc 0) with
    | none => (espFail, s)
    | some root =>
      let root := cJsonAddStringToObject (env.cJsonAlloc 1) (some root) (ascii "type") type
      let root := addItemToObject (env.cJsonAlloc 2) root (ascii "payload") payload
      match cJsonPrint (env.cJsonAlloc 3) root with
      | some json =>
        (if env.publishMsgId > 0 then espOk else espFail,
          s.call (.clientPublish s.client topic json 0 1 false))
      | none => (espFail, s)

/-- The answer to a ping (allocation sites 1 to 7). -/
def pongResponse (env : Env) (deviceIp : Bytes) : Option Item :=
  let response := cJsonCreateObject (env.cJsonAlloc 1)
  let response := cJsonAddStringToObject (env.cJsonAlloc 2) response (ascii "type") (ascii "pong")
  let response := cJsonAddStringToObject (env.cJsonAlloc 3) response (ascii "status") (ascii "online")
  let response := cJsonAddStringToObject (env.cJsonAlloc 4) response (ascii "ip") deviceIp
  let response := cJsonAddNumberToObject (env.cJsonAlloc 5) response (ascii "uptime") (env.timeUs 0 / 1000000)
  let response := cJsonAddNumberToObject (env.cJsonAlloc 6) response (ascii "free_heap") env.freeHeapSize.toNat
  cJsonAddNumberToObject (env.cJsonAlloc 7) response (ascii "active_led") currentActiveLed

/-- The payload confirming a command (allocation sites 9 to 11). -/
def commandResponse (env : Env) (cmd : Bytes) : Option Item :=
  let response := cJsonCreateObject (env.cJsonAlloc 9)
  let response := cJsonAddStringToObject (env.cJsonAlloc 10) response (ascii "cmd_received") cmd
  cJsonAddBoolToObject (env.cJsonAlloc 11) response (ascii "success") true

/-- The `strcmp` chain of `process_json_command` that picks the LED. -/
def ledCommand (cmd : Bytes) (s : State) : State :=
  if strcmp cmd (ascii "led_a") = 0 then s.call (.processLedCommand 65)
  else if strcmp cmd (ascii "led_b") = 0 then s.call (.processLedCommand 66)
  else if strcmp cmd (ascii "led_c") = 0 then s.call (.processLedCommand 67)
  else s

def processJsonCommand (jsonStr : Bytes) (env : Env) (s : State) : State :=
  match cJsonParse (env.cJsonAlloc 0) jsonStr with
  | none => s
  | some root =>
    match cJsonGetObjectItem root (ascii "type") with
    | some (.string type) =>
      if strcmp type (ascii "ping") = 0 then
        match cJsonPrint (env.cJsonAlloc 8) (pongResponse env s.deviceIp) with
        | some json => s.call (.clientPublish s.client mqttTopicDeviceResponse json 0 1 false)
        | none => s
      else if strcmp type mqttMsgTypeCommand = 0 then
        match cJsonGetObjectItem root (ascii "payload") with
        | none => s
        | some payload =>
          match cJsonGetObjectItem payload (ascii "cmd") with
          | some (.string cmd) =>
            (publishJsonMessage mqttTopicDeviceResponse mqttMsgTypeResponse (commandResponse env cmd)
              (env.shiftAlloc 12) (ledCommand cmd s)).2
          | _ => s
      else s
    | _ => s

def mqttAppPublishStatus (status : Bytes) (env : Env) (s : State) : EspErr × State :=
  publishJsonStatus status env s

def mqttAppPublishTelemetry (payload : Option Item) (env : Env) (s : State) : EspErr × State :=
  publishJsonMessage mqttTopicDeviceTelemetry mqttMsgTypeTelemetry payload env s

end State
end MqttApp
