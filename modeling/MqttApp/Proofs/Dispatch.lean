import MqttApp.Proofs.Gates
import MqttApp.Json.RoundTrip

/-! # Dispatching commands

`process_json_command` reads its document with cJSON's own rules: `cJSON_Parse` takes the first
JSON value of the C string and ignores what follows it, `cJSON_GetObjectItem` takes the first
member whose key matches ignoring ASCII case, and the `type` and `cmd` strings are compared as C
strings, up to their first NUL. `DispatchSpec` states the dispatcher's answer in those terms: a
pong for `ping`, at most one LED command and one response for a `command` with a string `cmd`,
nothing otherwise. The handler's `DATA` branch dispatches on the first 16 bytes at `event->topic`,
so every topic that starts with `/device/commands` reaches the dispatcher. The envelopes the
dispatcher and `publish_json_message` print read back, through `cJSON_ParseWithOpts`, as the
objects they were built from.
-/

namespace MqttApp
open State Item

/-- The string value of member `name`, as `cJSON_GetObjectItem` and `cJSON_IsString` find it. -/
def stringMember (item : Item) (name : Bytes) : Option Bytes :=
  match cJsonGetObjectItem item name with
  | some (.string v) => some v
  | _ => none

/-- The `"cmd"` string of the `"payload"` member. -/
def commandOf (root : Item) : Option Bytes :=
  (cJsonGetObjectItem root (ascii "payload")).bind fun p => stringMember p (ascii "cmd")

/-- The LED a `cmd` string selects. -/
def ledCode (cmd : Bytes) : Option UInt8 :=
  if cstr cmd = ascii "led_a" then some 65
  else if cstr cmd = ascii "led_b" then some 66
  else if cstr cmd = ascii "led_c" then some 67
  else none

/-- The answer to a ping. -/
def pongEnvelope (env : Env) (deviceIp : Bytes) : Item :=
  .object [(ascii "type", .string (ascii "pong")), (ascii "status", .string (ascii "online")),
    (ascii "ip", .string (cstr deviceIp)),
    (ascii "uptime", .number (decimal (env.timeUs 0 / 1000000))),
    (ascii "free_heap", .number (decimal env.freeHeapSize.toNat)),
    (ascii "active_led", .number (decimal currentActiveLed))]

/-- `{type: "response", payload: {cmd_received: cmd, success: true}}`. -/
def responseEnvelope (cmd : Bytes) : Item :=
  .object [(ascii "type", .string mqttMsgTypeResponse),
    (ascii "payload", .object [(ascii "cmd_received", .string (cstr cmd)), (ascii "success", .bool true)])]

namespace State

theorem ledCommand_eq (cmd : Bytes) (s : State) :
    ledCommand cmd s = ((ledCode cmd).map fun c => s.call (.processLedCommand c)).getD s := by
  have ha : cstr (ascii "led_a") = ascii "led_a" := rfl
  have hb : cstr (ascii "led_b") = ascii "led_b" := rfl
  have hc : cstr (ascii "led_c") = ascii "led_c" := rfl
  simp only [ledCommand, ledCode, strcmp_eq_zero_iff, ha, hb, hc]
  split_ifs <;> rfl

variable {env : Env} (ha : ∀ i, env.cJsonAlloc i = true)
include ha

theorem pongResponse_eq (ip : Bytes) : pongResponse env ip = some (pongEnvelope env ip) := by
  simp only [pongResponse, ha, cJsonCreateObject, cJsonAddStringToObject, cJsonAddNumberToObject,
    addItemToObject, if_true]
  rfl

theorem commandResponse_eq (cmd : Bytes) :
    commandResponse env cmd = some (.object [(ascii "cmd_received", .string (cstr cmd)),
      (ascii "success", .bool true)]) := by
  simp only [commandResponse, ha, cJsonCreateObject, cJsonAddStringToObject, cJsonAddBoolToObject,
    addItemToObject, if_true]
  rfl

theorem publishJsonMessage_eq (topic type : Bytes) (payload : Item) {s : State}
    (hc : s.mqttConnected = true) :
    publishJsonMessage topic type (some payload) env s =
      (if env.publishMsgId > 0 then espOk else espFail,
        s.call (.clientPublish s.client topic
          (printValue 0 (.object [(ascii "type", .string (cstr type)), (ascii "payload", payload)]))
          0 1 false)) := by
  simp only [publishJsonMessage, hc, ha, cJsonCreateObject, cJsonAddStringToObject, addItemToObject,
    cJsonPrint, if_true, Bool.not_true, Bool.false_eq_true, if_false]
  rfl

end State

/-! ## The dispatcher -/

/-- What `process_json_command` does with `jsonStr`, read with cJSON's rules: a pong for the type
`ping`; for the type `command` with a string `cmd` in its `payload`, the LED that `cmd` names (if
any) and a response; no call otherwise. -/
def DispatchSpec (jsonStr : Bytes) (env : Env) (s : State) : Prop :=
  let root := cJsonParse true jsonStr
  let type := (root.bind fun r => stringMember r (ascii "type")).map cstr
  let cmd := root.bind commandOf
  let respond := fun json => Call.clientPublish s.client mqttTopicDeviceResponse json 0 1 false
  let trace := (processJsonCommand jsonStr env s).trace
  (type = some (ascii "ping") ∧
    trace = s.trace ++ [respond (printValue 0 (pongEnvelope env s.deviceIp))]) ∨
  (type = some mqttMsgTypeCommand ∧ ∃ c, cmd = some c ∧
    trace = s.trace ++ ((ledCode c).map .processLedCommand).toList ++
      [respond (printValue 0 (responseEnvelope c))]) ∨
  (type ≠ some (ascii "ping") ∧ (type = some mqttMsgTypeCommand → cmd = none) ∧ trace = s.trace)

theorem command_dispatch (jsonStr : Bytes) {env : Env} (ha : ∀ i, env.cJsonAlloc i = true)
    {s : State} (hc : s.mqttConnected = true) : DispatchSpec jsonStr env s := by
  unfold DispatchSpec processJsonCommand
  rw [ha 0]
  cases cJsonParse true jsonStr with
  | none => simp
  | some root =>
    simp only [Option.some_bind, stringMember]
    cases cJsonGetObjectItem root (ascii "type") with
    | none => simp
    | some ty =>
      cases ty with
      | string t =>
        have hping : cstr (ascii "ping") = ascii "ping" := rfl
        have hcommand : cstr mqttMsgTypeCommand = mqttMsgTypeCommand := rfl
        have hne : mqttMsgTypeCommand ≠ ascii "ping" := by decide
        simp only [strcmp_eq_zero_iff, hping, hcommand, Option.map_some']
        by_cases hp : cstr t = ascii "ping"
        · left
          simp [hp, pongResponse_eq ha, ha, cJsonPrint]
        right
        by_cases hm : cstr t = mqttMsgTypeCommand
        swap
        · right
          simp [hp, hm]
        simp only [hp, hm, if_false, if_true, Option.some_bind, commandOf]
        cases cJsonGetObjectItem root (ascii "payload") with
        | none => right; simp [hm, hne]
        | some payload =>
          simp only [Option.some_bind, stringMember]
          cases cJsonGetObjectItem payload (ascii "cmd") with
          | none => right; simp [hm, hne]
          | some c =>
            cases c with
            | string c =>
              left
              refine ⟨trivial, c, rfl, ?_⟩
              have hr : cstr mqttMsgTypeResponse = mqttMsgTypeResponse := rfl
              simp only [hne, if_false]
              rw [commandResponse_eq ha, @publishJsonMessage_eq (env.shiftAlloc 12)
                (fun i => ha _) _ _ _ _ ((ledCommand_step c s).mqttConnected.trans hc), ledCommand_eq]
              cases ledCode c <;> simp [hr, responseEnvelope]
            | _ => right; simp [hm, hne]
      | _ => simp

/-- A session whose client has just reported `CONNECTED`, every collaborator succeeding. -/
def connectedAtBoot : State := run State.init [(.start, .allOk), (.event .connected, .allOk)]

/-- `{"type":"ping"}`. -/
def pingText : Bytes := ascii "\x7b\"type\":\"ping\"\x7d"

theorem command_dispatch_ping :
    (∀ i, Env.allOk.cJsonAlloc i = true) ∧ connectedAtBoot.mqttConnected = true ∧
      DispatchSpec (pingText ++ [0]) .allOk connectedAtBoot :=
  ⟨fun _ => rfl, rfl, command_dispatch _ (fun _ => rfl) rfl⟩

/-- `{"TYPE":"ping"}` is, in its entirety, an object with no member named exactly `type`; the
dispatcher still answers it with a pong, since `cJSON_GetObjectItem` ignores the key's case. -/
theorem uppercase_type_answered :
    cJsonParseWithOpts true (ascii "\x7b\"TYPE\":\"ping\"\x7d") true =
      some (.object [(ascii "TYPE", .string (ascii "ping"))]) ∧
    ∃ json, (processJsonCommand (ascii "\x7b\"TYPE\":\"ping\"\x7d" ++ [0]) .allOk connectedAtBoot).trace =
      connectedAtBoot.trace ++ [.clientPublish (some 1) mqttTopicDeviceResponse json 0 1 false] :=
  ⟨rfl, _, rfl⟩

/-! ## The `DATA` branch and the texts it publishes -/

theorem commandsTopic_prefix_iff (topic : Nat → UInt8) :
    strncmp topic mqttTopicDeviceCommands.at mqttTopicDeviceCommands.length = 0 ↔
      (List.range 16).map topic = mqttTopicDeviceCommands := by
  have hl : mqttTopicDeviceCommands.length = 16 := rfl
  rw [hl, strncmp_eq_zero_iff (fun i hi => by interval_cases i <;> decide)]
  constructor
  · intro h
    refine List.ext_getElem (by simp [hl]) fun i h₁ h₂ => ?_
    simp only [List.getElem_map, List.getElem_range]
    rw [h i (by simpa using h₁), Bytes.at, List.getD_eq_getElem _ _ h₂]
  · intro h i hi
    rw [← h, Bytes.at, List.getD_eq_getElem _ _ (by simpa using hi)]
    simp

/-- The `DATA` branch hands the payload's NUL-terminated copy to the dispatcher exactly when the
first 16 bytes at `event->topic` are `/device/commands`; two events whose topics agree on at least
their first 16 bytes are handled alike. -/
theorem commands_topic_prefix :
    (∀ topic topicLen data env s,
      mqttEventHandler (.data topic topicLen data) env s =
        if env.mallocOk then
          let s₁ := (s.call (.malloc (data.length + 1) (some s.fresh))).next
          (if (List.range 16).map topic = mqttTopicDeviceCommands then
            processJsonCommand (data ++ [0]) env s₁ else s₁).call (.free s.fresh)
        else s.call (.malloc (data.length + 1) none)) ∧
    (∀ topic topic' topicLen data env s, 16 ≤ topicLen → (∀ i < topicLen, topic i = topic' i) →
      mqttEventHandler (.data topic topicLen data) env s =
        mqttEventHandler (.data topic' topicLen data) env s) := by
  refine ⟨fun topic topicLen data env s => ?_, fun topic topic' topicLen data env s hl h => ?_⟩
  · simp only [mqttEventHandler, commandsTopic_prefix_iff]
  · have : (List.range 16).map topic = (List.range 16).map topic' :=
      List.map_congr_left fun i hi => h i (by rw [List.mem_range] at hi; omega)
    simp only [mqttEventHandler, commandsTopic_prefix_iff, this]

/-- `/device/commandsX` followed by NULs. -/
def longerTopic : Nat → UInt8 := (ascii "/device/commandsX").at

/-- A ping on the 17-byte topic `/device/commandsX` reaches the dispatcher and is answered. -/
theorem longer_topic_dispatched :
    (List.range 17).map longerTopic ≠ mqttTopicDeviceCommands ∧
    ∃ json, (mqttEventHandler (.data longerTopic 17 pingText) .allOk connectedAtBoot).trace =
      connectedAtBoot.trace ++ [.malloc 16 (some 3),
        .clientPublish (some 1) mqttTopicDeviceResponse json 0 1 false, .free 3] :=
  ⟨by decide, _, rfl⟩

theorem Printable.pongEnvelope (env : Env) (deviceIp : Bytes) : Printable 0 (pongEnvelope env deviceIp) := by
  refine .object 0 (by decide) ?_ ?_ <;>
    simp only [List.forall_mem_cons, List.not_mem_nil, false_implies, implies_true, and_true]
  · decide
  · exact ⟨.string _ (by decide), .string _ (by decide), .string _ (zero_not_mem_cstr _),
      .number .., .number .., .number ..⟩

/-- What `publish_json_message` publishes, its allocations granted, reads back as the envelope
`{type, payload}` with the payload it was given. -/
theorem publishJsonMessage_reads_back (topic type : Bytes) {payload : Item} (hp : Printable 1 payload)
    {env : Env} (ha : ∀ i, env.cJsonAlloc i = true) {s : State} (hc : s.mqttConnected = true) :
    ∃ json, (publishJsonMessage topic type (some payload) env s).2.trace =
        s.trace ++ [.clientPublish s.client topic json 0 1 false] ∧
      cJsonParseWithOpts true json true =
        some (.object [(ascii "type", .string (cstr type)), (ascii "payload", payload)]) := by
  refine ⟨_, by rw [publishJsonMessage_eq ha _ _ _ hc]; rfl, cJsonParseWithOpts_printValue ?_ true⟩
  refine .object 0 (by decide) ?_ ?_ <;>
    simp only [List.forall_mem_cons, List.not_mem_nil, false_implies, implies_true, and_true]
  · decide
  · exact ⟨.string _ (zero_not_mem_cstr _), hp⟩

/-- `{"t": 21}` as telemetry. -/
theorem telemetry_reads_back :
    Printable 1 (.object [(ascii "t", .number (decimal 21))]) ∧ (∀ i, Env.allOk.cJsonAlloc i = true) ∧
    connectedAtBoot.mqttConnected = true ∧
    ∃ json, (publishJsonMessage mqttTopicDeviceTelemetry mqttMsgTypeTelemetry
        (some (.object [(ascii "t", .number (decimal 21))])) .allOk connectedAtBoot).2.trace =
        connectedAtBoot.trace ++ [.clientPublish connectedAtBoot.client mqttTopicDeviceTelemetry json 0 1 false] ∧
      cJsonParseWithOpts true json true = some (.object [(ascii "type", .string (cstr mqttMsgTypeTelemetry)),
        (ascii "payload", .object [(ascii "t", .number (decimal 21))])]) :=
  have hp : Printable 1 (.object [(ascii "t", .number (decimal 21))]) :=
    .object 1 (by decide) (by simp only [List.forall_mem_cons, List.not_mem_nil, false_implies,
      implies_true, and_true]; decide) (by simp only [List.forall_mem_cons, List.not_mem_nil,
      false_implies, implies_true, and_true]; exact .number 2 21)
  ⟨hp, fun _ => rfl, rfl, publishJsonMessage_reads_back _ _ hp (fun _ => rfl) rfl⟩

theorem processJsonCommand_ping {env : Env} (ha : ∀ i, env.cJsonAlloc i = true) (s : State) :
    processJsonCommand (pingText ++ [0]) env s =
      s.call (.clientPublish s.client mqttTopicDeviceResponse (printValue 0 (pongEnvelope env s.deviceIp))
        0 1 false) := by
  have hparse : cJsonParse true (pingText ++ [0]) = some (.object [(ascii "type", .string (ascii "ping"))]) :=
    rfl
  have htype : cJsonGetObjectItem (.object [(ascii "type", .string (ascii "ping"))]) (ascii "type") =
      some (.string (ascii "ping")) := rfl
  have hping : strcmp (ascii "ping") (ascii "ping") = 0 := by decide
  simp only [processJsonCommand, ha, hparse, htype, hping, if_true, pongResponse_eq ha, cJsonPrint]

/-- A `{"type":"ping"}` on any topic that starts with `/device/commands`, every allocation
succeeding: the handler copies the payload into a fresh 16-byte buffer, publishes one text on
`/device/response`, frees the buffer, and the text reads back as the pong envelope with the current
`device_ip`. The pong is published directly, so this holds whatever the connection flag says. -/
theorem ping_answered {topic : Nat → UInt8} (htopic : (List.range 16).map topic = mqttTopicDeviceCommands)
    (topicLen : Nat) {env : Env} (hm : env.mallocOk = true) (ha : ∀ i, env.cJsonAlloc i = true)
    (s : State) :
    ∃ json, (mqttEventHandler (.data topic topicLen pingText) env s).trace =
        s.trace ++ [.malloc 16 (some s.fresh), .clientPublish s.client mqttTopicDeviceResponse json 0 1 false,
          .free s.fresh] ∧
      cJsonParseWithOpts true json true = some (pongEnvelope env s.deviceIp) := by
  refine ⟨_, ?_, cJsonParseWithOpts_printValue (Printable.pongEnvelope env s.deviceIp) true⟩
  have hl : pingText.length + 1 = 16 := rfl
  simp only [mqttEventHandler, hm, if_true, commandsTopic_prefix_iff, htopic, processJsonCommand_ping ha,
    hl, call_trace, next_trace, call_client, next_client, call_deviceIp, next_deviceIp, List.append_assoc,
    List.cons_append, List.nil_append]

theorem ping_answered_at_boot :
    (List.range 16).map mqttTopicDeviceCommands.at = mqttTopicDeviceCommands ∧ Env.allOk.mallocOk = true ∧
    (∀ i, Env.allOk.cJsonAlloc i = true) ∧
    ∃ json, (mqttEventHandler (.data mqttTopicDeviceCommands.at 16 pingText) .allOk State.init).trace =
        [.malloc 16 (some 0), .clientPublish none mqttTopicDeviceResponse json 0 1 false, .free 0] ∧
      cJsonParseWithOpts true json true = some (pongEnvelope .allOk State.init.deviceIp) :=
  ⟨by decide, rfl, fun _ => rfl, ping_answered (by decide) 16 rfl (fun _ => rfl) State.init⟩

theorem cJsonParse_cstr (ok : Bool) (b : Bytes) : cJsonParse ok (cstr b) = cJsonParse ok b := by
  simp only [cJsonParse, cJsonParseWithOpts, cstr_cstr]

/-- `process_json_command` reads its argument as a C string. -/
theorem processJsonCommand_cstr (jsonStr : Bytes) (env : Env) (s : State) :
    processJsonCommand (cstr jsonStr) env s = processJsonCommand jsonStr env s := by
  unfold State.processJsonCommand
  rw [cJsonParse_cstr]

/-- The `DATA` branch hands the dispatcher the payload up to its first NUL: two payloads of one
length that agree up to their first NUL are handled alike, whatever follows it. -/
theorem payload_read_to_nul {data₁ data₂ : Bytes} (hc : cstr data₁ = cstr data₂)
    (hl : data₁.length = data₂.length) (topic : Nat → UInt8) (topicLen : Nat) (env : Env) (s : State) :
    mqttEventHandler (.data topic topicLen data₁) env s = mqttEventHandler (.data topic topicLen data₂) env s := by
  simp only [mqttEventHandler, hl]
  rw [← processJsonCommand_cstr (data₁ ++ [0]), ← processJsonCommand_cstr (data₂ ++ [0]),
    cstr_append_zero, cstr_append_zero, hc]

/-- A ping followed by a NUL and one more byte is answered whatever that byte is. -/
theorem payload_read_to_nul_ping :
    cstr (pingText ++ [0, 65]) = cstr (pingText ++ [0, 66]) ∧ (pingText ++ [0, 65]).length = (pingText ++ [0, 66]).length ∧
      mqttEventHandler (.data mqttTopicDeviceCommands.at 16 (pingText ++ [0, 65])) .allOk State.init =
        mqttEventHandler (.data mqttTopicDeviceCommands.at 16 (pingText ++ [0, 66])) .allOk State.init :=
  have hc : cstr (pingText ++ [0, 65]) = cstr (pingText ++ [0, 66]) := by decide
  ⟨hc, rfl, payload_read_to_nul hc rfl _ _ _ _⟩

end MqttApp
