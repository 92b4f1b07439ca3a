import MqttApp.Proofs.Gates
import MqttApp.Json.RoundTrip

/-! # The messages on `/device/status`

Three encoders write to `/device/status`: the last-will message `mqtt_app_start` configures and the
offline message `mqtt_app_stop` publishes are `snprintf` texts with `device_ip` inserted by `%s`,
and `publish_json_status` builds its envelope with cJSON. `device_ip` is always a 16-byte buffer
ending in NUL, so both texts fit their 100-byte buffers. The envelope reads back as the object
built, whatever `device_ip` and the status hold; the two texts are JSON exactly when `%s` inserts
nothing `print_string_ptr` would have escaped. The offline text, unlike the other two, has no
`type` member.
-/

namespace MqttApp
open State Item

/-- The shape `mqtt_app_set_ip` gives `device_ip`: 16 bytes, the last one NUL. -/
def IpBuffer (b : Bytes) : Prop := b.length = 16 ∧ b = b.take 15 ++ [0]

instance : DecidablePred IpBuffer := fun _ => inferInstanceAs (Decidable (_ ∧ _))

theorem IpBuffer.init : IpBuffer State.init.deviceIp := by decide

theorem IpBuffer.strncpy (ip : Bytes) : IpBuffer (strncpy ip 15 ++ [0]) := by
  have h := length_strncpy ip 15
  exact ⟨by simp [h], by rw [List.take_append_of_le_length (by omega), List.take_of_length_le (by omega)]⟩

theorem IpBuffer.cstr_eq {b : Bytes} (h : IpBuffer b) : cstr b = cstr (b.take 15) :=
  (congrArg cstr h.2).trans (cstr_append_zero _)

theorem IpBuffer.length_cstr {b : Bytes} (h : IpBuffer b) : (cstr b).length ≤ 15 := by
  rw [h.cstr_eq]
  exact (length_cstr_le _).trans (List.length_take_le _ _)

theorem Reachable.ipBuffer {s : State} (h : Reachable s) : IpBuffer s.deviceIp := by
  induction h with
  | init => exact .init
  | step a env _ ih =>
    rw [step_deviceIp]
    cases a.ipSet with
    | none => exact ih
    | some ip => exact .strncpy ip

/-- The strings a run hands `mqtt_app_set_ip`, `NULL` ones left out. -/
def ipsSet (r : List (Action × Env)) : List Bytes := r.filterMap fun p => p.1.ipSet

theorem ipsSet_cons (a : Action) (env : Env) (r : List (Action × Env)) :
    ipsSet ((a, env) :: r) = a.ipSet.toList ++ ipsSet r := by
  simp only [ipsSet, List.filterMap_cons]; cases a.ipSet <;> rfl

/-- After a run, `device_ip` holds the `strncpy` of the last string set, if any. -/
theorem run_deviceIp (r : List (Action × Env)) : ∀ s : State,
    (run s r).deviceIp = ((ipsSet r).getLast?.map fun ip => strncpy ip 15 ++ [0]).getD s.deviceIp := by
  induction r with
  | nil => intro s; rfl
  | cons p r ih =>
    obtain ⟨a, env⟩ := p
    intro s
    rw [run, ih, step_deviceIp, ipsSet_cons]
    cases a.ipSet with
    | none => rfl
    | some ip =>
      rw [Option.toList_some, List.singleton_append, List.getLast?_cons]
      cases (ipsSet r).getLast? <;> rfl

/-! ## The two `snprintf` texts and the envelope -/

/-- A byte `print_string_ptr` writes as it is: `%s` may insert it into a JSON string. -/
def isPlain (c : UInt8) : Bool := c != 34 && c != 92 && 32 ≤ c.toNat

theorem escapeByte_plain {c : UInt8} (h : isPlain c = true) : escapeByte c = [c] := by
  simp only [isPlain, Bool.and_eq_true, bne_iff_ne, ne_eq, decide_eq_true_eq] at h
  obtain ⟨⟨h34, h92⟩, h32⟩ := h
  have hlow : ∀ n : UInt8, n.toNat < 32 → c ≠ n := fun n hn e => by subst e; omega
  simp [escapeByte, h34, h92, hlow 8 (by decide), hlow 9 (by decide), hlow 10 (by decide),
    hlow 12 (by decide), hlow 13 (by decide), show ¬c.toNat < 32 by omega]

theorem printString_plain {b : Bytes} (h : b.all isPlain = true) : printString b = 34 :: b ++ [34] := by
  have h₀ : 0 ∉ b := fun h₀ => absurd (List.all_eq_true.1 h 0 h₀) (by decide)
  have he : b.flatMap escapeByte = b := by
    induction b with
    | nil => rfl
    | cons c b ih =>
      simp only [List.all_cons, Bool.and_eq_true] at h
      rw [List.flatMap_cons, escapeByte_plain h.1, ih h.2 fun h' => h₀ (.tail _ h')]; rfl
  rw [printString_eq h₀, he]; rfl

/-- The members of an object whose values are strings, as a compact `printf` format writes
them: `"k":"v"`, separated by commas. -/
def compactMembers : List (Bytes × Bytes) → Bytes
  | [] => []
  | (k, v) :: ms => printString k ++ 58 :: printString v ++ (if ms.isEmpty then [] else 44 :: compactMembers ms)

theorem skipWs_printString (k b : Bytes) : skipWs (printString k ++ b) = printString k ++ b :=
  skipWs_cons (show 32 < (34 : UInt8).toNat by decide) _

theorem skipWs_compactMembers {ms : List (Bytes × Bytes)} (h : ms ≠ []) (b : Bytes) :
    skipWs (compactMembers ms ++ b) = compactMembers ms ++ b := by
  obtain ⟨⟨k, v⟩, ms, rfl⟩ := List.exists_cons_of_ne_nil h
  simp only [compactMembers, List.append_assoc, skipWs_printString]

section
variable (f depth : Nat) (acc : List (Bytes × Item)) {k v : Bytes} (hk : 0 ∉ k) (hv : 0 ∉ v)
include hk hv

/-- A string member and a comma: `parse_object` goes on to the next member. -/
theorem parseMembers_member_comma (more : Bytes) :
    parseMembers (f + 1 + 1) depth acc (printString k ++ 58 :: (printString v ++ 44 :: more)) =
      parseMembers (f + 1) depth (acc ++ [(k, .string v)]) (skipWs more) := by
  rw [printString_eq hk]
  simp only [List.cons_append, List.append_assoc, List.nil_append, parseMembers.eq_2, parseString_escape,
    skipWs_cons (show 32 < (58 : UInt8).toNat by decide), skipWs_printString, parseValue_string _ _ hv,
    skipWs_cons (show 32 < (44 : UInt8).toNat by decide)]

/-- A string member and the closing brace: `parse_object` returns the object. -/
theorem parseMembers_member_close (rest : Bytes) :
    parseMembers (f + 1 + 1) depth acc (printString k ++ 58 :: (printString v ++ 125 :: rest)) =
      some (.object (acc ++ [(k, .string v)]), rest) := by
  rw [printString_eq hk]
  simp only [List.cons_append, List.append_assoc, List.nil_append, parseMembers.eq_2, parseString_escape,
    skipWs_cons (show 32 < (58 : UInt8).toNat by decide), skipWs_printString, parseValue_string _ _ hv,
    skipWs_cons (show 32 < (125 : UInt8).toNat by decide)]

end

/-- The member loop of `parse_object` reads compact string members, given a step of fuel per member
and one more. -/
theorem parseMembers_compact {ms : List (Bytes × Bytes)} (hk : ∀ m ∈ ms, 0 ∉ m.1)
    (hv : ∀ m ∈ ms, 0 ∉ m.2) (depth : Nat) (rest : Bytes) :
    ∀ f acc, ms ≠ [] → ms.length < f →
      parseMembers f depth acc (compactMembers ms ++ 125 :: rest) =
        some (.object (acc ++ ms.map fun m => (m.1, .string m.2)), rest) := by
  induction ms with
  | nil => intro _ _ h; exact absurd rfl h
  | cons m ms ih =>
    obtain ⟨k, v⟩ := m
    rintro (_ | _ | g) acc - hf
    · simp at hf
    · simp at hf
    have hk' : 0 ∉ k := hk _ (.head _)
    have hv' : 0 ∉ v := hv _ (.head _)
    cases ms with
    | nil =>
      rw [compactMembers]
      simp only [List.isEmpty_nil, if_true, List.append_nil, List.append_assoc, List.cons_append]
      rw [parseMembers_member_close g depth acc hk' hv']
      simp
    | cons m' ms =>
      rw [compactMembers]
      simp only [List.isEmpty_cons, Bool.false_eq_true, if_false, List.append_assoc, List.cons_append]
      rw [parseMembers_member_comma g depth acc hk' hv', skipWs_compactMembers (List.cons_ne_nil _ _),
        ih (fun u hu => hk u (.tail _ hu)) (fun u hu => hv u (.tail _ hu)) (g + 1) _ (by simp)
          (by simp at hf ⊢; omega)]
      simp

theorem zero_not_mem_compactMembers (ms : List (Bytes × Bytes)) : 0 ∉ compactMembers ms := by
  induction ms with
  | nil => simp [compactMembers]
  | cons m ms ih =>
    obtain ⟨k, v⟩ := m
    simp only [compactMembers, List.mem_append, List.mem_cons, not_or]
    refine ⟨⟨zero_not_mem_printString k, by decide, zero_not_mem_printString v⟩, ?_⟩
    split <;> simp [ih]

theorem length_le_compactMembers (ms : List (Bytes × Bytes)) : ms.length ≤ (compactMembers ms).length := by
  induction ms with
  | nil => simp
  | cons m ms ih =>
    obtain ⟨k, v⟩ := m
    cases ms <;> simp_all [compactMembers, printString]; omega

/-- `cJSON_ParseWithOpts` reads a compact object of string members as that object. -/
theorem cJsonParseWithOpts_compact {ms : List (Bytes × Bytes)} (hne : ms ≠ [])
    (hk : ∀ m ∈ ms, 0 ∉ m.1) (hv : ∀ m ∈ ms, 0 ∉ m.2) (requireNullTerminated : Bool) :
    cJsonParseWithOpts true (123 :: (compactMembers ms ++ [125])) requireNullTerminated =
      some (.object (ms.map fun m => (m.1, .string m.2))) := by
  have h₀ : 0 ∉ 123 :: (compactMembers ms ++ [125]) := by
    simp only [List.mem_cons, List.mem_append, not_or]
    exact ⟨by decide, zero_not_mem_compactMembers ms, by decide⟩
  obtain ⟨Y, hY⟩ : ∃ Y, compactMembers ms ++ [125] = 34 :: Y := by
    obtain ⟨⟨k, v⟩, ms', rfl⟩ := List.exists_cons_of_ne_nil hne
    exact ⟨_, rfl⟩
  have hl : (compactMembers ms).length = Y.length := by simpa using congrArg List.length hY
  have hf := length_le_compactMembers ms
  have hval : parseValue (2 * (Y.length + 1 + 1) + 1) 0 (123 :: 34 :: Y) =
      some (.object (ms.map fun m => (m.1, .string m.2)), []) := by
    simp only [parseValue.eq_4, ascii_null, ascii_false, ascii_true, List.take_succ_cons, List.cons.injEq,
      show (123 : UInt8) ≠ 110 by decide, show (123 : UInt8) ≠ 102 by decide,
      show (123 : UInt8) ≠ 116 by decide, false_and, if_false, show ¬nestingLimit ≤ 0 by decide,
      skipWs_cons (show 32 < (34 : UInt8).toNat by decide)]
    split
    · rename_i heq; exact absurd (List.cons.inj heq).1 (by decide)
    rw [← hY, parseMembers_compact hk hv _ [] _ [] hne (by omega)]
    rfl
  rw [hY] at h₀ ⊢
  simp only [cJsonParseWithOpts, cstr_eq_self h₀, skipUtf8Bom, List.take_succ_cons, List.cons.injEq,
    show (123 : UInt8) ≠ 0xEF by decide, false_and, if_false,
    skipWs_cons (show 32 < (123 : UInt8).toNat by decide), List.length_cons, hval]
  simp [skipWs]

/-- The last-will text: the whole of the format, `device_ip` in place of `%s`. -/
theorem lwtMessage_eq {ip : Bytes} (h : (cstr ip).length ≤ 15) :
    lwtMessage ip =
      ascii "\x7b\"type\":\"status\",\"status\":\"offline\",\"ip\":\"" ++ cstr ip ++ ascii "\"\x7d" :=
  List.take_of_length_le (by simp only [List.length_append, ascii, List.length_map]; simp; omega)

/-- The offline text: the whole of the format, `device_ip` in place of `%s`. -/
theorem offlineMessage_eq {ip : Bytes} (h : (cstr ip).length ≤ 15) :
    offlineMessage ip = ascii "\x7b\"status\":\"offline\",\"ip\":\"" ++ cstr ip ++ ascii "\"\x7d" :=
  List.take_of_length_le (by simp only [List.length_append, ascii, List.length_map]; simp; omega)

theorem lwtMessage_compact {ip : Bytes} (h : (cstr ip).length ≤ 15) (hp : (cstr ip).all isPlain = true) :
    lwtMessage ip = 123 :: (compactMembers [(ascii "type", ascii "status"),
      (ascii "status", ascii "offline"), (ascii "ip", cstr ip)] ++ [125]) := by
  rw [lwtMessage_eq h]
  simp only [compactMembers, printString_plain hp, List.isEmpty_cons, List.isEmpty_nil,
    Bool.false_eq_true, if_false, if_true, List.append_assoc, List.cons_append, List.nil_append,
    List.singleton_append, List.append_nil]
  rfl

theorem offlineMessage_compact {ip : Bytes} (h : (cstr ip).length ≤ 15) (hp : (cstr ip).all isPlain = true) :
    offlineMessage ip = 123 :: (compactMembers [(ascii "status", ascii "offline"),
      (ascii "ip", cstr ip)] ++ [125]) := by
  rw [offlineMessage_eq h]
  simp only [compactMembers, printString_plain hp, List.isEmpty_cons, List.isEmpty_nil,
    Bool.false_eq_true, if_false, if_true, List.append_assoc, List.cons_append, List.nil_append,
    List.singleton_append, List.append_nil]
  rfl

/-- With a `device_ip` of plain bytes, the last-will text is the JSON object it spells. -/
theorem lwtMessage_parse {ip : Bytes} (h : (cstr ip).length ≤ 15) (hp : (cstr ip).all isPlain = true) :
    cJsonParseWithOpts true (lwtMessage ip) true =
      some (.object [(ascii "type", .string (ascii "status")), (ascii "status", .string (ascii "offline")),
        (ascii "ip", .string (cstr ip))]) := by
  rw [lwtMessage_compact h hp, cJsonParseWithOpts_compact (List.cons_ne_nil _ _)]
  · rfl
  · simp only [List.forall_mem_cons, List.not_mem_nil, false_implies, implies_true, and_true]; decide
  · simp only [List.forall_mem_cons, List.not_mem_nil, false_implies, implies_true, and_true]
    exact ⟨by decide, by decide, zero_not_mem_cstr ip⟩

theorem offlineMessage_parse {ip : Bytes} (h : (cstr ip).length ≤ 15) (hp : (cstr ip).all isPlain = true) :
    cJsonParseWithOpts true (offlineMessage ip) true =
      some (.object [(ascii "status", .string (ascii "offline")), (ascii "ip", .string (cstr ip))]) := by
  rw [offlineMessage_compact h hp, cJsonParseWithOpts_compact (List.cons_ne_nil _ _)]
  · rfl
  · simp only [List.forall_mem_cons, List.not_mem_nil, false_implies, implies_true, and_true]; decide
  · simp only [List.forall_mem_cons, List.not_mem_nil, false_implies, implies_true, and_true]
    exact ⟨by decide, zero_not_mem_cstr ip⟩

/-- The object `publish_json_status` builds when all its allocations succeed. -/
def statusEnvelope (status deviceIp : Bytes) (env : Env) (timeSince : UInt32) : Item :=
  .object [(ascii "type", .string mqttMsgTypeStatus), (ascii "status", .string (cstr status)),
    (ascii "ip", .string (cstr deviceIp)),
    (ascii "uptime", .number (decimal (env.timeUs 0 / 1000000))),
    (ascii "free_heap", .number (decimal env.freeHeapSize.toNat)),
    (ascii "active_led", .number (decimal currentActiveLed)),
    (ascii "time_since_last_update", .number (decimal timeSince.toNat))]

theorem Printable.statusEnvelope (status deviceIp : Bytes) (env : Env) (timeSince : UInt32) :
    Printable 0 (statusEnvelope status deviceIp env timeSince) := by
  refine .object 0 (by decide) ?_ ?_ <;>
    simp only [List.forall_mem_cons, List.not_mem_nil, false_implies, implies_true, and_true]
  · decide
  · exact ⟨.string _ (by decide), .string _ (zero_not_mem_cstr _), .string _ (zero_not_mem_cstr _),
      .number .., .number .., .number .., .number ..⟩

namespace State

/-- `publish_json_status` past its gate, its allocations granted: it moves the mark to the current
uptime second and publishes the envelope, retained, on the current handle. -/
theorem publishJsonStatus_eq (status : Bytes) {env : Env} (ha : ∀ i, env.cJsonAlloc i = true)
    {s : State} (hg : s.mqttConnected = true ∨ strcmp status (ascii "offline") = 0) :
    publishJsonStatus status env s =
      (if env.publishMsgId > 0 then espOk else espFail,
        { s with lastUpdateTime := UInt32.ofNat (env.timeUs 1 / 1000000) }.call
          (.clientPublish s.client mqttTopicDeviceStatus
            (printValue 0 (statusEnvelope status s.deviceIp env
              (timeSinceLast s.lastUpdateTime (UInt32.ofNat (env.timeUs 1 / 1000000))))) 0 1 true)) := by
  have hgate : (!s.mqttConnected && strcmp status (ascii "offline") != 0) = false := by
    rcases hg with hg | hg <;> simp [hg]
  simp only [publishJsonStatus, hgate, statusMembers, ha, cJsonCreateObject, cJsonAddStringToObject,
    cJsonAddNumberToObject, addItemToObject, cJsonPrint, if_true, Bool.false_eq_true, if_false]
  rfl

end State

/-! ## The three encoders -/

/-- `device_ip` is a 16-byte buffer ending in NUL whose C string is the first 15 bytes (at most) of
the last string set, or `0.0.0.0`. The two `snprintf` texts are never cut, and the last will spells
the JSON object with `type`, `status` and `ip` when `device_ip` holds only plain bytes. The envelope
of `publish_json_status`, its allocations granted, reads back as an object that starts with `type`,
`status` and `ip`, whatever the two strings hold. -/
theorem status_texts :
    (∀ r, IpBuffer (run State.init r).deviceIp ∧
      cstr (run State.init r).deviceIp =
        ((ipsSet r).getLast?.map fun ip => (cstr ip).take 15).getD (ascii "0.0.0.0")) ∧
    (∀ s, Reachable s →
      lwtMessage s.deviceIp =
        ascii "\x7b\"type\":\"status\",\"status\":\"offline\",\"ip\":\"" ++ cstr s.deviceIp ++ ascii "\"\x7d" ∧
      offlineMessage s.deviceIp =
        ascii "\x7b\"status\":\"offline\",\"ip\":\"" ++ cstr s.deviceIp ++ ascii "\"\x7d") ∧
    (∀ s, Reachable s → (cstr s.deviceIp).all isPlain = true →
      cJsonParseWithOpts true (lwtMessage s.deviceIp) true =
        some (.object [(ascii "type", .string (ascii "status")),
          (ascii "status", .string (ascii "offline")), (ascii "ip", .string (cstr s.deviceIp))])) ∧
    (∀ status env s, (∀ i, env.cJsonAlloc i = true) →
      (s.mqttConnected = true ∨ strcmp status (ascii "offline") = 0) →
      ∃ json more, (publishJsonStatus status env s).2.trace =
          s.trace ++ [.clientPublish s.client mqttTopicDeviceStatus json 0 1 true] ∧
        cJsonParseWithOpts true json true = some (.object ((ascii "type", .string mqttMsgTypeStatus) ::
          (ascii "status", .string (cstr status)) :: (ascii "ip", .string (cstr s.deviceIp)) :: more))) := by
  refine ⟨fun r => ⟨(Reachable.init.run r).ipBuffer, ?_⟩,
    fun s hs => ⟨lwtMessage_eq hs.ipBuffer.length_cstr, offlineMessage_eq hs.ipBuffer.length_cstr⟩,
    fun s hs hp => lwtMessage_parse hs.ipBuffer.length_cstr hp,
    fun status env s ha hg => ⟨_, _, by rw [publishJsonStatus_eq status ha hg]; rfl,
      cJsonParseWithOpts_printValue (Printable.statusEnvelope ..) true⟩⟩
  rw [run_deviceIp]
  cases (ipsSet r).getLast? with
  | none => rfl
  | some ip => exact (cstr_append_zero _).trans (cstr_strncpy ip 15)

/-- The offline text `mqtt_app_stop` publishes (line 346) has no `type` member, unlike the last will
it stands in for (line 208) and the envelopes of `publish_json_status`. Booted, started and
connected with every collaborator succeeding, then stopped, the device has configured client 1 with
a last will that reads back with `type` `status`, and its last publish, retained on
`/device/status`, is an offline text that reads back with `status` and `ip` only. -/
theorem offline_status_untyped :
    (∃ t₁ clientId t₂, (run State.init (restartRun.take 3)).trace =
      t₁ ++ .clientInit (mqttCfg clientId (lwtMessage State.init.deviceIp)) (some 1) :: t₂ ++
        [.clientPublish (some 1) mqttTopicDeviceStatus (offlineMessage State.init.deviceIp)
          (offlineMessage State.init.deviceIp).length 1 true,
          .clientDisconnect (some 1), .clientStop (some 1), .clientDestroy (some 1)]) ∧
    cJsonParseWithOpts true (lwtMessage State.init.deviceIp) true =
      some (.object [(ascii "type", .string (ascii "status")), (ascii "status", .string (ascii "offline")),
        (ascii "ip", .string (ascii "0.0.0.0"))]) ∧
    cJsonParseWithOpts true (offlineMessage State.init.deviceIp) true =
      some (.object [(ascii "status", .string (ascii "offline")), (ascii "ip", .string (ascii "0.0.0.0"))]) :=
  ⟨⟨[.malloc 20 (some 0)], _, [.timerCreate (some 2), .clientRegisterEvent (some 1), .clientStart (some 1),
      .free 0, .clientSubscribe (some 1) mqttTopicDeviceCommands 1,
      .clientPublish (some 1) mqttTopicDeviceStatus
        (printValue 0 (statusEnvelope (ascii "online") State.init.deviceIp .allOk 0)) 0 1 true,
      .timerDelete (some 2)], rfl⟩,
    lwtMessage_parse IpBuffer.init.length_cstr (by decide),
    offlineMessage_parse IpBuffer.init.length_cstr (by decide)⟩

end MqttApp
