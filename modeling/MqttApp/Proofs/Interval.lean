import MqttApp.Proofs.Status

/-! # The interval in the status envelope

`publish_json_status` keeps the uptime second of its last run in the `static` `last_update_time`
and reports the difference as `time_since_last_update`. The mark moves on every call that passes
the gate and gets its object, before the publish is attempted, so a publish the transport rejects
still moves it; a mark of 0 reads as "no earlier update". `statusMarks` lists the marks a run sets,
and after any run the static holds the last of them.
-/

namespace MqttApp
open State Item

/-- The mark a step sets: the uptime second of a `publish_json_status` run that passes its gate and
allocates its object, called by `mqtt_app_publish_status` or by the handler's `CONNECTED` branch
(whose gate the flag it has just set opens). -/
def statusMark (s : State) (a : Action) (env : Env) : Option UInt32 :=
  let currentTime := UInt32.ofNat (env.timeUs 1 / 1000000)
  match a with
  | .publishStatus status =>
    if (s.mqttConnected || strcmp status (ascii "offline") == 0) && env.cJsonAlloc 0 then
      some currentTime
    else none
  | .event .connected => if env.cJsonAlloc 0 then some currentTime else none
  | _ => none

/-- The marks the steps of `r` set, in order. -/
def statusMarks : State → List (Action × Env) → List UInt32
  | _, [] => []
  | s, (a, env) :: r => (statusMark s a env).toList ++ statusMarks (step s a env) r

/-! ## One step -/

namespace State

theorem publishJsonStatus_lastUpdateTime (status : Bytes) (env : Env) (s : State) :
    (publishJsonStatus status env s).2.lastUpdateTime =
      if (s.mqttConnected || strcmp status (ascii "offline") == 0) && env.cJsonAlloc 0 then
        UInt32.ofNat (env.timeUs 1 / 1000000)
      else s.lastUpdateTime := by
  have hgate : (!s.mqttConnected && strcmp status (ascii "offline") != 0) =
      !(s.mqttConnected || strcmp status (ascii "offline") == 0) := by
    cases s.mqttConnected <;> rfl
  unfold publishJsonStatus cJsonCreateObject
  rw [hgate]
  cases (s.mqttConnected || strcmp status (ascii "offline") == 0) <;> cases env.cJsonAlloc 0 <;>
    simp only [Bool.not_false, Bool.not_true, Bool.false_and, Bool.true_and, Bool.false_eq_true,
      if_true, if_false]
  split <;> rfl

theorem publishJsonMessage_lastUpdateTime (topic type : Bytes) (payload : Option Item) (env : Env)
    (s : State) : (publishJsonMessage topic type payload env s).2.lastUpdateTime = s.lastUpdateTime := by
  unfold publishJsonMessage
  split
  · rfl
  split
  · rfl
  split
  · rfl
  dsimp only
  split <;> rfl

theorem processJsonCommand_lastUpdateTime (jsonStr : Bytes) (env : Env) (s : State) :
    (processJsonCommand jsonStr env s).lastUpdateTime = s.lastUpdateTime := by
  have hled : ∀ cmd, (ledCommand cmd s).lastUpdateTime = s.lastUpdateTime := fun cmd => by
    unfold ledCommand; split_ifs <;> rfl
  unfold processJsonCommand
  repeat' split
  all_goals first | rfl | exact (publishJsonMessage_lastUpdateTime ..).trans (hled _)

theorem gatedClientCall_lastUpdateTime (call : Option Nat → Call) (msgId : Int) (s : State) :
    (gatedClientCall call msgId s).2.lastUpdateTime = s.lastUpdateTime := by
  unfold gatedClientCall; split <;> rfl

end State

theorem mqttEventHandler_lastUpdateTime (e : Event) (env : Env) (s : State) :
    (mqttEventHandler e env s).lastUpdateTime = (statusMark s (.event e) env).getD s.lastUpdateTime := by
  cases e with
  | connected =>
    rw [mqttEventHandler, publishJsonStatus_lastUpdateTime]
    simp only [call_mqttConnected, Bool.true_or, Bool.true_and, call_lastUpdateTime, statusMark]
    split <;> rfl
  | disconnected => dsimp only [mqttEventHandler]; split_ifs <;> rfl
  | data topic topicLen data =>
    dsimp only [mqttEventHandler]
    split_ifs
    · rw [call_lastUpdateTime, processJsonCommand_lastUpdateTime]; rfl
    all_goals rfl
  | _ => rfl

/-- Only the status calls move the mark, each to its own uptime second. -/
theorem step_lastUpdateTime (s : State) (a : Action) (env : Env) :
    (step s a env).lastUpdateTime = (statusMark s a env).getD s.lastUpdateTime := by
  cases a with
  | start => exact (mqttAppStart_statics env s).2
  | stop => exact (mqttAppStop_statics env s).2
  | publish => exact gatedClientCall_lastUpdateTime ..
  | subscribe => exact gatedClientCall_lastUpdateTime ..
  | unsubscribe => exact gatedClientCall_lastUpdateTime ..
  | setIp ip => cases ip <;> rfl
  | publishStatus status =>
    rw [step, mqttAppPublishStatus, publishJsonStatus_lastUpdateTime, statusMark]
    split <;> rfl
  | publishTelemetry payload => exact publishJsonMessage_lastUpdateTime ..
  | event e => exact mqttEventHandler_lastUpdateTime e env s
  | reconnectTimerExpiry => unfold step mqttReconnectTimerCallback; split_ifs <;> rfl

/-! ## Whole runs -/

/-- After a run the static holds the last mark the run set, if any. -/
theorem run_lastUpdateTime (r : List (Action × Env)) : ∀ s : State,
    (run s r).lastUpdateTime = (statusMarks s r).getLast?.getD s.lastUpdateTime := by
  induction r with
  | nil => intro s; rfl
  | cons p r ih =>
    obtain ⟨a, env⟩ := p
    intro s
    rw [run, ih, step_lastUpdateTime, statusMarks]
    cases statusMark s a env with
    | none => rfl
    | some t =>
      rw [Option.toList_some, List.singleton_append, List.getLast?_cons]
      cases (statusMarks (step s a env) r).getLast? <;> rfl

/-- Between two marks `0 < last ≤ now` below `2^32`, the `uint32_t` difference is exact. -/
theorem timeSinceLast_toNat {last now : Nat} (h₀ : 0 < last) (h : last ≤ now) (hn : now < 2 ^ 32) :
    (timeSinceLast (UInt32.ofNat last) (UInt32.ofNat now)).toNat = now - last := by
  have hl : (UInt32.ofNat last).toNat = last := UInt32.toNat_ofNat_of_lt (lt_of_le_of_lt h hn)
  have hn' : (UInt32.ofNat now).toNat = now := UInt32.toNat_ofNat_of_lt hn
  have hpos : UInt32.ofNat last > 0 := by
    rw [gt_iff_lt, UInt32.lt_def, BitVec.lt_def]; show 0 < (UInt32.ofNat last).toNat; omega
  have hle : UInt32.ofNat last ≤ UInt32.ofNat now := by
    rw [UInt32.le_def, BitVec.le_def]; show (UInt32.ofNat last).toNat ≤ (UInt32.ofNat now).toNat; omega
  rw [timeSinceLast, if_pos hpos, UInt32.toNat_sub_of_le _ _ hle, hl, hn']

/-- After any run from boot, the static holds the uptime second of the last call of
`publish_json_status` that passed its gate and got its object, accepted or not by the transport,
or 0. A call past its gate with its allocations granted reports the distance from that mark and
moves the mark to its own second; the distance is 0 when no call has set a mark, and exact when
the last mark `last` satisfies `0 < last ≤ now < 2^32`. -/
theorem status_interval :
    (∀ r, (run State.init r).lastUpdateTime = (statusMarks State.init r).getLast?.getD 0) ∧
    (∀ status env s, (∀ i, env.cJsonAlloc i = true) →
      (s.mqttConnected = true ∨ strcmp status (ascii "offline") = 0) →
      (publishJsonStatus status env s).2 =
        { s with lastUpdateTime := UInt32.ofNat (env.timeUs 1 / 1000000) }.call
          (.clientPublish s.client mqttTopicDeviceStatus
            (printValue 0 (statusEnvelope status s.deviceIp env
              (timeSinceLast s.lastUpdateTime (UInt32.ofNat (env.timeUs 1 / 1000000))))) 0 1 true)) ∧
    (∀ r now, statusMarks State.init r = [] → timeSinceLast (run State.init r).lastUpdateTime now = 0) ∧
    (∀ r (last now : Nat), (statusMarks State.init r).getLast? = some (UInt32.ofNat last) →
      0 < last → last ≤ now → now < 2 ^ 32 →
      (timeSinceLast (run State.init r).lastUpdateTime (UInt32.ofNat now)).toNat = now - last) := by
  refine ⟨fun r => run_lastUpdateTime r State.init,
    fun status _ _ ha hg => congrArg Prod.snd (publishJsonStatus_eq status ha hg),
    fun r now h => ?_, fun r last now h => ?_⟩
  · rw [run_lastUpdateTime, h]; rfl
  · rw [run_lastUpdateTime, h]; exact timeSinceLast_toNat

/-- Collaborators that all succeed, at uptime second `t`. -/
def Env.atSecond (t : Nat) : Env := { Env.allOk with timeUs := fun _ => t * 1000000 }

/-- A start, a `CONNECTED` whose status object cannot be allocated, then `online` at second 1,
accepted, and at second 5, rejected by the transport. -/
def markRun : List (Action × Env) :=
  [(.start, .allOk), (.event .connected, { Env.allOk with cJsonAlloc := fun _ => false }),
    (.publishStatus (ascii "online"), .atSecond 1),
    (.publishStatus (ascii "online"), { Env.atSecond 5 with publishMsgId := -1 })]

/-- The last accepted status publish of `markRun` was at second 1, yet the envelope of second 7
reports 2: the rejected publish of second 5 moved the mark. -/
theorem rejected_status_moves_mark :
    (mqttAppPublishStatus (ascii "online") (.atSecond 1) (run State.init (markRun.take 2))).1 = espOk ∧
    (mqttAppPublishStatus (ascii "online") { Env.atSecond 5 with publishMsgId := -1 }
      (run State.init (markRun.take 3))).1 = espFail ∧
    (mqttAppPublishStatus (ascii "online") (.atSecond 7) (run State.init markRun)).2.trace =
      (run State.init markRun).trace ++ [.clientPublish (some 1) mqttTopicDeviceStatus
        (printValue 0 (statusEnvelope (ascii "online") State.init.deviceIp (.atSecond 7) 2)) 0 1 true] :=
  ⟨rfl, rfl, rfl⟩

/-- A mark set during uptime second 0 reads as "no earlier update" (the `last_update_time > 0`
test, line 395). Started and connected during second 0, the device has set the mark 0 with its
`online` envelope, and the status it publishes at second 3 reports 0 seconds since that one. -/
theorem second_zero_mark_forgotten :
    statusMarks State.init (restartRun.take 2) = [0] ∧
    (mqttAppPublishStatus (ascii "online") (.atSecond 3) (run State.init (restartRun.take 2))).2.trace =
      (run State.init (restartRun.take 2)).trace ++ [.clientPublish (some 1) mqttTopicDeviceStatus
        (printValue 0 (statusEnvelope (ascii "online") State.init.deviceIp (.atSecond 3) 0)) 0 1 true] :=
  ⟨rfl, rfl⟩

end MqttApp
