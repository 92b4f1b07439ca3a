import MqttApp.Proofs.Frame

/-! # The retry counter and the reconnection schedule

Only two steps write `mqtt_retry_count` besides the reset: the `DISCONNECTED` branch, which arms
the one-shot timer and counts up while the counter is below `MQTT_MAX_RETRY_COUNT`, and nothing
else arms the timer. `step_retry` says this of every step; `run_retry` follows a run with no reset
and finds the timer armed once for each of the first `5 - c` disconnections, with the backoff of
`c`, `c + 1`, …; `reconnectTimeoutUs_toNat` evaluates those timeouts, which stay exact in the
`uint32_t` arithmetic of the source.
-/

namespace MqttApp
open State

/-- The timeout of a request to arm the reconnection timer. -/
def Call.reconnectTimeout? : Call → Option UInt64
  | .timerStartOnce _ t => some t
  | _ => none

/-- The timeouts of the reconnection requests among `l`, in order. -/
def reconnectTimeouts (l : List Call) : List UInt64 := l.filterMap Call.reconnectTimeout?

@[simp] theorem reconnectTimeouts_append (l₁ l₂ : List Call) :
    reconnectTimeouts (l₁ ++ l₂) = reconnectTimeouts l₁ ++ reconnectTimeouts l₂ :=
  List.filterMap_append _ _ _

def Action.isDisconnected : Action → Bool
  | .event .disconnected => true
  | _ => false

/-- Whether a step resets `mqtt_retry_count`: a `CONNECTED` event, or an `mqtt_app_start` that
gets past the client check and every construction before `mqtt_retry_count = 0`. -/
def resetsRetry (s : State) : Action → Env → Bool
  | .event .connected, _ => true
  | .start, env => s.client.isNone && env.mallocOk && env.clientInitOk &&
      env.timerCreateErr == espOk && env.registerEventErr == espOk
  | _, _ => false

/-- Whether a step arms the reconnection timer. -/
def armsReconnect (s : State) (a : Action) : Bool :=
  a.isDisconnected && decide (s.mqttRetryCount < mqttMaxRetryCount)

/-! ## One step -/

theorem MessageStep.retry {s s' : State} (h : MessageStep s s') :
    s'.mqttRetryCount = s.mqttRetryCount ∧ reconnectTimeouts s'.trace = reconnectTimeouts s.trace := by
  obtain ⟨l, e, hl⟩ := h.trace
  refine ⟨h.mqttRetryCount, ?_⟩
  rw [e, reconnectTimeouts_append, List.append_right_eq_self, reconnectTimeouts,
    List.filterMap_eq_nil_iff]
  intro c hc
  cases c <;> first | rfl | exact absurd (hl _ hc) Bool.false_ne_true

/-- Lifecycle calls arm no timer. -/
theorem reconnectTimeouts_lifecycle {l : List Call} (hl : ∀ c ∈ l, c.isLifecycle) :
    reconnectTimeouts l = [] := by
  rw [reconnectTimeouts, List.filterMap_eq_nil_iff]
  intro c hc
  cases c <;> first | rfl | exact absurd (hl _ hc) Bool.false_ne_true

theorem mqttAppStart_retry (env : Env) (s : State) :
    (mqttAppStart env s).mqttRetryCount =
      (if resetsRetry s .start env then 0 else s.mqttRetryCount) ∧
    reconnectTimeouts (mqttAppStart env s).trace = reconnectTimeouts s.trace := by
  rw [mqttAppStart_eq_startWith]
  obtain ⟨l, e, hl⟩ := startWith_trace _ env s
  refine ⟨?_, by rw [e, reconnectTimeouts_append, reconnectTimeouts_lifecycle hl, List.append_nil]⟩
  cases hc : s.client with
  | some c => rw [startWith_of_isSome _ _ (by simp [hc])]; simp [resetsRetry, hc]
  | none =>
    rw [startWith_spec _ _ hc]
    by_cases h4 : 4 ≤ startStage env
    · simp [resetsRetry, hc, four_le_startStage.1 h4, Nat.not_lt.2 h4]
    · simp [resetsRetry, hc, mt four_le_startStage.2 h4, Nat.lt_of_not_le h4]

theorem mqttAppStop_retry (env : Env) (s : State) :
    (mqttAppStop env s).mqttRetryCount = s.mqttRetryCount ∧
    reconnectTimeouts (mqttAppStop env s).trace = reconnectTimeouts s.trace := by
  unfold mqttAppStop
  dsimp only
  split_ifs <;> simp [reconnectTimeouts, Call.reconnectTimeout?]

theorem mqttEventHandler_retry (e : Event) (env : Env) (s : State) :
    (mqttEventHandler e env s).mqttRetryCount =
      (if resetsRetry s (.event e) env then 0
        else if armsReconnect s (.event e) then s.mqttRetryCount + 1 else s.mqttRetryCount) ∧
    reconnectTimeouts (mqttEventHandler e env s).trace = reconnectTimeouts s.trace ++
      (if armsReconnect s (.event e) then [reconnectTimeoutUs s.mqttRetryCount] else []) := by
  cases e with
  | connected =>
    obtain ⟨h₁, h₂⟩ := (publishJsonStatus_step (ascii "online") env
      ({ s with mqttRetryCount := 0, mqttConnected := true }.call
        (.clientSubscribe s.client mqttTopicDeviceCommands 1))).retry
    simp only [mqttEventHandler, h₁, h₂]
    simp [resetsRetry, armsReconnect, Action.isDisconnected, reconnectTimeouts,
      Call.reconnectTimeout?]
  | disconnected =>
    by_cases h : s.mqttRetryCount < mqttMaxRetryCount <;>
      simp [mqttEventHandler, resetsRetry, armsReconnect, Action.isDisconnected, h,
        reconnectTimeouts, Call.reconnectTimeout?]
  | data topic topicLen data =>
    simp only [resetsRetry, armsReconnect, Action.isDisconnected, Bool.false_and,
      Bool.false_eq_true, if_false, List.append_nil, mqttEventHandler]
    split_ifs
    · obtain ⟨h₁, h₂⟩ := (processJsonCommand_step (data ++ [0]) env
        ((s.call (.malloc (data.length + 1) (some s.fresh))).next)).retry
      simp only [call_trace, call_mqttRetryCount, reconnectTimeouts_append, h₁, h₂, next_trace,
        next_mqttRetryCount]
      simp [reconnectTimeouts, Call.reconnectTimeout?]
    · simp [reconnectTimeouts, Call.reconnectTimeout?]
    · simp [reconnectTimeouts, Call.reconnectTimeout?]
  | _ => simp [mqttEventHandler, resetsRetry, armsReconnect, Action.isDisconnected]

/-- What one step does to the counter and to the reconnection requests. -/
theorem step_retry (s : State) (a : Action) (env : Env) :
    (step s a env).mqttRetryCount =
      (if resetsRetry s a env then 0
        else if armsReconnect s a then s.mqttRetryCount + 1 else s.mqttRetryCount) ∧
    reconnectTimeouts (step s a env).trace = reconnectTimeouts s.trace ++
      (if armsReconnect s a then [reconnectTimeoutUs s.mqttRetryCount] else []) := by
  have hm : ∀ {s' : State}, MessageStep s s' →
      s'.mqttRetryCount = s.mqttRetryCount ∧ reconnectTimeouts s'.trace = reconnectTimeouts s.trace :=
    fun h => h.retry
  cases a with
  | start => simpa [armsReconnect, Action.isDisconnected] using mqttAppStart_retry env s
  | stop => simpa [resetsRetry, armsReconnect, Action.isDisconnected] using mqttAppStop_retry env s
  | event e => exact mqttEventHandler_retry e env s
  | setIp ip =>
    cases ip <;> simp [step, mqttAppSetIp, resetsRetry, armsReconnect, Action.isDisconnected]
  | reconnectTimerExpiry =>
    simp only [step, mqttReconnectTimerCallback, resetsRetry, armsReconnect, Action.isDisconnected,
      Bool.false_and, Bool.false_eq_true, if_false, List.append_nil]
    split_ifs <;> simp [reconnectTimeouts, Call.reconnectTimeout?]
  | publish topic data len qos retain =>
    simpa [resetsRetry, armsReconnect, Action.isDisconnected] using hm (mqttAppPublish_step topic data len qos retain env s)
  | subscribe topic qos =>
    simpa [resetsRetry, armsReconnect, Action.isDisconnected] using hm (mqttAppSubscribe_step topic qos env s)
  | unsubscribe topic =>
    simpa [resetsRetry, armsReconnect, Action.isDisconnected] using hm (mqttAppUnsubscribe_step topic env s)
  | publishStatus status =>
    simpa [resetsRetry, armsReconnect, Action.isDisconnected] using hm (publishJsonStatus_step status env s)
  | publishTelemetry payload =>
    simpa [resetsRetry, armsReconnect, Action.isDisconnected] using
      hm (publishJsonMessage_step mqttTopicDeviceTelemetry mqttMsgTypeTelemetry payload env s)

/-! ## Whole runs -/

theorem step_retry_bounds {s : State}
    (h : 0 ≤ s.mqttRetryCount ∧ s.mqttRetryCount ≤ mqttMaxRetryCount) (a : Action) (env : Env) :
    0 ≤ (step s a env).mqttRetryCount ∧ (step s a env).mqttRetryCount ≤ mqttMaxRetryCount := by
  rw [(step_retry s a env).1]
  split_ifs with h₁ h₂
  · simp [mqttMaxRetryCount]
  · simp only [armsReconnect, Bool.and_eq_true, decide_eq_true_eq] at h₂; omega
  · exact h

theorem Reachable.retry_bounds {s : State} (hs : Reachable s) :
    0 ≤ s.mqttRetryCount ∧ s.mqttRetryCount ≤ mqttMaxRetryCount := by
  induction hs with
  | init => simp [State.init, mqttMaxRetryCount]
  | step a env _ ih => exact step_retry_bounds ih a env

/-- No step of `r`, run from `s`, resets the counter. -/
def NoReset : State → List (Action × Env) → Prop
  | _, [] => True
  | s, (a, env) :: r => resetsRetry s a env = false ∧ NoReset (step s a env) r

/-- The `DISCONNECTED` events of a run. -/
def disconnects (r : List (Action × Env)) : Nat := r.countP fun p => p.1.isDisconnected

/-- Along a run without a reset, from counter `n`, the timer is armed for each of the first
`5 - n` disconnections, with the timeouts for `n`, `n + 1`, …, and for none after them. -/
theorem run_retry (r : List (Action × Env)) : ∀ (s : State) (n : Nat), s.mqttRetryCount = n →
    n ≤ 5 → NoReset s r →
    (run s r).mqttRetryCount = n + min (disconnects r) (5 - n) ∧
    reconnectTimeouts (run s r).trace = reconnectTimeouts s.trace ++
      (List.range' n (min (disconnects r) (5 - n))).map fun k : Nat => reconnectTimeoutUs k := by
  induction r with
  | nil => intro s n hn _ _; simp [run, disconnects, hn]
  | cons p r ih =>
    obtain ⟨a, env⟩ := p
    rintro s n hn h5 ⟨hres, hr⟩
    obtain ⟨hc, ht⟩ := step_retry s a env
    simp only [hres, Bool.false_eq_true, if_false, armsReconnect, hn] at hc ht
    have hd : disconnects ((a, env) :: r) = (if a.isDisconnected then 1 else 0) + disconnects r := by
      simp [disconnects, List.countP_cons, Nat.add_comm]
    simp only [run, hd]
    by_cases harm : a.isDisconnected = true ∧ n < 5
    · have hm : min (1 + disconnects r) (5 - n) = min (disconnects r) (5 - (n + 1)) + 1 := by omega
      have hc' : (step s a env).mqttRetryCount = ↑(n + 1) := by
        rw [hc, if_pos (by simp [harm.1, mqttMaxRetryCount]; omega)]; push_cast; rfl
      obtain ⟨ih₁, ih₂⟩ := ih _ (n + 1) hc' (by omega) hr
      rw [if_pos harm.1, hm, ih₁, ih₂, ht, if_pos (by simp [harm.1, mqttMaxRetryCount]; omega),
        List.range'_succ]
      refine ⟨by push_cast; omega, by simp only [List.map_cons, List.append_assoc, List.singleton_append]⟩
    · have hno : (a.isDisconnected && decide ((n : Int) < mqttMaxRetryCount)) = false := by
        simp only [mqttMaxRetryCount, Bool.and_eq_false_iff, decide_eq_false_iff_not]
        by_cases h : a.isDisconnected = true
        · exact .inr (by have := harm; push_neg at this; exact_mod_cast Nat.not_lt.2 (this h))
        · exact .inl (by simpa using h)
      rw [hno, if_neg (by simp)] at hc ht
      obtain ⟨ih₁, ih₂⟩ := ih _ n hc h5 hr
      have hm : min ((if a.isDisconnected then 1 else 0) + disconnects r) (5 - n) =
          min (disconnects r) (5 - n) := by
        by_cases h : a.isDisconnected = true
        · have : n = 5 := by by_contra h'; exact harm ⟨h, by omega⟩
          simp only [h, if_true, this, Nat.sub_self, Nat.min_zero]
        · simp only [h, Bool.false_eq_true, if_false, Nat.zero_add]
      rw [hm, ih₁, ih₂, ht, List.append_nil]
      exact ⟨rfl, rfl⟩

/-- The timeouts of the first five requests, in microseconds, and the exactness of the `int`
product `MQTT_RECONNECT_TIMEOUT_MS * (1 << k)` behind them. -/
theorem reconnectTimeoutUs_toNat :
    ∀ k : Nat, k < 5 → (reconnectTimeoutUs k).toNat = min (5000 * 2 ^ k) 300000 * 1000 := by
  decide

theorem backoff_product_exact : ∀ k < 5,
    (mqttReconnectTimeoutMs * ((1 : UInt32) <<< (UInt8.ofNat k).toUInt32)).toNat = 5000 * 2 ^ k ∧
      5000 * 2 ^ k < 2 ^ 31 := by decide

/-- The retry counter stays in `[0, 5]` in every reachable state; a reset sets it to 0; after a
reset (or at boot) and up to the next one, the disconnections arm the one-shot timer at most five
times, the `k`-th time for `min (5000 * 2^k, 300000)` milliseconds computed exactly, and never
after the fifth. -/
theorem retry_schedule :
    (∀ s, Reachable s → 0 ≤ s.mqttRetryCount ∧ s.mqttRetryCount ≤ mqttMaxRetryCount) ∧
    (∀ s a env, resetsRetry s a env = true → (step s a env).mqttRetryCount = 0) ∧
    (∀ s, s.mqttRetryCount = 0 → ∀ r, NoReset s r →
      ((reconnectTimeouts (run s r).trace).drop (reconnectTimeouts s.trace).length).map
          UInt64.toNat =
        (List.range (min (disconnects r) 5)).map fun k => min (5000 * 2 ^ k) 300000 * 1000) ∧
    (∀ k < 5,
      (mqttReconnectTimeoutMs * ((1 : UInt32) <<< (UInt8.ofNat k).toUInt32)).toNat = 5000 * 2 ^ k ∧
        5000 * 2 ^ k < 2 ^ 31) := by
  refine ⟨fun s hs => hs.retry_bounds, fun s a env h => by simp [(step_retry s a env).1, h],
    fun s h0 r hr => ?_, backoff_product_exact⟩
  rw [(run_retry r s 0 (by simp [h0]) (by omega) hr).2, List.drop_left, List.map_map,
    ← List.range_eq_range', Nat.sub_zero]
  exact List.map_congr_left fun k hk =>
    reconnectTimeoutUs_toNat k (by rw [List.mem_range] at hk; omega)

end MqttApp
