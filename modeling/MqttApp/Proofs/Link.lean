import MqttApp.Proofs.Retry
import MqttApp.Proofs.Gates
import MqttApp.Session.Variant

/-! # Both versions run one connection machine

`Link` is the connection logic of the module without its messages: whether a client and a
reconnection timer exist, the retry counter, the connected flag, and the timeouts the timer has
been armed with. `Link.step` says what a call, an event or a timer expiry does to it. Every step of
either version moves the `link` of its state as `Link.step` says (`link_step`,
`Variant.link_step`): the envelopes, the last will, `device_ip` and the dispatcher of the later
version, and the plain texts of the earlier one, never reach the connection logic. So the two
versions agree on it along every run of the calls they share, and what `Link.Healthy` keeps on the
machine holds of both; so does the schedule between two resets of the counter
(`Healthy.timeouts_since_reset`): from a count of 0 the timer is armed with the backoffs of `0, 1, …`
in order, and with nothing else.
-/

namespace MqttApp
open State

/-- The connection logic of the module. -/
structure Link where
  client : Bool
  timer : Bool
  retryCount : Int
  connected : Bool
  timeouts : List UInt64
  deriving DecidableEq

namespace Link

/-- `mqtt_app_start`: nothing while a client exists; otherwise a failed construction undoes the
earlier ones, the counter is reset once the handler is registered, and a client and its timer
remain only if the client starts. -/
def start (l : Link) (env : Env) : Link :=
  if l.client || !env.mallocOk || !env.clientInitOk || env.timerCreateErr != espOk then l
  else if env.registerEventErr != espOk then { l with timer := false }
  else
    { l with
      client := env.clientStartErr == espOk, timer := env.clientStartErr == espOk, retryCount := 0 }

def step (l : Link) : MqttApp.Action → Env → Link
  | .start, env => l.start env
  | .stop, _ => if l.client then { l with client := false, timer := false } else l
  | .event .connected, _ => { l with retryCount := 0, connected := true }
  | .event .disconnected, _ =>
    if l.retryCount < mqttMaxRetryCount then
      { l with
        connected := false, retryCount := l.retryCount + 1,
        timeouts := l.timeouts ++ [reconnectTimeoutUs l.retryCount] }
    else { l with connected := false }
  | _, _ => l

def run : Link → List (MqttApp.Action × Env) → Link
  | l, [] => l
  | l, (a, env) :: r => run (l.step a env) r

/-- The timeouts of the first `n` reconnection requests after a reset. -/
def backoffs (n : Nat) : List UInt64 := (List.range n).map fun k : Nat => reconnectTimeoutUs k

/-- What the machine keeps: a client exactly when a timer, the counter within `[0, 5]`, and every
timeout the timer was armed with the backoff of a count below 5. -/
structure Healthy (l : Link) : Prop where
  paired : l.client = l.timer
  retry_nonneg : 0 ≤ l.retryCount
  retry_le : l.retryCount ≤ mqttMaxRetryCount
  armed : ∀ t ∈ l.timeouts, ∃ k : Nat, k < 5 ∧ t = reconnectTimeoutUs k

theorem zero_le_max : (0 : Int) ≤ mqttMaxRetryCount := by decide

/-- A reset of the counter that keeps the timeouts keeps what the machine keeps. -/
theorem Healthy.reset {l l' : Link} (H : l.Healthy) (hp : l'.client = l'.timer)
    (hr : l'.retryCount = 0) (ht : l'.timeouts = l.timeouts) : l'.Healthy :=
  ⟨hp, hr ▸ le_rfl, hr ▸ zero_le_max, ht ▸ H.armed⟩

theorem Healthy.start {l : Link} (H : l.Healthy) (env : Env) : (l.start env).Healthy := by
  unfold Link.start
  split_ifs with h₁
  · exact H
  · simp only [Bool.or_eq_true, not_or] at h₁
    exact { H with paired := by simpa using h₁.1.1.1 }
  · exact H.reset rfl rfl rfl

/-- A disconnection below the bound arms the timer with the backoff of the count. -/
theorem Healthy.disconnect {l : Link} (H : l.Healthy) (h : l.retryCount < mqttMaxRetryCount) :
    Healthy { l with
      connected := false, retryCount := l.retryCount + 1,
      timeouts := l.timeouts ++ [reconnectTimeoutUs l.retryCount] } := by
  have h₀ := H.retry_nonneg
  unfold mqttMaxRetryCount at h
  refine ⟨H.paired, by dsimp only; omega, by dsimp only; unfold mqttMaxRetryCount; omega,
    fun t ht => ?_⟩
  rcases List.mem_append.1 ht with ht | ht
  · exact H.armed t ht
  · refine ⟨l.retryCount.toNat, by omega, ?_⟩
    rw [List.mem_singleton.1 ht, Int.toNat_of_nonneg h₀]

theorem Healthy.step {l : Link} (H : l.Healthy) (a : MqttApp.Action) (env : Env) :
    (l.step a env).Healthy := by
  match a with
  | .start => exact H.start env
  | .stop =>
    show Healthy (if l.client then _ else l)
    split_ifs
    exacts [{ H with paired := rfl }, H]
  | .event .connected => exact H.reset H.paired rfl rfl
  | .event .disconnected =>
    show Healthy (if l.retryCount < mqttMaxRetryCount then _ else _)
    split_ifs with h
    exacts [H.disconnect h, { H with }]
  | .event (.data ..) | .event .beforeConnect | .event .subscribed | .event .unsubscribed
  | .event .published | .event (.error ..) | .event (.other _) | .publish ..
  | .subscribe .. | .unsubscribe _ | .setIp _ | .publishStatus _ | .publishTelemetry _
  | .reconnectTimerExpiry => exact H

theorem Healthy.run {l : Link} (H : l.Healthy) : ∀ r, (l.run r).Healthy
  | [] => H
  | (a, env) :: r => (H.step a env).run r

/-! ## Between resets -/

/-- Whether a step resets the counter: a `CONNECTED` event, or a start that gets past its client
check and the constructions before `mqtt_retry_count = 0`. -/
def resets (l : Link) : MqttApp.Action → Env → Bool
  | .start, env => !l.client && env.mallocOk && env.clientInitOk && env.timerCreateErr == espOk &&
      env.registerEventErr == espOk
  | .event .connected, _ => true
  | _, _ => false

theorem retryCount_of_resets {l : Link} {a : MqttApp.Action} {env : Env} (h : l.resets a env = true) :
    (l.step a env).retryCount = 0 := by
  match a with
  | .start =>
    simp only [resets, Bool.and_eq_true, Bool.not_eq_true', beq_iff_eq] at h
    obtain ⟨⟨⟨⟨hc, hm⟩, hi⟩, ht⟩, hr⟩ := h
    simp [Link.step, Link.start, hc, hm, hi, ht, hr]
  | .event .connected => rfl

/-- No step of `r`, run from `l`, resets the counter. -/
def NoReset : Link → List (MqttApp.Action × Env) → Prop
  | _, [] => True
  | l, (a, env) :: r => l.resets a env = false ∧ NoReset (l.step a env) r

/-- A step that does not reset the counter arms the timer only with the backoff of the count, and
only while counting up: what it adds extends the backoffs below the old count to those below the
new one. -/
theorem Healthy.step_timeouts {l : Link} (H : l.Healthy) {a : MqttApp.Action} {env : Env}
    (h : l.resets a env = false) : ∃ new, (l.step a env).timeouts = l.timeouts ++ new ∧
      backoffs l.retryCount.toNat ++ new = backoffs (l.step a env).retryCount.toNat := by
  have same : ∀ l' : Link, l'.retryCount = l.retryCount → l'.timeouts = l.timeouts →
      ∃ new, l'.timeouts = l.timeouts ++ new ∧ backoffs l.retryCount.toNat ++ new = backoffs l'.retryCount.toNat :=
    fun l' hr ht => ⟨[], by simp [ht, hr]⟩
  match a with
  | .start =>
    simp only [Link.step, Link.start]
    split_ifs with h₁ h₂
    · exact same l rfl rfl
    · exact same _ rfl rfl
    · simp only [Bool.or_eq_true, Bool.not_eq_true', bne_iff_ne, ne_eq, not_or, not_not,
        Bool.not_eq_false] at h₁ h₂
      simp [resets, h₁, h₂] at h
  | .event .disconnected =>
    simp only [Link.step]
    split_ifs with hlt
    · have h₀ := H.retry_nonneg
      refine ⟨[reconnectTimeoutUs l.retryCount], rfl, ?_⟩
      rw [show (l.retryCount + 1).toNat = l.retryCount.toNat + 1 by omega]
      simp only [backoffs, List.range_succ, List.map_append, List.map_singleton, Int.toNat_of_nonneg h₀]
    · exact same _ rfl rfl
  | .stop => simp only [Link.step]; split_ifs <;> exact same _ rfl rfl
  | .event (.data ..) | .event .beforeConnect | .event .subscribed | .event .unsubscribed
  | .event .published | .event (.error ..) | .event (.other _) | .publish ..
  | .subscribe .. | .unsubscribe _ | .setIp _ | .publishStatus _ | .publishTelemetry _
  | .reconnectTimerExpiry => exact same l rfl rfl

/-- Along a run without a reset, the timeouts the timer is armed with extend the backoffs below the
count to those below the count the run ends with. -/
theorem Healthy.run_timeouts {l : Link} (H : l.Healthy) : ∀ r, l.NoReset r →
    ∃ new, (l.run r).timeouts = l.timeouts ++ new ∧
      backoffs l.retryCount.toNat ++ new = backoffs (l.run r).retryCount.toNat
  | [], _ => ⟨[], by simp [Link.run]⟩
  | (a, env) :: r, ⟨h, hr⟩ => by
    obtain ⟨new₁, e₁, b₁⟩ := H.step_timeouts h
    obtain ⟨new₂, e₂, b₂⟩ := (H.step a env).run_timeouts r hr
    exact ⟨new₁ ++ new₂, by rw [Link.run, e₂, e₁, List.append_assoc],
      by rw [Link.run, ← b₂, ← b₁, List.append_assoc]⟩

/-- From a count of 0 (at boot, or right after a reset), a run without a reset arms the timer
with exactly the backoffs of `0, 1, …` below the count it ends with. -/
theorem Healthy.timeouts_since_reset {l : Link} (H : l.Healthy) (h₀ : l.retryCount = 0) (r)
    (hr : l.NoReset r) : (l.run r).timeouts = l.timeouts ++ backoffs (l.run r).retryCount.toNat := by
  obtain ⟨new, e, b⟩ := H.run_timeouts r hr
  rw [h₀, Int.toNat_zero, backoffs, List.range_zero, List.map_nil, List.nil_append] at b
  rw [e, b]

end Link

/-! ## Both versions move the machine -/

/-- The connection logic of a state. -/
def link (s : State) : Link :=
  ⟨s.client.isSome, s.reconnectTimer.isSome, s.mqttRetryCount, s.mqttConnected,
    reconnectTimeouts s.trace⟩

theorem link_init_healthy : (link State.init).Healthy :=
  ⟨rfl, le_rfl, by decide, fun _ h => by simp [link, State.init, reconnectTimeouts] at h⟩

@[simp] theorem link_call (s : State) (c : Call) :
    link (s.call c) = { link s with timeouts := (link s).timeouts ++ c.reconnectTimeout?.toList } := by
  simp only [link, call_trace, reconnectTimeouts_append, call_client, call_reconnectTimer,
    call_mqttRetryCount, call_mqttConnected]
  cases h : c.reconnectTimeout? <;> simp [reconnectTimeouts, h]

@[simp] theorem link_next (s : State) : link s.next = link s := rfl

@[simp] theorem link_destroyClient (s : State) : link (destroyClient s) = { link s with client := false } := by
  simp [link, destroyClient, reconnectTimeouts, Call.reconnectTimeout?]

@[simp] theorem link_deleteTimer (s : State) : link (deleteTimer s) = { link s with timer := false } := by
  simp [link, deleteTimer, reconnectTimeouts, Call.reconnectTimeout?]

theorem link_message {s s' : State} (h : MessageStep s s') : link s' = link s := by
  obtain ⟨hr, ht⟩ := h.retry
  simp only [link, h.client, h.reconnectTimer, h.mqttConnected, hr, ht]

/-- The machine's start, from no client, by how far the code's start gets. -/
theorem Link.start_of_client_false {l : Link} (hl : l.client = false) (env : Env) :
    l.start env = if startStage env ≤ 2 then l else
      { l with
        client := decide (startStage env = 5)
        timer := decide (startStage env = 5)
        retryCount := if startStage env < 4 then l.retryCount else 0 } := by
  obtain ⟨c, t, r, cn, ts⟩ := l
  obtain rfl : c = false := hl
  unfold Link.start startStage
  cases env.mallocOk
  · rfl
  cases env.clientInitOk
  · rfl
  by_cases ht : env.timerCreateErr = espOk
  swap
  · simp [ht]
  by_cases hr : env.registerEventErr = espOk
  swap
  · simp [ht, hr]
  by_cases hs : env.clientStartErr = espOk <;> simp [ht, hr, hs]

theorem link_startWith (config : Bytes → ClientConfig) (env : Env) (s : State) :
    link (startWith config env s) = (link s).start env := by
  cases hc : s.client with
  | some c => rw [startWith_of_isSome _ _ (by simp [hc])]; simp [link, Link.start, hc]
  | none =>
    rw [Link.start_of_client_false (by simp [link, hc]), startWith_spec _ _ hc]
    simp only [link, reconnectTimeouts_append, reconnectTimeouts_lifecycle (startCalls_isLifecycle _ _ _),
      List.append_nil, hc]
    by_cases h2 : startStage env ≤ 2
    · simp [h2, show startStage env < 4 by omega, show startStage env ≠ 5 by omega]
    · simp only [h2, if_false]
      split_ifs <;> simp_all

theorem link_stopWith (goodbye : State → Call) (hg : ∀ s, (goodbye s).reconnectTimeout? = none)
    (env : Env) (s : State) : link (stopWith goodbye env s) = (link s).step .stop env := by
  unfold stopWith
  cases hc : s.client with
  | none => simp [link, Link.step, hc]
  | some c =>
    have hs : (link s).step .stop env = { link s with client := false, timer := false } := by
      simp [Link.step, link, hc]
    have h₁ : link (if s.reconnectTimer.isSome then
        deleteTimer (if env.timerIsActive then s.call (.timerStop s.reconnectTimer) else s) else s) =
        { link s with timer := false } := by
      split_ifs with ht
      · simp [Call.reconnectTimeout?]
      · simp
      · simp [link, ht]
    have hc₁ : (if s.reconnectTimer.isSome then
        deleteTimer (if env.timerIsActive then s.call (.timerStop s.reconnectTimer) else s) else s).mqttConnected =
        s.mqttConnected := by split_ifs <;> rfl
    generalize (if s.reconnectTimer.isSome then _ else s) = s₁ at h₁ hc₁
    simp only [hs, Option.isNone_some, Bool.false_eq_true, if_false, link_destroyClient, link_call]
    split_ifs <;> simp only [link_call, hg, h₁] <;> simp [Call.reconnectTimeout?]

theorem link_mqttReconnectTimerCallback (s : State) :
    link (mqttReconnectTimerCallback s) = link s := by
  unfold mqttReconnectTimerCallback; split_ifs <;> simp [Call.reconnectTimeout?]

theorem link_mqttEventHandler (e : Event) (env : Env) (s : State) :
    link (State.mqttEventHandler e env s) = (link s).step (.event e) env := by
  cases e with
  | connected =>
    rw [State.mqttEventHandler, link_message (publishJsonStatus_step ..)]
    simp [link, Link.step, reconnectTimeouts, Call.reconnectTimeout?]
  | disconnected =>
    simp only [State.mqttEventHandler, Link.step, link]
    split_ifs <;> simp [reconnectTimeouts, Call.reconnectTimeout?]
  | data topic topicLen data =>
    simp only [State.mqttEventHandler]
    split_ifs
    · rw [link_call, link_message (processJsonCommand_step ..)]
      simp [Link.step, Call.reconnectTimeout?]
    all_goals simp [Link.step, Call.reconnectTimeout?]
  | _ => rfl

/-- Every step of the later version moves its link as the machine says. -/
theorem link_step (s : State) (a : Action) (env : Env) : link (step s a env) = (link s).step a env := by
  cases a with
  | start => rw [step, mqttAppStart_eq_startWith, link_startWith]; rfl
  | stop => rw [step, mqttAppStop_eq_stopWith]; exact link_stopWith _ (fun _ => by rfl) env s
  | event e => exact link_mqttEventHandler e env s
  | setIp ip => cases ip <;> rfl
  | reconnectTimerExpiry => exact link_mqttReconnectTimerCallback s
  | _ => exact link_message (step_message (by rfl) s env)

theorem link_run (r : List (Action × Env)) : ∀ s, link (run s r) = (link s).run r := by
  induction r with
  | nil => intro s; rfl
  | cons p r ih => intro s; rw [run, ih, link_step]; rfl

namespace Variant

/-- The steps of a run of the earlier version, as calls of the later one. -/
def toRun (r : List (Action × Env)) : List (MqttApp.Action × Env) := r.map fun p => (p.1.toAction, p.2)

theorem link_mqttEventHandler (e : Event) (env : Env) (s : State) :
    link (mqttEventHandler e env s) = (link s).step (.event e) env := by
  cases e with
  | connected => simp [mqttEventHandler, link, Link.step, reconnectTimeouts, Call.reconnectTimeout?]
  | disconnected => exact MqttApp.link_mqttEventHandler .disconnected env s
  | data topic topicLen data =>
    simp only [mqttEventHandler]
    split <;> simp [Link.step, Call.reconnectTimeout?]
  | _ => rfl

/-- Every step of the earlier version moves its link as the machine says of the same call. -/
theorem link_step (s : State) (a : Action) (env : Env) :
    link (step s a env) = (link s).step a.toAction env := by
  cases a with
  | start => exact link_startWith _ env s
  | stop => rw [step, mqttAppStop]; exact link_stopWith _ (fun _ => by rfl) env s
  | publish => exact link_message (mqttAppPublish_step ..)
  | subscribe => exact link_message (mqttAppSubscribe_step ..)
  | unsubscribe => exact link_message (mqttAppUnsubscribe_step ..)
  | event e => exact link_mqttEventHandler e env s
  | reconnectTimerExpiry => exact link_mqttReconnectTimerCallback s

theorem link_run (r : List (Action × Env)) : ∀ s, link (run s r) = (link s).run (toRun r) := by
  induction r with
  | nil => intro s; rfl
  | cons p r ih => intro s; rw [run, ih, link_step]; rfl

end Variant

/-- Both versions refine the connection machine: after any run, from any state, the client and
timer presence, the retry counter, the connected flag and the reconnection timeouts are those the
machine computes from the same calls. -/
theorem versions_refine_link :
    (∀ s r, link (run s r) = (link s).run r) ∧
    (∀ s r, link (Variant.run s r) = (link s).run (Variant.toRun r)) :=
  ⟨fun s r => link_run r s, fun s r => Variant.link_run r s⟩

/-- From states with the same connection logic, the two versions keep it the same along every run
of the calls they share, whatever the collaborators answer. -/
theorem versions_agree (s v : State) (h : link s = link v) (r : List (Variant.Action × Env)) :
    link (run s (Variant.toRun r)) = link (Variant.run v r) := by
  rw [link_run, Variant.link_run, h]

/-- A start and a drop, from boot. -/
theorem versions_agree_start_drop :
    link State.init = link State.init ∧
      link (run State.init (Variant.toRun [(.start, .allOk), (.event .disconnected, .allOk)])) =
        link (Variant.run State.init [(.start, .allOk), (.event .disconnected, .allOk)]) :=
  ⟨rfl, versions_agree State.init State.init rfl _⟩

/-- In both versions, after any run from boot, there is a client exactly when there is a timer,
the counter is within `[0, 5]`, and the timer has only been armed with the backoffs of the counts 0
to 4. A reset sets the counter to 0, and from any point of a run where the counter is 0 the timer
is armed, up to the next reset, with exactly the backoffs of `0, 1, …` below the counter, in
order. -/
theorem link_healthy :
    (∀ r, (link (run State.init r)).Healthy) ∧ (∀ r, (link (Variant.run State.init r)).Healthy) ∧
    (∀ (l : Link) a env, l.resets a env = true → (l.step a env).retryCount = 0) ∧
    (∀ r₁ r₂, (link (run State.init r₁)).retryCount = 0 → (link (run State.init r₁)).NoReset r₂ →
      (link (run State.init (r₁ ++ r₂))).timeouts =
        (link (run State.init r₁)).timeouts ++ Link.backoffs (link (run State.init (r₁ ++ r₂))).retryCount.toNat) ∧
    (∀ r₁ r₂, (link (Variant.run State.init r₁)).retryCount = 0 →
      (link (Variant.run State.init r₁)).NoReset (Variant.toRun r₂) →
      (link (Variant.run State.init (r₁ ++ r₂))).timeouts =
        (link (Variant.run State.init r₁)).timeouts ++
          Link.backoffs (link (Variant.run State.init (r₁ ++ r₂))).retryCount.toNat) := by
  have main : ∀ r, (link (run State.init r)).Healthy := fun r => link_run r _ ▸ link_init_healthy.run r
  have variant : ∀ r, (link (Variant.run State.init r)).Healthy :=
    fun r => Variant.link_run r _ ▸ link_init_healthy.run _
  refine ⟨main, variant, fun _ _ _ => Link.retryCount_of_resets, fun r₁ r₂ h₀ hr => ?_, fun r₁ r₂ h₀ hr => ?_⟩
  · rw [run_append, link_run r₂]
    exact (main r₁).timeouts_since_reset h₀ r₂ hr
  · rw [Variant.run_append, Variant.link_run r₂]
    exact (variant r₁).timeouts_since_reset h₀ _ hr

end MqttApp
