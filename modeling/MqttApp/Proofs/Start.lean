import MqttApp.Session.Variant

/-! # `mqtt_app_start`, stage by stage

The start of either version (`startWith`) is a chain of five constructions, each of which, when it
fails, undoes the ones before it: the client id's buffer, the client, the timer, the event
registration and the client's start. From no client, `startStage` counts the constructions that
succeed, and `startWith_spec` gives the whole result from that count: the handles left, the
counter, the names taken and the calls made (`startCalls`). What other modules say about the
result of a start is read off that lemma. `StartClosed` names the properties that each step of the
chain keeps, under the condition the chain meets where it takes that step, and
`StartClosed.startWith` follows the chain once for all of them.
-/

namespace MqttApp

/-- Calls that create, start, stop or release a client, a timer or a buffer. -/
def Call.isLifecycle : Call → Bool
  | .malloc .. | .free _ | .clientInit .. | .clientRegisterEvent _ | .clientStart _ | .clientStop _
  | .clientDestroy _ | .clientDisconnect _ | .timerCreate _ | .timerStop _ | .timerDelete _ => true
  | _ => false

namespace State

/-- How many of `mqtt_app_start`'s constructions succeed, from no client. -/
def startStage (env : Env) : Nat :=
  if env.mallocOk then
    if env.clientInitOk then
      if env.timerCreateErr = espOk then
        if env.registerEventErr = espOk then
          if env.clientStartErr = espOk then 5 else 4
        else 3
      else 2
    else 1
  else 0

/-- `mqtt_app_start` gets past every construction: the client-id buffer, the client, the timer,
the event registration and the client's start. -/
def startSucceeds (env : Env) : Bool :=
  env.mallocOk && env.clientInitOk && env.timerCreateErr == espOk && env.registerEventErr == espOk &&
    env.clientStartErr == espOk

/-- The calls of a start from no client whose first `k` constructions succeed: `cfg` is the
client's configuration, and the buffer, the client and the timer are named `n`, `n + 1`, `n + 2`. -/
def startCalls (cfg : ClientConfig) (n : Nat) : Nat → List Call
  | 0 => [.malloc 20 none]
  | 1 => [.malloc 20 (some n), .clientInit cfg none, .free n]
  | 2 => [.malloc 20 (some n), .clientInit cfg (some (n + 1)), .timerCreate none,
      .clientDestroy (some (n + 1)), .free n]
  | 3 => [.malloc 20 (some n), .clientInit cfg (some (n + 1)), .timerCreate (some (n + 2)),
      .clientRegisterEvent (some (n + 1)), .timerDelete (some (n + 2)), .clientDestroy (some (n + 1)),
      .free n]
  | 4 => [.malloc 20 (some n), .clientInit cfg (some (n + 1)), .timerCreate (some (n + 2)),
      .clientRegisterEvent (some (n + 1)), .clientStart (some (n + 1)), .timerDelete (some (n + 2)),
      .clientDestroy (some (n + 1)), .free n]
  | _ => [.malloc 20 (some n), .clientInit cfg (some (n + 1)), .timerCreate (some (n + 2)),
      .clientRegisterEvent (some (n + 1)), .clientStart (some (n + 1)), .free n]

theorem startStage_eq_zero {env : Env} : startStage env = 0 ↔ env.mallocOk = false := by
  unfold startStage
  split_ifs <;> simp_all

theorem four_le_startStage {env : Env} : 4 ≤ startStage env ↔
    (env.mallocOk && env.clientInitOk && env.timerCreateErr == espOk && env.registerEventErr == espOk) = true := by
  unfold startStage
  split_ifs <;> simp_all

theorem startStage_eq_five {env : Env} : startStage env = 5 ↔ startSucceeds env = true := by
  unfold startStage startSucceeds
  split_ifs <;> simp_all

theorem startCalls_isLifecycle (cfg : ClientConfig) (n : Nat) :
    ∀ k, ∀ c ∈ startCalls cfg n k, c.isLifecycle := fun k => List.all_eq_true.1 (by
  match k with
  | 0 | 1 | 2 | 3 | 4 | _ + 5 => rfl)

theorem startWith_of_isSome (config : Bytes → ClientConfig) (env : Env) {s : State}
    (h : s.client.isSome) : startWith config env s = s := by
  rw [startWith, if_pos h]

/-- The result of a start from no client, by how far it gets: it leaves the client and the timer
only if it gets through, the timer as it was if it fails before creating one, the counter reset
once the handler is registered, and it takes one name per construction up to the timer. -/
theorem startWith_spec (config : Bytes → ClientConfig) (env : Env) {s : State} (hc : s.client = none) :
    startWith config env s =
      { s with
        client := if startStage env = 5 then some (s.fresh + 1) else none
        reconnectTimer :=
          if startStage env ≤ 2 then s.reconnectTimer else if startStage env = 5 then some (s.fresh + 2) else none
        mqttRetryCount := if startStage env < 4 then s.mqttRetryCount else 0
        fresh := s.fresh + min (startStage env) 3
        trace := s.trace ++ startCalls (config (clientIdText env.mac)) s.fresh (startStage env) } := by
  unfold startWith generateClientId startStage
  simp only [hc, Option.isSome_none, Bool.false_eq_true, if_false]
  by_cases hm : env.mallocOk
  swap
  · simp [hm, hc, call, startCalls]
  simp only [hm, if_true, Bool.not_true, Bool.false_eq_true, if_false, clientInit]
  by_cases hi : env.clientInitOk
  swap
  · simp [hi, hc, call, next, startCalls]
  simp only [hi, if_true, Bool.not_true, Bool.false_eq_true, if_false, timerCreate]
  by_cases ht : env.timerCreateErr = espOk
  swap
  · simp [ht, call, next, destroyClient, startCalls]
  by_cases hr : env.registerEventErr = espOk
  swap
  · simp [ht, hr, call, next, destroyClient, deleteTimer, startCalls]
  by_cases hs : env.clientStartErr = espOk <;>
    simp [ht, hr, hs, call, next, destroyClient, deleteTimer, startCalls]

theorem startWith_trace (config : Bytes → ClientConfig) (env : Env) (s : State) :
    ∃ l, (startWith config env s).trace = s.trace ++ l ∧ ∀ c ∈ l, c.isLifecycle := by
  cases hc : s.client with
  | none => exact ⟨_, by rw [startWith_spec _ _ hc], startCalls_isLifecycle _ _ _⟩
  | some c => exact ⟨[], by rw [startWith_of_isSome _ _ (by simp [hc]), List.append_nil], by simp⟩

/-- A start leaves the connection flag, `device_ip` and the status mark alone. -/
theorem startWith_statics (config : Bytes → ClientConfig) (env : Env) (s : State) :
    (startWith config env s).mqttConnected = s.mqttConnected ∧
      (startWith config env s).deviceIp = s.deviceIp ∧
      (startWith config env s).lastUpdateTime = s.lastUpdateTime := by
  cases hc : s.client with
  | none => rw [startWith_spec _ _ hc]; exact ⟨rfl, rfl, rfl⟩
  | some c => rw [startWith_of_isSome _ _ (by simp [hc])]; exact ⟨rfl, rfl, rfl⟩

/-! ## The properties the chain keeps -/

/-- A property of a state and of the buffer the running call holds, kept by each step of the start's
chain under the condition the chain meets where it takes that step. -/
structure StartClosed (Q : State → Option Nat → Prop) : Prop where
  mallocFail : ∀ s, Q s none → Q (s.call (.malloc 20 none)) none
  malloc : ∀ s, Q s none → Q (s.call (.malloc 20 (some s.fresh))).next (some s.fresh)
  clientInit : ∀ s p env cfg, s.client = none → Q s p → Q (clientInit env cfg s) p
  timerCreate : ∀ s p env, s.reconnectTimer = none → Q s p → Q (timerCreate env s) p
  register : ∀ s p, Q s p → Q (s.call (.clientRegisterEvent s.client)) p
  clientStart : ∀ s p, Q s p → Q ({ s with mqttRetryCount := 0 }.call (.clientStart s.client)) p
  destroyClient : ∀ s p h, s.client = some h → Q s p → Q (destroyClient s) p
  deleteTimer : ∀ s p h, s.reconnectTimer = some h → Q s p → Q (deleteTimer s) p
  free : ∀ s b, Q s (some b) → Q (s.call (.free b)) none

/-- From no client and no timer, a start keeps every property its chain keeps. -/
theorem StartClosed.startWith {Q : State → Option Nat → Prop} (hQ : StartClosed Q) {s : State}
    (h : Q s none) (hc : s.client = none) (ht : s.reconnectTimer = none) (config : Bytes → ClientConfig)
    (env : Env) : Q (startWith config env s) none := by
  unfold State.startWith generateClientId
  simp only [hc, Option.isSome_none, Bool.false_eq_true, if_false]
  by_cases hm : env.mallocOk
  swap
  · simpa [hm] using hQ.mallocFail s h
  simp only [hm, if_true]
  generalize config _ = cfg
  have h₂ := hQ.clientInit _ _ env cfg (by simpa using hc) (hQ.malloc s h)
  have ht₂ : (State.clientInit env cfg (s.call (.malloc 20 (some s.fresh))).next).reconnectTimer = none := by
    unfold State.clientInit; split <;> exact ht
  have hc₂ : (State.clientInit env cfg (s.call (.malloc 20 (some s.fresh))).next).client =
      if env.clientInitOk then some (s.call (.malloc 20 (some s.fresh))).next.fresh else none := by
    unfold State.clientInit; split <;> rfl
  generalize State.clientInit env cfg (s.call (.malloc 20 (some s.fresh))).next = s₂ at *
  by_cases hi : env.clientInitOk
  swap
  · simpa [hi, hc₂] using hQ.free _ _ h₂
  simp only [hi, if_true] at hc₂
  simp only [hc₂, Option.isNone_some, Bool.false_eq_true, if_false]
  have h₃ := hQ.timerCreate _ _ env ht₂ h₂
  have hc₃ : (State.timerCreate env s₂).client = s₂.client := by unfold State.timerCreate; split <;> rfl
  by_cases hti : env.timerCreateErr = espOk
  swap
  · simpa [hti] using hQ.free _ _ (hQ.destroyClient _ _ _ (hc₃.trans hc₂) h₃)
  have ht₃ : (State.timerCreate env s₂).reconnectTimer = some s₂.fresh := by simp [State.timerCreate, hti]
  simp only [hti, ne_eq, not_true_eq_false, if_false]
  have h₄ := hQ.register _ _ h₃
  by_cases hr : env.registerEventErr = espOk
  swap
  · simpa [hr] using hQ.free _ _ (hQ.destroyClient _ _ _ (by exact hc₃.trans hc₂) (hQ.deleteTimer _ _ _ (by exact ht₃) h₄))
  have h₅ := hQ.clientStart _ _ h₄
  by_cases hs : env.clientStartErr = espOk
  · simpa [hr, hs] using hQ.free _ _ h₅
  · simpa [hr, hs] using hQ.free _ _ (hQ.destroyClient _ _ _ (by exact hc₃.trans hc₂) (hQ.deleteTimer _ _ _ (by exact ht₃) h₅))

end State
end MqttApp
