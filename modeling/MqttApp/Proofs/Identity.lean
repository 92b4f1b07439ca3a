import MqttApp.Proofs.Gates

/-! # The client id

`generate_client_id` prints `esp32_` and the six bytes of the station MAC as `%02x` into a 20-byte
buffer. The text has 18 bytes, so `snprintf` keeps it whole: the id is `esp32_` and twelve
lower-case hex digits, and it determines the six bytes it was printed from, so devices whose MACs
differ never present the same id to the broker.
-/

namespace MqttApp
open State Item

/-- A lower-case hex digit, as `%x` prints it. -/
def isLowerHex (c : UInt8) : Bool := (48 ≤ c.toNat && c.toNat ≤ 57) || (97 ≤ c.toNat && c.toNat ≤ 102)

theorem isLowerHex_hexDigit {n : Nat} (h : n < 16) : isLowerHex (hexDigit n) = true := by
  interval_cases n <;> rfl

theorem hexDigit_injective : ∀ m < 16, ∀ n < 16, hexDigit m = hexDigit n → m = n := by decide

theorem hex2_injective {a b : UInt8} (h : hex2 a = hex2 b) : a = b := by
  simp only [hex2, List.cons.injEq, and_true] at h
  have ha : a.toNat < 256 := a.toNat_lt_size
  have hb : b.toNat < 256 := b.toNat_lt_size
  have h₁ := hexDigit_injective _ (by omega) _ (by omega) h.1
  have h₂ := hexDigit_injective _ (by omega) _ (by omega) h.2
  exact UInt8.toNat.inj (by omega)

/-- The hex text of `n` bytes has two digits a byte. -/
theorem length_flatMap_hex2 (f : Nat → UInt8) (n : Nat) :
    ((List.range n).flatMap fun i => hex2 (f i)).length = 2 * n := by
  induction n with
  | zero => rfl
  | succ n ih => rw [List.range_succ, List.flatMap_append, List.length_append, ih]; simp [hex2]; omega

/-- Equal hex texts come from equal bytes, position by position. -/
theorem flatMap_hex2_injective {f g : Nat → UInt8} :
    ∀ n, ((List.range n).flatMap fun i => hex2 (f i)) = (List.range n).flatMap (fun i => hex2 (g i)) →
      ∀ i < n, f i = g i := by
  intro n
  induction n with
  | zero => intro _ i hi; omega
  | succ n ih =>
    intro h i hi
    simp only [List.range_succ, List.flatMap_append, List.flatMap_singleton] at h
    obtain ⟨hpre, hlast⟩ := List.append_inj' h (by simp [hex2])
    rcases Nat.lt_succ_iff_lt_or_eq.1 hi with hi | rfl
    exacts [ih hpre i hi, hex2_injective hlast]

theorem generateClientId_fst {env : Env} (hm : env.mallocOk = true) (s : State) :
    (generateClientId env s).1 =
      some (s.fresh, ascii "esp32_" ++ (List.range 6).flatMap fun i => hex2 (env.mac.getD i 0)) := by
  simp only [generateClientId, hm, if_true, clientIdText, snprintf]
  rw [List.take_of_length_le (by rw [List.length_append, length_flatMap_hex2]; decide)]

/-- With its buffer allocated, `generate_client_id` gives `esp32_` and twelve lower-case hex
digits: 18 bytes, which the 20-byte buffer holds whole. -/
theorem client_id_format {env : Env} (hm : env.mallocOk = true) (s : State) :
    ∃ id, (generateClientId env s).1 = some (s.fresh, id) ∧ id.length = 18 ∧
      id.take 6 = ascii "esp32_" ∧ ∀ c ∈ id.drop 6, isLowerHex c = true := by
  refine ⟨_, generateClientId_fst hm s, by rw [List.length_append, length_flatMap_hex2]; rfl,
    List.take_left' rfl, ?_⟩
  rw [show 6 = (ascii "esp32_").length from rfl, List.drop_left]
  simp only [List.mem_flatMap, List.mem_range, hex2, List.mem_cons, List.mem_singleton,
    List.not_mem_nil, or_false]
  rintro c ⟨i, -, rfl | rfl⟩
  · have : (env.mac.getD i 0).toNat < 256 := UInt8.toNat_lt_size _
    exact isLowerHex_hexDigit (Nat.div_lt_of_lt_mul (by omega))
  · exact isLowerHex_hexDigit (Nat.mod_lt _ (by decide))

theorem client_id_format_at_boot :
    Env.allOk.mallocOk = true ∧
      ∃ id, (generateClientId .allOk State.init).1 = some (State.init.fresh, id) ∧ id.length = 18 ∧
        id.take 6 = ascii "esp32_" ∧ ∀ c ∈ id.drop 6, isLowerHex c = true :=
  ⟨rfl, client_id_format rfl State.init⟩

/-- Two runs of `generate_client_id` give the same id only for MACs that agree on their first six
bytes. -/
theorem client_id_unique {env₁ env₂ : Env} {s₁ s₂ : State} {b₁ b₂ : Nat} {id : Bytes}
    (h₁ : (generateClientId env₁ s₁).1 = some (b₁, id)) (h₂ : (generateClientId env₂ s₂).1 = some (b₂, id)) :
    ∀ i < 6, env₁.mac.getD i 0 = env₂.mac.getD i 0 := by
  have hm : ∀ {env : Env} {s : State} {b : Nat}, (generateClientId env s).1 = some (b, id) →
      env.mallocOk = true := fun {env} _ _ h => by
    cases hm : env.mallocOk
    · simp [generateClientId, hm] at h
    · rfl
  rw [generateClientId_fst (hm h₁), Option.some.injEq, Prod.mk.injEq] at h₁
  rw [generateClientId_fst (hm h₂), Option.some.injEq, Prod.mk.injEq] at h₂
  exact flatMap_hex2_injective 6 (List.append_cancel_left (h₁.2.trans h₂.2.symm))

/-- A MAC of seven bytes and its first six give the same id. -/
theorem client_id_unique_seventh_byte :
    (generateClientId .allOk State.init).1 = some (0, ascii "esp32_000000000000") ∧
      (generateClientId { Env.allOk with mac := [0, 0, 0, 0, 0, 0, 7] } State.init).1 =
        some (0, ascii "esp32_000000000000") ∧
      ∀ i < 6, Env.allOk.mac.getD i 0 = ({ Env.allOk with mac := [0, 0, 0, 0, 0, 0, 7] } : Env).mac.getD i 0 :=
  have h₁ : (generateClientId .allOk State.init).1 = some (0, ascii "esp32_000000000000") := by decide
  have h₂ : (generateClientId { Env.allOk with mac := [0, 0, 0, 0, 0, 0, 7] } State.init).1 =
      some (0, ascii "esp32_000000000000") := by decide
  ⟨h₁, h₂, client_id_unique h₁ h₂⟩

end MqttApp
