import Mathlib

/-! # C strings

The byte-level string functions the session code and cJSON rely on. A C string is what lies before
the first NUL of its buffer; `strcmp` and cJSON's `case_insensitive_strcmp` run the same comparison
loop over a different byte map; `strncmp` reads raw memory, since the topic of a data event is not
NUL-terminated; `strncpy` writes all `n` bytes of its destination.
-/

namespace MqttApp

/-- Bytes of a buffer, lowest address first. -/
abbrev Bytes := List UInt8

/-- The bytes of an ASCII literal. -/
def ascii (s : String) : Bytes := s.toList.map fun c => c.toNat.toUInt8

/-- What a C string function reads of a buffer: the bytes before the first NUL. -/
def cstr (b : Bytes) : Bytes := b.takeWhile (· != 0)

/-- The memory a buffer occupies, followed by NULs: how a C string literal reads past its end. -/
def Bytes.at (b : Bytes) (i : Nat) : UInt8 := b.getD i 0

/-- The comparison loop of `strcmp` (`f = toNat`) and of cJSON's `case_insensitive_strcmp`
(`f = tolower`), on buffers that carry their terminating NUL: it stops at the first pair of bytes
that differ under `f`, or at a NUL of the first string. -/
def cmpWith (f : UInt8 → Nat) : Bytes → Bytes → Int
  | a :: as, b :: bs =>
    if f a = f b then (if a = 0 then 0 else cmpWith f as bs) else (f a : Int) - f b
  | _, _ => 0

def strcmp (s₁ s₂ : Bytes) : Int := cmpWith UInt8.toNat (s₁ ++ [0]) (s₂ ++ [0])

/-- `tolower` in the C locale, with its `int` result. -/
def tolower (c : UInt8) : Nat := if 65 ≤ c.toNat ∧ c.toNat ≤ 90 then c.toNat + 32 else c.toNat

/-- cJSON's `case_insensitive_strcmp`, which `cJSON_GetObjectItem` uses to match keys. -/
def caseInsensitiveStrcmp (s₁ s₂ : Bytes) : Int := cmpWith tolower (s₁ ++ [0]) (s₂ ++ [0])

/-- `strncmp` on raw memory, `a i` being the byte at offset `i`. -/
def strncmp (a b : Nat → UInt8) : Nat → Int
  | 0 => 0
  | n + 1 =>
    if a 0 = b 0 then (if a 0 = 0 then 0 else strncmp (fun i => a (i + 1)) (fun i => b (i + 1)) n)
    else (a 0).toNat - (b 0).toNat

/-- `strncpy(dest, src, n)`: the `n` bytes it writes to `dest`, the C string of `src` cut to `n`
bytes and padded with NULs. -/
def strncpy (src : Bytes) (n : Nat) : Bytes :=
  (cstr src).take n ++ List.replicate (n - (cstr src).length) 0

theorem UInt8.toNat_eq_zero_iff (c : UInt8) : c.toNat = 0 ↔ c = 0 :=
  ⟨fun h => UInt8.toNat.inj (by simpa using h), fun h => by simp [h]⟩

@[simp] theorem cstr_nil : cstr [] = [] := rfl

theorem cstr_cons (a : UInt8) (b : Bytes) : cstr (a :: b) = if a = 0 then [] else a :: cstr b := by
  by_cases h : a = 0 <;> simp [cstr, List.takeWhile_cons, h]

@[simp] theorem cstr_zero_cons (b : Bytes) : cstr (0 :: b) = [] := by simp [cstr_cons]

theorem cstr_cons_of_ne {a : UInt8} (h : a ≠ 0) (b : Bytes) : cstr (a :: b) = a :: cstr b := by
  simp [cstr_cons, h]

theorem cstr_append_zero (b : Bytes) : cstr (b ++ [0]) = cstr b := by
  induction b with
  | nil => rfl
  | cons a b ih => by_cases h : a = 0 <;> simp [cstr_cons, h, ih]

theorem cstr_eq_self {b : Bytes} (h : 0 ∉ b) : cstr b = b := by
  induction b with
  | nil => rfl
  | cons a b ih =>
    simp only [List.mem_cons, not_or] at h
    rw [cstr_cons_of_ne (Ne.symm h.1), ih h.2]

theorem zero_not_mem_cstr (b : Bytes) : 0 ∉ cstr b := by
  induction b with
  | nil => simp
  | cons a b ih =>
    by_cases h : a = 0
    · simp [h]
    · simp [cstr_cons_of_ne h, ih, Ne.symm h]

@[simp] theorem cstr_cstr (b : Bytes) : cstr (cstr b) = cstr b := cstr_eq_self (zero_not_mem_cstr b)

theorem length_cstr_le (b : Bytes) : (cstr b).length ≤ b.length :=
  (List.takeWhile_prefix _).length_le

/-! ## The comparison loop -/

section cmp
variable {f : UInt8 → Nat}

/-- The loop returns 0 exactly when the two C strings agree under `f`, for a byte map that sends
only NUL to 0 (`toNat` and `tolower` both do). -/
theorem cmpWith_eq_zero_iff (hf : ∀ c, f c = 0 ↔ c = 0) (a b : Bytes) :
    cmpWith f (a ++ [0]) (b ++ [0]) = 0 ↔ (cstr a).map f = (cstr b).map f := by
  have h0 : f 0 = 0 := (hf 0).2 rfl
  have hne : ∀ {c}, c ≠ 0 → f c ≠ 0 := fun hc h => hc ((hf _).1 h)
  induction a generalizing b with
  | nil =>
    cases b with
    | nil => simp [cmpWith]
    | cons y b =>
      by_cases hy : y = 0
      · simp [cmpWith, hy]
      · simp [cmpWith, cstr_cons_of_ne hy, h0, hne hy, Ne.symm (hne hy), Int.ofNat_eq_zero]
  | cons x a ih =>
    cases b with
    | nil =>
      by_cases hx : x = 0
      · simp [cmpWith, hx]
      · simp [cmpWith, cstr_cons_of_ne hx, h0, hne hx, Int.ofNat_eq_zero]
    | cons y b =>
      by_cases hxy : f x = f y
      · by_cases hx : x = 0
        · have hy : y = 0 := (hf y).1 (hxy ▸ (hf x).2 hx)
          simp [cmpWith, hx, hy]
        · have hy : y ≠ 0 := fun hy => hx ((hf x).1 (hxy ▸ (hf y).2 hy))
          simp [cmpWith, hxy, hx, hy, cstr_cons_of_ne, ih]
      · have hr : (cstr (x :: a)).map f ≠ (cstr (y :: b)).map f := by
          by_cases hx : x = 0 <;> by_cases hy : y = 0
          · exact absurd (by rw [hx, hy]) hxy
          · simp [hx, cstr_cons_of_ne hy]
          · simp [hy, cstr_cons_of_ne hx]
          · simp [cstr_cons_of_ne hx, cstr_cons_of_ne hy, hxy]
        simp only [List.cons_append, cmpWith, if_neg hxy]
        exact iff_of_false (by omega) hr

end cmp

theorem strcmp_eq_zero_iff (a b : Bytes) : strcmp a b = 0 ↔ cstr a = cstr b := by
  rw [strcmp, cmpWith_eq_zero_iff UInt8.toNat_eq_zero_iff]
  exact List.map_injective_iff.2 (fun _ _ h => UInt8.toNat.inj h) |>.eq_iff

/-- Against `n` bytes with no NUL among them, `strncmp` returns 0 exactly when the first `n` bytes
agree. -/
theorem strncmp_eq_zero_iff {n : Nat} {a b : Nat → UInt8} (hb : ∀ i < n, b i ≠ 0) :
    strncmp a b n = 0 ↔ ∀ i < n, a i = b i := by
  induction n generalizing a b with
  | zero => simp [strncmp]
  | succ n ih =>
    have ih' := ih (a := fun i => a (i + 1)) (b := fun i => b (i + 1)) fun i hi => hb _ (by omega)
    by_cases h0 : a 0 = b 0
    · rw [strncmp, if_pos h0, if_neg (h0 ▸ hb 0 (by omega)), ih']
      exact ⟨fun h i hi => i.casesOn (fun _ => h0) (fun j _ => h j (by omega)) hi,
        fun h i hi => h (i + 1) (by omega)⟩
    · have : (a 0).toNat ≠ (b 0).toNat := fun h => h0 (UInt8.toNat.inj h)
      rw [strncmp, if_neg h0]
      exact iff_of_false (by omega) fun h => h0 (h 0 (by omega))

/-! ## `strncpy` -/

theorem cstr_append {a : Bytes} (h : 0 ∉ a) (b : Bytes) : cstr (a ++ b) = a ++ cstr b := by
  induction a with
  | nil => rfl
  | cons x a ih =>
    simp only [List.mem_cons, not_or] at h
    rw [List.cons_append, cstr_cons_of_ne (Ne.symm h.1), ih h.2, List.cons_append]

theorem length_strncpy (src : Bytes) (n : Nat) : (strncpy src n).length = n := by
  simp only [strncpy, List.length_append, List.length_take, List.length_replicate]; omega

/-- The C string `strncpy` leaves: the source's, cut to `n` bytes. -/
theorem cstr_strncpy (src : Bytes) (n : Nat) : cstr (strncpy src n) = (cstr src).take n := by
  have h : 0 ∉ (cstr src).take n := fun h => zero_not_mem_cstr src (List.mem_of_mem_take h)
  rw [strncpy, cstr_append h]
  cases n - (cstr src).length <;> simp [List.replicate_succ]

end MqttApp
