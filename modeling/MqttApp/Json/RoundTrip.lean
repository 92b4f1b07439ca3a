import MqttApp.Json.Parse

/-! # Printing and parsing agree

`cJSON_Parse` reads back what `cJSON_Print` writes. The leaves come first: whitespace, the
literals, the decimal integers the program prints, and strings with their escapes (`parse_string`
undoes `print_string_ptr` byte for byte, `\u00XX` escapes included). Containers follow by induction
on `Printable`, the items the program can build and print: decimal numbers, NUL-free strings and
keys, and nesting under cJSON's limit. The fuel the parser starts with always suffices, since each
value and member it reads takes at least one byte of the text.
-/

namespace MqttApp
namespace Item

/-! ## Leaves -/

@[simp] theorem ascii_null : ascii "null" = [110, 117, 108, 108] := rfl
@[simp] theorem ascii_false : ascii "false" = [102, 97, 108, 115, 101] := rfl
@[simp] theorem ascii_true : ascii "true" = [116, 114, 117, 101] := rfl

theorem skipWs_cons_ws {c : UInt8} (h : c.toNat ≤ 32) (b : Bytes) : skipWs (c :: b) = skipWs b := by
  simp [skipWs, List.dropWhile_cons, h]

theorem skipWs_cons {c : UInt8} (h : 32 < c.toNat) (b : Bytes) : skipWs (c :: b) = c :: b := by
  simp [skipWs, List.dropWhile_cons, show ¬c.toNat ≤ 32 by omega]

theorem skipWs_append_ws {ws : Bytes} (h : ∀ c ∈ ws, c.toNat ≤ 32) (b : Bytes) :
    skipWs (ws ++ b) = skipWs b := by
  induction ws with
  | nil => rfl
  | cons c ws ih =>
    rw [List.cons_append, skipWs_cons_ws (h c (by simp)), ih fun c hc => h c (by simp [hc])]

theorem tabs_ws (k : Nat) : ∀ c ∈ List.replicate k (9 : UInt8), c.toNat ≤ 32 := by
  intro c hc; rw [List.eq_of_mem_replicate hc]; decide

theorem isDigit_digitChar {d : Nat} (h : d < 10) : isDigit (Nat.digitChar d).toNat.toUInt8 = true := by
  interval_cases d <;> rfl

theorem toDigitsCore_isDigit (f n : Nat) (ds : List Char)
    (h : ∀ c ∈ ds, isDigit c.toNat.toUInt8 = true) :
    ∀ c ∈ Nat.toDigitsCore 10 f n ds, isDigit c.toNat.toUInt8 = true := by
  induction f generalizing n ds with
  | zero => exact h
  | succ f ih =>
    have hd : ∀ c ∈ Nat.digitChar (n % 10) :: ds, isDigit c.toNat.toUInt8 = true := by
      simpa [isDigit_digitChar (Nat.mod_lt n (by omega))] using h
    simp only [Nat.toDigitsCore]
    split
    · exact hd
    · exact ih _ _ hd

theorem toDigitsCore_ne_nil (f n : Nat) (ds : List Char) : Nat.toDigitsCore 10 (f + 1) n ds ≠ [] := by
  induction f generalizing n ds with
  | zero => rw [Nat.toDigitsCore]; split <;> simp [Nat.toDigitsCore]
  | succ f ih =>
    rw [Nat.toDigitsCore]
    split
    · simp
    · exact ih _ _

theorem decimal_isDigit (n : Nat) : ∀ c ∈ decimal n, isDigit c = true := by
  simp only [decimal, List.mem_map]
  rintro _ ⟨c, hc, rfl⟩
  exact toDigitsCore_isDigit _ _ [] (by simp) c hc

theorem decimal_ne_nil (n : Nat) : decimal n ≠ [] := by
  simpa [decimal, Nat.toDigits] using toDigitsCore_ne_nil n n []

theorem digitsLength_of_isDigit {b : Bytes} (h : ∀ c ∈ b, isDigit c = true) : digitsLength b = b.length := by
  rw [digitsLength, List.takeWhile_eq_self_iff.2 h]

theorem strtodLength_decimal (n : Nat) : strtodLength (decimal n) = (decimal n).length := by
  obtain ⟨c, b, hcb⟩ := List.exists_cons_of_ne_nil (decimal_ne_nil n)
  have hd := decimal_isDigit n
  have hc : isDigit c = true := hd c (by simp [hcb])
  have hs : ¬(c = 43 ∨ c = 45) := by rintro (rfl | rfl) <;> exact absurd hc (by decide)
  simp only [strtodLength, hcb, List.head?_cons, Option.some.injEq, hs, if_false, List.drop_zero]
  rw [← hcb, digitsLength_of_isDigit hd]
  simp [digitsLength, decimal_ne_nil]

/-- What follows a value cannot continue a number. -/
def Delimits (rest : Bytes) : Prop := ∀ c ∈ rest.head?, isNumberByte c = false

theorem takeWhile_decimal (n : Nat) {rest : Bytes} (hr : Delimits rest) :
    (decimal n ++ rest).takeWhile isNumberByte = decimal n := by
  have hr' : rest.takeWhile isNumberByte = [] := by
    cases rest with
    | nil => rfl
    | cons c r => simp [List.takeWhile_cons, hr c rfl]
  rw [List.takeWhile_append_of_pos (fun c hc => by simp [isNumberByte, decimal_isDigit n c hc]), hr',
    List.append_nil]

theorem parseNumber_decimal (n : Nat) {rest : Bytes} (hr : Delimits rest) :
    parseNumber (decimal n ++ rest) = some (.number (decimal n), rest) := by
  have hl : (decimal n).length ≠ 0 := by simpa using decimal_ne_nil n
  simp [parseNumber, takeWhile_decimal n hr, strtodLength_decimal, hl]

/-- `print_string_ptr` writes a byte as a two-byte escape that `parse_string` maps back, as a
`\u00XX` escape (the control bytes without a short escape), or as itself. -/
theorem escapeByte_cases (c : UInt8) :
    (∃ e, escapeByte c = [92, e] ∧ simpleEscape e = some c) ∨
    (escapeByte c = [92, 117, 48, 48, hexDigit (c.toNat / 16), hexDigit (c.toNat % 16)] ∧
      c.toNat < 32 ∧ c ≠ 8 ∧ c ≠ 9 ∧ c ≠ 10 ∧ c ≠ 12 ∧ c ≠ 13) ∨
    (escapeByte c = [c] ∧ c ≠ 34 ∧ c ≠ 92 ∧ 32 ≤ c.toNat) := by
  unfold escapeByte
  by_cases h₁ : c = 34
  · subst h₁; exact .inl ⟨34, rfl, rfl⟩
  rw [if_neg h₁]
  by_cases h₂ : c = 92
  · subst h₂; exact .inl ⟨92, rfl, rfl⟩
  rw [if_neg h₂]
  by_cases h₃ : c = 8
  · subst h₃; exact .inl ⟨98, rfl, rfl⟩
  rw [if_neg h₃]
  by_cases h₄ : c = 12
  · subst h₄; exact .inl ⟨102, rfl, rfl⟩
  rw [if_neg h₄]
  by_cases h₅ : c = 10
  · subst h₅; exact .inl ⟨110, rfl, rfl⟩
  rw [if_neg h₅]
  by_cases h₆ : c = 13
  · subst h₆; exact .inl ⟨114, rfl, rfl⟩
  rw [if_neg h₆]
  by_cases h₇ : c = 9
  · subst h₇; exact .inl ⟨116, rfl, rfl⟩
  rw [if_neg h₇]
  by_cases h₈ : c.toNat < 32
  · rw [if_pos h₈]; exact .inr (.inl ⟨rfl, h₈, h₃, h₇, h₅, h₄, h₆⟩)
  · rw [if_neg h₈]; exact .inr (.inr ⟨rfl, h₁, h₂, by omega⟩)

theorem toUInt8_toNat (c : UInt8) : c.toNat.toUInt8 = c :=
  UInt8.toNat.inj (UInt8.toNat_ofNat_of_lt c.toNat_lt)

theorem hexValue_hexDigit {n : Nat} (h : n < 16) : hexValue (hexDigit n) = some n := by
  interval_cases n <;> rfl

theorem hexDigit_plain {n : Nat} (h : n < 16) :
    hexDigit n ≠ 34 ∧ hexDigit n ≠ 92 ∧ 32 < (hexDigit n).toNat := by
  interval_cases n <;> decide

theorem scanString_plain {c : UInt8} (h₁ : c ≠ 34) (h₂ : c ≠ 92) (more : Bytes) :
    scanString (c :: more) = (scanString more).map fun p => (c :: p.1, p.2) :=
  scanString.eq_4 c more h₁ fun _ _ e => absurd e h₂

theorem decodeString_plain {c : UInt8} (h : c ≠ 92) (more : Bytes) :
    decodeString (c :: more) = (decodeString more).map (c :: ·) :=
  decodeString.eq_7 c more (fun _ _ _ _ _ e => absurd e h) (fun _ e => absurd e h) (fun e => absurd e h)
    (fun _ _ e => absurd e h)

theorem simpleEscape_ne {e c : UInt8} (h : simpleEscape e = some c) : e ≠ 117 := by
  rintro rfl; simp [simpleEscape] at h

theorem decodeString_simple {e c : UInt8} (h : simpleEscape e = some c) (more : Bytes) :
    decodeString (92 :: e :: more) = (decodeString more).map (c :: ·) := by
  have he := simpleEscape_ne h
  rw [decodeString.eq_6 e more (fun _ _ _ _ _ e' => absurd e' he) he, h]

theorem decodeString_unicode {c : UInt8} (h : c.toNat < 32) (more : Bytes) :
    decodeString (92 :: 117 :: 48 :: 48 :: hexDigit (c.toNat / 16) :: hexDigit (c.toNat % 16) :: more) =
      (decodeString more).map (c :: ·) := by
  have hx : parseHex4 48 48 (hexDigit (c.toNat / 16)) (hexDigit (c.toNat % 16)) = c.toNat := by
    have h48 : hexValue 48 = some 0 := rfl
    simp only [parseHex4, h48, hexValue_hexDigit (show c.toNat / 16 < 16 by omega),
      hexValue_hexDigit (show c.toNat % 16 < 16 by omega)]
    omega
  have hu : utf8Encode c.toNat = [c] := by simp [utf8Encode, show c.toNat < 128 by omega, toUInt8_toNat]
  have h₁ : ¬(56320 ≤ c.toNat ∧ c.toNat ≤ 57343) := by omega
  have h₂ : ¬(55296 ≤ c.toNat ∧ c.toNat ≤ 56319) := by omega
  by_cases hm : ∃ g₁ g₂ g₃ g₄ rest, more = 92 :: 117 :: g₁ :: g₂ :: g₃ :: g₄ :: rest
  · obtain ⟨g₁, g₂, g₃, g₄, rest, rfl⟩ := hm
    rw [decodeString.eq_2, hx, if_neg h₁, if_neg h₂, hu]; rfl
  · rw [decodeString.eq_3 _ _ _ _ _ fun g₁ g₂ g₃ g₄ r e => hm ⟨g₁, g₂, g₃, g₄, r, e⟩, hx, if_neg h₁,
      if_neg h₂, hu]; rfl

theorem scanString_escapeByte (c : UInt8) (more : Bytes) :
    scanString (escapeByte c ++ more) =
      (scanString more).map fun p => (escapeByte c ++ p.1, p.2) := by
  rcases escapeByte_cases c with ⟨e, he, -⟩ | ⟨he, h, -⟩ | ⟨he, h₁, h₂, -⟩ <;> rw [he]
  · rw [List.cons_append, List.cons_append, List.nil_append, scanString.eq_3]; rfl
  · obtain ⟨a₁, a₂, -⟩ := hexDigit_plain (show c.toNat / 16 < 16 by omega)
    obtain ⟨b₁, b₂, -⟩ := hexDigit_plain (show c.toNat % 16 < 16 by omega)
    simp only [List.cons_append, List.nil_append, scanString.eq_3,
      scanString_plain (show (48 : UInt8) ≠ 34 by decide) (show (48 : UInt8) ≠ 92 by decide),
      scanString_plain a₁ a₂, scanString_plain b₁ b₂, Option.map_map]
    rfl
  · rw [List.cons_append, List.nil_append, scanString_plain h₁ h₂]; rfl

theorem decodeString_escapeByte (c : UInt8) (more : Bytes) :
    decodeString (escapeByte c ++ more) = (decodeString more).map (c :: ·) := by
  rcases escapeByte_cases c with ⟨e, he, hs⟩ | ⟨he, h, -⟩ | ⟨he, -, h₂, -⟩ <;> rw [he]
  · exact decodeString_simple hs more
  · exact decodeString_unicode h more
  · exact decodeString_plain h₂ more

theorem scanString_escape (t rest : Bytes) :
    scanString (t.flatMap escapeByte ++ 34 :: rest) = some (t.flatMap escapeByte, rest) := by
  induction t with
  | nil => rfl
  | cons c t ih => simp [List.flatMap_cons, List.append_assoc, scanString_escapeByte, ih]

theorem decodeString_escape (t : Bytes) : decodeString (t.flatMap escapeByte) = some t := by
  induction t with
  | nil => rfl
  | cons c t ih => rw [List.flatMap_cons, decodeString_escapeByte, ih]; rfl

/-- `parse_string` reads back every string `print_string_ptr` writes. -/
theorem parseString_escape (t rest : Bytes) :
    parseString (t.flatMap escapeByte ++ 34 :: rest) = some (t, rest) := by
  simp [parseString, scanString_escape, decodeString_escape]

/-! ## Values -/

/-- The items the program builds and `cJSON_Print` writes, readable at nesting depth `depth`:
numbers are decimal integers, strings and keys hold no NUL, and containers stay under the nesting
limit. -/
inductive Printable : Nat → Item → Prop
  | null (depth : Nat) : Printable depth .null
  | bool (depth : Nat) (b : Bool) : Printable depth (.bool b)
  | number (depth n : Nat) : Printable depth (.number (decimal n))
  | string (depth : Nat) {s : Bytes} (h : 0 ∉ s) : Printable depth (.string s)
  | array (depth : Nat) {child : List Item} (hd : depth < nestingLimit)
      (h : ∀ v ∈ child, Printable (depth + 1) v) : Printable depth (.array child)
  | object (depth : Nat) {child : List (Bytes × Item)} (hd : depth < nestingLimit)
      (hk : ∀ m ∈ child, 0 ∉ m.1) (h : ∀ m ∈ child, Printable (depth + 1) m.2) :
      Printable depth (.object child)

theorem printString_eq {s : Bytes} (h : 0 ∉ s) :
    printString s = 34 :: (s.flatMap escapeByte ++ [34]) := by
  simp [printString, cstr_eq_self h]

theorem parseValue_literal (f depth d : Nat) (b : Bool) (rest : Bytes) :
    parseValue (f + 1) depth (printValue d (.bool b) ++ rest) = some (.bool b, rest) := by
  cases b <;> rfl

theorem parseValue_null (f depth d : Nat) (rest : Bytes) :
    parseValue (f + 1) depth (printValue d .null ++ rest) = some (.null, rest) := rfl

theorem parseValue_string (f depth : Nat) {s : Bytes} (h : 0 ∉ s) (rest : Bytes) :
    parseValue (f + 1) depth (printString s ++ rest) = some (.string s, rest) := by
  rw [printString_eq h, List.cons_append, parseValue.eq_2]
  simp [List.append_assoc, parseString_escape]

theorem parseValue_number (f depth n : Nat) {rest : Bytes} (hr : Delimits rest) :
    parseValue (f + 1) depth (decimal n ++ rest) = some (.number (decimal n), rest) := by
  obtain ⟨c, b, hcb⟩ := List.exists_cons_of_ne_nil (decimal_ne_nil n)
  have hc : isDigit c = true := decimal_isDigit n c (by simp [hcb])
  have hc' : 48 ≤ c.toNat ∧ c.toNat ≤ 57 := by simpa [isDigit] using hc
  have ne : ∀ k : UInt8, k.toNat < 48 ∨ 57 < k.toNat → c ≠ k := fun k hk e => by subst e; omega
  rw [← parseNumber_decimal n hr, hcb, List.cons_append,
    parseValue.eq_5 _ _ _ _ (ne 34 (by decide)) (ne 91 (by decide)) (ne 123 (by decide))]
  simp [ne 110 (by decide), ne 102 (by decide), ne 116 (by decide), hc]

theorem zero_not_mem_escapeByte (c : UInt8) : 0 ∉ escapeByte c := by
  rcases escapeByte_cases c with ⟨e, he, hs⟩ | ⟨he, h, -⟩ | ⟨he, -, -, h⟩ <;> rw [he]
  · have : e ≠ 0 := by rintro rfl; simp [simpleEscape] at hs
    simp [Ne.symm this]
  · have ha := (hexDigit_plain (show c.toNat / 16 < 16 by omega)).2.2
    have hb := (hexDigit_plain (show c.toNat % 16 < 16 by omega)).2.2
    simp only [List.mem_cons, List.not_mem_nil, or_false, not_or]
    refine ⟨by decide, by decide, by decide, by decide, fun e => ?_, fun e => ?_⟩
    · rw [← e] at ha; exact absurd ha (by decide)
    · rw [← e] at hb; exact absurd hb (by decide)
  · simp only [List.mem_singleton]
    intro e; subst e; simp at h

theorem zero_not_mem_printString (s : Bytes) : 0 ∉ printString s := by
  simp only [printString, List.mem_append, List.mem_flatMap, List.mem_singleton, not_or, not_exists,
    not_and]
  exact ⟨⟨by decide, fun c _ => zero_not_mem_escapeByte c⟩, by decide⟩

/-- A printed value starts with a byte that is neither whitespace nor the first byte of a
byte-order mark, and holds no NUL. -/
structure Shape (text : Bytes) : Prop where
  head : ∃ c b, text = c :: b ∧ 32 < c.toNat ∧ c ≠ 0xEF ∧ c ≠ 93
  noNul : 0 ∉ text

theorem zero_not_mem_decimal (n : Nat) : 0 ∉ decimal n :=
  fun h => absurd (decimal_isDigit n 0 h) (by decide)

theorem printElements_cons (d : Nat) (v : Item) (vs : List Item) :
    printElements d (v :: vs) =
      printValue d v ++ (if vs.isEmpty then [] else [44, 32] ++ printElements d vs) := by
  cases vs <;> simp [printElements]

theorem zero_not_mem_printElements {d : Nat} {vs : List Item}
    (h : ∀ v ∈ vs, 0 ∉ printValue d v) : 0 ∉ printElements d vs := by
  induction vs with
  | nil => simp [printElements]
  | cons v vs ih =>
    rw [printElements_cons]
    simp only [List.mem_append, not_or]
    refine ⟨h v (by simp), ?_⟩
    split
    · simp
    · simp only [List.mem_append, not_or]
      exact ⟨by decide, ih fun w hw => h w (by simp [hw])⟩

theorem zero_not_mem_printMembers {d : Nat} {ms : List (Bytes × Item)}
    (h : ∀ m ∈ ms, 0 ∉ printValue d m.2) : 0 ∉ printMembers d ms := by
  induction ms with
  | nil => simp [printMembers]
  | cons m ms ih =>
    have hv := h m (by simp)
    have hs := zero_not_mem_printString m.1
    have hr := ih fun w hw => h w (by simp [hw])
    simp only [printMembers, List.mem_append, not_or, List.mem_replicate, List.mem_singleton]
    refine ⟨⟨⟨⟨⟨⟨by simp, hs⟩, by decide⟩, hv⟩, ?_⟩, by decide⟩, hr⟩
    split <;> simp

theorem Printable.shape {depth : Nat} {v : Item} (hv : Printable depth v) (d : Nat) :
    Shape (printValue d v) := by
  induction hv generalizing d with
  | null => exact ⟨⟨110, _, rfl, by decide, by decide, by decide⟩, by simp [printValue]⟩
  | bool _ b => cases b <;> exact ⟨⟨_, _, rfl, by decide, by decide, by decide⟩, by simp [printValue]⟩
  | number _ n =>
    obtain ⟨c, b, hcb⟩ := List.exists_cons_of_ne_nil (decimal_ne_nil n)
    have hc : 48 ≤ c.toNat ∧ c.toNat ≤ 57 := by
      simpa [isDigit] using decimal_isDigit n c (by simp [hcb])
    refine ⟨⟨c, b, hcb, by omega, fun e => by subst e; exact absurd hc (by decide),
      fun e => by subst e; exact absurd hc (by decide)⟩, zero_not_mem_decimal n⟩
  | string _ h =>
    exact ⟨⟨34, _, printString_eq h, by decide, by decide, by decide⟩, zero_not_mem_printString _⟩
  | array _ _ _ ih =>
    refine ⟨⟨91, _, rfl, by decide, by decide, by decide⟩, ?_⟩
    simp only [printValue, List.mem_append, List.mem_singleton, not_or]
    exact ⟨⟨by decide, zero_not_mem_printElements fun v hv => (ih v hv _).noNul⟩, by decide⟩
  | object _ _ _ _ ih =>
    refine ⟨⟨123, _, rfl, by decide, by decide, by decide⟩, ?_⟩
    simp only [printValue, List.mem_append, List.mem_singleton, List.mem_replicate, not_or]
    exact ⟨⟨⟨by simp, zero_not_mem_printMembers fun m hm => (ih m hm _).noNul⟩, by simp⟩, by decide⟩

theorem Shape.skipWs {text : Bytes} (h : Shape text) (rest : Bytes) :
    skipWs (text ++ rest) = text ++ rest := by
  obtain ⟨c, b, rfl, hc, -⟩ := h.head
  exact skipWs_cons hc _

theorem delimits_cons {c : UInt8} (h : isNumberByte c = false) (b : Bytes) : Delimits (c :: b) := by
  intro x hx; cases hx; exact h

section
variable {depth d : Nat}

/-- The element loop of `parse_array` reads the elements `print_array` writes. -/
theorem parseElements_print {vs : List Item} (hs : ∀ v ∈ vs, Shape (printValue d v))
    (ih : ∀ v ∈ vs, ∀ f rest, (printValue d v).length ≤ f → Delimits rest →
      parseValue f depth (printValue d v ++ rest) = some (v, rest)) :
    ∀ f acc rest, vs ≠ [] → (printElements d vs).length < f →
      parseElements f depth acc (printElements d vs ++ 93 :: rest) = some (.array (acc ++ vs), rest) := by
  induction vs with
  | nil => intro _ _ _ h; exact absurd rfl h
  | cons v vs ihl =>
    rintro (_ | g) acc rest - hf
    · simp at hf
    rw [printElements_cons] at hf ⊢
    rw [parseElements.eq_2]
    cases vs with
    | nil =>
      simp only [List.isEmpty_nil, if_true, List.append_nil] at hf ⊢
      rw [ih v (by simp) g _ (by omega) (delimits_cons (c := 93) (by decide) _)]
      simp [skipWs_cons (show 32 < (93 : UInt8).toNat by decide)]
    | cons w ws =>
      simp only [List.isEmpty_cons, Bool.false_eq_true, if_false, List.length_append] at hf ⊢
      simp only [List.append_assoc, List.cons_append, List.nil_append]
      rw [ih v (by simp) g _ (by simp at hf; omega) (delimits_cons (c := 44) (by decide) _)]
      simp only [skipWs_cons (show 32 < (44 : UInt8).toNat by decide),
        skipWs_cons_ws (show (32 : UInt8).toNat ≤ 32 by decide)]
      rw [printElements_cons, List.append_assoc, (hs w (by simp)).skipWs, ← List.append_assoc,
        ← printElements_cons, ihl (fun u hu => hs u (by simp [hu]))
        (fun u hu => ih u (by simp [hu])) g _ _ (by simp) (by simp at hf ⊢; omega)]
      simp
/-- The member loop of `parse_object` reads the members `print_object` writes, up to the
whitespace and the brace that close the object. -/
theorem parseMembers_print {ms : List (Bytes × Item)} (hk : ∀ m ∈ ms, 0 ∉ m.1)
    (hs : ∀ m ∈ ms, Shape (printValue d m.2))
    (ih : ∀ m ∈ ms, ∀ f rest, (printValue d m.2).length ≤ f → Delimits rest →
      parseValue f depth (printValue d m.2 ++ rest) = some (m.2, rest))
    {ws : Bytes} (hws : ∀ c ∈ ws, c.toNat ≤ 32) :
    ∀ f acc rest, ms ≠ [] → (printMembers d ms).length < f →
      parseMembers f depth acc (skipWs (printMembers d ms ++ (ws ++ 125 :: rest))) =
        some (.object (acc ++ ms), rest) := by
  induction ms with
  | nil => intro _ _ _ h; exact absurd rfl h
  | cons m ms ihl =>
    obtain ⟨k, v⟩ := m
    rintro (_ | g) acc rest - hf
    · simp at hf
    have hv : ∀ f rest, (printValue d v).length ≤ f → Delimits rest →
        parseValue f depth (printValue d v ++ rest) = some (v, rest) := ih (k, v) (by simp)
    simp only [printMembers, List.length_append] at hf
    simp only [printMembers, List.append_assoc, skipWs_append_ws (tabs_ws d),
      printString_eq (hk (k, v) (by simp)), List.cons_append, List.nil_append,
      skipWs_cons (show 32 < (34 : UInt8).toNat by decide), parseMembers.eq_2, parseString_escape,
      skipWs_cons (show 32 < (58 : UInt8).toNat by decide),
      skipWs_cons_ws (show (9 : UInt8).toNat ≤ 32 by decide)]
    rw [(hs (k, v) (by simp)).skipWs]
    cases ms with
    | nil =>
      simp only [List.isEmpty_nil, if_true, List.nil_append, printMembers] at hf ⊢
      rw [hv g _ (by simp at hf; omega) (delimits_cons (c := 10) (by decide) _)]
      simp [skipWs_cons_ws (show (10 : UInt8).toNat ≤ 32 by decide), skipWs_append_ws hws,
        skipWs_cons (show 32 < (125 : UInt8).toNat by decide)]
    | cons m' ms =>
      simp only [List.isEmpty_cons, Bool.false_eq_true, if_false] at hf ⊢
      rw [List.cons_append, hv g _ (by simp at hf; omega) (delimits_cons (c := 44) (by decide) _)]
      simp only [skipWs_cons (show 32 < (44 : UInt8).toNat by decide), List.nil_append,
        skipWs_cons_ws (show (10 : UInt8).toNat ≤ 32 by decide)]
      rw [ihl (fun u hu => hk u (by simp [hu])) (fun u hu => hs u (by simp [hu]))
        (fun u hu => ih u (by simp [hu])) g _ _ (by simp) (by simp at hf ⊢; omega)]
      simp
end

/-- `parse_value` reads back every printable value, followed by anything that cannot continue a
number, given as much fuel as the value has bytes. -/
theorem Printable.parseValue {depth : Nat} {v : Item} (hv : Printable depth v) :
    ∀ d f rest, (printValue d v).length ≤ f → Delimits rest →
      parseValue f depth (printValue d v ++ rest) = some (v, rest) := by
  induction hv with
  | null =>
    rintro d (_ | f) rest hf -
    · simp [printValue] at hf
    · exact parseValue_null ..
  | bool _ b =>
    rintro d (_ | f) rest hf -
    · cases b <;> simp [printValue] at hf
    · exact parseValue_literal ..
  | number _ n =>
    rintro d (_ | f) rest hf hr
    · simp [printValue, decimal_ne_nil] at hf
    · exact parseValue_number _ _ _ hr
  | string _ h =>
    rintro d (_ | f) rest hf -
    · simp [printValue, printString] at hf
    · exact parseValue_string _ _ h _
  | @array depth child hd h ih =>
    rintro d (_ | f) rest hf -
    · simp [printValue] at hf
    simp only [printValue, List.append_assoc, List.singleton_append, List.cons_append,
      List.nil_append, parseValue.eq_3, ascii_null, ascii_false, ascii_true, List.take_succ_cons, List.cons.injEq,
      show (91 : UInt8) ≠ 110 by decide, show (91 : UInt8) ≠ 102 by decide,
      show (91 : UInt8) ≠ 116 by decide, false_and, if_false, show ¬nestingLimit ≤ depth by omega]
    cases child with
    | nil => simp [printElements, skipWs_cons (show 32 < (93 : UInt8).toNat by decide)]
    | cons w ws =>
      have hs : ∀ u ∈ w :: ws, Shape (printValue (d + 1) u) := fun u hu => (h u hu).shape _
      obtain ⟨c, b, hcb, hc, -, hc93⟩ := (hs w (by simp)).head
      have e : printElements (d + 1) (w :: ws) ++ 93 :: rest =
          c :: (b ++ ((if ws.isEmpty then [] else [44, 32] ++ printElements (d + 1) ws) ++ 93 :: rest)) := by
        rw [printElements_cons, hcb]; simp
      rw [e, skipWs_cons hc]
      split
      · rename_i heq; exact absurd (List.cons.inj heq).1 hc93
      · rw [← e]
        refine parseElements_print hs (fun u hu => ih u hu (d + 1)) f [] rest (by simp) ?_
        simp [printValue] at hf; omega
  | @object depth child hd hk h ih =>
    rintro d (_ | f) rest hf -
    · simp [printValue] at hf
    simp only [printValue, List.append_assoc, List.singleton_append, List.cons_append,
      List.nil_append, parseValue.eq_4, ascii_null, ascii_false, ascii_true, List.take_succ_cons, List.cons.injEq,
      show (123 : UInt8) ≠ 110 by decide, show (123 : UInt8) ≠ 102 by decide,
      show (123 : UInt8) ≠ 116 by decide, false_and, if_false, show ¬nestingLimit ≤ depth by omega,
      skipWs_cons_ws (show (10 : UInt8).toNat ≤ 32 by decide)]
    cases child with
    | nil =>
      simp [printMembers, skipWs_append_ws (tabs_ws d),
        skipWs_cons (show 32 < (125 : UInt8).toNat by decide)]
    | cons m ms =>
      obtain ⟨Y, hY⟩ : ∃ Y,
          skipWs (printMembers (d + 1) (m :: ms) ++ (List.replicate d 9 ++ 125 :: rest)) = 34 :: Y := by
        simp only [printMembers, List.append_assoc, skipWs_append_ws (tabs_ws _),
          printString_eq (hk m (by simp)), List.cons_append, skipWs_cons (show 32 < (34 : UInt8).toNat by decide)]
        exact ⟨_, rfl⟩
      rw [hY]
      split
      · rename_i heq; exact absurd (List.cons.inj heq).1 (by decide)
      · rw [← hY]
        refine parseMembers_print hk (fun u hu => (h u hu).shape _) (fun u hu => ih u hu (d + 1))
          (tabs_ws d) f [] rest (by simp) ?_
        simp [printValue] at hf; omega


/-- `cJSON_ParseWithOpts` reads back what `cJSON_Print` writes, whether or not it requires the
text to end after the value. -/
theorem cJsonParseWithOpts_printValue {v : Item} (hv : Printable 0 v) (requireNullTerminated : Bool) :
    cJsonParseWithOpts true (printValue 0 v) requireNullTerminated = some v := by
  have hs := hv.shape 0
  obtain ⟨c, b, hcb, -, hef, -⟩ := hs.head
  have h₁ : skipUtf8Bom (cstr (printValue 0 v)) = printValue 0 v := by
    rw [cstr_eq_self hs.noNul, skipUtf8Bom, hcb]
    simp [List.take_succ_cons, hef]
  have h₂ : skipWs (printValue 0 v) = printValue 0 v := by simpa using hs.skipWs []
  have h₃ := hv.parseValue 0 (2 * (printValue 0 v).length + 1) [] (by omega) (by simp [Delimits])
  simp only [List.append_nil] at h₃
  simp only [cJsonParseWithOpts, h₁, h₂, h₃]
  simp [skipWs]

end Item
end MqttApp
