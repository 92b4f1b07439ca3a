import MqttApp.Json.Parse

/-! # The parser's fuel

cJSON's parsers recurse without a bound; the model's carry fuel, and `cJsonParseWithOpts` starts
`parse_value` with twice the input's length and one more. That is always enough. Every parser
returns less input than it was given; an array element costs two units and takes at least a
value's byte and a comma or the closing bracket, a member likewise, and a container's opening byte
pays for the unit its element loop needs. So from that fuel on more fuel changes no outcome, and
the model computes what cJSON's unbounded recursion computes, on any bytes and at any depth.
-/

namespace MqttApp
namespace Item

/-! ## Every parser consumes input -/

theorem skipWs_length_le (b : Bytes) : (skipWs b).length ≤ b.length :=
  (List.dropWhile_suffix _).length_le

theorem skipWs_eq_cons_length {b r : Bytes} {c : UInt8} (h : skipWs b = c :: r) :
    r.length < b.length := by
  have := skipWs_length_le b
  rw [h, List.length_cons] at this
  omega

theorem scanString_length {b s r : Bytes} (h : scanString b = some (s, r)) : r.length < b.length := by
  induction b using scanString.induct generalizing s with
  | case1 => cases h
  | case2 rest => cases h; simp
  | case3 c rest ih =>
    obtain ⟨⟨s', r'⟩, h', he⟩ := Option.map_eq_some'.1 (by rwa [scanString] at h)
    cases he
    have := ih h'
    simp only [List.length_cons]; omega
  | case4 c rest h34 h92 ih =>
    rw [scanString.eq_4 _ _ h34 h92] at h
    obtain ⟨⟨s', r'⟩, h', he⟩ := Option.map_eq_some'.1 h
    cases he
    simpa using Nat.lt_succ_of_lt (ih h')

theorem parseString_length {b s r : Bytes} (h : parseString b = some (s, r)) :
    r.length < b.length := by
  unfold parseString at h
  split at h
  · next s' r' hs =>
    obtain ⟨d, -, he⟩ := Option.map_eq_some'.1 h
    cases he
    exact scanString_length hs
  · cases h

theorem drop_length_lt_of_take {b p : Bytes} {n : Nat} (h : b.take n = p) (hp : 0 < p.length) :
    (b.drop n).length < b.length := by
  have := congrArg List.length h
  simp only [List.length_take, List.length_drop] at this ⊢
  omega

/-- A literal branch of `parse_value` consumes the literal's bytes. -/
theorem literal_shortens {b : Bytes} {n : Nat} {lit : String} {x : Item} {o : Option (Item × Bytes)}
    {v : Item} {r : Bytes} (hl : 0 < (ascii lit).length)
    (h : (if b.take n = ascii lit then some (x, b.drop n) else o) = some (v, r)) :
    r.length < b.length ∨ o = some (v, r) := by
  by_cases hb : b.take n = ascii lit
  · rw [if_pos hb] at h
    cases h
    exact .inl (drop_length_lt_of_take hb hl)
  · rw [if_neg hb] at h
    exact .inr h

theorem parseNumber_length {b r : Bytes} {v : Item} (h : parseNumber b = some (v, r)) :
    r.length < b.length := by
  dsimp only [parseNumber] at h
  split_ifs at h with hn
  cases h
  cases b with
  | nil => exact absurd rfl hn
  | cons c b => simp only [List.length_drop, List.length_cons]; omega

/-- Every parser returns less input than it was given. -/
theorem parse_shortens (f : Nat) :
    (∀ {d b v r}, parseValue f d b = some (v, r) → r.length < b.length) ∧
    (∀ {d acc b v r}, parseElements f d acc b = some (v, r) → r.length < b.length) ∧
    (∀ {d acc b v r}, parseMembers f d acc b = some (v, r) → r.length < b.length) := by
  induction f with
  | zero => exact ⟨(nomatch ·), (nomatch ·), (nomatch ·)⟩
  | succ f ih =>
    obtain ⟨hv, he, hm⟩ := ih
    refine ⟨fun {d b v r} h => ?value, fun {d acc b v r} h => ?elements,
      fun {d acc b v r} h => ?members⟩
    case value =>
      rw [parseValue.eq_def] at h
      dsimp only at h
      iterate 3
        refine (literal_shortens (by decide) h).elim id fun h => ?_
      split at h
      · -- a string
        obtain ⟨⟨s, r'⟩, h', he⟩ := Option.map_eq_some'.1 h
        cases he
        exact Nat.lt_succ_of_lt (parseString_length h')
      · -- an array
        split at h
        · cases h
        split at h
        · next r' hr => cases h; exact Nat.lt_succ_of_lt (skipWs_eq_cons_length hr)
        · exact Nat.lt_succ_of_lt (Nat.lt_of_lt_of_le (he h) (skipWs_length_le _))
      · -- an object
        split at h
        · cases h
        split at h
        · next r' hr => cases h; exact Nat.lt_succ_of_lt (skipWs_eq_cons_length hr)
        · exact Nat.lt_succ_of_lt (Nat.lt_of_lt_of_le (hm h) (skipWs_length_le _))
      · -- a number
        split at h
        · exact parseNumber_length h
        · cases h
      · cases h
    case elements =>
      unfold parseElements at h
      split at h
      · next v' r₀ h₀ =>
        have h₁ := hv h₀
        split at h
        · next r' hr =>
          have := he h
          have := skipWs_length_le r'
          have := skipWs_eq_cons_length hr
          omega
        · next r' hr => cases h; have := skipWs_eq_cons_length hr; omega
        · cases h
      · cases h
    case members =>
      unfold parseMembers at h
      split at h
      · split at h
        · next k r₀ h₀ =>
          have := parseString_length h₀
          split at h
          · next r' hr =>
            have := skipWs_eq_cons_length hr
            split at h
            · next v' r'' h'' =>
              have := hv h''
              have := skipWs_length_le r'
              split at h
              · next r₃ h₃ =>
                have := hm h
                have := skipWs_length_le r₃
                have := skipWs_eq_cons_length h₃
                simp only [List.length_cons]; omega
              · next r₃ h₃ =>
                cases h
                have := skipWs_eq_cons_length h₃
                simp only [List.length_cons]; omega
              · cases h
            · cases h
          · cases h
        · cases h
      · cases h
/-! ## Enough fuel -/

/-- The opening byte of a container pays for the unit its loop needs. -/
theorem container_fuel {c : UInt8} {rest : Bytes} {f : Nat} (hf : 2 * (c :: rest).length + 1 ≤ f + 1) :
    2 * (skipWs rest).length + 2 ≤ f := by
  have := skipWs_length_le rest
  simp only [List.length_cons] at hf
  omega

/-- From the bound on, one more unit of fuel changes no parser's outcome: `parse_value` needs
twice its input's length and one more, the element and member loops one more again. -/
theorem parse_fuel_succ (f : Nat) :
    (∀ {d b}, 2 * b.length + 1 ≤ f → parseValue (f + 1) d b = parseValue f d b) ∧
    (∀ {d acc b}, 2 * b.length + 2 ≤ f → parseElements (f + 1) d acc b = parseElements f d acc b) ∧
    (∀ {d acc b}, 2 * b.length + 2 ≤ f → parseMembers (f + 1) d acc b = parseMembers f d acc b) := by
  induction f with
  | zero => exact ⟨fun h => by omega, fun h => by omega, fun h => by omega⟩
  | succ f ih =>
    obtain ⟨hv, he, hm⟩ := ih
    obtain ⟨sv, -, -⟩ := parse_shortens f
    refine ⟨fun {d b} hf => ?value, fun {d acc b} hf => ?elements,
      fun {d acc b} hf => ?members⟩
    case value =>
      unfold parseValue
      congr 3
      split
      · rfl
      · -- an array
        split
        · rfl
        split
        · rfl
        · exact he (container_fuel hf)
      · -- an object
        split
        · rfl
        split
        · rfl
        · exact hm (container_fuel hf)
      · rfl
      · rfl
    case elements =>
      unfold parseElements
      rw [hv (by omega)]
      split
      · next v r h₀ =>
        have := sv h₀
        split
        · next r' hr =>
          have := skipWs_length_le r'
          have := skipWs_eq_cons_length hr
          exact he (by omega)
        · rfl
        · rfl
      · rfl
    case members =>
      unfold parseMembers
      split
      · next rest =>
        split
        · next k r h₀ =>
          have := parseString_length h₀
          split
          · next r' hr =>
            have := skipWs_eq_cons_length hr
            have := skipWs_length_le r'
            simp only [List.length_cons] at hf
            rw [hv (by omega)]
            split
            · next v r'' h'' =>
              have := sv h''
              split
              · next r₃ h₃ =>
                have := skipWs_length_le r₃
                have := skipWs_eq_cons_length h₃
                exact hm (by omega)
              · rfl
              · rfl
            · rfl
          · rfl
        · rfl
      · rfl

/-- The fuel `cJSON_ParseWithOpts` gives `parse_value` is enough: with any more, every parse of
any bytes at any depth has the same outcome, which is therefore the outcome of cJSON's recursion,
which has no bound. -/
theorem parseValue_fuel_enough {f : Nat} (depth : Nat) (b : Bytes) (h : 2 * b.length + 1 ≤ f) :
    parseValue f depth b = parseValue (2 * b.length + 1) depth b := by
  induction f, h using Nat.le_induction with
  | base => rfl
  | succ f hf ih => rw [(parse_fuel_succ f).1 hf, ih]

end Item
end MqttApp
