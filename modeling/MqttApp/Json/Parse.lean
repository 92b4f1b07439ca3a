import MqttApp.Json.Item

/-! # cJSON parsing

`cJSON_ParseWithOpts` of cJSON 1.7.18 on a C string, as recursive descent over the bytes that
remain: every parser returns the item it read and the input after it. Whitespace is every byte up to 32. `parse_string`
runs two loops, the first finding the closing quote (a backslash takes the next byte along), the
second decoding the escapes between the quotes, so a `\u` escape whose four digits run into the
closing quote fails. Arrays and objects stop at cJSON's nesting limit of 1000.

The mutual parsers carry fuel, one unit a call; `cJsonParseWithOpts` starts with twice the input
length and one more, which no parse can use up (each call consumes a byte, or calls one that does).
`cJSON_Parse` does not require the end of the input after the value: it ignores what follows.
-/

namespace MqttApp
namespace Item

/-- `CJSON_NESTING_LIMIT`. -/
def nestingLimit : Nat := 1000

/-- `buffer_skip_whitespace`. -/
def skipWs (b : Bytes) : Bytes := b.dropWhile fun c => c.toNat ≤ 32

def isDigit (c : UInt8) : Bool := 48 ≤ c.toNat && c.toNat ≤ 57

/-! ## Strings and numbers -/

/-- The first loop of `parse_string`, after the opening quote: the bytes up to the closing quote
and what follows it; a backslash takes the byte after it along. `NULL` when the input ends first. -/
def scanString : Bytes → Option (Bytes × Bytes)
  | [] => none
  | 34 :: rest => some ([], rest)
  | 92 :: c :: rest => (scanString rest).map fun (s, r) => (92 :: c :: s, r)
  | c :: rest => (scanString rest).map fun (s, r) => (c :: s, r)

/-- The value of a hex digit. -/
def hexValue (c : UInt8) : Option Nat :=
  if 48 ≤ c.toNat ∧ c.toNat ≤ 57 then some (c.toNat - 48)
  else if 65 ≤ c.toNat ∧ c.toNat ≤ 70 then some (c.toNat - 55)
  else if 97 ≤ c.toNat ∧ c.toNat ≤ 102 then some (c.toNat - 87)
  else none

/-- `parse_hex4`, which gives 0 as soon as a byte is not a hex digit. -/
def parseHex4 (a b c d : UInt8) : Nat :=
  match hexValue a, hexValue b, hexValue c, hexValue d with
  | some a, some b, some c, some d => ((a * 16 + b) * 16 + c) * 16 + d
  | _, _, _, _ => 0

/-- The UTF-8 encoding of a code point, as `utf16_literal_to_utf8` writes it. -/
def utf8Encode (cp : Nat) : Bytes :=
  if cp < 0x80 then [cp.toUInt8]
  else if cp < 0x800 then [(0xC0 + cp / 64).toUInt8, (0x80 + cp % 64).toUInt8]
  else if cp < 0x10000 then
    [(0xE0 + cp / 4096).toUInt8, (0x80 + cp / 64 % 64).toUInt8, (0x80 + cp % 64).toUInt8]
  else
    [(0xF0 + cp / 262144).toUInt8, (0x80 + cp / 4096 % 64).toUInt8, (0x80 + cp / 64 % 64).toUInt8,
      (0x80 + cp % 64).toUInt8]

/-- A one-byte escape `\c` of `parse_string`. -/
def simpleEscape (c : UInt8) : Option UInt8 :=
  if c = 98 then some 8
  else if c = 102 then some 12
  else if c = 110 then some 10
  else if c = 114 then some 13
  else if c = 116 then some 9
  else if c = 34 ∨ c = 92 ∨ c = 47 then some c
  else none

/-- The second loop of `parse_string` over the bytes between the quotes. A `\u` escape needs its
six bytes before the closing quote; a high surrogate needs a `\u` low surrogate after it. A
backslash left last by a `\u` escape reads the closing quote as its escaped byte. -/
def decodeString : Bytes → Option Bytes
  | [] => some []
  | 92 :: 117 :: h₁ :: h₂ :: h₃ :: h₄ :: rest =>
    let first := parseHex4 h₁ h₂ h₃ h₄
    if 0xDC00 ≤ first ∧ first ≤ 0xDFFF then none
    else if 0xD800 ≤ first ∧ first ≤ 0xDBFF then
      match rest with
      | 92 :: 117 :: g₁ :: g₂ :: g₃ :: g₄ :: rest' =>
        let second := parseHex4 g₁ g₂ g₃ g₄
        if second < 0xDC00 ∨ 0xDFFF < second then none
        else (decodeString rest').map
          (utf8Encode (0x10000 + (first % 1024) * 1024 + second % 1024) ++ ·)
      | _ => none
    else (decodeString rest).map (utf8Encode first ++ ·)
  | 92 :: 117 :: _ => none
  | [92] => some [34]
  | 92 :: c :: rest =>
    match simpleEscape c with
    | some d => (decodeString rest).map (d :: ·)
    | none => none
  | c :: rest => (decodeString rest).map (c :: ·)

/-- `parse_string` after the opening quote: the decoded string and the input after the closing
quote. -/
def parseString (b : Bytes) : Option (Bytes × Bytes) :=
  match scanString b with
  | some (s, rest) => (decodeString s).map fun d => (d, rest)
  | none => none

def isNumberByte (c : UInt8) : Bool :=
  isDigit c || c = 43 || c = 45 || c = 101 || c = 69 || c = 46

def digitsLength (b : Bytes) : Nat := (b.takeWhile isDigit).length

/-- How many bytes `strtod` converts from the start of `b`: an optional sign, digits with at most
one point and at least one digit, and an exponent only when digits follow its optional sign; 0 when
there is no number. -/
def strtodLength (b : Bytes) : Nat :=
  let sign := if b.head? = some 43 ∨ b.head? = some 45 then 1 else 0
  let b₁ := b.drop sign
  let int := digitsLength b₁
  let b₂ := b₁.drop int
  let frac := if b₂.head? = some 46 then 1 + digitsLength (b₂.drop 1) else 0
  if int = 0 ∧ frac ≤ 1 then 0
  else
    let b₃ := b₂.drop frac
    let expSign := if (b₃.drop 1).head? = some 43 ∨ (b₃.drop 1).head? = some 45 then 1 else 0
    let expDigits := digitsLength (b₃.drop (1 + expSign))
    let exp := if (b₃.head? = some 101 ∨ b₃.head? = some 69) ∧ 0 < expDigits then
      1 + expSign + expDigits else 0
    sign + int + frac + exp

/-- `parse_number`: the bytes that can belong to a number are copied, then `strtod` decides how
many of them it converts. The copy is as long as the number (cJSON 1.7.18 allocates it; earlier
releases copy into `number_c_string[64]` and so cut a number of 64 bytes or more). -/
def parseNumber (b : Bytes) : Option (Item × Bytes) :=
  let n := strtodLength (b.takeWhile isNumberByte)
  if n = 0 then none else some (.number (b.take n), b.drop n)

/-! ## Values -/

mutual
/-- `parse_value` at the first byte of a value, `depth` containers deep. -/
def parseValue : Nat → Nat → Bytes → Option (Item × Bytes)
  | 0, _, _ => none
  | fuel + 1, depth, b =>
    if b.take 4 = ascii "null" then some (.null, b.drop 4)
    else if b.take 5 = ascii "false" then some (.bool false, b.drop 5)
    else if b.take 4 = ascii "true" then some (.bool true, b.drop 4)
    else match b with
      | 34 :: rest => (parseString rest).map fun (s, r) => (.string s, r)
      | 91 :: rest =>
        if nestingLimit ≤ depth then none
        else match skipWs rest with
          | 93 :: r => some (.array [], r)
          | r => parseElements fuel (depth + 1) [] r
      | 123 :: rest =>
        if nestingLimit ≤ depth then none
        else match skipWs rest with
          | 125 :: r => some (.object [], r)
          | r => parseMembers fuel (depth + 1) [] r
      | c :: _ => if c = 45 ∨ isDigit c then parseNumber b else none
      | [] => none

/-- The element loop of `parse_array`, at the first byte of an element. -/
def parseElements : Nat → Nat → List Item → Bytes → Option (Item × Bytes)
  | 0, _, _, _ => none
  | fuel + 1, depth, acc, b =>
    match parseValue fuel depth b with
    | some (v, r) =>
      match skipWs r with
      | 44 :: r' => parseElements fuel depth (acc ++ [v]) (skipWs r')
      | 93 :: r' => some (.array (acc ++ [v]), r')
      | _ => none
    | none => none

/-- The member loop of `parse_object`, at the opening quote of a key. -/
def parseMembers : Nat → Nat → List (Bytes × Item) → Bytes → Option (Item × Bytes)
  | 0, _, _, _ => none
  | fuel + 1, depth, acc, b =>
    match b with
    | 34 :: rest =>
      match parseString rest with
      | some (k, r) =>
        match skipWs r with
        | 58 :: r' =>
          match parseValue fuel depth (skipWs r') with
          | some (v, r'') =>
            match skipWs r'' with
            | 44 :: r₃ => parseMembers fuel depth (acc ++ [(k, v)]) (skipWs r₃)
            | 125 :: r₃ => some (.object (acc ++ [(k, v)]), r₃)
            | _ => none
          | none => none
        | _ => none
      | none => none
    | _ => none
end

/-- `skip_utf8_bom`. -/
def skipUtf8Bom (b : Bytes) : Bytes := if b.take 3 = [0xEF, 0xBB, 0xBF] then b.drop 3 else b

/-- `cJSON_ParseWithOpts(value, NULL, require_null_terminated)`: the value at the start of the C
string `value`, after a byte-order mark and whitespace; with `requireNullTerminated`, only
whitespace may follow it. `ok` is the outcome of cJSON's allocations. -/
def cJsonParseWithOpts (ok : Bool) (value : Bytes) (requireNullTerminated : Bool) : Option Item :=
  let b := skipWs (skipUtf8Bom (cstr value))
  match parseValue (2 * b.length + 1) 0 b with
  | some (v, r) => if !ok || (requireNullTerminated && !(skipWs r).isEmpty) then none else some v
  | none => none

/-- `cJSON_Parse`, which accepts any bytes after the value. -/
def cJsonParse (ok : Bool) (value : Bytes) : Option Item := cJsonParseWithOpts ok value false

end Item
end MqttApp
