import MqttApp.CString

/-! # cJSON items

The part of cJSON the session code calls: the item tree, the builders (`cJSON_CreateObject`,
`cJSON_Add…ToObject`), the member lookups and `cJSON_Print`. An object keeps its members in the
order they were added or read, each under the C string of its key. A number keeps its text: the
decimal digits of the non-negative integers the program builds (all below `10^15`, which cJSON
prints in plain decimal), or the bytes `strtod` read; the program never uses the value of a number
it parsed.

The builders take the outcome of their allocation: a failed `cJSON_Add…ToObject` leaves the object
as it was, as cJSON does.
-/

namespace MqttApp

/-- A cJSON item (`cJSON_NULL`, `cJSON_False`/`cJSON_True`, `cJSON_Number`, `cJSON_String`,
`cJSON_Array`, `cJSON_Object`). -/
inductive Item where
  | null
  | bool (b : Bool)
  | number (text : Bytes)
  | string (valuestring : Bytes)
  | array (child : List Item)
  | object (child : List (Bytes × Item))
  deriving Repr

namespace Item

/-- `get_object_item`: the value of the first member whose key `cmp` finds equal to `name`. The
children of an array have no key and a scalar has no children, so both give `NULL`. -/
def getObjectItem (cmp : Bytes → Bytes → Int) (item : Item) (name : Bytes) : Option Item :=
  match item with
  | .object child => (child.find? fun m => cmp name m.1 == 0).map Prod.snd
  | _ => none

/-- `cJSON_GetObjectItem`, which matches keys ignoring ASCII case. -/
def cJsonGetObjectItem (item : Item) (name : Bytes) : Option Item :=
  getObjectItem caseInsensitiveStrcmp item name

/-- The decimal digits of `n`, as `cJSON_AddNumberToObject` prints an integer below `10^15`. -/
def decimal (n : Nat) : Bytes := (Nat.toDigits 10 n).map fun c => c.toNat.toUInt8

/-- `add_item_to_object` on an object: the member goes last, under the C string of `name`. -/
def addItemToObject (ok : Bool) (object : Option Item) (name : Bytes) (item : Item) : Option Item :=
  match object with
  | some (.object child) => if ok then some (.object (child ++ [(cstr name, item)])) else object
  | o => o

def cJsonAddStringToObject (ok : Bool) (object : Option Item) (name s : Bytes) : Option Item :=
  addItemToObject ok object name (.string (cstr s))

def cJsonAddNumberToObject (ok : Bool) (object : Option Item) (name : Bytes) (n : Nat) :
    Option Item :=
  addItemToObject ok object name (.number (decimal n))

def cJsonAddBoolToObject (ok : Bool) (object : Option Item) (name : Bytes) (b : Bool) :
    Option Item :=
  addItemToObject ok object name (.bool b)

/-- `cJSON_CreateObject`, `NULL` when its allocation fails. -/
def cJsonCreateObject (ok : Bool) : Option Item := if ok then some (.object []) else none

/-! ## Printing -/

/-- Lower-case hex digit, as `%x` prints it. -/
def hexDigit (n : Nat) : UInt8 := if n < 10 then (48 + n).toUInt8 else (87 + n).toUInt8

/-- How `print_string_ptr` writes one byte of a string. -/
def escapeByte (c : UInt8) : Bytes :=
  if c = 34 then [92, 34]
  else if c = 92 then [92, 92]
  else if c = 8 then [92, 98]
  else if c = 12 then [92, 102]
  else if c = 10 then [92, 110]
  else if c = 13 then [92, 114]
  else if c = 9 then [92, 116]
  else if c.toNat < 32 then [92, 117, 48, 48, hexDigit (c.toNat / 16), hexDigit (c.toNat % 16)]
  else [c]

/-- `print_string_ptr`: the C string in quotes, with `"`, `\` and every byte below 32 escaped. -/
def printString (s : Bytes) : Bytes := [34] ++ (cstr s).flatMap escapeByte ++ [34]

mutual
/-- `print_value` with `format = true`, as `cJSON_Print` calls it; `depth` is the nesting depth of
the printbuffer, which sets the indentation. -/
def printValue (depth : Nat) : Item → Bytes
  | .null => ascii "null"
  | .bool false => ascii "false"
  | .bool true => ascii "true"
  | .number text => text
  | .string s => printString s
  | .array child => [91] ++ printElements (depth + 1) child ++ [93]
  | .object child => [123, 10] ++ printMembers (depth + 1) child ++ List.replicate depth 9 ++ [125]

/-- The elements of `print_array`, separated by `", "`. -/
def printElements (depth : Nat) : List Item → Bytes
  | [] => []
  | [v] => printValue depth v
  | v :: vs => printValue depth v ++ [44, 32] ++ printElements depth vs

/-- The members of `print_object`: indentation, key, `":\t"`, value, a comma unless last, newline. -/
def printMembers (depth : Nat) : List (Bytes × Item) → Bytes
  | [] => []
  | (k, v) :: ms =>
    List.replicate depth 9 ++ printString k ++ [58, 9] ++ printValue depth v ++
      (if ms.isEmpty then [] else [44]) ++ [10] ++ printMembers depth ms
end

/-- `cJSON_Print`: the formatted text, `NULL` when its buffer cannot be allocated. -/
def cJsonPrint (ok : Bool) (item : Option Item) : Option Bytes :=
  match item with
  | some v => if ok then some (printValue 0 v) else none
  | none => none

end Item

end MqttApp
