/-!
# JSON values

The values of the JSON format as the reader produces them. A number keeps the kind the reader
gave it: an integer that fits 64 unsigned bits, a negative integer that fits 64 signed bits, or
a double. An object keeps one entry per key; reading a key again replaces its value.
-/

namespace SnippetAssist.Json

/-- A JSON number, classified as the reader classifies it. -/
inductive Number where
  /-- An integer from `0` to `2^64 - 1`. -/
  | nat (n : Nat)
  /-- A negative integer from `-2^63` to `-1`. -/
  | negInt (i : Int)
  /-- Any other number, as a double. -/
  | float (x : Float)

/-- A JSON value. -/
inductive Value where
  | null
  | bool (b : Bool)
  | num (n : Number)
  | str (s : String)
  | arr (items : List Value)
  | obj (fields : List (String × Value))

namespace Value

/-- Sets `key` to `v` in a list of fields: an existing entry keeps its place and takes the new
value, a new key goes to the end. -/
def setField (key : String) (v : Value) : List (String × Value) → List (String × Value)
  | [] => [(key, v)]
  | (k, w) :: rest => if k = key then (k, v) :: rest else (k, w) :: setField key v rest

/-- The value stored under `key`, if `v` is an object that has one. -/
def field? (v : Value) (key : String) : Option Value :=
  match v with
  | .obj fields => (fields.find? (·.1 == key)).map (·.2)
  | _ => none

/-- The text of a string value. -/
def getStr? : Value → Option String
  | .str s => some s
  | _ => none

/-- The truth value of a boolean value. -/
def getBool? : Value → Option Bool
  | .bool b => some b
  | _ => none

/-- A non-negative integer value. -/
def getNat? : Value → Option Nat
  | .num (.nat n) => some n
  | _ => none

/-- The items of an array value. -/
def getArr? : Value → Option (List Value)
  | .arr items => some items
  | _ => none

/-- The fields of an object value. -/
def getObj? : Value → Option (List (String × Value))
  | .obj fields => some fields
  | _ => none

/-- An object from a list of fields, keys already distinct. -/
def ofFields (fields : List (String × Value)) : Value := .obj fields

theorem field?_setField_self (key : String) (v : Value) (fields : List (String × Value)) :
    (Value.obj (setField key v fields)).field? key = some v := by
  induction fields with
  | nil => simp [setField, field?]
  | cons kw rest ih =>
    obtain ⟨k, w⟩ := kw
    by_cases h : k = key
    · subst h; simp [setField, field?]
    · simp only [field?] at ih
      simp [setField, field?, h, ih]

end Value

end SnippetAssist.Json
