import SnippetAssist.Json.Value
import SnippetAssist.Decimal.Scale
import SnippetAssist.Text.Utf8

/-!
# Reading JSON

A reader takes characters from the front of a text and either gives a value and the rest of the
text, or a fault of one of three kinds: the text breaks the grammar (`malformed`), the text ends
inside a value (`truncated`), or the text is JSON of another shape than was asked for
(`mismatch`).

Readers of typed shapes (a string, a small natural number, a list of strings, a record) read
exactly as far as the shape needs and report the first fault they meet, so a wrong shape found
early wins over a grammar error later in the text. When a reader meets a value of the wrong
kind it still reads that one token (a literal, a number, a string) and reports a grammar fault
in it first; an opening bracket is a mismatch at once.

Grammar rules, besides the JSON grammar itself:
* blank characters are space, tab, line feed and carriage return only;
* a number has no leading zero, at least one digit after a point and after an exponent mark,
  and its value must stay finite; integers keep their exact value when they fit 64 bits;
* a string holds no control character, and escapes of UTF-16 surrogates come in valid pairs;
* values nest at most 127 deep; a value that is skipped, not read, has no such limit and its
  numbers are checked for their grammar only.
-/

namespace SnippetAssist.Json

/-- The three ways a reader fails. -/
inductive Fault where
  /-- The text breaks the grammar of JSON. -/
  | malformed
  /-- The text ends before the value does. -/
  | truncated
  /-- The text is JSON, but not of the shape that was asked for. -/
  | mismatch
deriving DecidableEq, Repr

/-- A reader consumes characters from the front of a text and may fail with a fault. -/
abbrev Reader := StateT (List Char) (Except Fault)

namespace Reader

/-! ## Characters -/

/-- The four blank characters of JSON. -/
def isBlank (c : Char) : Bool := c = ' ' || c = '\n' || c = '\t' || c = '\r'

/-- An ASCII decimal digit. -/
def isDigit (c : Char) : Bool := '0' ≤ c && c ≤ '9'

/-- The value of a decimal digit. -/
def digitValue (c : Char) : Nat := c.toNat - '0'.toNat

/-- The value of a hexadecimal digit of either case. -/
def hexValue? (c : Char) : Option Nat :=
  if isDigit c then some (digitValue c)
  else if 'a' ≤ c && c ≤ 'f' then some (c.toNat - 'a'.toNat + 10)
  else if 'A' ≤ c && c ≤ 'F' then some (c.toNat - 'A'.toNat + 10)
  else none

/-- The value of four hexadecimal digits. -/
def hexQuad? (a b c d : Char) : Option Nat := do
  return (← hexValue? a) * 4096 + (← hexValue? b) * 256 + (← hexValue? c) * 16 + (← hexValue? d)

/-- The fault for an escape `\u` whose four digits cannot be read from `rest`: the text ends
when fewer than four bytes remain, otherwise the digits are wrong. -/
def hexFault (rest : List Char) : Fault :=
  if Text.byteLength (rest.take 4) < 4 then .truncated else .malformed

/-! ## Moving through the text -/

/-- The next character, not consumed. -/
def peek : Reader (Option Char) := return (← get).head?

/-- Consumes one character. -/
def bump : Reader Unit := modify List.tail

/-- Skips blank characters. -/
def skipBlank : Reader Unit := modify (List.dropWhile isBlank)

/-- The next character after blank characters, not consumed. -/
def next? : Reader (Option Char) := do skipBlank; peek

/-- Consumes the given characters, the rest of a literal such as `null`. -/
def expectWord : List Char → Reader Unit
  | [] => pure ()
  | c :: cs => do
    match ← peek with
    | none => throw .truncated
    | some d => if d = c then do bump; expectWord cs else throw .malformed

/-- Consumes the colon between a key and its value. -/
def colon : Reader Unit := do
  match ← next? with
  | some ':' => bump
  | some _ => throw .malformed
  | none => throw .truncated

/-- Consumes the bracket that closes an array. -/
def closeArray : Reader Unit := do
  match ← next? with
  | some ']' => bump
  | some _ => throw .malformed
  | none => throw .truncated

/-- Consumes the brace that closes an object. -/
def closeObject : Reader Unit := do
  match ← next? with
  | some '}' => bump
  | some _ => throw .malformed
  | none => throw .truncated

/-! ## Numbers -/

/-- The largest integer that a number keeps exactly. -/
def wideMax : Nat := Nat.pow 2 64 - 1

/-- The largest exponent that a number may spell out. -/
def exponentMax : Nat := Nat.pow 2 31 - 1

/-- The double for `significand · 10 ^ exponent`, or a fault when it overflows. -/
def scaled (positive : Bool) (significand : Nat) (exponent : Int) (rest : List Char) :
    Except Fault (Float × List Char) :=
  match Decimal.ofParts positive significand exponent with
  | some f => .ok (f, rest)
  | none => .error .malformed

/-- An exponent is kept within 32 signed bits. -/
def clampExponent (e : Int) : Int := max (-Int.pow 2 31) (min e (Int.pow 2 31 - 1))

/-- The digits of an exponent after its first, accumulated in `acc`. An exponent beyond
`exponentMax` gives zero when it points down or the significand is zero, and overflows else. -/
def exponentDigits (positive : Bool) (significand : Nat) (start : Int) (up : Bool) (acc : Nat) :
    List Char → Except Fault (Float × List Char)
  | c :: rest =>
    if isDigit c then
      let acc' := acc * 10 + digitValue c
      -- Past 32 bits the exponent settles the value: zero, or too large for a double.
      if acc' > exponentMax then
        if significand ≠ 0 && up then .error .malformed
        else .ok (if positive then 0.0 else -0.0, rest.dropWhile isDigit)
      else exponentDigits positive significand start up acc' rest
    else
      scaled positive significand (clampExponent (if up then start + acc else start - acc))
        (c :: rest)
  | [] => scaled positive significand (clampExponent (if up then start + acc else start - acc)) []

/-- The exponent after `e` or `E`: an optional sign, then at least one digit. -/
def exponentPart (positive : Bool) (significand : Nat) (start : Int) (cs : List Char) :
    Except Fault (Float × List Char) :=
  let (up, cs) := match cs with
    | '+' :: rest => (true, rest)
    | '-' :: rest => (false, rest)
    | rest => (true, rest)
  match cs with
  | [] => .error .truncated
  | c :: rest =>
    if isDigit c then exponentDigits positive significand start up (digitValue c) rest
    else .error .malformed

/-- After the digits of a number: an exponent, or the end of the number. -/
def afterDigits (positive : Bool) (significand : Nat) (exponent : Int) :
    List Char → Except Fault (Float × List Char)
  | 'e' :: rest => exponentPart positive significand exponent rest
  | 'E' :: rest => exponentPart positive significand exponent rest
  | rest => scaled positive significand exponent rest

/-- The digits after a decimal point, `count` of them read so far. Digits beyond what fits 64
bits are skipped. At least one digit must follow the point. -/
def fraction (positive : Bool) (significand : Nat) (start : Int) (count : Nat) :
    List Char → Except Fault (Float × List Char)
  | c :: rest =>
    if isDigit c then
      if significand * 10 + digitValue c > wideMax then
        afterDigits positive significand (start - count) ((c :: rest).dropWhile isDigit)
      else fraction positive (significand * 10 + digitValue c) start (count + 1) rest
    else if count = 0 then .error .malformed
    else afterDigits positive significand (start - count) (c :: rest)
  | [] => if count = 0 then .error .truncated else afterDigits positive significand (start - count) []

/-- A number whose integer digits do not fit 64 bits: the digits past the first nineteen or
twenty count as powers of ten. -/
def longInteger (positive : Bool) (significand : Nat) (cs : List Char) :
    Except Fault (Float × List Char) :=
  let extra := (cs.takeWhile isDigit).length
  match cs.dropWhile isDigit with
  | '.' :: rest => fraction positive significand extra 0 rest
  | rest => afterDigits positive significand extra rest

/-- What follows the integer digits of a number: a fraction, an exponent, or the end of an
integer. A negative integer below `-2^63`, and minus zero, become doubles. -/
def integerTail (positive : Bool) (significand : Nat) : List Char → Except Fault (Number × List Char)
  | '.' :: rest => (fraction positive significand 0 0 rest).map fun (f, r) => (.float f, r)
  | 'e' :: rest => (exponentPart positive significand 0 rest).map fun (f, r) => (.float f, r)
  | 'E' :: rest => (exponentPart positive significand 0 rest).map fun (f, r) => (.float f, r)
  | rest =>
    if positive then .ok (.nat significand, rest)
    -- Minus zero has no integer form.
    else if significand = 0 then .ok (.float (-0.0), rest)
    else if significand ≤ Nat.pow 2 63 then .ok (.negInt (-(significand : Int)), rest)
    else .ok (.float (-(Decimal.natToFloat significand)), rest)

/-- The integer digits of a number after the first. -/
def integerDigits (positive : Bool) (significand : Nat) : List Char → Except Fault (Number × List Char)
  | c :: rest =>
    if isDigit c then
      if significand * 10 + digitValue c > wideMax then
        (longInteger positive significand (c :: rest)).map fun (f, r) => (.float f, r)
      else integerDigits positive (significand * 10 + digitValue c) rest
    else integerTail positive significand (c :: rest)
  | [] => integerTail positive significand []

/-- Reads a number after its sign. A lone zero may not be followed by another digit. -/
def numberChars (positive : Bool) : List Char → Except Fault (Number × List Char)
  | [] => .error .truncated
  | '0' :: rest =>
    match rest with
    | c :: _ => if isDigit c then .error .malformed else integerTail positive 0 rest
    | [] => integerTail positive 0 []
  | c :: rest => if isDigit c then integerDigits positive (digitValue c) rest else .error .malformed

/-- Reads a number after its sign. -/
def number (positive : Bool) : Reader Number := numberChars positive

/-! ## Strings -/

/-- The characters of a string up to its closing quote, in `acc` reversed so far. -/
def stringChars (acc : List Char) : List Char → Except Fault (List Char × List Char)
  | [] => .error .truncated
  | '"' :: rest => .ok (acc.reverse, rest)
  | '\\' :: rest =>
    match rest with
    | [] => .error .truncated
    | '"' :: r => stringChars ('"' :: acc) r
    | '\\' :: r => stringChars ('\\' :: acc) r
    | '/' :: r => stringChars ('/' :: acc) r
    | 'b' :: r => stringChars ('\x08' :: acc) r
    | 'f' :: r => stringChars ('\x0c' :: acc) r
    | 'n' :: r => stringChars ('\n' :: acc) r
    | 'r' :: r => stringChars ('\r' :: acc) r
    | 't' :: r => stringChars ('\t' :: acc) r
    | 'u' :: a :: b :: c :: d :: r =>
      match hexQuad? a b c d with
      | none => .error .malformed
      | some n =>
        if 0xDC00 ≤ n ∧ n ≤ 0xDFFF then .error .malformed
        else if n < 0xD800 ∨ 0xDBFF < n then stringChars (Char.ofNat n :: acc) r
        else
          -- A high surrogate: the low one must follow as a second escape.
          match r with
          | '\\' :: 'u' :: e :: f :: g :: h :: r' =>
            match hexQuad? e f g h with
            | none => .error .malformed
            | some m =>
              if 0xDC00 ≤ m ∧ m ≤ 0xDFFF then
                stringChars (Char.ofNat (((n - 0xD800) * 1024 + (m - 0xDC00)) + 0x10000) :: acc) r'
              else .error .malformed
          | '\\' :: 'u' :: r' => .error (hexFault r')
          | ['\\'] => .error .truncated
          | [] => .error .truncated
          | _ => .error .malformed
    | 'u' :: r => .error (hexFault r)
    | _ :: _ => .error .malformed
  | c :: rest => if c.toNat < 0x20 then .error .malformed else stringChars (c :: acc) rest

/-- Reads a string after its opening quote. -/
def string : Reader String := fun cs =>
  (stringChars [] cs).map fun (chars, rest) => (String.ofList chars, rest)

/-! ## Skipping values -/

/-- Skips the rest of a string after its opening quote, checking its escapes but not the
surrogates they spell. -/
def skipStringChars : List Char → Except Fault (List Char)
  | [] => .error .truncated
  | '"' :: rest => .ok rest
  | '\\' :: rest =>
    match rest with
    | [] => .error .truncated
    | 'u' :: a :: b :: c :: d :: r =>
      if (hexQuad? a b c d).isSome then skipStringChars r else .error .malformed
    | 'u' :: r => .error (hexFault r)
    | e :: r =>
      if e = '"' || e = '\\' || e = '/' || e = 'b' || e = 'f' || e = 'n' || e = 'r' || e = 't'
      then skipStringChars r else .error .malformed
  | c :: rest => if c.toNat < 0x20 then .error .malformed else skipStringChars rest

/-- Skips the exponent digits of a skipped number: an optional sign, then at least one digit. -/
def skipExponent (cs : List Char) : Except Fault (List Char) :=
  let cs := match cs with
    | '+' :: rest => rest
    | '-' :: rest => rest
    | rest => rest
  match cs with
  | c :: rest => if isDigit c then .ok (rest.dropWhile isDigit) else .error .malformed
  | [] => .error .malformed

/-- Skips a fraction or exponent of a skipped number. -/
def skipNumberTail : List Char → Except Fault (List Char)
  | '.' :: rest =>
    if (rest.takeWhile isDigit).isEmpty then .error .malformed
    else
      match rest.dropWhile isDigit with
      | 'e' :: r => skipExponent r
      | 'E' :: r => skipExponent r
      | r => .ok r
  | 'e' :: rest => skipExponent rest
  | 'E' :: rest => skipExponent rest
  | rest => .ok rest

/-- Skips a number after its sign, checking its grammar only; here a text that ends early is a
grammar fault. -/
def skipNumberChars : List Char → Except Fault (List Char)
  | '0' :: rest =>
    match rest with
    | c :: _ => if isDigit c then .error .malformed else skipNumberTail rest
    | [] => .ok []
  | c :: rest =>
    if isDigit c then skipNumberTail (rest.dropWhile isDigit) else .error .malformed
  | [] => .error .malformed

/-- Skips a literal, number or string that starts with `c`. -/
def skipScalar (c : Char) : Reader Unit := do
  match c with
  | 'n' => bump; expectWord ['u', 'l', 'l']
  | 't' => bump; expectWord ['r', 'u', 'e']
  | 'f' => bump; expectWord ['a', 'l', 's', 'e']
  | '-' => bump; set (← skipNumberChars (← get))
  | '"' => bump; set (← skipStringChars (← get))
  | c => if isDigit c then set (← skipNumberChars (← get)) else throw .malformed

mutual

/-- Skips one value inside the open arrays and objects of `stack`, innermost first. -/
def skipValue : Nat → List Char → Reader Unit
  | 0, _ => throw .malformed
  | fuel + 1, stack => do
    match ← next? with
    | none => throw .truncated
    | some c =>
      if c = '[' || c = '{' then do bump; skipAfter fuel (c :: stack) false
      else do
        skipScalar c
        match stack with
        | [] => pure ()
        | _ => skipAfter fuel stack true

/-- After an item (or right after the opening bracket) of the innermost open array or object:
a comma and the next item, or the closing bracket. -/
def skipAfter : Nat → List Char → Bool → Reader Unit
  | 0, _, _ => throw .malformed
  | fuel + 1, stack, afterItem => do
    match stack with
    | [] => pure ()
    | frame :: outer =>
      match ← next? with
      | none => throw .truncated
      | some c =>
        if c = ',' && afterItem then do bump; skipItem fuel stack frame
        else if (c = ']' && frame = '[') || (c = '}' && frame = '{') then do
          bump
          match outer with
          | [] => pure ()
          | _ => skipAfter fuel outer true
        else if afterItem then throw .malformed
        else skipItem fuel stack frame

/-- Skips the next item of the innermost open array or object: for an object, its key and
colon first. -/
def skipItem : Nat → List Char → Char → Reader Unit
  | 0, _, _ => throw .malformed
  | fuel + 1, stack, frame => do
    if frame = '{' then
      match ← next? with
      | some '"' => do bump; set (← skipStringChars (← get))
      | some _ => throw .malformed
      | none => throw .truncated
      colon
    skipValue fuel stack

end

/-! ## Reading values -/

/-- The fault for a value of the wrong kind that starts here: a grammar fault inside its first
token if there is one, else a mismatch. -/
def invalidType : Reader α := do
  match ← peek with
  | some 'n' => bump; expectWord ['u', 'l', 'l']; throw .mismatch
  | some 't' => bump; expectWord ['r', 'u', 'e']; throw .mismatch
  | some 'f' => bump; expectWord ['a', 'l', 's', 'e']; throw .mismatch
  | some '-' => bump; let _ ← number false; throw .mismatch
  | some '"' => bump; let _ ← string; throw .mismatch
  -- A container is refused before any of it is read.
  | some '[' => throw .mismatch
  | some '{' => throw .mismatch
  | some c => if isDigit c then do let _ ← number true; throw .mismatch else throw .malformed
  | none => throw .malformed

/-- The next item of an array with `item`, or `none` at its closing bracket. -/
def nextItem (item : Reader α) (first : Bool) : Reader (Option α) := do
  match ← next? with
  | none => throw .truncated
  | some c =>
    if c = ']' then pure none
    else if first then some <$> item
    else if c = ',' then do
      bump
      match ← next? with
      | none => throw .truncated
      -- A comma right before the closing bracket.
      | some ']' => throw .malformed
      | some _ => some <$> item
    else throw .malformed

/-- The next key of an object, or `none` at its closing brace. -/
def nextKey (first : Bool) : Reader (Option String) := do
  match ← next? with
  | none => throw .truncated
  | some c =>
    if c = '}' then pure none
    else do
      let c ← if first then pure c
        else if c = ',' then do
          bump
          match ← next? with
          | none => throw .truncated
          | some d => pure d
        else throw .malformed
      if c = '"' then do bump; some <$> string
      else throw .malformed

/-- The nesting depth that a read value may reach, counting the outermost bracket as one. -/
def depthLimit : Nat := 128

mutual

/-- Reads one value. `depth` is what remains of the nesting limit. -/
def value : Nat → Nat → Reader Value
  | 0, _ => throw .malformed
  | fuel + 1, depth => do
    match ← next? with
    | none => throw .truncated
    | some 'n' => bump; expectWord ['u', 'l', 'l']; pure .null
    | some 't' => bump; expectWord ['r', 'u', 'e']; pure (.bool true)
    | some 'f' => bump; expectWord ['a', 'l', 's', 'e']; pure (.bool false)
    | some '-' => bump; return .num (← number false)
    | some '"' => bump; return .str (← string)
    | some '[' =>
      -- The bracket itself takes one level of the limit.
      if depth ≤ 1 then throw .malformed
      bump
      let items ← items fuel (depth - 1) true []
      closeArray
      pure (.arr items)
    | some '{' =>
      if depth ≤ 1 then throw .malformed
      bump
      let fields ← fields fuel (depth - 1) true []
      closeObject
      pure (.obj fields)
    | some c => if isDigit c then return .num (← number true) else throw .malformed

/-- Reads the items of an array up to its closing bracket, `acc` reversed so far. -/
def items : Nat → Nat → Bool → List Value → Reader (List Value)
  | 0, _, _, _ => throw .malformed
  | fuel + 1, depth, first, acc => do
    match ← nextItem (value fuel depth) first with
    | none => pure acc.reverse
    | some v => items fuel depth false (v :: acc)

/-- Reads the fields of an object up to its closing brace; a repeated key takes the later value. -/
def fields : Nat → Nat → Bool → List (String × Value) → Reader (List (String × Value))
  | 0, _, _, _ => throw .malformed
  | fuel + 1, depth, first, acc => do
    match ← nextKey first with
    | none => pure acc
    | some key =>
      colon
      let v ← value fuel depth
      fields fuel depth false (Value.setField key v acc)

end

/-! ## Typed shapes -/

/-- Reads a string value. -/
def text : Reader String := do
  match ← next? with
  | none => throw .truncated
  | some '"' => bump; string
  | some _ => invalidType

/-- Reads a natural number up to `limit`; a negative number, a fraction or a larger number is a
mismatch. -/
def natUpTo (limit : Nat) : Reader Nat := do
  match ← next? with
  | none => throw .truncated
  -- A negative number is read through, so that a grammar fault in it comes first.
  | some '-' => bump; let _ ← number false; throw .mismatch
  | some c =>
    if isDigit c then do
      match ← number true with
      | .nat n => if n ≤ limit then pure n else throw .mismatch
      | _ => throw .mismatch
    else invalidType

/-- Reads the items of an array with `item`, `acc` reversed so far. -/
def itemsOf (item : Reader α) : Nat → Bool → List α → Reader (List α)
  | 0, _, _ => throw .malformed
  | fuel + 1, first, acc => do
    match ← nextItem item first with
    | none => pure acc.reverse
    | some v => itemsOf item fuel false (v :: acc)

/-- Reads an array whose items `item` reads. -/
def arrayOf (item : Reader α) (fuel : Nat) : Reader (List α) := do
  match ← next? with
  | none => throw .truncated
  | some '[' => do
    bump
    let xs ← itemsOf item fuel true []
    closeArray
    pure xs
  | some _ => invalidType

/-- Reads the entries of an object whose values `item` reads; a repeated key takes the later
value in the place of the first. -/
def entriesOf (item : Reader α) : Nat → Bool → List (String × α) → Reader (List (String × α))
  | 0, _, _ => throw .malformed
  | fuel + 1, first, acc => do
    match ← nextKey first with
    | none => pure acc
    | some key =>
      colon
      let v ← item
      -- The first occurrence keeps its place and takes the later value.
      let acc := if acc.any (·.1 == key) then acc.map fun e => if e.1 == key then (key, v) else e
        else acc ++ [(key, v)]
      entriesOf item fuel false acc

/-- Reads an object whose values `item` reads. -/
def objectOf (item : Reader α) (fuel : Nat) : Reader (List (String × α)) := do
  match ← next? with
  | none => throw .truncated
  | some '{' => do
    bump
    let entries ← entriesOf item fuel true []
    closeObject
    pure entries
  | some _ => invalidType

/-- Reads an array of values of any kind. -/
def valueArray (fuel : Nat) : Reader (List Value) := do
  match ← next? with
  | none => throw .truncated
  | some '[' => do
    bump
    let xs ← items fuel (depthLimit - 1) true []
    closeArray
    pure xs
  | some _ => invalidType

/-- Enough fuel to read or skip the whole of `cs`. Each character is met by at most three
nested steps (skipping `[[` takes a value, the place after its bracket and the next item for
each bracket), so four steps per character never run out. -/
def fuelFor (cs : List Char) : Nat := 4 * cs.length + 4

end Reader

/-- Reads the whole text with `r`, which may be given the fuel for the text; blank characters
may stand around the value, anything else after it is a grammar fault. -/
def readText (r : Nat → Reader α) (s : String) : Except Fault α := do
  let cs := s.toList
  let (a, rest) ← r (Reader.fuelFor cs) cs
  if rest.all Reader.isBlank then pure a else throw .malformed

/-- Reads a whole text as one JSON value. -/
def Value.parse (s : String) : Except Fault Value :=
  readText (fun fuel => Reader.value fuel Reader.depthLimit) s

end SnippetAssist.Json
