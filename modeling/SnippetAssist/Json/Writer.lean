import SnippetAssist.Json.Value
import SnippetAssist.Decimal.Shortest

/-!
# Writing JSON

Compact JSON text: no blank characters, fields in the order the object holds them. A string
escapes the quote and the backslash, writes backspace, form feed, line feed, carriage return and
tab as two-character escapes and every other control character as `\u00XX` with lowercase
digits; all other characters stand as they are. A double is written with the fewest digits that
read back (`Decimal.render`).
-/

namespace SnippetAssist.Json

/-- The lowercase hexadecimal digit of `n < 16`. -/
def hexDigit (n : Nat) : Char :=
  if n < 10 then Char.ofNat ('0'.toNat + n) else Char.ofNat ('a'.toNat + n - 10)

/-- The characters that stand for `c` inside a written string. -/
def escapeChar (c : Char) : List Char :=
  match c with
  | '"' => ['\\', '"']
  | '\\' => ['\\', '\\']
  | '\n' => ['\\', 'n']
  | '\r' => ['\\', 'r']
  | '\t' => ['\\', 't']
  | '\x08' => ['\\', 'b']
  | '\x0c' => ['\\', 'f']
  | c =>
    if c.toNat < 0x20 then ['\\', 'u', '0', '0', hexDigit (c.toNat / 16), hexDigit (c.toNat % 16)]
    else [c]

/-- A string written with its quotes. -/
def quote (s : String) : String :=
  String.ofList ('"' :: s.toList.flatMap escapeChar ++ ['"'])

/-- The text of a number. -/
def Number.render : Number → String
  | .nat n => Nat.repr n
  | .negInt i => toString i
  | .float x => Decimal.render x

mutual

/-- The compact text of a value. -/
def Value.render : Value → String
  | .null => "null"
  | .bool b => if b then "true" else "false"
  | .num n => n.render
  | .str s => quote s
  | .arr items => "[" ++ Value.renderItems items ++ "]"
  | .obj fields => "\x7b" ++ Value.renderFields fields ++ "\x7d"

/-- Items of an array, separated by commas. -/
def Value.renderItems : List Value → String
  | [] => ""
  | [v] => v.render
  | v :: vs => v.render ++ "," ++ Value.renderItems vs

/-- Fields of an object, separated by commas. -/
def Value.renderFields : List (String × Value) → String
  | [] => ""
  | [(k, v)] => quote k ++ ":" ++ v.render
  | (k, v) :: fs => quote k ++ ":" ++ v.render ++ "," ++ Value.renderFields fs

end

end SnippetAssist.Json
