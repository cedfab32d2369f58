import SnippetAssist.Json.Reader
import SnippetAssist.Json.Writer

/-!
# Usage counts

How often each snippet was inserted. A count stops at `2^32 - 1`. A name that was never recorded
counts zero and has no entry; a stored count of zero is an entry of its own.

The stored form is a JSON object from names to counts. Reading it refuses a count that is
negative, fractional or beyond `2^32 - 1`; a name given twice takes the later count.
-/

namespace SnippetAssist

/-- Counts per snippet name, one entry per name. -/
structure Usage where
  entries : List (String × Nat)
deriving Repr

namespace Usage

/-- The largest count. -/
def countLimit : Nat := 4294967295

/-- No counts. -/
def empty : Usage := ⟨[]⟩

/-- The count of a name, zero without an entry. -/
def count (u : Usage) (name : String) : Nat :=
  match u.entries.find? (·.1 == name) with
  | some (_, n) => n
  | none => 0

/-- The count of a name read by indexing, zero without an entry. -/
def index (u : Usage) (name : String) : Nat := ((u.entries.find? (·.1 == name)).map (·.2)).getD 0

/-- The number of entries. -/
def size (u : Usage) : Nat := u.entries.length

/-- No entries at all. -/
def isEmpty (u : Usage) : Bool := u.entries.isEmpty

/-- Sets the count of a name, in place if it has an entry, else at the end. -/
def set (u : Usage) (name : String) (n : Nat) : Usage :=
  if u.entries.any (·.1 == name) then
    ⟨u.entries.map fun e => if e.1 == name then (name, n) else e⟩
  else ⟨u.entries ++ [(name, n)]⟩

/-- Counts one more use of a name, stopping at the limit; gives the new count. -/
def record (u : Usage) (name : String) : Nat × Usage :=
  let n := min (u.count name + 1) countLimit
  (n, u.set name n)

/-- Forgets all counts. -/
def reset (_ : Usage) : Usage := empty

/-- The stored form. -/
def toJson (u : Usage) : Json.Value := .obj (u.entries.map fun (k, n) => (k, .num (.nat n)))

/-- The text of the stored form. -/
def encode (u : Usage) : String := u.toJson.render

/-- Reads counts from the text of their stored form. -/
def decode (s : String) : Except Json.Fault Usage :=
  Json.readText (fun budget => do
    let entries ← Json.Reader.objectOf (Json.Reader.natUpTo countLimit) budget
    pure ⟨entries⟩) s

end Usage

end SnippetAssist
