import SnippetAssist.Snippet.Basic
import SnippetAssist.Json.Reader
import SnippetAssist.Json.Writer

/-!
# Snippets as JSON

The stored form of a snippet is an object with the fields `name`, `description`, `template`,
`category` and `tags`, or an array of the same values in that order. `tags` may be left out, and
the category may also be written as an object `{"custom": null}` with its name as the only key.
Fields that are not known are read over. A field given twice, a value of the wrong kind and a
snippet that fails its checks are all mismatches; the checks run after the closing bracket, and
text after the value is a grammar fault only when the snippet passed them.
-/

namespace SnippetAssist

/-- The fields of a stored snippet, before the snippet checks. -/
structure Draft where
  name : String
  description : String
  template : String
  category : Category
  tags : List String

/-- The snippet a draft stands for, if it passes the checks. -/
def Draft.toSnippet (d : Draft) : Except ValidationError Snippet :=
  Snippet.create d.name d.description d.template d.category d.tags

namespace Snippet

/-- The stored form of a snippet. -/
def toJson (s : Snippet) : Json.Value :=
  .obj [("name", .str s.name), ("description", .str s.description), ("template", .str s.template),
    ("category", .str s.category.name), ("tags", .arr (s.tags.map .str))]

/-- The text of the stored form. -/
def encode (s : Snippet) : String := s.toJson.render

end Snippet

namespace Draft

open Json Json.Reader

/-- The category named by `s`. -/
def categoryNamed (s : String) : Reader Category :=
  match Category.ofName? s with
  | some c => pure c
  | none => throw .mismatch

/-- Reads a category: its name as a string, or an object whose one key is the name and whose
value is `null`. A key that is not a string is a grammar fault. -/
def readCategory : Reader Category := do
  match ← next? with
  | none => throw .truncated
  | some '"' => do bump; categoryNamed (← string)
  | some '{' => do
    bump
    let c ← do
      match ← next? with
      | none => throw .truncated
      | some '"' => do bump; categoryNamed (← string)
      -- The name must be a string: nothing else is read in its place.
      | some _ => throw .malformed
    colon
    match ← next? with
    | none => throw .truncated
    | some 'n' => do bump; expectWord ['u', 'l', 'l']
    | some _ => invalidType
    match ← next? with
    | some '}' => bump
    | some _ => throw .malformed
    | none => throw .truncated
    pure c
  | some _ => throw .malformed

/-- The fields of a stored object read so far. -/
structure Partial where
  name : Option String := none
  description : Option String := none
  template : Option String := none
  category : Option Category := none
  tags : Option (List String) := none

/-- The draft once all fields are read: every field but `tags` is required. -/
def Partial.finish (p : Partial) : Reader Draft :=
  match p.name, p.description, p.template, p.category with
  | some n, some d, some t, some c => pure ⟨n, d, t, c, p.tags.getD []⟩
  | _, _, _, _ => throw .mismatch

/-- A field that must not have been read before. -/
def fresh (seen : Option α) : Reader Unit :=
  if seen.isSome then throw .mismatch else pure ()

/-- Reads the fields of a stored object up to its closing brace; `budget` is the fuel for a list
of tags or a skipped value. -/
def readFields (budget : Nat) : Nat → Bool → Partial → Reader Partial
  | 0, _, _ => throw .malformed
  | fuel + 1, first, p => do
    match ← nextKey first with
    | none => pure p
    | some "name" => do
      fresh p.name; colon; readFields budget fuel false { p with name := some (← text) }
    | some "description" => do
      fresh p.description; colon; readFields budget fuel false { p with description := some (← text) }
    | some "template" => do
      fresh p.template; colon; readFields budget fuel false { p with template := some (← text) }
    | some "category" => do
      fresh p.category; colon; readFields budget fuel false { p with category := some (← readCategory) }
    | some "tags" => do
      fresh p.tags; colon
      readFields budget fuel false { p with tags := some (← arrayOf text budget) }
    | some _ => do
      colon; skipValue budget []; readFields budget fuel false p

/-- Reads a stored array: name, description, template and category, then tags if present. -/
def readItems (budget : Nat) : Reader Draft := do
  let some n ← nextItem text true | throw .mismatch
  let some d ← nextItem text false | throw .mismatch
  let some t ← nextItem text false | throw .mismatch
  let some c ← nextItem readCategory false | throw .mismatch
  let tags ← nextItem (arrayOf text budget) false
  pure ⟨n, d, t, c, tags.getD []⟩

/-- Reads a stored snippet's fields, as an object or as an array. -/
def read (budget : Nat) : Reader Draft := do
  match ← next? with
  | none => throw .truncated
  | some '[' => do
    bump
    let d ← readItems budget
    closeArray
    pure d
  | some '{' => do
    bump
    let p ← readFields budget budget true {}
    let d ← p.finish
    closeObject
    pure d
  | some _ => invalidType

/-- The strings of an array value. -/
def stringsOf? : Json.Value → Option (List String)
  | .arr items => items.mapM Json.Value.getStr?
  | _ => none

/-- The category of a value: its name, or an object whose one key is the name over `null`. -/
def categoryOf? : Json.Value → Option Category
  | .str s => Category.ofName? s
  | .obj [(k, .null)] => Category.ofName? k
  | _ => none

/-- The draft a value stands for, if it has the stored form. -/
def ofValue? : Json.Value → Option Draft
  | .obj fields => do
    let get (k : String) : Option Json.Value := (fields.find? (·.1 == k)).map (·.2)
    let n ← (get "name").bind Json.Value.getStr?
    let d ← (get "description").bind Json.Value.getStr?
    let t ← (get "template").bind Json.Value.getStr?
    let c ← (get "category").bind categoryOf?
    let tags ← match get "tags" with
      | none => some []
      | some v => stringsOf? v
    pure ⟨n, d, t, c, tags⟩
  | .arr [n, d, t, c] => do
    pure ⟨← n.getStr?, ← d.getStr?, ← t.getStr?, ← categoryOf? c, []⟩
  | .arr [n, d, t, c, tags] => do
    pure ⟨← n.getStr?, ← d.getStr?, ← t.getStr?, ← categoryOf? c, ← stringsOf? tags⟩
  | _ => none

end Draft

namespace Snippet

/-- Reads a snippet from the text of its stored form. -/
def decode (s : String) : Except Json.Fault Snippet :=
  Json.readText (fun budget => do
    let d ← Draft.read budget
    match d.toSnippet with
    | .ok snippet => pure snippet
    | .error _ => throw .mismatch) s

/-- The snippet a JSON value stands for, if it has the stored form and passes the checks. -/
def ofValue? (v : Json.Value) : Option Snippet :=
  (Draft.ofValue? v).bind fun d => d.toSnippet.toOption

end Snippet

end SnippetAssist
