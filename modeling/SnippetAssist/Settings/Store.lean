import SnippetAssist.Host

/-!
# Settings stores

Where the engine keeps what it learns between sessions: a store of texts under string keys.
Reading and writing can both fail with a host error, and a failed write changes nothing.

`MemoryStore` keeps its texts in a list, counts the writes that succeeded, and can be told to
fail every read or every write.
-/

namespace SnippetAssist

/-- The operations of a settings store, on its state `σ`. -/
class SettingsStore (σ : Type) where
  /-- The text stored under a key, if any. -/
  get : σ → String → Except HostError (Option String)
  /-- Stores a text under a key. -/
  set : σ → String → String → Except HostError σ

/-- The key of the usage counts. -/
def usageKey : String := "snipkit.usage_stats"

/-- The key of the custom snippets. -/
def customSnippetsKey : String := "snipkit.custom_snippets"

/-- A settings store held in memory. -/
structure MemoryStore where
  values : List (String × String) := []
  writes : Nat := 0
  failGet : Bool := false
  failSet : Bool := false

namespace MemoryStore

/-- The text under a key. -/
def lookup (st : MemoryStore) (key : String) : Option String :=
  (st.values.find? (·.1 == key)).map (·.2)

/-- Puts a text under a key: in place if the key is present, else at the end. -/
def put (st : MemoryStore) (key text : String) : MemoryStore :=
  let values := if st.values.any (·.1 == key)
    then st.values.map fun e => if e.1 == key then (key, text) else e
    else st.values ++ [(key, text)]
  { st with values := values }

instance : SettingsStore MemoryStore where
  get st key := if st.failGet then .error ⟨"get", "settings unavailable"⟩ else .ok (st.lookup key)
  set st key text :=
    if st.failSet then .error ⟨"set", "settings unavailable"⟩
    else .ok { st.put key text with writes := st.writes + 1 }

end MemoryStore

end SnippetAssist
