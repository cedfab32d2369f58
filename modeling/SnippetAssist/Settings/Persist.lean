import SnippetAssist.Settings.Store
import SnippetAssist.Snippet.Wire
import SnippetAssist.Usage

/-!
# Saving and loading

The usage counts and the custom snippets as the store keeps them. A missing key loads as empty.
Usage counts must read back whole, or loading fails with the reader's fault. Custom snippets are
stored as a JSON array; the array must read, but each snippet in it is checked on its own, and
one that does not have the stored form or fails the snippet checks is dropped.
-/

namespace SnippetAssist

/-- Why loading or saving failed. -/
inductive PersistenceError where
  /-- The store refused the call. -/
  | store (e : HostError)
  /-- The text under `key` does not read. -/
  | decode (key : String) (fault : Json.Fault)

/-- The text under a key, or the store's error. -/
def loadText [SettingsStore σ] (st : σ) (key : String) : Except PersistenceError (Option String) :=
  (SettingsStore.get st key).mapError .store

/-- The usage counts in the store. -/
def loadUsage [SettingsStore σ] (st : σ) : Except PersistenceError Usage := do
  match ← loadText st usageKey with
  | none => pure Usage.empty
  | some text => (Usage.decode text).mapError (.decode usageKey)

/-- Stores the usage counts. -/
def saveUsage [SettingsStore σ] (st : σ) (u : Usage) : Except PersistenceError σ :=
  (SettingsStore.set st usageKey u.encode).mapError .store

/-- The custom snippets in the store, those that read and pass the checks. -/
def loadCustomSnippets [SettingsStore σ] (st : σ) : Except PersistenceError (List Snippet) := do
  match ← loadText st customSnippetsKey with
  | none => pure []
  | some text =>
    let values ← (Json.readText Json.Reader.valueArray text).mapError (.decode customSnippetsKey)
    pure (values.filterMap Snippet.ofValue?)

/-- The stored text of a list of snippets. -/
def encodeSnippets (xs : List Snippet) : String := (Json.Value.arr (xs.map Snippet.toJson)).render

/-- Stores the custom snippets. -/
def saveCustomSnippets [SettingsStore σ] (st : σ) (xs : List Snippet) : Except PersistenceError σ :=
  (SettingsStore.set st customSnippetsKey (encodeSnippets xs)).mapError .store

end SnippetAssist
