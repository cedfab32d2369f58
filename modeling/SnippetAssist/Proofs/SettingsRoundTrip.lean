import SnippetAssist.Proofs.StoredState
import SnippetAssist.Proofs.JsonFuel

/-!
# Saving and loading, one key at a time

What the engine writes to its settings store it reads back. On a store that keeps what it is given
(`SettingsStore.Faithful`), saving counts that can be stored and loading them gives the same counts,
and saving snippets that pass the checks and loading them gives the same snippets in the same
order.

Loading the custom snippets has four outcomes, decided by the store's answer and the text under the
key alone: the store's error when reading fails, no snippets when the key is missing, a decoding
fault when the text does not read as a JSON array, and otherwise the entries of the array that have
the stored form of a snippet and pass the snippet checks, in the array's order. One entry that does
not is dropped and takes none of the others with it. Whether the text reads as an array does not
hang on the fuel the reader is given (`loadCustomSnippets_decode_iff`).
-/

namespace SnippetAssist

variable {S : Type} [SettingsStore S]

/-! ## Saving -/

theorem saveUsage_of_set {st st' : S} {u : Usage}
    (h : SettingsStore.set st usageKey u.encode = .ok st') : saveUsage st u = .ok st' := by
  unfold saveUsage
  rw [h]
  rfl

theorem saveCustomSnippets_of_set {st st' : S} {xs : List Snippet}
    (h : SettingsStore.set st customSnippetsKey (encodeSnippets xs) = .ok st') :
    saveCustomSnippets st xs = .ok st' := by
  unfold saveCustomSnippets
  rw [h]
  rfl

/-! ## Loading the custom snippets -/

section Load

variable {st : S}

theorem loadCustomSnippets_of_get_error {e : HostError}
    (h : SettingsStore.get st customSnippetsKey = .error e) :
    loadCustomSnippets st = .error (.store e) := by
  unfold loadCustomSnippets loadText
  rw [h]
  rfl

theorem loadCustomSnippets_of_get_none (h : SettingsStore.get st customSnippetsKey = .ok none) :
    loadCustomSnippets st = .ok [] := by
  unfold loadCustomSnippets loadText
  rw [h]
  rfl

/-- What loading makes of a stored text: the array read from it, filtered entry by entry. -/
theorem loadCustomSnippets_of_get_some {text : String}
    (h : SettingsStore.get st customSnippetsKey = .ok (some text)) :
    loadCustomSnippets st = (Json.readText Json.Reader.valueArray text).mapError
      (PersistenceError.decode customSnippetsKey) >>= fun values =>
        pure (values.filterMap Snippet.ofValue?) := by
  unfold loadCustomSnippets loadText
  rw [h]
  rfl

theorem loadCustomSnippets_of_array {text : String} {values : List Json.Value}
    (h : SettingsStore.get st customSnippetsKey = .ok (some text))
    (hv : Json.readText Json.Reader.valueArray text = .ok values) :
    loadCustomSnippets st = .ok (values.filterMap Snippet.ofValue?) := by
  rw [loadCustomSnippets_of_get_some h, hv]
  rfl

theorem loadCustomSnippets_of_not_array {text : String} {f : Json.Fault}
    (h : SettingsStore.get st customSnippetsKey = .ok (some text))
    (hv : Json.readText Json.Reader.valueArray text = .error f) :
    loadCustomSnippets st = .error (.decode customSnippetsKey f) := by
  rw [loadCustomSnippets_of_get_some h, hv]
  rfl

/-- Loading fails to decode exactly when the text under the key does not read as an array of
values with any fuel of at least twice its length: the fault is the text's, never the fuel's. -/
theorem loadCustomSnippets_decode_iff {text : String}
    (h : SettingsStore.get st customSnippetsKey = .ok (some text)) {n : Nat}
    (hn : 2 * text.length ≤ n) (f : Json.Fault) :
    loadCustomSnippets st = .error (.decode customSnippetsKey f) ↔
      Json.readText (fun _ => Json.Reader.valueArray n) text = .error f := by
  rw [← Json.readText_valueArray_fuel text hn]
  cases hv : Json.readText Json.Reader.valueArray text with
  | ok values =>
    rw [loadCustomSnippets_of_array h hv]
    simp
  | error f' =>
    rw [loadCustomSnippets_of_not_array h hv]
    simp

/-- The snippets kept from the entries of an array pass the checks, and every entry that is the
stored form of a snippet that passes them is kept. -/
theorem filterMap_ofValue?_valid (values : List Json.Value) :
    (∀ s ∈ values.filterMap Snippet.ofValue?, s.Valid) ∧
      ∀ s : Snippet, s.Valid → s.toJson ∈ values → s ∈ values.filterMap Snippet.ofValue? := by
  refine ⟨fun s hs => ?_, fun s hs hmem => ?_⟩
  · obtain ⟨v, -, hv⟩ := List.mem_filterMap.mp hs
    exact Snippet.valid_of_ofValue? hv
  · exact List.mem_filterMap.mpr ⟨s.toJson, hmem, Snippet.ofValue?_toJson hs⟩

end Load

/-! ## Round trips -/

section RoundTrip

variable {good : S → Prop} (hf : SettingsStore.Faithful good) {st : S}
include hf

/-- Counts that can be stored are saved and loaded back unchanged. -/
theorem loadUsage_saveUsage (hg : good st) {u : Usage} (hu : u.Stored) :
    ∃ st', saveUsage st u = .ok st' ∧ loadUsage st' = .ok u := by
  obtain ⟨st', hset, -, hget, -⟩ := hf.set_ok st usageKey u.encode hg
  exact ⟨st', saveUsage_of_set hset, loadUsage_of_get hget hu⟩

/-- Snippets that pass the checks are saved and loaded back unchanged, in their order. -/
theorem loadCustomSnippets_saveCustomSnippets (hg : good st) {xs : List Snippet}
    (hxs : ∀ s ∈ xs, s.Valid) :
    ∃ st', saveCustomSnippets st xs = .ok st' ∧ loadCustomSnippets st' = .ok xs := by
  obtain ⟨st', hset, -, hget, -⟩ := hf.set_ok st customSnippetsKey (encodeSnippets xs) hg
  exact ⟨st', saveCustomSnippets_of_set hset, loadCustomSnippets_of_get hget hxs⟩

end RoundTrip

/-- On a store that keeps what it is given, counts that can be stored (one entry per name, none
beyond the limit) are saved and loaded back unchanged, and snippets that pass the checks are saved
and loaded back unchanged and in order. And on any store, loading the custom snippets gives the
store's error when reading fails, no snippets when the key is missing, a decoding fault when the
text under the key does not read as a JSON array, and otherwise, in the array's order, the entries
that have the stored form of a snippet and pass the snippet checks, dropping the others: the
snippets kept pass the checks, and the stored form of any snippet that passes them is kept. -/
theorem settings_round_trip_and_load {good : S → Prop} (hf : SettingsStore.Faithful good) {st : S}
    (hg : good st) :
    (∀ u : Usage, u.Stored → ∃ st', saveUsage st u = .ok st' ∧ loadUsage st' = .ok u) ∧
    (∀ xs : List Snippet, (∀ s ∈ xs, s.Valid) →
      ∃ st', saveCustomSnippets st xs = .ok st' ∧ loadCustomSnippets st' = .ok xs) ∧
    ∀ st₀ : S,
      (∀ e, SettingsStore.get st₀ customSnippetsKey = .error e →
        loadCustomSnippets st₀ = .error (.store e)) ∧
      (SettingsStore.get st₀ customSnippetsKey = .ok none → loadCustomSnippets st₀ = .ok []) ∧
      ∀ text, SettingsStore.get st₀ customSnippetsKey = .ok (some text) →
        (∀ values, Json.readText Json.Reader.valueArray text = .ok values →
          loadCustomSnippets st₀ = .ok (values.filterMap Snippet.ofValue?) ∧
            (∀ s ∈ values.filterMap Snippet.ofValue?, s.Valid) ∧
            ∀ s : Snippet, s.Valid → s.toJson ∈ values → s ∈ values.filterMap Snippet.ofValue?) ∧
        (∀ f, Json.readText Json.Reader.valueArray text = .error f →
          loadCustomSnippets st₀ = .error (.decode customSnippetsKey f)) :=
  ⟨fun _ hu => loadUsage_saveUsage hf hg hu,
    fun _ hxs => loadCustomSnippets_saveCustomSnippets hf hg hxs,
    fun _ => ⟨fun _ h => loadCustomSnippets_of_get_error h, loadCustomSnippets_of_get_none,
      fun _ h => ⟨fun values hv => ⟨loadCustomSnippets_of_array h hv, filterMap_ofValue?_valid values⟩,
        fun _ hv => loadCustomSnippets_of_not_array h hv⟩⟩⟩

/-- A store in memory, told to fail neither reads nor writes, keeps what it is given. -/
theorem settings_round_trip_and_load_in_memory :
    SettingsStore.Faithful (fun st : MemoryStore => st.failGet = false ∧ st.failSet = false) ∧
    (({} : MemoryStore).failGet = false ∧ ({} : MemoryStore).failSet = false) ∧
    (∀ u : Usage, u.Stored →
      ∃ st', saveUsage ({} : MemoryStore) u = .ok st' ∧ loadUsage st' = .ok u) ∧
    (∀ xs : List Snippet, (∀ s ∈ xs, s.Valid) →
      ∃ st', saveCustomSnippets ({} : MemoryStore) xs = .ok st' ∧ loadCustomSnippets st' = .ok xs) ∧
    ∀ st₀ : MemoryStore,
      (∀ e, SettingsStore.get st₀ customSnippetsKey = .error e →
        loadCustomSnippets st₀ = .error (.store e)) ∧
      (SettingsStore.get st₀ customSnippetsKey = .ok none → loadCustomSnippets st₀ = .ok []) ∧
      ∀ text, SettingsStore.get st₀ customSnippetsKey = .ok (some text) →
        (∀ values, Json.readText Json.Reader.valueArray text = .ok values →
          loadCustomSnippets st₀ = .ok (values.filterMap Snippet.ofValue?) ∧
            (∀ s ∈ values.filterMap Snippet.ofValue?, s.Valid) ∧
            ∀ s : Snippet, s.Valid → s.toJson ∈ values → s ∈ values.filterMap Snippet.ofValue?) ∧
        (∀ f, Json.readText Json.Reader.valueArray text = .error f →
          loadCustomSnippets st₀ = .error (.decode customSnippetsKey f)) :=
  ⟨MemoryStore.faithful, ⟨rfl, rfl⟩, settings_round_trip_and_load MemoryStore.faithful ⟨rfl, rfl⟩⟩

end SnippetAssist
