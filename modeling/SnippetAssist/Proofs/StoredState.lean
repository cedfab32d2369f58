import SnippetAssist.Proofs.SnippetStoredForm
import SnippetAssist.Proofs.EngineRuns
import SnippetAssist.Proofs.RepositoryLaws

/-!
# What the store gives back

An engine keeps its custom snippets and its usage counts in a settings store and writes each of
them after every change. What it writes is enough: along every run, an engine made over the store
at that point has the same snippets, in the same order, and the same counts as the running engine
(`Engine.reopened_store_agrees`).

This rests on the store keeping what it is given (`SettingsStore.Faithful`: every write succeeds,
the key written reads back its text and the other keys are left alone; a store in memory is one
while it is told to fail neither reads nor writes), and on two invariants of what is written:

* counts with one entry per name and none beyond the limit (`Usage.Stored`), which read back from
  their text (`Usage.decode_encode`);
* a repository of the built-in snippets followed by custom snippets that pass the checks, no two of
  one name (`Repository.Stored`), which is the built-in snippets with its custom snippets added
  (`Repository.Stored.restore`).

An engine made over any store has both, and every operation keeps them, where a snippet added
passes the checks as every snippet `create` makes does (`Engine.Restorable`).
-/

namespace SnippetAssist

/-! ## Stores that keep what they are given -/

/-- A store whose writes succeed in every state `good` allows and keep such a state, and that
reads back what was written: the key written holds the text written, every other key what it
held before. -/
structure SettingsStore.Faithful {S : Type} [SettingsStore S] (good : S → Prop) : Prop where
  set_ok : ∀ st key text, good st → ∃ st', SettingsStore.set st key text = .ok st' ∧ good st' ∧
    SettingsStore.get st' key = .ok (some text) ∧
    ∀ k, k ≠ key → SettingsStore.get st' k = SettingsStore.get st k

namespace MemoryStore

theorem values_put (st : MemoryStore) (key text : String) :
    (st.put key text).values =
      if st.values.any (·.1 == key) then
        st.values.map (fun e => if e.1 == key then (key, text) else e)
      else st.values ++ [(key, text)] := rfl

/-- After a text is put under a key, that key holds it and every other key what it held. -/
theorem lookup_put (st : MemoryStore) (key text k : String) :
    (st.put key text).lookup k = if k = key then some text else st.lookup k := by
  unfold lookup
  rw [values_put, find?_upsert]
  split <;> rfl

/-- A store in memory keeps what it is given while it is told to fail neither reads nor writes. -/
theorem faithful :
    SettingsStore.Faithful (fun st : MemoryStore => st.failGet = false ∧ st.failSet = false) := by
  refine ⟨fun st key text ⟨hget, hset⟩ => ?_⟩
  refine ⟨{ st.put key text with writes := st.writes + 1 }, ?_, ⟨hget, hset⟩, ?_, ?_⟩
  · show (if st.failSet then _ else _) = _
    rw [hset]
    rfl
  · show (if st.failGet then _ else _) = _
    rw [hget]
    show Except.ok ((st.put key text).lookup key) = _
    rw [lookup_put, if_pos rfl]
  · intro k hk
    show (if st.failGet then _ else _) = (if st.failGet then _ else _)
    rw [hget]
    show Except.ok ((st.put key text).lookup k) = _
    rw [lookup_put, if_neg hk]
    rfl

end MemoryStore

/-! ## Counts that read back -/

namespace Usage

open Json Json.Reader

/-- Counts as they can be stored and read back: one entry per name, none beyond the limit. -/
structure Stored (u : Usage) : Prop where
  keys_nodup : (u.entries.map (·.1)).Nodup
  le_limit : ∀ e ∈ u.entries, e.2 ≤ countLimit

theorem stored_empty : empty.Stored := ⟨List.nodup_nil, fun _ h => by cases h⟩

theorem entries_set (u : Usage) (name : String) (n : Nat) :
    (u.set name n).entries =
      if u.entries.any (·.1 == name) then
        u.entries.map (fun e => if e.1 == name then (name, n) else e)
      else u.entries ++ [(name, n)] := by
  unfold set
  split <;> rfl

/-- Recording a use keeps the counts storable. -/
theorem Stored.record {u : Usage} (h : u.Stored) (name : String) : (u.record name).2.Stored := by
  refine ⟨?_, fun e he => ?_⟩
  · rw [Usage.record, entries_set]
    exact nodup_keys_upsert _ _ h.keys_nodup
  · rw [Usage.record, entries_set] at he
    rcases mem_upsert _ _ he with he | rfl
    · exact h.le_limit e he
    · exact Nat.min_le_right _ _

theorem countLimit_le_wideMax : countLimit ≤ wideMax := by decide

/-- Counts that can be stored are read back from their stored form. -/
theorem decode_encode {u : Usage} (h : u.Stored) : decode u.encode = .ok u := by
  apply readText_of_apply
  have hjson : u.toJson = .obj (u.entries.map fun e => (e.1, .num (.nat e.2))) := rfl
  have hlen : u.entries.length < fuelFor u.encode.toList := by
    have := length_lt_render_obj (u.entries.map fun e => (e.1, Value.num (.nat e.2)))
    have := length_lt_fuelFor u.encode.toList
    rw [List.length_map] at *
    unfold encode at *
    rw [hjson] at *
    omega
  -- Each count is written as its digits, which `natUpTo` reads back within the limit.
  have hitem : ∀ e ∈ u.entries, ∀ rest, StopsNumber rest →
      natUpTo countLimit ((Value.num (.nat e.2)).render.toList ++ rest) = .ok (e.2, rest) := by
    intro e he rest hs
    have hrender : (Value.num (.nat e.2)).render.toList = e.2.repr.toList := rfl
    rw [hrender]
    exact natUpTo_repr (h.le_limit e he) (Nat.le_trans (h.le_limit e he) countLimit_le_wideMax) hs
  have hreadable : ∀ e ∈ u.entries, Value.Readable 0 (Value.num (.nat e.2)) := fun e he =>
    .nat (Nat.le_trans (h.le_limit e he) countLimit_le_wideMax)
  have hread : objectOf (natUpTo countLimit) (fuelFor u.encode.toList) (u.encode.toList ++ []) =
      .ok (u.entries, []) := by
    rw [encode, hjson]
    rw [encode, hjson] at hlen
    exact @objectOf_render Nat (natUpTo countLimit) (fun n => .num (.nat n)) 0 u.entries hreadable
      hitem h.keys_nodup _ hlen []
  rw [List.append_nil] at hread
  rw [bind_apply_ok hread]
  rfl

/-- Counts read from any text can be stored. -/
theorem stored_of_decode {s : String} {u : Usage} (h : decode s = .ok u) : u.Stored :=
  Json.readText_yields (fun fuel => yields_bind
    (yields_and (yields_objectOf_nodup _ fuel) (yields_objectOf (yields_natUpTo countLimit) fuel))
    fun _ hes => yields_pure ⟨hes.1, hes.2⟩) h

end Usage

/-! ## Repositories that read back -/

namespace Repository

/-- No built-in snippet is custom. -/
theorem isCustom_of_mem_builtin {s : Snippet} (h : s ∈ builtin.snippets) : s.isCustom = false := by
  have hall : ∀ t ∈ builtinSnippets, t.isCustom = false := by decide
  exact hall s ((firstOfEachName_sublist [] builtinSnippets).subset h)

/-- The custom snippets of a repository that holds the built-in snippets and then custom ones. -/
theorem custom_of_snippets_eq {r : Repository} {cs : List Snippet}
    (h : r.snippets = builtin.snippets ++ cs) (hc : ∀ s ∈ cs, s.isCustom = true) : r.custom = cs := by
  rw [custom, h, List.filter_append, List.filter_eq_nil_iff.2, List.filter_eq_self.2 hc,
    List.nil_append]
  intro s hs
  simp [isCustom_of_mem_builtin hs]

theorem isCustom_of_mem_custom {r : Repository} {s : Snippet} (h : s ∈ r.custom) :
    s.isCustom = true := (List.mem_filter.1 h).2

/-- A repository as the engine keeps it: the built-in snippets and then custom snippets that pass
the checks, no two of one name. -/
structure Stored (r : Repository) : Prop where
  snippets_eq : r.snippets = builtin.snippets ++ r.custom
  custom_valid : ∀ s ∈ r.custom, s.Valid
  names_nodup : r.names.Nodup

/-- The built-in snippets followed by custom snippets that pass the checks, with distinct names,
make a repository as the engine keeps it. -/
theorem stored_of_snippets_eq {r : Repository} {cs : List Snippet}
    (h : r.snippets = builtin.snippets ++ cs) (hc : ∀ s ∈ cs, s.isCustom = true)
    (hv : ∀ s ∈ cs, s.Valid) (hnd : r.names.Nodup) : r.Stored := by
  have hcustom := custom_of_snippets_eq h hc
  exact ⟨by rw [hcustom]; exact h, by rw [hcustom]; exact hv, hnd⟩

theorem stored_builtin : builtin.Stored :=
  stored_of_snippets_eq (List.append_nil _).symm (fun _ h => by cases h) (fun _ h => by cases h)
    (nodup_ofList _)

/-- Adding a snippet that passes the checks keeps the repository as the engine keeps it. -/
theorem Stored.addCustom {r r' : Repository} {s : Snippet} (h : r.Stored) (hs : s.Valid)
    (hadd : r.addCustom s = .ok r') : r'.Stored := by
  obtain ⟨hc, -, rfl⟩ := addCustom_ok hadd
  -- The new snippet goes after the custom snippets there were.
  have hsnip : (⟨r.snippets ++ [s]⟩ : Repository).snippets = builtin.snippets ++ (r.custom ++ [s]) := by
    rw [← List.append_assoc, ← h.snippets_eq]
  exact stored_of_snippets_eq hsnip
    (List.forall_mem_append.2 ⟨fun t ht => isCustom_of_mem_custom ht, List.forall_mem_singleton.2 hc⟩)
    (List.forall_mem_append.2 ⟨h.custom_valid, List.forall_mem_singleton.2 hs⟩)
    (addCustom_keeps h.names_nodup hadd).1

/-- What a successful removal found, and what it keeps. -/
theorem removeCustom_ok {r r' : Repository} {n : String} {s : Snippet}
    (h : r.removeCustom n = .ok (s, r')) :
    r.get? n = some s ∧ s.isCustom = true ∧ r' = ⟨r.snippets.filter (·.name != n)⟩ := by
  unfold removeCustom at h
  split at h
  · cases h
  · rename_i s' hget
    split at h
    · cases h
    · rename_i hc
      cases h
      exact ⟨hget, by simpa using hc, rfl⟩

/-- Removing a custom snippet keeps the repository as the engine keeps it. -/
theorem Stored.removeCustom {r r' : Repository} {n : String} {s : Snippet} (h : r.Stored)
    (hrm : r.removeCustom n = .ok (s, r')) : r'.Stored := by
  obtain ⟨hget, hc, rfl⟩ := removeCustom_ok hrm
  obtain ⟨hs, hn⟩ := (get?_eq_some_iff h.names_nodup n s).1 hget
  -- The snippet of that name is custom, so no built-in snippet has the name.
  have hkeep : builtin.snippets.filter (·.name != n) = builtin.snippets := by
    refine List.filter_eq_self.2 fun b hb => ?_
    have hb' : b ∈ r.snippets := by rw [h.snippets_eq]; exact List.mem_append_left _ hb
    simp only [bne_iff_ne, ne_eq]
    intro hbn
    have hbs := eq_of_name_eq h.names_nodup hb' hs (hbn.trans hn.symm)
    rw [← hbs, isCustom_of_mem_builtin hb] at hc
    cases hc
  have hsnip : (⟨r.snippets.filter (·.name != n)⟩ : Repository).snippets =
      builtin.snippets ++ r.custom.filter (·.name != n) := by
    show r.snippets.filter _ = _
    rw [h.snippets_eq, List.filter_append, hkeep]
  exact stored_of_snippets_eq hsnip (fun t ht => isCustom_of_mem_custom (List.mem_filter.1 ht).1)
    (fun t ht => h.custom_valid t (List.mem_filter.1 ht).1) (removeCustom_keeps h.names_nodup hrm).1

/-- Adding a batch of snippets that pass the checks keeps the repository as the engine keeps it. -/
theorem Stored.extendCustom {r : Repository} (h : r.Stored) {xs : List Snippet}
    (hxs : ∀ s ∈ xs, s.Valid) : (r.extendCustom xs).2.Stored := by
  induction xs generalizing r with
  | nil => exact h
  | cons x xs ih =>
    simp only [Repository.extendCustom]
    split
    · rename_i r' hadd
      exact ih (h.addCustom (hxs x (by simp)) hadd) fun s hs => hxs s (by simp [hs])
    · exact ih h fun s hs => hxs s (by simp [hs])

/-- Custom snippets with names new to the repository and to each other are all added, in order. -/
theorem extendCustom_fresh (cs : List Snippet) {r : Repository} (hc : ∀ s ∈ cs, s.isCustom = true)
    (hnd : ((r.snippets ++ cs).map (·.name)).Nodup) :
    (r.extendCustom cs).2 = ⟨r.snippets ++ cs⟩ := by
  induction cs generalizing r with
  | nil => simp [Repository.extendCustom]
  | cons c cs ih =>
    have hfree : c.name ∉ r.names := by
      rw [List.map_append, List.map_cons, List.nodup_middle] at hnd
      intro hmem
      exact (List.nodup_cons.1 hnd).1 (List.mem_append_left _ hmem)
    have hadd := (addCustom_eq_ok_iff c).2 ⟨hc c (by simp), hfree⟩
    simp only [Repository.extendCustom, hadd]
    rw [ih (fun s hs => hc s (by simp [hs])) (by simpa using hnd)]
    simp

/-- A repository as the engine keeps it is the built-in snippets with its custom snippets added. -/
theorem Stored.restore {r : Repository} (h : r.Stored) : (builtin.extendCustom r.custom).2 = r := by
  have hnd : ((builtin.snippets ++ r.custom).map (·.name)).Nodup := by
    rw [← h.snippets_eq]; exact h.names_nodup
  rw [extendCustom_fresh r.custom (fun s hs => isCustom_of_mem_custom hs) hnd, ← h.snippets_eq]

end Repository

/-! ## Loading -/

section Load

variable {S : Type} [SettingsStore S]

theorem loadUsage_congr {st₁ st₂ : S}
    (h : SettingsStore.get st₁ usageKey = SettingsStore.get st₂ usageKey) :
    loadUsage st₁ = loadUsage st₂ := by
  unfold loadUsage loadText
  rw [h]

theorem loadCustomSnippets_congr {st₁ st₂ : S}
    (h : SettingsStore.get st₁ customSnippetsKey = SettingsStore.get st₂ customSnippetsKey) :
    loadCustomSnippets st₁ = loadCustomSnippets st₂ := by
  unfold loadCustomSnippets loadText
  rw [h]

/-- Counts that can be stored are loaded back from their text. -/
theorem loadUsage_of_get {st : S} {u : Usage}
    (h : SettingsStore.get st usageKey = .ok (some u.encode)) (hu : u.Stored) :
    loadUsage st = .ok u := by
  unfold loadUsage loadText
  rw [h]
  show (Usage.decode u.encode).mapError (PersistenceError.decode usageKey) = _
  rw [Usage.decode_encode hu]
  rfl

/-- Snippets that pass the checks are loaded back from their text. -/
theorem loadCustomSnippets_of_get {st : S} {cs : List Snippet}
    (h : SettingsStore.get st customSnippetsKey = .ok (some (encodeSnippets cs)))
    (hcs : ∀ s ∈ cs, s.Valid) : loadCustomSnippets st = .ok cs := by
  have hvalues : Json.readText Json.Reader.valueArray (encodeSnippets cs) = .ok (cs.map Snippet.toJson) :=
    Json.valueArray_render fun v hv => by
      obtain ⟨s, -, rfl⟩ := List.mem_map.1 hv
      exact Snippet.readable_toJson s (by decide)
  have hkept : (cs.map Snippet.toJson).filterMap Snippet.ofValue? = cs := by
    rw [List.filterMap_map]
    trans cs.filterMap some
    · exact List.filterMap_congr fun s hs => Snippet.ofValue?_toJson (hcs s hs)
    · exact List.filterMap_some
  unfold loadCustomSnippets loadText
  rw [h]
  show (do
    let values ← (Json.readText Json.Reader.valueArray (encodeSnippets cs)).mapError
      (PersistenceError.decode customSnippetsKey)
    pure (values.filterMap Snippet.ofValue?)) = _
  rw [hvalues]
  show Except.ok ((cs.map Snippet.toJson).filterMap Snippet.ofValue?) = _
  rw [hkept]

/-- Loaded counts can be stored again. -/
theorem stored_of_loadUsage {st : S} {u : Usage} (h : loadUsage st = .ok u) : u.Stored := by
  unfold loadUsage at h
  cases ht : loadText st usageKey with
  | error e => rw [ht] at h; cases h
  | ok t =>
    rw [ht] at h
    cases t with
    | none => cases h; exact Usage.stored_empty
    | some text =>
      have h' : (Usage.decode text).mapError (PersistenceError.decode usageKey) = .ok u := h
      cases hd : Usage.decode text with
      | error f => rw [hd] at h'; cases h'
      | ok u' =>
        rw [hd] at h'
        cases h'
        exact Usage.stored_of_decode hd

/-- Loaded custom snippets pass the checks. -/
theorem valid_of_loadCustomSnippets {st : S} {cs : List Snippet} (h : loadCustomSnippets st = .ok cs) :
    ∀ s ∈ cs, s.Valid := by
  unfold loadCustomSnippets at h
  cases ht : loadText st customSnippetsKey with
  | error e => rw [ht] at h; cases h
  | ok t =>
    rw [ht] at h
    cases t with
    | none => cases h; intro s hs; cases hs
    | some text =>
      have h' : ((Json.readText Json.Reader.valueArray text).mapError
          (PersistenceError.decode customSnippetsKey) >>= fun values =>
            pure (values.filterMap Snippet.ofValue?)) = .ok cs := h
      cases hv : Json.readText Json.Reader.valueArray text with
      | error f => rw [hv] at h'; cases h'
      | ok values =>
        rw [hv] at h'
        cases h'
        intro s hs
        obtain ⟨v, -, hv⟩ := List.mem_filterMap.1 hs
        exact Snippet.valid_of_ofValue? hv

end Load

/-! ## Engines given back by their store -/

namespace Engine

variable {S σ : Type} [SettingsStore S] [EditorHost σ]

theorem new_repository (store : S) (caps : Capabilities) (config : EngineConfig) :
    (Engine.new store caps config).repository =
      ((loadCustomSnippets store).toOption.map fun cs =>
        (Repository.builtin.extendCustom cs).2).getD Repository.builtin := by
  unfold Engine.new
  cases loadCustomSnippets store <;> rfl

/-- An engine whose store gives it back: a new engine made over the store has its snippets and
its counts, and both are ones their stored forms read back. -/
structure Restorable (good : S → Prop) (e : Engine S) : Prop where
  good_store : good e.store
  repository_eq : ∀ caps config, (Engine.new e.store caps config).repository = e.repository
  usage_eq : ∀ caps config, (Engine.new e.store caps config).usage = e.usage
  repository_stored : e.repository.Stored
  usage_stored : e.usage.Stored

variable {good : S → Prop} {e : Engine S}

/-- Only the store, the snippets and the counts matter. -/
theorem Restorable.congr (h : e.Restorable good) {e' : Engine S} (hs : e'.store = e.store)
    (hr : e'.repository = e.repository) (hu : e'.usage = e.usage) : e'.Restorable good :=
  ⟨hs ▸ h.good_store, fun c f => by rw [hs, hr]; exact h.repository_eq c f,
    fun c f => by rw [hs, hu]; exact h.usage_eq c f, hr ▸ h.repository_stored,
    hu ▸ h.usage_stored⟩

/-- An engine is given back by the store it was made over. -/
theorem restorable_new {store : S} (hg : good store) (caps : Capabilities) (config : EngineConfig) :
    (Engine.new store caps config).Restorable good := by
  -- What a new engine loads depends on the store alone.
  refine ⟨hg, fun c f => rfl, fun c f => rfl, ?_, ?_⟩
  · rw [new_repository]
    cases h : loadCustomSnippets store with
    | error err => exact Repository.stored_builtin
    | ok cs => exact Repository.stored_builtin.extendCustom (valid_of_loadCustomSnippets h)
  · rw [new_usage]
    cases h : loadUsage store with
    | error err => exact Usage.stored_empty
    | ok u => exact stored_of_loadUsage h

theorem usageKey_ne_customSnippetsKey : usageKey ≠ customSnippetsKey := by decide

section Steps

variable (hf : SettingsStore.Faithful good)
include hf

/-- Storing counts that can be stored keeps the engine given back by its store. -/
theorem Restorable.persistUsage (h : e.Restorable good) {u : Usage} (hu : u.Stored) :
    ({ e with usage := u } : Engine S).persistUsage.Restorable good := by
  obtain ⟨st', hset, hgood, hget, hother⟩ := hf.set_ok e.store usageKey u.encode h.good_store
  have hp : ({ e with usage := u } : Engine S).persistUsage = { e with usage := u, store := st' } := by
    unfold Engine.persistUsage saveUsage
    rw [hset]
    rfl
  rw [hp]
  refine ⟨hgood, fun c f => ?_, fun c f => ?_, h.repository_stored, hu⟩
  · -- The custom snippets are under another key, which the write left alone.
    have hcustom := loadCustomSnippets_congr (hother customSnippetsKey
      usageKey_ne_customSnippetsKey.symm)
    have := h.repository_eq c f
    rw [new_repository] at this ⊢
    rw [hcustom]
    exact this
  · rw [new_usage, loadUsage_of_get hget hu]
    rfl

/-- Storing the custom snippets of a repository as the engine keeps it keeps the engine given back
by its store. -/
theorem Restorable.persistCustom (h : e.Restorable good) {repo : Repository} (hr : repo.Stored) :
    ({ e with repository := repo } : Engine S).persistCustom.Restorable good := by
  obtain ⟨st', hset, hgood, hget, hother⟩ :=
    hf.set_ok e.store customSnippetsKey (encodeSnippets repo.custom) h.good_store
  have hp : ({ e with repository := repo } : Engine S).persistCustom =
      { e with repository := repo, store := st' } := by
    unfold Engine.persistCustom saveCustomSnippets
    rw [hset]
    rfl
  rw [hp]
  refine ⟨hgood, fun c f => ?_, fun c f => ?_, hr, h.usage_stored⟩
  · rw [new_repository, loadCustomSnippets_of_get hget hr.custom_valid]
    exact hr.restore
  · -- The counts are under another key, which the write left alone.
    rw [new_usage, loadUsage_congr (hother usageKey usageKey_ne_customSnippetsKey), ← new_usage]
    exact h.usage_eq c f

/-- An insertion keeps the engine given back by its store: it changes nothing, or it counts the
use and stores the counts. -/
theorem Restorable.insert (h : e.Restorable good) (host : σ) (r : InsertRequest) :
    (e.insert host r).2.1.Restorable good := by
  have hp := h.persistUsage hf (h.usage_stored.record r.snippet)
  unfold Engine.insert
  cases hget : e.repository.get? r.snippet with
  | none => exact h
  | some s =>
    dsimp only
    split
    · exact h
    -- The edit went through: the counts are stored, and a session may start.
    · split
      · exact hp
      · exact hp.congr rfl rfl rfl

/-- Every operation keeps the engine given back by its store, where a snippet it adds passes the
checks. -/
theorem Restorable.apply (h : e.Restorable good) (op : Op) (hop : ∀ s, op = .addCustom s → s.Valid)
    (host : σ) : (op.apply e host).2.1.Restorable good := by
  cases op with
  | insert r => exact h.insert hf host r
  | resetUsage => exact h.persistUsage hf Usage.stored_empty
  | redetect caps =>
    rcases redetect_eq e host caps with heq | heq <;>
      simp only [Op.apply, heq] <;> exact h.congr rfl rfl rfl
  | startTabStops d o t =>
    rcases startTabStops_cases e host d o t with heq | heq <;>
      simp only [Op.apply, heq] <;> exact h.congr rfl rfl rfl
  | register outcome =>
    simp only [Op.apply, register_state]
    exact h.congr rfl rfl rfl
  | addCustom s =>
    show (e.addCustom s).2.Restorable good
    unfold Engine.addCustom
    split
    · exact h
    · rename_i repo hadd
      exact h.persistCustom hf (h.repository_stored.addCustom (hop s rfl) hadd)
  | removeCustom name =>
    show (e.removeCustom name).2.Restorable good
    unfold Engine.removeCustom
    split
    · exact h
    · rename_i s repo hrm
      exact h.persistCustom hf (h.repository_stored.removeCustom hrm)
  -- The rest change the navigator, the mode or the registration record at most.
  | nextStop => exact h.congr rfl rfl rfl
  | previousStop => exact h.congr rfl rfl rfl
  | exitTabStops => exact h.congr rfl rfl rfl
  | handleInput ev => exact h.congr rfl rfl rfl
  | complete r => exact h
  | completeAt source p => exact h
  | rank r => exact h
  | shutdown => exact h.congr rfl rfl rfl

/-- Every run keeps the engine given back by its store, where the snippets it adds pass the
checks. -/
theorem Restorable.run (ops : List Op) (hops : ∀ s, Op.addCustom s ∈ ops → s.Valid)
    (h : e.Restorable good) (host : σ) : (Engine.run ops e host).2.1.Restorable good := by
  induction ops generalizing e host with
  | nil => exact h
  | cons op ops ih =>
    rw [run_cons_state]
    exact ih (fun s hs => hops s (List.mem_cons_of_mem _ hs))
      (h.apply hf op (fun s hs => hops s (hs ▸ List.mem_cons_self)) host) _

end Steps

/-! ## The store gives the engine back -/

/-- Along every run of an engine made over any store that keeps what it is given, where every
snippet added passes the checks: an engine made over the store at that point, with any
capabilities and settings, has the same snippets in the same order and the same counts as the
running engine. -/
theorem reopened_store_agrees (hf : SettingsStore.Faithful good) {store : S}
    (hg : good store) (caps : Capabilities) (config : EngineConfig) (host : σ) (ops : List Op)
    (hops : ∀ s, Op.addCustom s ∈ ops → s.Valid) (caps' : Capabilities) (config' : EngineConfig) :
    let e := (run ops (Engine.new store caps config) host).2.1
    (Engine.new e.store caps' config').repository = e.repository ∧
      (Engine.new e.store caps' config').usage = e.usage := by
  intro e
  have h := (restorable_new hg caps config).run hf ops hops host
  exact ⟨h.repository_eq caps' config', h.usage_eq caps' config'⟩

/-- A custom snippet added, inserted, its count reset and inserted again: an engine made over the
store in memory at the end agrees with the running one. -/
theorem reopened_memory_store_agrees :
    let e := (run [.addCustom ⟨"greet", "Say hello", "print($1)", .custom, ["io"]⟩,
      .insert ⟨⟨1⟩, "greet", ⟨0, 0⟩⟩, .resetUsage, .insert ⟨⟨1⟩, "greet", ⟨0, 0⟩⟩]
      (Engine.new ({} : MemoryStore) ⟨true, ["apply_edit"]⟩ {}) ({} : MemoryEditor)).2.1
    (Engine.new e.store ⟨true, ["apply_edit"]⟩ {}).repository = e.repository ∧
      (Engine.new e.store ⟨true, ["apply_edit"]⟩ {}).usage = e.usage :=
  reopened_store_agrees MemoryStore.faithful ⟨rfl, rfl⟩ _ _ _ _
    (by intro s hs; simp at hs; subst hs; decide) _ _

end Engine

end SnippetAssist
