import SnippetAssist.Proofs.RepositoryLaws
import Mathlib.Data.Finset.Card

/-!
# Adding a batch of stored custom snippets

A batch of stored snippets is added one by one, each as a single addition would be: a snippet
that is not custom is refused, and so is one whose name is taken, by the repository or by a
snippet of the batch added before it. The batch as a whole does what making a repository from a
list does, to the custom snippets of the batch whose names the repository lacks
(`Repository.extendCustom_adds_first_new_custom`): it appends the first snippet of each such
name, in the order of the batch, and counts one per name. A snippet that is not custom is never
added and takes no name from a later custom snippet, since it is left out before names are
compared.
-/

namespace SnippetAssist

namespace Repository

/-! ## Collecting the first snippet of each name -/

/-- The names collected after `acc` are those of `acc` and those of the list. -/
theorem mem_names_firstOfEachName (acc ys : List Snippet) (n : String) :
    n ∈ (firstOfEachName acc ys).map (·.name) ↔ n ∈ acc.map (·.name) ∨ n ∈ ys.map (·.name) := by
  induction ys generalizing acc with
  | nil => simp
  | cons y ys ih =>
    rw [firstOfEachName_cons]
    split
    · rename_i hy
      -- `y` brings no name of its own: `acc` already holds it.
      have hy' := any_name_eq_iff.mp hy
      rw [ih, List.map_cons, List.mem_cons]
      constructor
      · rintro (h | h)
        · exact .inl h
        · exact .inr (.inr h)
      · rintro (h | rfl | h)
        · exact .inl h
        · exact .inl hy'
        · exact .inr h
    · simp only [ih, List.map_append, List.mem_append, List.map_cons, List.mem_cons, List.map_nil,
        List.not_mem_nil, or_false, or_assoc]

/-- A snippet collected after `acc` comes from `acc`, or has a name that `acc` lacks. -/
theorem mem_or_name_not_mem_of_mem_firstOfEachName {acc ys : List Snippet} {s : Snippet}
    (hs : s ∈ firstOfEachName acc ys) : s ∈ acc ∨ s.name ∉ acc.map (·.name) := by
  rw [firstOfEachName_eq, List.mem_append] at hs
  rcases hs with hs | hs
  · exact .inl hs
  · -- What comes after `acc` is drawn from the snippets whose names `acc` lacks.
    have hsub := (firstOfEachName_sublist [] _).subset hs
    rw [List.nil_append, List.mem_filter] at hsub
    exact .inr fun h => by simp [any_name_eq_iff.mpr h] at hsub

/-- A snippet collected after `acc` under a name that `acc` lacks is the first snippet of the
list with that name. -/
theorem find?_of_mem_firstOfEachName {acc ys : List Snippet} {s : Snippet}
    (hs : s ∈ firstOfEachName acc ys) (hfree : s.name ∉ acc.map (·.name)) :
    ys.find? (·.name == s.name) = some s := by
  induction ys generalizing acc with
  | nil => exact absurd (List.mem_map_of_mem hs) hfree
  | cons y ys ih =>
    rw [firstOfEachName_cons] at hs
    split at hs
    · rename_i hy
      -- `acc` holds the name of `y`, which is therefore not the name of `s`.
      have hne : y.name ≠ s.name := fun he => hfree (he ▸ any_name_eq_iff.mp hy)
      rw [List.find?_cons_of_neg (by simpa using hne)]
      exact ih hs hfree
    · by_cases hname : y.name = s.name
      · -- `y` is collected now, and `s` cannot be collected later under the same name.
        rw [List.find?_cons_of_pos (by simpa using hname)]
        rcases mem_or_name_not_mem_of_mem_firstOfEachName hs with hs' | hs'
        · rw [List.mem_append, List.mem_singleton] at hs'
          rcases hs' with hacc | rfl
          · exact absurd (List.mem_map_of_mem hacc) hfree
          · rfl
        · exact absurd (by simp [hname]) hs'
      · rw [List.find?_cons_of_neg (by simpa using hname)]
        exact ih hs (by simpa [Ne.symm hname] using hfree)

/-! ## Adding a batch -/

variable {r : Repository}

theorem extendCustom_nil (r : Repository) : r.extendCustom [] = (0, r) := rfl

theorem extendCustom_cons_ok {s : Snippet} {r' : Repository} (rest : List Snippet)
    (h : r.addCustom s = .ok r') :
    r.extendCustom (s :: rest) = ((r'.extendCustom rest).1 + 1, (r'.extendCustom rest).2) := by
  simp only [extendCustom, h]

theorem extendCustom_cons_error {s : Snippet} {err : ValidationError} (rest : List Snippet)
    (h : r.addCustom s = .error err) : r.extendCustom (s :: rest) = r.extendCustom rest := by
  simp only [extendCustom, h]

/-- Adding a batch collects the first snippet of each name among its custom snippets after the
repository's own, and counts what it collected. -/
theorem extendCustom_eq_firstOfEachName (r : Repository) (xs : List Snippet) :
    (r.extendCustom xs).2.snippets = firstOfEachName r.snippets (xs.filter (·.isCustom)) ∧
      r.snippets.length + (r.extendCustom xs).1 =
        (firstOfEachName r.snippets (xs.filter (·.isCustom))).length := by
  induction xs generalizing r with
  | nil => simp [extendCustom_nil]
  | cons x xs ih =>
    by_cases hc : x.isCustom = true
    · rw [List.filter_cons_of_pos hc, firstOfEachName_cons]
      by_cases hn : x.name ∈ r.names
      · -- Refused as a duplicate; the collection skips a name the repository holds.
        have herr : r.addCustom x = .error (.duplicate x.name) := by
          rw [addCustom_eq, if_neg (by simp [hn]), if_pos hc]
        rw [extendCustom_cons_error xs herr, if_pos (any_name_eq_iff.mpr hn)]
        exact ih r
      · have hok : r.addCustom x = .ok ⟨r.snippets ++ [x]⟩ := (addCustom_eq_ok_iff x).mpr ⟨hc, hn⟩
        rw [extendCustom_cons_ok xs hok, if_neg (fun h => hn (any_name_eq_iff.mp h))]
        obtain ⟨hsnip, hlen⟩ := ih ⟨r.snippets ++ [x]⟩
        refine ⟨hsnip, ?_⟩
        rw [← hlen, List.length_append, List.length_singleton]
        omega
    · have hc' : x.isCustom = false := by simpa using hc
      have herr : r.addCustom x = .error (.builtinImmutable x.name) := by
        rw [addCustom_eq, if_neg (by simp [hc']), if_neg (by simp [hc'])]
      rw [List.filter_cons_of_neg (by simpa using hc'), extendCustom_cons_error xs herr]
      exact ih r

/-- The custom snippets of a batch whose names the repository lacks. -/
theorem filter_filter_fresh (xs : List Snippet) :
    (xs.filter (·.isCustom)).filter (fun y => !r.snippets.any (·.name == y.name)) =
      xs.filter fun s => s.isCustom && !r.contains s.name := by
  rw [List.filter_filter]
  apply List.filter_congr
  intro s _
  simp only [contains, Bool.and_comm]

/-- A batch appends what a repository made from its new custom snippets holds. -/
theorem extendCustom_snippets (r : Repository) (xs : List Snippet) :
    (r.extendCustom xs).2.snippets =
      r.snippets ++ (ofList (xs.filter fun s => s.isCustom && !r.contains s.name)).snippets := by
  rw [(extendCustom_eq_firstOfEachName r xs).1, firstOfEachName_eq, filter_filter_fresh]
  rfl

/-- A batch counts the names of its new custom snippets, each once. -/
theorem extendCustom_count (r : Repository) (xs : List Snippet) :
    (r.extendCustom xs).1 =
      ((xs.filter fun s => s.isCustom && !r.contains s.name).map (·.name)).toFinset.card := by
  have hlen := (extendCustom_eq_firstOfEachName r xs).2
  rw [firstOfEachName_eq, List.length_append, filter_filter_fresh] at hlen
  -- The snippets collected from the new ones have distinct names, and just their names.
  have hnames : ((ofList (xs.filter fun s => s.isCustom && !r.contains s.name)).names).toFinset =
      ((xs.filter fun s => s.isCustom && !r.contains s.name).map (·.name)).toFinset := by
    ext n
    simp only [List.mem_toFinset, names, ofList, mem_names_firstOfEachName, List.map_nil,
      List.not_mem_nil, false_or]
  rw [← hnames, List.toFinset_card_of_nodup (nodup_ofList _), names, List.length_map]
  simp only [ofList]
  omega

/-- Searching the new custom snippets of a batch for a name the repository lacks finds the first
custom snippet of the whole batch with that name. -/
theorem find?_fresh {n : String} (hn : n ∉ r.names) (xs : List Snippet) :
    (xs.filter fun s => s.isCustom && !r.contains s.name).find? (·.name == n) =
      xs.find? (fun t => t.isCustom && t.name == n) := by
  rw [List.find?_filter]
  congr 1
  funext t
  -- A snippet bearing the new name is not refused for its name.
  by_cases htn : t.name = n
  · subst htn
    simp [(contains_iff t.name).not.mpr hn]
  · simp [htn]

/-- Each snippet a batch appends is custom, has a name the repository lacks, and is the first
custom snippet of the batch with that name; and every such snippet is appended. -/
theorem mem_extendCustom_added (r : Repository) (xs : List Snippet) (s : Snippet) :
    s ∈ (ofList (xs.filter fun s => s.isCustom && !r.contains s.name)).snippets ↔
      s.isCustom = true ∧ s.name ∉ r.names ∧
        xs.find? (fun t => t.isCustom && t.name == s.name) = some s := by
  constructor
  · intro hs
    have hsub := (firstOfEachName_sublist [] _).subset hs
    rw [List.nil_append, List.mem_filter, Bool.and_eq_true, Bool.not_eq_true',
      Bool.eq_false_iff, ne_eq, contains_iff] at hsub
    obtain ⟨-, hc, hn⟩ := hsub
    have hfind := find?_of_mem_firstOfEachName hs (by simp)
    rw [find?_fresh hn] at hfind
    exact ⟨hc, hn, hfind⟩
  · rintro ⟨hc, hn, hfind⟩
    -- The collection holds a snippet of the name of `s`, which is then the first one: `s`.
    have hmem : s.name ∈ (ofList (xs.filter fun s => s.isCustom && !r.contains s.name)).names := by
      rw [names, ofList, mem_names_firstOfEachName]
      refine .inr (List.mem_map.mpr ⟨s, List.mem_filter.mpr ⟨List.mem_of_find?_eq_some hfind, ?_⟩, rfl⟩)
      simp [hc, (contains_iff s.name).not.mpr hn]
    obtain ⟨t, ht, hts⟩ := mem_names.mp hmem
    have htfind := find?_of_mem_firstOfEachName ht (by simp)
    rw [hts, find?_fresh hn, hfind] at htfind
    exact Option.some.inj htfind ▸ ht

/-- Adding a batch of snippets to any repository appends, in the order of the batch, the first
custom snippet of each name the repository lacks, and nothing else: the snippets appended are
what a repository made from the custom snippets with new names holds, each of them is custom,
has a new name and is the first custom snippet of the batch with that name, and every such
snippet is appended. The repository's own snippets stay as they were, and the count returned is
the number of distinct names among the custom snippets of the batch that the repository lacks. -/
theorem extendCustom_adds_first_new_custom (r : Repository) (xs : List Snippet) :
    (r.extendCustom xs).2.snippets =
        r.snippets ++ (ofList (xs.filter fun s => s.isCustom && !r.contains s.name)).snippets ∧
      (r.extendCustom xs).1 =
        ((xs.filter fun s => s.isCustom && !r.contains s.name).map (·.name)).toFinset.card ∧
      ∀ s, s ∈ (ofList (xs.filter fun s => s.isCustom && !r.contains s.name)).snippets ↔
        s.isCustom = true ∧ s.name ∉ r.names ∧
          xs.find? (fun t => t.isCustom && t.name == s.name) = some s :=
  ⟨extendCustom_snippets r xs, extendCustom_count r xs, mem_extendCustom_added r xs⟩

end Repository

end SnippetAssist
