import SnippetAssist.Snippet.Repository
import Mathlib.Data.List.Nodup

/-!
# Repository laws

A repository is its list of snippets, in enumeration order. This module says what that list is
after any sequence of changes, starting from a list of snippets (the built-in library is one):

* made from `x :: xs`, it holds `x` and then what `xs` gives once the snippets named like `x` are
  taken out, so it keeps the first snippet of each name, in order (`snippets_ofList_cons`);
* in every state a run reaches, no two snippets share a name, and then lookup and membership by
  name read the list, an addition appends exactly a custom snippet whose name is free, a removal
  takes out exactly the custom snippet of that name and keeps the others in their order, and
  removing what was just added gives back the repository as it was (`Repository.Lawful`);
* the snippets that are not custom stay as the repository was made with them: none is removed,
  none is added and their order is kept (`run_keeps`).
-/

namespace SnippetAssist

namespace Repository

/-! ## Made from a list -/

@[simp] theorem firstOfEachName_nil (acc : List Snippet) : firstOfEachName acc [] = acc := rfl

theorem firstOfEachName_cons (acc : List Snippet) (x : Snippet) (xs : List Snippet) :
    firstOfEachName acc (x :: xs) =
      if acc.any (·.name == x.name) then firstOfEachName acc xs
      else firstOfEachName (acc ++ [x]) xs := rfl

/-- Whether a snippet of `acc` has the name of `s`. -/
theorem any_name_eq_iff {acc : List Snippet} {s : Snippet} :
    acc.any (·.name == s.name) = true ↔ s.name ∈ acc.map (·.name) := by
  simp only [List.any_eq_true, beq_iff_eq, List.mem_map]

/-- Collecting the first of each name after `acc` gives a sublist of `acc` and the list. -/
theorem firstOfEachName_sublist (acc xs : List Snippet) :
    List.Sublist (firstOfEachName acc xs) (acc ++ xs) := by
  induction xs generalizing acc with
  | nil => simp
  | cons x xs ih =>
    rw [firstOfEachName_cons]
    split
    · exact (ih acc).trans (List.Sublist.append_left (List.sublist_cons_self x xs) acc)
    · simpa using ih (acc ++ [x])

/-- Collecting keeps the names apart when those of `acc` are apart. -/
theorem nodup_firstOfEachName {acc : List Snippet} (h : (acc.map (·.name)).Nodup)
    (xs : List Snippet) : ((firstOfEachName acc xs).map (·.name)).Nodup := by
  induction xs generalizing acc with
  | nil => simpa using h
  | cons x xs ih =>
    rw [firstOfEachName_cons]
    split
    · exact ih h
    · rename_i hx
      apply ih
      rw [List.map_append, List.map_singleton, List.nodup_append]
      refine ⟨h, List.nodup_singleton _, fun a ha b hb => ?_⟩
      rw [List.mem_singleton] at hb
      subst hb
      rintro rfl
      exact hx (any_name_eq_iff.mpr ha)

/-- Collecting after `acc` is `acc` followed by collecting the snippets whose names `acc` does
not hold. -/
theorem firstOfEachName_eq (acc xs : List Snippet) :
    firstOfEachName acc xs =
      acc ++ firstOfEachName [] (xs.filter fun y => !acc.any (·.name == y.name)) := by
  match xs with
  | [] => simp
  | x :: xs =>
    rw [firstOfEachName_cons]
    by_cases hx : acc.any (·.name == x.name) = true
    · rw [if_pos hx, List.filter_cons_of_neg (by simp [hx])]
      exact firstOfEachName_eq acc xs
    · rw [if_neg hx, List.filter_cons_of_pos (by simpa using hx), firstOfEachName_cons,
        if_neg (by simp), List.nil_append]
      -- Both sides collect `x` first; the rest is the same filter, taken once or twice.
      rw [firstOfEachName_eq (acc ++ [x]) xs, firstOfEachName_eq [x], List.filter_filter,
        List.append_assoc]
      simp only [List.singleton_append, List.any_append, List.any_cons, List.any_nil,
        Bool.or_false, Bool.not_or, Bool.and_comm]
termination_by xs.length
decreasing_by
  all_goals simp only [List.length_cons]
  all_goals first | omega | exact Nat.lt_succ_of_le (List.length_filter_le _ _)

/-- The repository made from `x :: xs` holds `x`, then the repository made from the snippets of
`xs` with another name than `x`. -/
theorem snippets_ofList_cons (x : Snippet) (xs : List Snippet) :
    (ofList (x :: xs)).snippets = x :: (ofList (xs.filter (·.name != x.name))).snippets := by
  simp only [ofList, firstOfEachName_cons, List.any_nil, Bool.false_eq_true, if_false,
    List.nil_append]
  rw [firstOfEachName_eq [x] xs]
  simp only [List.any_cons, List.any_nil, Bool.or_false, List.singleton_append]
  congr 2
  exact List.filter_congr fun y _ => bne_comm

theorem ofList_nil : (ofList []).snippets = [] := rfl

theorem nodup_ofList (xs : List Snippet) : (ofList xs).names.Nodup :=
  @nodup_firstOfEachName [] List.nodup_nil xs

/-! ## Lookup, addition and removal, with distinct names -/

section Distinct

variable {r : Repository}

theorem mem_names {n : String} : n ∈ r.names ↔ ∃ s ∈ r.snippets, s.name = n := by
  simp [names]

theorem contains_iff (n : String) : r.contains n = true ↔ n ∈ r.names := by
  simp [contains, mem_names]

/-- Two snippets of a repository with distinct names that share a name are the same. -/
theorem eq_of_name_eq (h : r.names.Nodup) {s t : Snippet} (hs : s ∈ r.snippets)
    (ht : t ∈ r.snippets) (hst : s.name = t.name) : s = t :=
  List.inj_on_of_nodup_map h hs ht hst

/-- With distinct names, the snippet found under a name is the one snippet of that name. -/
theorem get?_eq_some_iff (h : r.names.Nodup) (n : String) (s : Snippet) :
    r.get? n = some s ↔ s ∈ r.snippets ∧ s.name = n := by
  constructor
  · intro hg
    exact ⟨List.mem_of_find?_eq_some hg, by simpa using List.find?_some hg⟩
  · rintro ⟨hs, rfl⟩
    cases hf : r.get? s.name with
    | none =>
      have := List.find?_eq_none.mp hf s hs
      simp at this
    | some t =>
      have ht := List.mem_of_find?_eq_some hf
      have hname : t.name = s.name := by simpa using List.find?_some hf
      rw [eq_of_name_eq h ht hs hname]

theorem get?_eq_none_iff (n : String) : r.get? n = none ↔ n ∉ r.names := by
  simp [get?, List.find?_eq_none, mem_names]

/-- Adding appends a custom snippet whose name is free; it refuses a snippet that is not custom
first, then a name already taken. -/
theorem addCustom_eq (s : Snippet) :
    r.addCustom s =
      if s.isCustom = true ∧ s.name ∉ r.names then .ok ⟨r.snippets ++ [s]⟩
      else .error (if s.isCustom then .duplicate s.name else .builtinImmutable s.name) := by
  unfold addCustom
  by_cases hc : s.isCustom = true <;> by_cases hn : s.name ∈ r.names <;>
    simp [hc, hn, contains_iff]

theorem addCustom_eq_ok_iff (s : Snippet) :
    r.addCustom s = .ok ⟨r.snippets ++ [s]⟩ ↔ s.isCustom = true ∧ s.name ∉ r.names := by
  rw [addCustom_eq]
  split <;> simp_all

/-- What a successful addition does: the snippet was custom with a free name, and it is now last. -/
theorem addCustom_ok {s : Snippet} {r' : Repository} (h : r.addCustom s = .ok r') :
    s.isCustom = true ∧ s.name ∉ r.names ∧ r' = ⟨r.snippets ++ [s]⟩ := by
  rw [addCustom_eq] at h
  split at h
  · rename_i hnew
    exact ⟨hnew.1, hnew.2, (Except.ok.inj h).symm⟩
  · cases h

/-- With distinct names, taking out a name keeps every snippet before and after its snippet. -/
theorem filter_name_ne (h : r.names.Nodup) {pre post : List Snippet} {s : Snippet}
    (hr : r.snippets = pre ++ s :: post) :
    r.snippets.filter (·.name != s.name) = pre ++ post := by
  have hnd : ((pre ++ s :: post).map (·.name)).Nodup := hr ▸ h
  simp only [List.map_append, List.map_cons, List.nodup_append, List.nodup_cons,
    List.mem_cons, List.mem_map] at hnd
  obtain ⟨-, ⟨hpost, -⟩, hsep⟩ := hnd
  rw [hr, List.filter_append, List.filter_cons_of_neg (by simp),
    List.filter_eq_self.mpr, List.filter_eq_self.mpr]
  · intro t ht
    have : t.name ≠ s.name := fun he => hpost ⟨t, ht, he⟩
    simpa using this
  · intro t ht
    have : t.name ≠ s.name := fun he => hsep t.name ⟨t, ht, rfl⟩ s.name (.inl rfl) he
    simpa using this

/-- With distinct names, removing goes through exactly for the name of a custom snippet, gives
it back, and leaves the others where they were. -/
theorem removeCustom_eq_ok_iff (h : r.names.Nodup) (n : String) (s : Snippet) (r' : Repository) :
    r.removeCustom n = .ok (s, r') ↔
      ∃ pre post, r.snippets = pre ++ s :: post ∧ s.name = n ∧ s.isCustom = true ∧
        r'.snippets = pre ++ post := by
  constructor
  · intro hrm
    unfold removeCustom at hrm
    cases hg : r.get? n with
    | none => simp [hg] at hrm
    | some t =>
      by_cases hc : t.isCustom = true
      · simp only [hg, hc, Bool.not_true, Bool.false_eq_true, if_false, Except.ok.injEq,
          Prod.mk.injEq] at hrm
        obtain ⟨rfl, rfl⟩ := hrm
        obtain ⟨hs, rfl⟩ := (get?_eq_some_iff h n t).mp hg
        obtain ⟨pre, post, hr⟩ := List.append_of_mem hs
        exact ⟨pre, post, hr, rfl, hc, filter_name_ne h hr⟩
      · simp [hg, hc] at hrm
  · rintro ⟨pre, post, hr, rfl, hc, hr'⟩
    have hg : r.get? s.name = some s :=
      (get?_eq_some_iff h _ s).mpr ⟨by rw [hr]; simp, rfl⟩
    have hr'' : r' = ⟨r.snippets.filter (·.name != s.name)⟩ := by
      rw [filter_name_ne h hr, ← hr']
    simp [removeCustom, hg, hc, hr'']

/-- Removing a name no snippet has is refused as not found. -/
theorem removeCustom_of_not_mem {n : String} (hn : n ∉ r.names) :
    r.removeCustom n = .error (.notFound n) := by
  simp [removeCustom, (get?_eq_none_iff n).mpr hn]

/-- With distinct names, removing the name of a snippet that is not custom is refused. -/
theorem removeCustom_of_not_custom (h : r.names.Nodup) {s : Snippet} (hs : s ∈ r.snippets)
    (hc : s.isCustom = false) : r.removeCustom s.name = .error (.builtinImmutable s.name) := by
  simp [removeCustom, (get?_eq_some_iff h _ s).mpr ⟨hs, rfl⟩, hc]

/-- Removing the snippet just added gives back the repository as it was. -/
theorem removeCustom_addCustom {s : Snippet} {r' : Repository} (h : r.addCustom s = .ok r') :
    r'.removeCustom s.name = .ok (s, r) := by
  obtain ⟨hcustom, hfree, rfl⟩ := addCustom_ok h
  have hnone : ∀ t ∈ r.snippets, t.name ≠ s.name := fun t ht he => hfree (mem_names.mpr ⟨t, ht, he⟩)
  have hfind : r.snippets.find? (·.name == s.name) = none :=
    List.find?_eq_none.mpr fun t ht => by simpa using hnone t ht
  have hfilter : r.snippets.filter (·.name != s.name) = r.snippets :=
    List.filter_eq_self.mpr fun t ht => by simpa using hnone t ht
  simp [removeCustom, get?, List.find?_append, hfind, hcustom, List.filter_append, hfilter]

end Distinct

/-! ## Runs -/

/-- A change that a caller makes to a repository: adding a custom snippet, removing one by name,
or adding a batch of stored custom snippets. -/
inductive Op where
  | addCustom (s : Snippet)
  | removeCustom (name : String)
  | extendCustom (xs : List Snippet)

/-- The repository after a change; a refused change leaves it as it was. -/
def Op.apply : Op → Repository → Repository
  | .addCustom s, r =>
    match r.addCustom s with
    | .ok r' => r'
    | .error _ => r
  | .removeCustom n, r =>
    match r.removeCustom n with
    | .ok (_, r') => r'
    | .error _ => r
  | .extendCustom xs, r => (r.extendCustom xs).2

/-- The repository after a sequence of changes. -/
def run (ops : List Op) (r : Repository) : Repository := ops.foldl (fun r op => op.apply r) r

/-- The snippets that are not custom. -/
def nonCustom (r : Repository) : List Snippet := r.snippets.filter (!·.isCustom)

/-- A successful addition keeps the names distinct and the snippets that are not custom. -/
theorem addCustom_keeps {r r' : Repository} {s : Snippet} (h : r.names.Nodup)
    (hadd : r.addCustom s = .ok r') : r'.names.Nodup ∧ r'.nonCustom = r.nonCustom := by
  obtain ⟨hc, hn, rfl⟩ := addCustom_ok hadd
  refine ⟨?_, by simp [nonCustom, List.filter_append, hc]⟩
  rw [names, List.map_append, List.map_singleton, List.nodup_append]
  refine ⟨h, List.nodup_singleton _, fun a ha b hb => ?_⟩
  rw [List.mem_singleton] at hb
  subst hb
  rintro rfl
  exact hn ha

/-- A successful removal keeps the names distinct and the snippets that are not custom. -/
theorem removeCustom_keeps {r r' : Repository} {n : String} {s : Snippet} (h : r.names.Nodup)
    (hrm : r.removeCustom n = .ok (s, r')) : r'.names.Nodup ∧ r'.nonCustom = r.nonCustom := by
  obtain ⟨pre, post, hr, -, hc, hr'⟩ := (removeCustom_eq_ok_iff h n s r').mp hrm
  have hnd : ((pre ++ s :: post).map (·.name)).Nodup := hr ▸ h
  rw [List.map_append, List.map_cons, List.nodup_middle] at hnd
  refine ⟨?_, by simp [nonCustom, hr', hr, List.filter_append, hc]⟩
  rw [names, hr', List.map_append]
  exact hnd.of_cons

/-- Adding a batch keeps the names distinct and the snippets that are not custom. -/
theorem extendCustom_keeps (xs : List Snippet) {r : Repository} (h : r.names.Nodup) :
    (r.extendCustom xs).2.names.Nodup ∧ (r.extendCustom xs).2.nonCustom = r.nonCustom := by
  induction xs generalizing r with
  | nil => exact ⟨h, rfl⟩
  | cons x xs ih =>
    simp only [extendCustom]
    split
    · rename_i r' hadd
      obtain ⟨hnd, hnc⟩ := addCustom_keeps h hadd
      obtain ⟨hnd', hnc'⟩ := ih hnd
      exact ⟨hnd', hnc'.trans hnc⟩
    · exact ih h

/-- One change keeps the names distinct and the snippets that are not custom as they were. -/
theorem apply_keeps (op : Op) {r : Repository} (h : r.names.Nodup) :
    (op.apply r).names.Nodup ∧ (op.apply r).nonCustom = r.nonCustom := by
  cases op with
  | addCustom s =>
    simp only [Op.apply]
    split
    · exact addCustom_keeps h ‹_›
    · exact ⟨h, rfl⟩
  | removeCustom n =>
    simp only [Op.apply]
    split
    · exact removeCustom_keeps h ‹_›
    · exact ⟨h, rfl⟩
  | extendCustom xs => exact extendCustom_keeps xs h

/-- A run keeps the names distinct and the snippets that are not custom as they were. -/
theorem run_keeps (ops : List Op) {r : Repository} (h : r.names.Nodup) :
    (run ops r).names.Nodup ∧ (run ops r).nonCustom = r.nonCustom := by
  induction ops generalizing r with
  | nil => exact ⟨h, rfl⟩
  | cons op ops ih =>
    obtain ⟨hnd, hnc⟩ := apply_keeps op h
    obtain ⟨hnd', hnc'⟩ := ih hnd
    exact ⟨hnd', hnc'.trans hnc⟩

/-! ## The laws of a reachable repository -/

/-- What a repository with distinct names promises: lookup and membership by name read its
list; an addition goes through exactly for a custom snippet with a free name and appends it, and
is otherwise refused with the reason; a removal goes through exactly for the name of a custom
snippet, gives it back and keeps the others in their order, and is otherwise refused with the
reason; and removing what an addition added gives back the repository. -/
structure Lawful (r : Repository) : Prop where
  names_nodup : r.names.Nodup
  get?_iff : ∀ n s, r.get? n = some s ↔ s ∈ r.snippets ∧ s.name = n
  contains_iff : ∀ n, r.contains n = true ↔ n ∈ r.names
  size_eq : r.size = r.snippets.length
  custom_eq : r.custom = r.snippets.filter (·.isCustom)
  addCustom_ok_iff : ∀ s, r.addCustom s = .ok ⟨r.snippets ++ [s]⟩ ↔
    s.isCustom = true ∧ s.name ∉ r.names
  addCustom_refused : ∀ s, ¬(s.isCustom = true ∧ s.name ∉ r.names) →
    r.addCustom s = .error (if s.isCustom then .duplicate s.name else .builtinImmutable s.name)
  removeCustom_ok_iff : ∀ n s r', r.removeCustom n = .ok (s, r') ↔
    ∃ pre post, r.snippets = pre ++ s :: post ∧ s.name = n ∧ s.isCustom = true ∧
      r'.snippets = pre ++ post
  removeCustom_not_found : ∀ n, n ∉ r.names → r.removeCustom n = .error (.notFound n)
  removeCustom_not_custom : ∀ s ∈ r.snippets, s.isCustom = false →
    r.removeCustom s.name = .error (.builtinImmutable s.name)
  remove_undoes_add : ∀ s r', r.addCustom s = .ok r' → r'.removeCustom s.name = .ok (s, r)

theorem lawful_of_nodup {r : Repository} (h : r.names.Nodup) : r.Lawful :=
  ⟨h, get?_eq_some_iff h, contains_iff, rfl, rfl, addCustom_eq_ok_iff,
    fun _ hs => by rw [addCustom_eq, if_neg hs], removeCustom_eq_ok_iff h,
    fun _ hn => removeCustom_of_not_mem hn, fun _ hs hc => removeCustom_of_not_custom h hs hc,
    fun _ _ hadd => removeCustom_addCustom hadd⟩

/-- A repository made from a list keeps the first snippet of each name, in order: made from
`x :: xs` it holds `x`, then what the snippets of `xs` with another name give. After any
sequence of additions, removals and batches of stored snippets, it is lawful (`Lawful`: one
snippet per name, lookups that read the list, additions that append exactly a custom snippet with
a free name, removals that take out exactly a custom snippet in place, an addition undone by the
removal of its snippet), and the snippets that are not custom are those it was made with, in
their order. -/
theorem run_ofList_lawful (xs : List Snippet) (ops : List Op) :
    (ofList []).snippets = [] ∧
      (∀ x ys, (ofList (x :: ys)).snippets =
        x :: (ofList (ys.filter (·.name != x.name))).snippets) ∧
      (run ops (ofList xs)).Lawful ∧
      (run ops (ofList xs)).nonCustom = (ofList xs).nonCustom := by
  obtain ⟨hnd, hnc⟩ := run_keeps ops (nodup_ofList xs)
  exact ⟨ofList_nil, snippets_ofList_cons, lawful_of_nodup hnd, hnc⟩

end Repository

end SnippetAssist
