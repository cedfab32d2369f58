import SnippetAssist.Proofs.StoredState
import Mathlib.Data.Finset.Card

/-!
# Usage counts along a run

Counts change through two calls only: recording a use of a name and resetting. Starting from any
counts that could have been stored (one entry per name, none beyond the limit; an entry may count
zero), a sequence of such calls ends on these counts (`Usage.usage_counts_law`):

* the count of a name, read as a count or by indexing, is what it started from (nothing once a
  reset came) plus the uses of it recorded since the last reset, stopping at the limit;
* recording a use gives the new count of its name and leaves every other name's count alone;
* the entries are the names the counts started with (until a reset) and the names recorded since
  the last reset, each once; so the counts are empty exactly when there is no entry.

The calls and their runs, and the law of a single count (`Usage.count_run`), come with the counts
themselves; here the run is followed from its end for the entries: the counts after `ops ++ [op]`
are those after `ops` with `op` applied, and the calls since the last reset are those of `ops`
with `op` added, or none when `op` is the reset.
-/

namespace SnippetAssist

namespace Usage

/-! ## Reading counts -/

/-- Indexing reads the count of a name. -/
theorem index_eq_count (u : Usage) (n : String) : u.index n = u.count n := by
  unfold index count
  cases u.entries.find? (·.1 == n) <;> rfl

theorem isEmpty_iff (u : Usage) : u.isEmpty = true ↔ u.size = 0 := by
  simp [isEmpty, size]

/-- Setting a count keeps the names of the entries, and adds the name set at the end when it had
no entry. -/
theorem mem_keys_set (u : Usage) (n m : String) (k : Nat) :
    m ∈ (u.set n k).entries.map (·.1) ↔ m ∈ u.entries.map (·.1) ∨ m = n := by
  rw [entries_set, keys_upsert]
  split
  · rename_i hany
    -- The name set already has an entry, so it is among the names.
    have hn : n ∈ u.entries.map (·.1) := by simpa using hany
    constructor
    · exact .inl
    · rintro (hm | rfl)
      · exact hm
      · exact hn
  · simp

/-! ## Runs -/

/-- Every call keeps counts that could be stored. -/
theorem Stored.apply {u : Usage} (h : u.Stored) (op : Op) : (op.apply u).Stored := by
  cases op with
  | record n => exact h.record n
  | reset => exact stored_empty

theorem Stored.run {u : Usage} (h : u.Stored) (ops : List Op) : (run ops u).Stored := by
  induction ops using List.reverseRecOn with
  | nil => exact h
  | append_singleton ops op ih => rw [run_append_singleton]; exact ih.apply op

/-- The names with an entry after a run: those the counts started with, unless a reset came, and
those recorded since the last reset. -/
theorem mem_keys_run (u : Usage) (ops : List Op) (n : String) :
    n ∈ (run ops u).entries.map (·.1) ↔
      n ∈ (if ops.any (·.isReset) then [] else u.entries.map (·.1)) ++
        (sinceLastReset ops).filterMap Op.recorded? := by
  induction ops using List.reverseRecOn with
  | nil => simp
  | append_singleton ops op ih =>
    cases op with
    | reset => simp [Op.apply, reset, empty]
    | record m =>
      simp only [run_append_singleton, Op.apply, record, mem_keys_set, ih,
        sinceLastReset_append_record, List.filterMap_append, List.any_append, List.any_cons,
        List.any_nil, Op.isReset_record, Bool.or_false, List.mem_append, List.filterMap_cons,
        List.filterMap_nil, Op.recorded?_record, List.mem_singleton, or_assoc]

/-- The number of entries after a run is the number of names the counts started with, unless a
reset came, or recorded since the last reset. -/
theorem size_run {u : Usage} (h : u.Stored) (ops : List Op) :
    (run ops u).size =
      ((if ops.any (·.isReset) then [] else u.entries.map (·.1)) ++
        (sinceLastReset ops).filterMap Op.recorded?).toFinset.card := by
  have hnodup := (h.run ops).keys_nodup
  have hkeys : ((run ops u).entries.map (·.1)).toFinset =
      ((if ops.any (·.isReset) then [] else u.entries.map (·.1)) ++
        (sinceLastReset ops).filterMap Op.recorded?).toFinset := by
    ext n
    simp only [List.mem_toFinset]
    exact mem_keys_run u ops n
  rw [← hkeys, List.toFinset_card_of_nodup hnodup, List.length_map, size]

/-- From counts that could have been stored (one entry per name, none beyond the limit, zero
counts allowed), along every sequence of recorded uses and resets: the count of a name, read as
a count or by indexing, is its starting count (zero once a reset came) plus the uses of it
recorded since the last reset, stopping at `2^32 - 1`; recording a use gives the name's new
count and leaves every other name's count alone; the number of entries is the number of names
the counts started with (until a reset) or recorded since the last reset; and the counts are
empty exactly when there is no entry. -/
theorem usage_counts_law (u : Usage) (hu : u.Stored) (ops : List Op) (n : String) :
    (run ops u).index n = (run ops u).count n ∧
      (run ops u).count n =
        min countLimit
          ((if ops.any (·.isReset) then 0 else u.count n) +
            (sinceLastReset ops).count (.record n)) ∧
      ((run ops u).record n).1 = (run (ops ++ [.record n]) u).count n ∧
      (∀ m, m ≠ n → (run (ops ++ [.record n]) u).count m = (run ops u).count m) ∧
      (run ops u).size =
        ((if ops.any (·.isReset) then [] else u.entries.map (·.1)) ++
          (sinceLastReset ops).filterMap Op.recorded?).toFinset.card ∧
      ((run ops u).isEmpty = true ↔ (run ops u).size = 0) := by
  refine ⟨index_eq_count _ n, count_run ops n (count_le_of_entries hu.le_limit n), ?_, ?_,
    size_run hu ops, isEmpty_iff _⟩
  · rw [run_append_singleton, Op.apply, count_record_self]
  · intro m hm
    rw [run_append_singleton, Op.apply, count_record, if_neg hm]

/-- Counts read with a zero entry for `for`, after two uses of `for`, a reset and one use of
`if`: `for` counts nothing and `if` one, and only `if` has an entry. -/
theorem usage_counts_after_reset :
    (⟨[("for", 0)]⟩ : Usage).Stored ∧
      (run [.record "for", .record "for", .reset, .record "if"] ⟨[("for", 0)]⟩).count "if" = 1 ∧
      (run [.record "for", .record "for", .reset, .record "if"] ⟨[("for", 0)]⟩).size = 1 := by
  have hu : (⟨[("for", 0)]⟩ : Usage).Stored := ⟨by decide, by decide⟩
  obtain ⟨-, hcount, -, -, hsize, -⟩ :=
    usage_counts_law ⟨[("for", 0)]⟩ hu [.record "for", .record "for", .reset, .record "if"] "if"
  refine ⟨hu, ?_, ?_⟩
  · rw [hcount]
    decide
  · rw [hsize]
    decide

end Usage

end SnippetAssist
