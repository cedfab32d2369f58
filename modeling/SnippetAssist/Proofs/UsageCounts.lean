import SnippetAssist.Settings.Persist
import Mathlib.Data.List.Induction

/-!
# Usage counts

What recording, resetting and loading do to the count of each name. Recording a use raises that
name's count by one, up to the limit, and leaves the count of every other name alone; resetting
makes every count zero; and a count read from the store never passes the limit, since the reader
refuses a larger number.

Along a sequence of recorded uses and resets (`Usage.run`), the count of a name is what it
started from, or nothing once a reset came, plus the uses of it recorded since the last reset,
stopping at the limit (`Usage.count_run`). The engine's runs are read through this law.

Reading goes through readers of the JSON text; `Json.Reader.Yields r P` says that every value the
reader `r` gives satisfies `P`, which is what a bound on the values read needs.
-/

namespace SnippetAssist

/-! ## Counting, recording and resetting -/

namespace Usage

@[simp] theorem count_empty (n : String) : empty.count n = 0 := rfl

@[simp] theorem count_reset (u : Usage) (n : String) : u.reset.count n = 0 := rfl

theorem count_eq_of_find? {u : Usage} {n : String} {e : String × Nat}
    (h : u.entries.find? (·.1 == n) = some e) : u.count n = e.2 := by
  simp [count, h]

theorem count_eq_zero_of_find? {u : Usage} {n : String} (h : u.entries.find? (·.1 == n) = none) :
    u.count n = 0 := by
  simp [count, h]

/-- Giving the entries of one name a new count keeps every entry's name, so a search by name
finds the renamed entry where it found the old one. -/
theorem find?_map_setCount (l : List (String × Nat)) (n m : String) (k : Nat) :
    (l.map fun e => if e.1 == n then (n, k) else e).find? (·.1 == m) =
      (l.find? (·.1 == m)).map fun e => if e.1 == n then (n, k) else e := by
  induction l with
  | nil => rfl
  | cons e l ih =>
    by_cases hn : e.1 = n <;> by_cases hm : e.1 = m <;> simp_all

/-- Setting a count changes the count of that name only. -/
@[simp] theorem count_set (u : Usage) (n m : String) (k : Nat) :
    (u.set n k).count m = if m = n then k else u.count m := by
  unfold set
  split
  · rename_i hany
    obtain ⟨e₀, he₀, hn₀⟩ := List.any_eq_true.mp hany
    simp only [count, find?_map_setCount]
    cases hf : u.entries.find? (·.1 == m) with
    | none =>
      -- An entry of `n` exists, and the search for `m` found none, so `m` is another name.
      have hmn : m ≠ n := by
        rintro rfl
        exact List.find?_eq_none.mp hf e₀ he₀ hn₀
      simp [hmn]
    | some e =>
      have he : e.1 = m := by simpa using List.find?_some hf
      by_cases hmn : m = n <;> simp [he, hmn]
  · rename_i hany
    have hnone : u.entries.find? (·.1 == n) = none :=
      List.find?_eq_none.mpr fun e he hn => hany (List.any_eq_true.mpr ⟨e, he, hn⟩)
    by_cases hmn : m = n
    · subst hmn; simp [count, List.find?_append, hnone]
    · cases hf : u.entries.find? (·.1 == m) with
      | none => simp [count, List.find?_append, hf, hmn, Ne.symm hmn]
      | some e => simp [count, List.find?_append, hf, hmn]

/-- Recording a use gives the name's count plus one, stopping at the limit. -/
@[simp] theorem record_fst (u : Usage) (n : String) :
    (u.record n).1 = min (u.count n + 1) countLimit := rfl

/-- After recording a use, the name counts one more, up to the limit, and every other name
counts what it did. -/
@[simp] theorem count_record (u : Usage) (n m : String) :
    (u.record n).2.count m = if m = n then min (u.count n + 1) countLimit else u.count m := by
  simp [record]

theorem count_record_self (u : Usage) (n : String) :
    (u.record n).2.count n = (u.record n).1 := by
  simp

/-- A count is at most the limit when every entry is. -/
theorem count_le_of_entries {u : Usage} (h : ∀ e ∈ u.entries, e.2 ≤ countLimit) (n : String) :
    u.count n ≤ countLimit := by
  cases hf : u.entries.find? (·.1 == n) with
  | none => simp [count_eq_zero_of_find? hf]
  | some e => rw [count_eq_of_find? hf]; exact h e (List.mem_of_find?_eq_some hf)

/-! ## Runs of recorded uses and resets -/

/-- A call on the counts: one recorded use of a name, or a reset. -/
inductive Op where
  | record (name : String)
  | reset
deriving DecidableEq

/-- A reset. -/
def Op.isReset : Op → Bool
  | .reset => true
  | .record _ => false

@[simp] theorem Op.isReset_reset : Op.reset.isReset = true := rfl

@[simp] theorem Op.isReset_record (n : String) : (Op.record n).isReset = false := rfl

/-- The name whose use is recorded. -/
def Op.recorded? : Op → Option String
  | .record n => some n
  | .reset => none

@[simp] theorem Op.recorded?_reset : Op.reset.recorded? = none := rfl

@[simp] theorem Op.recorded?_record (n : String) : (Op.record n).recorded? = some n := rfl

/-- The counts after a call. -/
def Op.apply : Op → Usage → Usage
  | .record n, u => (u.record n).2
  | .reset, u => u.reset

/-- The counts after a sequence of calls. -/
def run (ops : List Op) (u : Usage) : Usage := ops.foldl (fun u op => op.apply u) u

/-- The calls after the last reset; all of them when there is none. -/
def sinceLastReset (ops : List Op) : List Op := (ops.reverse.takeWhile (!·.isReset)).reverse

@[simp] theorem run_nil (u : Usage) : run [] u = u := rfl

theorem run_append (ops ops' : List Op) (u : Usage) : run (ops ++ ops') u = run ops' (run ops u) :=
  List.foldl_append

@[simp] theorem run_append_singleton (ops : List Op) (op : Op) (u : Usage) :
    run (ops ++ [op]) u = op.apply (run ops u) := by
  simp [run, List.foldl_append]

@[simp] theorem sinceLastReset_nil : sinceLastReset [] = [] := rfl

@[simp] theorem sinceLastReset_append_reset (ops : List Op) :
    sinceLastReset (ops ++ [.reset]) = [] := by
  simp [sinceLastReset]

/-- Calls other than resets, added at the end of a run, add to the calls since its last reset. -/
theorem sinceLastReset_append_of_not_reset (ops : List Op) {cs : List Op}
    (h : ∀ c ∈ cs, c.isReset = false) : sinceLastReset (ops ++ cs) = sinceLastReset ops ++ cs := by
  have hkeep : ∀ c ∈ cs.reverse, (!c.isReset) = true := by
    intro c hc
    simp [h c (List.mem_reverse.mp hc)]
  rw [sinceLastReset, List.reverse_append, List.takeWhile_append_of_pos hkeep, List.reverse_append,
    List.reverse_reverse, sinceLastReset]

@[simp] theorem sinceLastReset_append_record (ops : List Op) (n : String) :
    sinceLastReset (ops ++ [.record n]) = sinceLastReset ops ++ [.record n] :=
  sinceLastReset_append_of_not_reset ops (by simp)

/-- The count of a name after a run: what it started from, or nothing once a reset came, plus
the uses of it recorded since the last reset, stopping at the limit. -/
theorem count_run {u : Usage} (ops : List Op) (n : String) (hle : u.count n ≤ countLimit) :
    (run ops u).count n =
      min countLimit
        ((if ops.any (·.isReset) then 0 else u.count n) + (sinceLastReset ops).count (.record n)) := by
  -- The run is followed from its end, where the last call decides the count.
  induction ops using List.reverseRecOn with
  | nil => simp [Nat.min_eq_right hle]
  | append_singleton ops op ih =>
    cases op with
    | reset => simp [Op.apply]
    | record m =>
      have hany : (ops ++ [Op.record m]).any (·.isReset) = ops.any (·.isReset) := by simp
      rw [run_append_singleton, Op.apply, count_record, sinceLastReset_append_record, hany, ih,
        List.count_append]
      -- One more use of `n` adds one before the limit is taken; a use of another name adds none.
      by_cases hnm : n = m
      · subst hnm
        simp only [if_true, List.count_singleton_self]
        omega
      · simp [hnm, Ne.symm hnm]

end Usage

/-! ## What readers give -/

namespace Json.Reader

/-- Every value the reader `r` gives satisfies `P`. -/
def Yields {α : Type} (r : Reader α) (P : α → Prop) : Prop :=
  ∀ cs a rest, r cs = .ok (a, rest) → P a

section Yields

variable {α β : Type} {P : β → Prop}

theorem yields_pure {b : β} (h : P b) : Yields (pure b : Reader β) P := by
  intro cs a rest hr
  cases hr
  exact h

theorem yields_throw (f : Fault) : Yields (throw f : Reader β) P := by
  intro cs a rest hr
  cases hr

theorem yields_bind {x : Reader α} {Q : α → Prop} {f : α → Reader β} (hx : Yields x Q)
    (hf : ∀ a, Q a → Yields (f a) P) : Yields (x >>= f) P := by
  intro cs b rest hr
  cases hxr : x cs with
  | error e => simp [bind, StateT.bind, hxr, Except.bind] at hr
  | ok p =>
    simp only [bind, StateT.bind, hxr] at hr
    exact hf p.1 (hx cs p.1 p.2 hxr) _ _ _ hr

/-- A step whose value is not looked at. -/
theorem yields_bind_any {x : Reader α} {f : α → Reader β} (hf : ∀ a, Yields (f a) P) :
    Yields (x >>= f) P :=
  yields_bind (Q := fun _ => True) (fun _ _ _ _ => trivial) fun a _ => hf a

/-- Meeting a value of the wrong kind always ends in a fault. -/
theorem yields_invalidType : Yields (invalidType : Reader β) P := by
  unfold invalidType
  refine yields_bind_any fun c => ?_
  split <;> first
    | exact yields_throw _
    | exact yields_bind_any fun _ => yields_throw _
    | exact yields_bind_any fun _ => yields_bind_any fun _ => yields_throw _
    | split <;> first
        | exact yields_throw _
        | exact yields_bind_any fun _ => yields_throw _

end Yields

/-- A natural number read up to a limit is at most the limit. -/
theorem yields_natUpTo (limit : Nat) : Yields (natUpTo limit) (· ≤ limit) := by
  unfold natUpTo
  refine yields_bind_any fun c => ?_
  split
  · exact yields_throw _
  · exact yields_bind_any fun _ => yields_bind_any fun _ => yields_throw _
  · split
    · refine yields_bind_any fun v => ?_
      split
      · split
        · exact yields_pure ‹_›
        · exact yields_throw _
      · exact yields_throw _
    · exact yields_invalidType

/-- The entries of an object read with `item` hold values that `item` gives, when those already
read do. -/
theorem yields_entriesOf {α : Type} {item : Reader α} {P : α → Prop} (hitem : Yields item P)
    (fuel : Nat) (first : Bool) {acc : List (String × α)} (hacc : ∀ e ∈ acc, P e.2) :
    Yields (entriesOf item fuel first acc) (fun es => ∀ e ∈ es, P e.2) := by
  induction fuel generalizing first acc with
  | zero => exact yields_throw _
  | succ fuel ih =>
    unfold entriesOf
    refine yields_bind_any fun key => ?_
    split
    · exact yields_pure hacc
    · refine yields_bind_any fun _ => yields_bind hitem fun v hv => ?_
      refine ih _ ?_
      -- The new entry, or an old one now holding `v`.
      split
      · intro e he
        obtain ⟨e', he', rfl⟩ := List.mem_map.mp he
        split
        · exact hv
        · exact hacc e' he'
      · intro e he
        rcases List.mem_append.mp he with he | he
        · exact hacc e he
        · rw [List.mem_singleton.mp he]; exact hv

theorem yields_objectOf {α : Type} {item : Reader α} {P : α → Prop} (hitem : Yields item P)
    (fuel : Nat) : Yields (objectOf item fuel) (fun es => ∀ e ∈ es, P e.2) := by
  unfold objectOf
  refine yields_bind_any fun c => ?_
  split
  · exact yields_throw _
  · exact yields_bind_any fun _ => yields_bind (yields_entriesOf hitem fuel true (by simp))
      fun es hes => yields_bind_any fun _ => yields_pure hes
  · exact yields_invalidType

end Json.Reader

/-- What a whole text reads to is what its reader gives. -/
theorem Json.readText_yields {α : Type} {r : Nat → Json.Reader α} {P : α → Prop}
    (hr : ∀ fuel, Json.Reader.Yields (r fuel) P) {s : String} {a : α}
    (h : Json.readText r s = .ok a) : P a := by
  unfold Json.readText at h
  cases hrun : r (Json.Reader.fuelFor s.toList) s.toList with
  | error e => simp [hrun] at h; cases h
  | ok p =>
    simp only [hrun, bind, Except.bind] at h
    split at h
    · cases h; exact hr _ _ _ _ hrun
    · cases h

namespace Usage

/-- Counts read from their stored form never pass the limit. -/
theorem count_le_of_decode {s : String} {u : Usage} (h : decode s = .ok u) (n : String) :
    u.count n ≤ countLimit := by
  have hentries : ∀ e ∈ u.entries, e.2 ≤ countLimit := by
    refine Json.readText_yields (P := fun u : Usage => ∀ e ∈ u.entries, e.2 ≤ countLimit)
      (fun fuel => ?_) h
    exact Json.Reader.yields_bind
      (Json.Reader.yields_objectOf (Json.Reader.yields_natUpTo countLimit) fuel)
      fun es hes => Json.Reader.yields_pure hes
  exact count_le_of_entries hentries n

end Usage

/-- Counts loaded from a store never pass the limit. -/
theorem count_le_of_loadUsage {σ : Type} [SettingsStore σ] {st : σ} {u : Usage}
    (h : loadUsage st = .ok u) (n : String) : u.count n ≤ Usage.countLimit := by
  unfold loadUsage at h
  cases ht : loadText st usageKey with
  | error e => simp [ht, bind, Except.bind] at h
  | ok t =>
    simp only [ht, bind, Except.bind] at h
    cases t with
    | none => cases h; simp
    | some text =>
      cases hd : Usage.decode text with
      | error f => simp only [hd] at h; cases h
      | ok u' =>
        simp only [hd] at h
        cases h
        exact Usage.count_le_of_decode hd n

end SnippetAssist
