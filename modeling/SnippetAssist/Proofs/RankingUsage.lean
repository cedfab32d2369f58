import SnippetAssist.Proofs.RankingOrder
import SnippetAssist.Proofs.DoubleMonotone
import SnippetAssist.Proofs.UsageCounts
import Mathlib

/-!
# Recording a use never lowers a snippet

Recording a use of a snippet raises its count, and so its usage score, up to the cap; the
total is monotone in the usage score, since every double operation it is made of is monotone on
non-negative doubles (`SnippetAssist.Proofs.DoubleMonotone`). Recording a use of one name leaves
the counts of other names, and so the totals of the other snippets, as they were.

The ranking is a stable sort by total, highest first. In such a sort, the entries before a given
entry `x` are those of a higher key and those of `x`'s key that come before `x` in the input
(`mem_takeWhile_mergeSort_iff`). When `x` moves up and nothing else changes, that set can only
shrink, so `x` keeps its place or moves up in every cut of the ranking
(`record_never_lowers_rank`).
-/

namespace SnippetAssist

/-! ## Prefixes of lists -/

section Positions

variable {α : Type}

/-- The entries before the first one failing `p` are filtered alike, when the filter keeps every
entry failing `p`. -/
theorem takeWhile_filter_of_keeps {l : List α} {p q : α → Bool}
    (h : ∀ a ∈ l, p a = false → q a = true) :
    (l.filter q).takeWhile p = (l.takeWhile p).filter q := by
  induction l with
  | nil => rfl
  | cons a l ih =>
    have ih' := ih fun b hb => h b (List.mem_cons_of_mem a hb)
    have ha := h a List.mem_cons_self
    cases hp : p a <;> cases hq : q a <;> simp_all

/-- A list splits at its one entry failing `p`. -/
theorem eq_takeWhile_append_cons {l : List α} {p : α → Bool} {x : α} (hx : x ∈ l)
    (hpx : p x = false) (hp : ∀ a ∈ l, p a = false → a = x) :
    l = l.takeWhile p ++ x :: (l.dropWhile p).tail := by
  have hne : l.dropWhile p ≠ [] := by
    intro h
    have hall := List.takeWhile_append_dropWhile (p := p) (l := l)
    rw [h, List.append_nil] at hall
    rw [← hall] at hx
    rw [List.mem_takeWhile_imp hx] at hpx
    cases hpx
  have hhead : (l.dropWhile p).head hne = x :=
    hp _ (List.dropWhile_subset p (List.head_mem hne))
      (by simpa using List.head_dropWhile_not p hne)
  conv_lhs => rw [← List.takeWhile_append_dropWhile (p := p) (l := l), ← List.cons_head_tail hne]
  rw [hhead]

variable [DecidableEq α]

/-- An entry at index `k` has at most `k` entries before its first occurrence. -/
theorem length_takeWhile_ne_le {l : List α} {x : α} {k : Nat} (h : l[k]? = some x) :
    (l.takeWhile fun a => decide (a ≠ x)).length ≤ k := by
  refine Nat.le_of_not_lt fun hlt => ?_
  obtain ⟨hk, hkx⟩ := List.getElem?_eq_some_iff.mp h
  have hmem := List.mem_takeWhile_imp (List.getElem_mem hlt)
  rw [(List.takeWhile_prefix _).getElem hlt, hkx] at hmem
  simp at hmem

/-- The first occurrence of an entry comes right after the entries before it. -/
theorem getElem?_length_takeWhile_ne {l : List α} {x : α} (hx : x ∈ l) :
    l[(l.takeWhile fun a => decide (a ≠ x)).length]? = some x := by
  have hsplit := eq_takeWhile_append_cons hx (p := fun a => decide (a ≠ x)) (by simp)
    fun a _ ha => by simpa using ha
  nth_rw 1 [hsplit]
  rw [List.getElem?_append_right le_rfl, Nat.sub_self]
  rfl

end Positions

/-! ## Positions in a stable sort -/

section StableSort

variable {α β : Type} [LinearOrder β] (k : α → β)

/-- Filtering commutes with the stable sort. -/
theorem filter_mergeSort (l : List α) (q : α → Bool) :
    (l.mergeSort (byKeyDesc k)).filter q = (l.filter q).mergeSort (byKeyDesc k) := by
  refine eq_of_perm_of_desc k ?_ ?_ (pairwise_mergeSort_desc k _) fun c => ?_
  · exact ((List.mergeSort_perm l _).filter q).trans (List.mergeSort_perm _ _).symm
  · exact (pairwise_mergeSort_desc k l).sublist List.filter_sublist
  · rw [List.filter_comm, filter_mergeSort_desc, filter_mergeSort_desc, List.filter_comm]

section OneFailing

variable {k} {l : List α} {p : α → Bool} {x : α} (hp : ∀ a ∈ l, p a = false → a = x)
include hp

/-- Sorted, the list splits at `x` into the entries before it, `x`, and the rest. -/
theorem mergeSort_split (hx : x ∈ l) (hpx : p x = false) :
    l.mergeSort (byKeyDesc k) =
      (l.mergeSort (byKeyDesc k)).takeWhile p ++
        x :: ((l.mergeSort (byKeyDesc k)).dropWhile p).tail :=
  eq_takeWhile_append_cons (List.mem_mergeSort.mpr hx) hpx
    fun a ha => hp a (List.mem_mergeSort.mp ha)

/-- Of the entries of `x`'s key, those before `x` are the same sorted or not: the stable sort keeps
their order. -/
theorem takeWhile_mergeSort_filter_key :
    ((l.mergeSort (byKeyDesc k)).takeWhile p).filter (fun a => decide (k a = k x)) =
      (l.takeWhile p).filter (fun a => decide (k a = k x)) := by
  have hkeeps : ∀ m : List α, (∀ a ∈ m, a ∈ l) →
      ∀ a ∈ m, p a = false → decide (k a = k x) = true := by
    intro m hm a ha hpa
    rw [hp a (hm a ha) hpa]
    exact decide_eq_true rfl
  rw [← takeWhile_filter_of_keeps (hkeeps _ fun a ha => List.mem_mergeSort.mp ha),
    ← takeWhile_filter_of_keeps (hkeeps l fun a ha => ha), filter_mergeSort_desc]

/-- The entries that the stable sort puts before `x`: those of a higher key, and those of `x`'s
key that come before `x` in `l`. -/
theorem mem_takeWhile_mergeSort_iff (hx : x ∈ l) (hpx : p x = false) {a : α} :
    a ∈ (l.mergeSort (byKeyDesc k)).takeWhile p ↔
      a ∈ l ∧ p a = true ∧ (k x < k a ∨ k a = k x ∧ a ∈ l.takeWhile p) := by
  have hsplit := mergeSort_split (k := k) hp hx hpx
  have hsorted := pairwise_mergeSort_desc k l
  rw [hsplit, List.pairwise_append] at hsorted
  have hclass := takeWhile_mergeSort_filter_key (k := k) hp
  constructor
  · intro ha
    refine ⟨List.mem_mergeSort.mp (List.takeWhile_subset p ha), List.mem_takeWhile_imp ha, ?_⟩
    -- Sorted, `a` is before `x`, so its key is not below `x`'s.
    have hle : k x ≤ k a := hsorted.2.2 a ha x List.mem_cons_self
    rcases hle.lt_or_eq with hlt | heq
    · exact Or.inl hlt
    · refine Or.inr ⟨heq.symm, ?_⟩
      have hmem : a ∈ ((l.mergeSort (byKeyDesc k)).takeWhile p).filter
          (fun a => decide (k a = k x)) := List.mem_filter.mpr ⟨ha, decide_eq_true heq.symm⟩
      rw [hclass] at hmem
      exact (List.mem_filter.mp hmem).1
  · rintro ⟨hal, hpa, hlt | ⟨heq, hat⟩⟩
    · -- Above `x`, `a` cannot come after it.
      have haM : a ∈ l.mergeSort (byKeyDesc k) := List.mem_mergeSort.mpr hal
      rw [hsplit] at haM
      rcases List.mem_append.mp haM with h | h
      · exact h
      · exfalso
        rcases List.mem_cons.mp h with rfl | h
        · rw [hpx] at hpa
          cases hpa
        · have := List.rel_of_pairwise_cons hsorted.2.1 h
          exact absurd hlt (not_lt.mpr this)
    · have hmem : a ∈ (l.takeWhile p).filter (fun a => decide (k a = k x)) :=
        List.mem_filter.mpr ⟨hat, decide_eq_true heq⟩
      rw [← hclass] at hmem
      exact (List.mem_filter.mp hmem).1

end OneFailing

end StableSort

namespace Ranking

open Double

/-! ## Totals and counts -/

theorem usageScore_le (c : Nat) : usageScore c ≤ maxUsageScore := Nat.min_le_right _ _

/-- Recording a use never lowers the usage score: the count goes up by one, or it stays at the
limit, where the score has long reached its cap. -/
theorem usageScore_record (u : Usage) (n : String) :
    usageScore (u.count n) ≤ usageScore ((u.record n).2.count n) := by
  simp only [Usage.count_record, if_true, usageScore, maxUsageScore, Usage.countLimit]
  omega

/-- A total grows with the usage score. -/
theorem total_le_total {s : Snippet} {ctx : Context} {u u' : Usage}
    (h : usageScore (u.count s.name) ≤ usageScore (u'.count s.name)) :
    total s ctx u ≤ total s ctx u' := by
  have hcap : usageScore (u'.count s.name) < 2 ^ 53 :=
    Nat.lt_of_le_of_lt (usageScore_le _) (by decide)
  have hctx := (nonNeg_ofNat (contextMatch s ctx)).mul_left posFinite_weights.1
  have hpre := (nonNeg_ofNat (prefixMatch s.name ctx.currentToken)).mul_left posFinite_weights.2.2
  have hu := (nonNeg_ofNat (usageScore (u.count s.name))).mul_left posFinite_weights.2.1
  have hu' := (nonNeg_ofNat (usageScore (u'.count s.name))).mul_left posFinite_weights.2.1
  -- The usage term grows, then each sum around it.
  have h₁ := NonNeg.mul_le_mul_left (nonNeg_ofNat _) (nonNeg_ofNat _) posFinite_weights.2.1
    (ofNat_le_ofNat h hcap)
  have h₂ := NonNeg.add_le_add_left hu hu' hctx h₁
  exact NonNeg.add_le_add_right (hctx.add hu) (hctx.add hu') hpre h₂

theorem total_eq_of_count_eq {s : Snippet} {ctx : Context} {u u' : Usage}
    (h : u'.count s.name = u.count s.name) : total s ctx u' = total s ctx u := by
  unfold total
  rw [h]

/-- Recording a use of one name leaves the total of a snippet of another name alone. -/
theorem total_record_of_ne {t : Snippet} {n : String} (ctx : Context) (u : Usage)
    (h : t.name ≠ n) : total t ctx (u.record n).2 = total t ctx u :=
  total_eq_of_count_eq (by rw [Usage.count_record, if_neg h])

theorem total_record_le (s : Snippet) (ctx : Context) (u : Usage) :
    total s ctx u ≤ total s ctx (u.record s.name).2 :=
  total_le_total (usageScore_record u s.name)

/-! ## The kept snippets -/

/-- Whether a ranking keeps a snippet: always while no token is typed, else for a positive
total. -/
def keeps (ctx : Context) (usage : Usage) (s : Snippet) : Bool :=
  ctx.currentToken.isEmpty || total s ctx usage > 0

theorem kept_eq (snippets : List Snippet) (ctx : Context) (usage : Usage) :
    kept snippets ctx usage =
      (snippets.filter (keeps ctx usage)).map fun s => (s, total s ctx usage) := rfl

theorem keeps_record {s : Snippet} {ctx : Context} {u : Usage} (h : keeps ctx u s = true) :
    keeps ctx (u.record s.name).2 s = true := by
  simp only [keeps, Bool.or_eq_true, decide_eq_true_eq] at h ⊢
  rcases h with h | h
  · exact Or.inl h
  · exact Or.inr (lt_of_lt_of_le' h (total_record_le s ctx u))

theorem filter_ne_kept (snippets : List Snippet) (ctx : Context) (usage : Usage) (s : Snippet) :
    (kept snippets ctx usage).filter (fun p => decide (p.1 ≠ s)) =
      ((snippets.filter fun t => decide (t ≠ s)).filter (keeps ctx usage)).map
        fun t => (t, total t ctx usage) := by
  rw [kept_eq, List.filter_map, List.filter_comm]
  rfl

theorem takeWhile_ne_kept {snippets : List Snippet} {ctx : Context} {usage : Usage} {s : Snippet}
    (hs : keeps ctx usage s = true) :
    (kept snippets ctx usage).takeWhile (fun p => decide (p.1 ≠ s)) =
      ((snippets.takeWhile fun t => decide (t ≠ s)).filter (keeps ctx usage)).map
        fun t => (t, total t ctx usage) := by
  rw [kept_eq, List.takeWhile_map]
  congr 1
  refine takeWhile_filter_of_keeps fun t _ hts => ?_
  obtain rfl : t = s := by simpa using hts
  exact hs

theorem mem_kept_iff {snippets : List Snippet} {ctx : Context} {usage : Usage} {s : Snippet} :
    (s, total s ctx usage) ∈ kept snippets ctx usage ↔ s ∈ snippets ∧ keeps ctx usage s = true := by
  simp [kept_eq]

/-- The one entry of `s` in the kept list is `s` with its total. -/
theorem eq_of_mem_kept {snippets : List Snippet} {ctx : Context} {usage : Usage} {s : Snippet}
    {a : Snippet × Float} (ha : a ∈ kept snippets ctx usage)
    (h : decide (a.1 ≠ s) = false) : a = (s, total s ctx usage) := by
  rw [kept_eq] at ha
  obtain ⟨t, -, rfl⟩ := List.mem_map.mp ha
  obtain rfl : t = s := by simpa using h
  rfl

theorem rank_length (snippets : List Snippet) (ctx : Context) (usage : Usage) :
    rank snippets ctx usage snippets.length =
      (kept snippets ctx usage).mergeSort (byKeyDesc (key ·.2)) := by
  rw [rank_eq, List.take_of_length_le]
  rw [List.length_mergeSort, kept_eq, List.length_map]
  exact List.length_filter_le _ _

theorem rank_eq_take (snippets : List Snippet) (ctx : Context) (usage : Usage) (limit : Nat) :
    rank snippets ctx usage limit = (rank snippets ctx usage snippets.length).take limit := by
  rw [rank_eq, rank_length]

theorem mem_rank_length {snippets : List Snippet} {ctx : Context} {usage : Usage} {t : Snippet} :
    t ∈ (rank snippets ctx usage snippets.length).map (·.1) ↔
      t ∈ snippets ∧ keeps ctx usage t = true := by
  simp [rank_length, kept_eq, List.mem_mergeSort]

theorem nodup_rank_length {snippets : List Snippet} (ctx : Context) (usage : Usage)
    (hnodup : snippets.Nodup) : ((rank snippets ctx usage snippets.length).map (·.1)).Nodup := by
  rw [rank_length, ((List.mergeSort_perm _ _).map _).nodup_iff, kept_eq, List.map_map]
  have hid : ((fun p : Snippet × Float => p.1) ∘ fun s => (s, total s ctx usage)) = id := rfl
  rw [hid, List.map_id]
  exact hnodup.filter _

/-! ## Recording a use -/

section Recording

variable {snippets : List Snippet} {ctx : Context} {u : Usage} {s : Snippet}

theorem mem_rank_record (h : s ∈ (rank snippets ctx u snippets.length).map (·.1)) :
    s ∈ (rank snippets ctx (u.record s.name).2 snippets.length).map (·.1) := by
  rw [mem_rank_length] at h ⊢
  exact ⟨h.1, keeps_record h.2⟩

variable (hother : ∀ t ∈ snippets, t ≠ s → t.name ≠ s.name)
include hother

theorem total_record_other {t : Snippet} (ht : t ∈ snippets) (hts : t ≠ s) :
    total t ctx (u.record s.name).2 = total t ctx u :=
  total_record_of_ne ctx u (hother t ht hts)

theorem keeps_record_other {t : Snippet} (ht : t ∈ snippets) (hts : t ≠ s) :
    keeps ctx (u.record s.name).2 t = keeps ctx u t := by
  unfold keeps
  rw [total_record_other hother ht hts]

/-- Snippets other than `s` are kept, with their totals, as they were. -/
theorem map_filter_keeps_record {l : List Snippet} (hl : ∀ t ∈ l, t ∈ snippets ∧ t ≠ s) :
    (l.filter (keeps ctx (u.record s.name).2)).map
        (fun t => (t, total t ctx (u.record s.name).2)) =
      (l.filter (keeps ctx u)).map fun t => (t, total t ctx u) := by
  rw [List.filter_congr fun t ht => keeps_record_other hother (hl t ht).1 (hl t ht).2]
  refine List.map_congr_left fun t ht => ?_
  obtain ⟨ht, -⟩ := List.mem_filter.mp ht
  rw [total_record_other hother (hl t ht).1 (hl t ht).2]

theorem kept_record_filter :
    (kept snippets ctx (u.record s.name).2).filter (fun p => decide (p.1 ≠ s)) =
      (kept snippets ctx u).filter (fun p => decide (p.1 ≠ s)) := by
  rw [filter_ne_kept, filter_ne_kept]
  refine map_filter_keeps_record hother fun t ht => ?_
  obtain ⟨ht, hts⟩ := List.mem_filter.mp ht
  exact ⟨ht, by simpa using hts⟩

/-- The snippets kept before `s` are the same ones, with the same totals. -/
theorem kept_record_takeWhile (hs : keeps ctx u s = true) :
    (kept snippets ctx (u.record s.name).2).takeWhile (fun p => decide (p.1 ≠ s)) =
      (kept snippets ctx u).takeWhile (fun p => decide (p.1 ≠ s)) := by
  rw [takeWhile_ne_kept (keeps_record hs), takeWhile_ne_kept hs]
  exact map_filter_keeps_record hother fun t ht =>
    ⟨List.takeWhile_subset _ ht, by simpa using List.mem_takeWhile_imp ht⟩

/-- In the whole ranking, the other snippets keep their order and their totals. -/
theorem rank_record_filter :
    (rank snippets ctx (u.record s.name).2 snippets.length).filter (fun p => decide (p.1 ≠ s)) =
      (rank snippets ctx u snippets.length).filter (fun p => decide (p.1 ≠ s)) := by
  rw [rank_length, rank_length, filter_mergeSort, filter_mergeSort, kept_record_filter hother]

/-- Every snippet ranked before `s` after the use was ranked before it already. -/
theorem before_record_subset :
    ∀ t ∈ ((rank snippets ctx (u.record s.name).2 snippets.length).map (·.1)).takeWhile (· ≠ s),
      t ∈ ((rank snippets ctx u snippets.length).map (·.1)).takeWhile (· ≠ s) := by
  intro t ht
  rw [rank_length, List.takeWhile_map, Function.comp_def] at ht ⊢
  obtain ⟨a, ha, rfl⟩ := List.mem_map.mp ht
  refine List.mem_map.mpr ⟨a, ?_, rfl⟩
  -- The entry of another snippet, kept before as it is now.
  have hqa : decide (a.1 ≠ s) = true :=
    List.mem_takeWhile_imp (p := fun x : Snippet × Float => decide (x.1 ≠ s)) ha
  have haK : a ∈ kept snippets ctx u := by
    have hmem : a ∈ (kept snippets ctx (u.record s.name).2).filter fun p => decide (p.1 ≠ s) :=
      List.mem_filter.mpr ⟨List.mem_mergeSort.mp (List.takeWhile_subset _ ha), hqa⟩
    rw [kept_record_filter hother] at hmem
    exact (List.mem_filter.mp hmem).1
  have hp : ∀ (v : Usage), ∀ b ∈ kept snippets ctx v, decide (b.1 ≠ s) = false →
      b = (s, total s ctx v) := fun v b hb hqb => eq_of_mem_kept hb hqb
  by_cases hsK : (s, total s ctx u) ∈ kept snippets ctx u
  · -- `s` is ranked both times: what precedes it is above it, or level with it and earlier.
    obtain ⟨hsS, hs⟩ := mem_kept_iff.mp hsK
    have hsK' : (s, total s ctx (u.record s.name).2) ∈ kept snippets ctx (u.record s.name).2 :=
      mem_kept_iff.mpr ⟨hsS, keeps_record hs⟩
    have hkey : key (total s ctx u) ≤ key (total s ctx (u.record s.name).2) :=
      (le_iff_key_le (nonNeg_total s ctx u).isNaN_eq_false
        (nonNeg_total s ctx _).isNaN_eq_false).mp (total_record_le s ctx u)
    obtain ⟨-, -, hcases⟩ := (mem_takeWhile_mergeSort_iff (k := fun x : Snippet × Float => key x.2)
      (hp (u.record s.name).2) hsK' (by simp)).mp ha
    refine (mem_takeWhile_mergeSort_iff (k := fun x : Snippet × Float => key x.2) (hp u) hsK
      (by simp)).mpr ⟨haK, hqa, ?_⟩
    rcases hcases with hlt | ⟨heq, hbefore⟩
    · exact Or.inl (lt_of_le_of_lt hkey hlt)
    · rcases (hkey.trans_eq heq.symm).lt_or_eq with hlt | heq'
      · exact Or.inl hlt
      · exact Or.inr ⟨heq'.symm, by rwa [← kept_record_takeWhile hother hs]⟩
  · -- `s` is not ranked before the use, so nothing stops the list before it.
    have hall : ∀ b ∈ (kept snippets ctx u).mergeSort (byKeyDesc (key ·.2)),
        decide (b.1 ≠ s) = true := by
      intro b hb
      cases hqb : decide (b.1 ≠ s)
      · exact absurd (hp u b (List.mem_mergeSort.mp hb) hqb ▸ List.mem_mergeSort.mp hb) hsK
      · rfl
    rw [List.takeWhile_eq_self_iff.mpr hall]
    exact List.mem_mergeSort.mpr haK

/-- Wherever `s` stood in a ranking, it stands there or higher after the use: fewer snippets
precede it, and it is still kept. -/
theorem index_record_le (hnodup : snippets.Nodup) {limit k : Nat}
    (h : ((rank snippets ctx u limit).map (·.1))[k]? = some s) :
    ∃ k' ≤ k, ((rank snippets ctx (u.record s.name).2 limit).map (·.1))[k']? = some s := by
  rw [rank_eq_take, List.map_take, List.getElem?_take] at h
  rw [rank_eq_take, List.map_take]
  split at h
  case isFalse => cases h
  rename_i hk
  have hsN' := mem_rank_record (List.mem_of_getElem? h)
  -- Before the use, at most `k` snippets precede `s`; after it, a subset of those.
  have hlen : (((rank snippets ctx (u.record s.name).2 snippets.length).map (·.1)).takeWhile
        (· ≠ s)).length ≤ (((rank snippets ctx u snippets.length).map (·.1)).takeWhile
        (· ≠ s)).length :=
    (((nodup_rank_length ctx _ hnodup).sublist (List.takeWhile_sublist _)).subperm
      (before_record_subset hother)).length_le
  refine ⟨_, hlen.trans (length_takeWhile_ne_le h), ?_⟩
  rw [List.getElem?_take, if_pos (by have := length_takeWhile_ne_le h; omega),
    getElem?_length_takeWhile_ne hsN']

end Recording

/-- Recording a use of a snippet never lowers it in the ranking. Among snippets of distinct
names, recording a use of `s` does not lower its total, leaves the total of every other snippet
as it was, leaves the other snippets of the whole ranking in their order, keeps `s` ranked if it
was, and ranks before `s` only snippets that were before it already; so wherever `s` stood in a
ranking cut at any limit, it stands there or higher. -/
theorem record_never_lowers_rank (snippets : List Snippet) (ctx : Context) (u : Usage)
    {s : Snippet} (hnames : (snippets.map (·.name)).Nodup) (hs : s ∈ snippets) :
    let u' := (u.record s.name).2
    total s ctx u ≤ total s ctx u' ∧
      (∀ t ∈ snippets, t ≠ s → total t ctx u' = total t ctx u) ∧
      (rank snippets ctx u' snippets.length).filter (·.1 ≠ s) =
        (rank snippets ctx u snippets.length).filter (·.1 ≠ s) ∧
      (s ∈ (rank snippets ctx u snippets.length).map (·.1) →
        s ∈ (rank snippets ctx u' snippets.length).map (·.1)) ∧
      (∀ t ∈ ((rank snippets ctx u' snippets.length).map (·.1)).takeWhile (· ≠ s),
        t ∈ ((rank snippets ctx u snippets.length).map (·.1)).takeWhile (· ≠ s)) ∧
      ∀ limit k : Nat, ((rank snippets ctx u limit).map (·.1))[k]? = some s →
        ∃ k' ≤ k, ((rank snippets ctx u' limit).map (·.1))[k']? = some s := by
  intro u'
  -- Distinct names: a snippet other than `s` has another name.
  have hother : ∀ t ∈ snippets, t ≠ s → t.name ≠ s.name :=
    fun t ht hts hname => hts (List.inj_on_of_nodup_map hnames ht hs hname)
  exact ⟨total_record_le s ctx u, fun t ht hts => total_record_other hother ht hts,
    rank_record_filter hother, mem_rank_record, before_record_subset hother,
    fun _ _ h => index_record_le hother (hnames.of_map _) h⟩

theorem record_never_lowers_rank_if_for :
    let a : Snippet := ⟨"if", "", "", .essential, []⟩
    let b : Snippet := ⟨"for", "", "", .essential, []⟩
    let ctx := Context.analyze "" "" ""
    let u' := (Usage.empty.record a.name).2
    ([a, b].map (·.name)).Nodup ∧ a ∈ [a, b] ∧
      total a ctx .empty ≤ total a ctx u' ∧
      (∀ t ∈ [a, b], t ≠ a → total t ctx u' = total t ctx .empty) ∧
      (rank [a, b] ctx u' 2).filter (·.1 ≠ a) = (rank [a, b] ctx .empty 2).filter (·.1 ≠ a) ∧
      (a ∈ (rank [a, b] ctx .empty 2).map (·.1) → a ∈ (rank [a, b] ctx u' 2).map (·.1)) ∧
      (∀ t ∈ ((rank [a, b] ctx u' 2).map (·.1)).takeWhile (· ≠ a),
        t ∈ ((rank [a, b] ctx .empty 2).map (·.1)).takeWhile (· ≠ a)) ∧
      ∀ limit k : Nat, ((rank [a, b] ctx .empty limit).map (·.1))[k]? = some a →
        ∃ k' ≤ k, ((rank [a, b] ctx u' limit).map (·.1))[k']? = some a :=
  ⟨by decide, List.mem_cons_self,
    record_never_lowers_rank [_, _] _ .empty (by decide) List.mem_cons_self⟩

end Ranking

end SnippetAssist
