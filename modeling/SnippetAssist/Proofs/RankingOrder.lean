import SnippetAssist.Proofs.DoublePacking
import SnippetAssist.Completion
import Mathlib

/-!
# Ranking by total

`Ranking.rank` keeps snippets by their totals and sorts them with core's `mergeSort`, which is
stable, by the comparison of totals, highest first. Comparing doubles is a total preorder only
away from NaN; every total is a sum of products of non-negative doubles
(`SnippetAssist.Proofs.DoublePacking`), so it is never NaN, and on totals the comparison is the
comparison of their keys in a linear order. The sort is then a stable sort by a key.

A list sorted by a key, highest first, with the entries of each key in a given order, is unique
(`eq_of_perm_of_desc`). So the ranking is determined by what it keeps: it is the first `limit`
entries of the one list that holds the kept snippets with their totals from the highest total
down, snippets of equal totals in the order given (`rank_is_stable_sort_by_total`).
-/

namespace SnippetAssist

section KeySort

variable {α β : Type} [LinearOrder β] (k : α → β)

/-- Compares by the key `k`, highest first. -/
def byKeyDesc (a b : α) : Bool := decide (k b ≤ k a)

@[simp] theorem byKeyDesc_eq (a b : α) : byKeyDesc k a b = decide (k b ≤ k a) := rfl

theorem byKeyDesc_trans (a b c : α) (hab : byKeyDesc k a b = true)
    (hbc : byKeyDesc k b c = true) : byKeyDesc k a c = true := by
  simp only [byKeyDesc_eq, decide_eq_true_eq] at *
  exact hbc.trans hab

theorem byKeyDesc_total (a b : α) : (byKeyDesc k a b || byKeyDesc k b a) = true := by
  simpa using le_total (k b) (k a)

theorem mergeSort_congr {r s : α → α → Bool} {l : List α} (h : ∀ a ∈ l, ∀ b ∈ l, r a b = s a b) :
    l.mergeSort r = l.mergeSort s := by
  simpa using List.map_mergeSort (f := id) h

theorem pairwise_mergeSort_desc (l : List α) :
    (l.mergeSort (byKeyDesc k)).Pairwise fun a b => k b ≤ k a := by
  refine (List.pairwise_mergeSort (byKeyDesc_trans k) (byKeyDesc_total k) l).imp fun h => ?_
  simpa using h

theorem filter_mergeSort_desc (l : List α) (c : β) :
    (l.mergeSort (byKeyDesc k)).filter (fun a => decide (k a = c)) =
      l.filter (fun a => decide (k a = c)) := by
  -- The entries of one key are sorted alike, so they stay a sublist of the sorted list.
  have hsame : (l.filter fun a => decide (k a = c)).Pairwise fun a b => byKeyDesc k a b = true := by
    refine List.pairwise_of_forall_mem_list fun a ha b hb => ?_
    simp only [List.mem_filter, decide_eq_true_eq] at ha hb
    simp [ha.2, hb.2]
  have hsub : (l.filter fun a => decide (k a = c)).Sublist
      ((l.mergeSort (byKeyDesc k)).filter fun a => decide (k a = c)) := by
    have h := (List.sublist_mergeSort (byKeyDesc_trans k) (byKeyDesc_total k) hsame
      (List.filter_sublist (l := l))).filter fun a => decide (k a = c)
    simpa only [List.filter_filter, Bool.and_self] using h
  have hlen := ((List.mergeSort_perm l (byKeyDesc k)).filter
    fun a => decide (k a = c)).length_eq
  exact (hsub.eq_of_length hlen.symm).symm

theorem eq_of_perm_of_desc {l₁ l₂ : List α} (hp : l₁.Perm l₂)
    (h₁ : l₁.Pairwise fun a b => k b ≤ k a) (h₂ : l₂.Pairwise fun a b => k b ≤ k a)
    (hf : ∀ c, l₁.filter (fun a => decide (k a = c)) = l₂.filter (fun a => decide (k a = c))) :
    l₁ = l₂ := by
  induction l₁ generalizing l₂ with
  | nil => exact (List.perm_nil.mp hp.symm).symm
  | cons a l₁ ih =>
    cases l₂ with
    | nil => exact absurd hp.length_eq (by simp)
    | cons b l₂ =>
      -- Both heads have the highest key, so they head the same class of equal keys.
      have hab : k a = k b := by
        have hb : b ∈ a :: l₁ := hp.symm.subset (List.mem_cons_self ..)
        have ha : a ∈ b :: l₂ := hp.subset (List.mem_cons_self ..)
        apply le_antisymm
        · rcases List.mem_cons.mp ha with rfl | ha
          · exact le_rfl
          · exact List.rel_of_pairwise_cons h₂ ha
        · rcases List.mem_cons.mp hb with rfl | hb
          · exact le_rfl
          · exact List.rel_of_pairwise_cons h₁ hb
      have hhead := hf (k a)
      simp only [List.filter_cons, hab, decide_true, if_true, List.cons.injEq] at hhead
      obtain ⟨rfl, -⟩ := hhead
      have htail : l₁ = l₂ := by
        refine ih (hp.cons_inv) h₁.of_cons h₂.of_cons fun c => ?_
        have h := hf c
        by_cases hc : k a = c
        · simpa [List.filter_cons, hc] using h
        · simpa [List.filter_cons, hc] using h
      rw [htail]

end KeySort

namespace Ranking

open Double

theorem posFinite_weights :
    posFinite (0.5 : Float).toModel.unpack = true ∧ posFinite (0.3 : Float).toModel.unpack = true ∧
      posFinite (0.2 : Float).toModel.unpack = true := by
  decide

/-- Every total is a non-negative double. -/
theorem nonNeg_total (s : Snippet) (ctx : Context) (usage : Usage) :
    NonNeg (total s ctx usage) :=
  (((nonNeg_ofNat _).mul_left posFinite_weights.1).add
    ((nonNeg_ofNat _).mul_left posFinite_weights.2.1)).add
    ((nonNeg_ofNat _).mul_left posFinite_weights.2.2)

/-- The snippets a ranking keeps, with their totals, in the order given: all of them while no
token is typed, else those with a positive total. -/
def kept (snippets : List Snippet) (ctx : Context) (usage : Usage) : List (Snippet × Float) :=
  (snippets.filter fun s => ctx.currentToken.isEmpty || total s ctx usage > 0).map
    fun s => (s, total s ctx usage)

/-- `L` holds the entries of `kept` from the highest total down, entries of equal totals in the
order of `kept`. -/
def SortedByTotal (kept L : List (Snippet × Float)) : Prop :=
  L.Perm kept ∧ L.Pairwise (fun a b => b.2 ≤ a.2) ∧
    ∀ v : Float, L.filter (·.2 == v) = kept.filter (·.2 == v)

theorem rank_eq (snippets : List Snippet) (ctx : Context) (usage : Usage) (limit : Nat) :
    rank snippets ctx usage limit =
      ((kept snippets ctx usage).mergeSort (byKeyDesc (key ·.2))).take limit := by
  unfold rank kept
  dsimp only
  rw [List.filter_map]
  congr 1
  -- On totals, which are never NaN, comparing doubles is comparing keys.
  refine mergeSort_congr fun a ha b hb => ?_
  obtain ⟨s, -, rfl⟩ := List.mem_map.mp ha
  obtain ⟨t, -, rfl⟩ := List.mem_map.mp hb
  exact decide_eq_decide.mpr (le_iff_key_le (nonNeg_total t ctx usage).isNaN_eq_false
    (nonNeg_total s ctx usage).isNaN_eq_false)

section Entries

variable {l : List (Snippet × Float)} (hl : ∀ p ∈ l, p.2.isNaN = false)
include hl

theorem pairwise_total_iff :
    l.Pairwise (fun a b => b.2 ≤ a.2) ↔ l.Pairwise (fun a b => key b.2 ≤ key a.2) :=
  List.Pairwise.iff_of_mem fun ha hb => le_iff_key_le (hl _ hb) (hl _ ha)

theorem filter_total_beq {v : Float} (hv : v.isNaN = false) :
    l.filter (·.2 == v) = l.filter (fun p => decide (key p.2 = key v)) :=
  List.filter_congr fun p hp => by
    rw [Bool.eq_iff_iff, beq_iff_key_eq (hl p hp) hv, decide_eq_true_iff]

end Entries

theorem isNaN_kept {snippets : List Snippet} {ctx : Context} {usage : Usage} :
    ∀ p ∈ kept snippets ctx usage, p.2.isNaN = false := by
  intro p hp
  obtain ⟨s, -, rfl⟩ := List.mem_map.mp hp
  exact (nonNeg_total s ctx usage).isNaN_eq_false

theorem sortedByTotal_mergeSort (snippets : List Snippet) (ctx : Context) (usage : Usage) :
    SortedByTotal (kept snippets ctx usage)
      ((kept snippets ctx usage).mergeSort (byKeyDesc (key ·.2))) := by
  have hperm := List.mergeSort_perm (kept snippets ctx usage) (byKeyDesc (key ·.2))
  have hl : ∀ p ∈ (kept snippets ctx usage).mergeSort (byKeyDesc (key ·.2)),
      p.2.isNaN = false := fun p hp => isNaN_kept p (hperm.subset hp)
  refine ⟨hperm, ?_, fun v => ?_⟩
  · exact (pairwise_total_iff hl).mpr
      (pairwise_mergeSort_desc (fun p : Snippet × Float => key p.2) _)
  · cases hv : v.isNaN
    · rw [filter_total_beq hl hv, filter_total_beq isNaN_kept hv]
      exact filter_mergeSort_desc (fun p : Snippet × Float => key p.2) _ _
    · simp [beq_of_isNaN hv]

theorem eq_of_sortedByTotal {snippets : List Snippet} {ctx : Context} {usage : Usage}
    {L₁ L₂ : List (Snippet × Float)} (h₁ : SortedByTotal (kept snippets ctx usage) L₁)
    (h₂ : SortedByTotal (kept snippets ctx usage) L₂) : L₁ = L₂ := by
  have hl₁ : ∀ p ∈ L₁, p.2.isNaN = false := fun p hp => isNaN_kept p (h₁.1.subset hp)
  have hl₂ : ∀ p ∈ L₂, p.2.isNaN = false := fun p hp => isNaN_kept p (h₂.1.subset hp)
  have hperm : L₁.Perm L₂ := h₁.1.trans h₂.1.symm
  refine eq_of_perm_of_desc (fun p : Snippet × Float => key p.2) hperm
    ((pairwise_total_iff hl₁).mp h₁.2.1) ((pairwise_total_iff hl₂).mp h₂.2.1) fun c => ?_
  -- A class of equal keys is empty in both lists, or it is the class of a total they hold.
  by_cases hc : ∃ p ∈ L₁, key p.2 = c
  · obtain ⟨p, hp, rfl⟩ := hc
    have h := (h₁.2.2 p.2).trans (h₂.2.2 p.2).symm
    rwa [filter_total_beq hl₁ (hl₁ p hp), filter_total_beq hl₂ (hl₁ p hp)] at h
  · have hc₂ : ∀ p ∈ L₂, ¬key p.2 = c := fun p hp hpc => hc ⟨p, hperm.symm.subset hp, hpc⟩
    have hc₁ : ∀ p ∈ L₁, ¬key p.2 = c := fun p hp hpc => hc ⟨p, hp, hpc⟩
    rw [List.filter_eq_nil_iff.mpr (by simpa using hc₁),
      List.filter_eq_nil_iff.mpr (by simpa using hc₂)]

/-- Ranking gives every snippet a total that is a double and not NaN, keeps all the snippets
while no token is typed and those of positive total otherwise, and lists them with their totals
from the highest total down, snippets of equal totals in the order given, cut after `limit`
entries. Completions for a request are the snippets of that list for the request's context, and
none inside a comment. -/
theorem rank_is_stable_sort_by_total (snippets : List Snippet) (ctx : Context) (usage : Usage)
    (limit : Nat) :
    (∀ s, (total s ctx usage).isNaN = false) ∧
      (∃ L, SortedByTotal (kept snippets ctx usage) L) ∧
      (∀ L, SortedByTotal (kept snippets ctx usage) L →
        rank snippets ctx usage limit = L.take limit) ∧
      (rank snippets ctx usage limit).length = min limit (kept snippets ctx usage).length ∧
      ∀ (r : Request) (repo : Repository) L, SortedByTotal (kept repo.snippets r.context usage) L →
        rankCompletions r repo usage limit = (L.take limit).map (·.1) ∧
        completions r repo usage limit =
          if r.context.inComment then [] else (L.take limit).map (CompletionItem.ofSnippet ·.1) := by
  have hrank : ∀ snippets ctx L, SortedByTotal (kept snippets ctx usage) L →
      rank snippets ctx usage limit = L.take limit := fun snippets ctx L hL => by
    rw [rank_eq, eq_of_sortedByTotal (sortedByTotal_mergeSort snippets ctx usage) hL]
  refine ⟨fun s => (nonNeg_total s ctx usage).isNaN_eq_false,
    ⟨_, sortedByTotal_mergeSort snippets ctx usage⟩, hrank snippets ctx, ?_,
    fun r repo L hL => ⟨?_, ?_⟩⟩
  · rw [rank_eq, List.length_take, List.length_mergeSort]
  · rw [rankCompletions, hrank _ _ L hL]
  · rw [completions, hrank _ _ L hL]

end Ranking

end SnippetAssist
