import SnippetAssist.Ranking

/-!
# Typing more never raises the prefix score

The prefix score of a name for a token that is not empty tries three tests on the token
lowered, and scores the first that passes: a prefix of the lowered name is worth 10, a piece of
it 5, a prefix of the name's initials 2. Each test that a token passes is passed by every
prefix of the token, and the cascade is monotone in its tests (`tiered_mono`), so the score of a
lowered token is at most that of any of its prefixes (`loweredScore_antitone`).

Lowering a text is not a map over its characters: a capital sigma lowers to a final sigma at the
end of a word, and so depends on what follows it. Away from a capital sigma it is one
(`lowercaseFrom_append`), so the lowered form of a token of identifier characters is a prefix of
the lowered form of any text that extends it. Typing more never raises a snippet's prefix score.
-/

namespace SnippetAssist

namespace Text

/-- Lowering a text that starts with a part free of capital sigmas lowers that part character by
character, whatever precedes it, and then goes on past it. -/
theorem lowercaseFrom_append {before t : List Char} (h : 'Σ' ∉ t) (u : List Char) :
    lowercaseFrom before (t ++ u) = t.flatMap lowerChar ++ lowercaseFrom (t.reverse ++ before) u := by
  induction t generalizing before with
  | nil => rfl
  | cons c t ih =>
    have hc : c ≠ 'Σ' := fun hc => h (hc ▸ List.mem_cons_self)
    have ht : 'Σ' ∉ t := fun ht => h (List.mem_cons_of_mem c ht)
    rw [List.cons_append, lowercaseFrom, if_neg hc, ih ht, List.flatMap_cons, List.append_assoc,
      List.reverse_cons, List.append_assoc, List.singleton_append]

/-- Away from a capital sigma, lowering is a map over the characters. -/
theorem lowercaseFrom_eq_flatMap {before t : List Char} (h : 'Σ' ∉ t) :
    lowercaseFrom before t = t.flatMap lowerChar := by
  have ht := @lowercaseFrom_append before t h []
  rw [List.append_nil] at ht
  exact ht.trans (List.append_nil _)

/-- The lowered form of a text free of capital sigmas is a prefix of the lowered form of every
text that extends it. -/
theorem lowercase_prefix_append {t : List Char} (h : 'Σ' ∉ t) (u : List Char) :
    lowercase t <+: lowercase (t ++ u) := by
  rw [lowercase, lowercase, lowercaseFrom_eq_flatMap h, lowercaseFrom_append h u]
  exact List.prefix_append _ _

end Text

namespace Ranking

/-- A cascade of three tests worth 10, 5 and 2: the score of the first that passes, 0 if none. -/
def tiered (a b c : Bool) : Nat := if a then 10 else if b then 5 else if c then 2 else 0

/-- Passing more of the tests never lowers the score of the cascade. -/
theorem tiered_mono {a b c a' b' c' : Bool} (ha : a' = true → a = true) (hb : b' = true → b = true)
    (hc : c' = true → c = true) : tiered a' b' c' ≤ tiered a b c := by
  revert ha hb hc
  revert a b c a' b' c'
  decide

/-- The prefix score of a name for a token that is not empty, from the lowered token. -/
def loweredScore (name : String) (t : List Char) : Nat :=
  tiered (t.isPrefixOf (Text.lowercase name.toList)) (Text.hasInfix t (Text.lowercase name.toList))
    (t.isPrefixOf (initialsFrom none name.toList))

theorem prefixMatch_eq_loweredScore (name : String) {token : String} (h : token.isEmpty = false) :
    prefixMatch name token = loweredScore name (Text.lowercase token.toList) := by
  simp only [prefixMatch, h, loweredScore, tiered]
  rfl

/-- Each test of the prefix score that a token passes, every prefix of the token passes too, so
a longer token scores at most what its prefixes score. -/
theorem loweredScore_antitone (name : String) {t t' : List Char} (h : t <+: t') :
    loweredScore name t' ≤ loweredScore name t := by
  have hpre : ∀ m : List Char, t'.isPrefixOf m = true → t.isPrefixOf m = true := by
    intro m hm
    rw [List.isPrefixOf_iff_prefix] at hm ⊢
    exact h.trans hm
  have hinf : ∀ m : List Char, Text.hasInfix t' m = true → Text.hasInfix t m = true := by
    intro m hm
    rw [Text.hasInfix_iff] at hm ⊢
    exact h.isInfix.trans hm
  exact tiered_mono (hpre _) (hinf _) (hpre _)

/-- Typing more characters after a token of identifier characters never raises a snippet's
prefix score, through any of its tiers; what is typed after it may be any text. -/
theorem prefixMatch_antitone_typing (name t u : String) (ht : t ≠ "")
    (hid : ∀ c ∈ t.toList, Context.isIdentChar c = true) :
    prefixMatch name (t ++ u) ≤ prefixMatch name t := by
  have hsigma : 'Σ' ∉ t.toList := fun h => absurd (hid _ h) (by decide)
  have hne : t.isEmpty = false := by simp [ht]
  have hne' : (t ++ u).isEmpty = false := by simp [ht]
  rw [prefixMatch_eq_loweredScore name hne, prefixMatch_eq_loweredScore name hne',
    String.toList_append]
  exact loweredScore_antitone name (Text.lowercase_prefix_append hsigma u.toList)

/-- Typing an `x` after `fP` loses the initials of `forPairs`. -/
theorem prefixMatch_forPairs_typing :
    "fP" ≠ "" ∧ (∀ c ∈ "fP".toList, Context.isIdentChar c = true) ∧
      prefixMatch "forPairs" ("fP" ++ "x") ≤ prefixMatch "forPairs" "fP" :=
  have ht : "fP" ≠ "" := by decide
  have hid : ∀ c ∈ "fP".toList, Context.isIdentChar c = true := List.all_eq_true.mp (by decide)
  ⟨ht, hid, prefixMatch_antitone_typing "forPairs" "fP" "x" ht hid⟩

end Ranking

end SnippetAssist
