import SnippetAssist.Proofs.SnippetStoredForm

/-!
# The snippet checks, in order

Making a snippet checks its fields one after the other and reports the first check that fails:
a name that is blank once trimmed, a name with a character other than an ASCII letter, digit or
underscore, a description that is blank once trimmed, a template that is blank once trimmed.
Blank means white space only, by the Unicode White_Space property, so a name of spaces fails the
first check and a padded name the second.

The checks are stated here on their own terms (`Snippet.IsValidName`, trimming to nothing), and
`Snippet.create_checks_in_order` says that a snippet is made exactly when all of them pass, with
the name, category and template as given, the description trimmed and the tags in their first
order without repeats, and that each error comes exactly when its check is the first to fail.
-/

namespace SnippetAssist

namespace Snippet

/-! ## Names -/

/-- An ASCII letter or digit, or an underscore: what a snippet name is made of. -/
def IsIdentChar (c : Char) : Prop :=
  ('A' ≤ c ∧ c ≤ 'Z') ∨ ('a' ≤ c ∧ c ≤ 'z') ∨ ('0' ≤ c ∧ c ≤ '9') ∨ c = '_'

instance (c : Char) : Decidable (IsIdentChar c) := inferInstanceAs (Decidable (_ ∨ _))

/-- Every character of the name is an ASCII letter or digit, or an underscore. -/
def HasIdentChars (name : String) : Prop := ∀ c ∈ name.toList, IsIdentChar c

instance (name : String) : Decidable (HasIdentChars name) := List.decidableBAll _ _

/-- A name a snippet may have: not empty, and made of ASCII letters, digits and underscores. -/
def IsValidName (name : String) : Prop := name.toList ≠ [] ∧ HasIdentChars name

instance (name : String) : Decidable (IsValidName name) := instDecidableAnd

theorem isNameChar_iff (c : Char) : isNameChar c = true ↔ IsIdentChar c := by
  -- The library's letter and digit tests are ranges of code points; `delta` opens them without
  -- their equation lemmas.
  delta isNameChar Char.isAlphanum Char.isAlpha Char.isUpper Char.isLower Char.isDigit
  simp only [IsIdentChar, Bool.or_eq_true, Bool.and_eq_true, decide_eq_true_eq, Char.le_def,
    ge_iff_le, or_assoc]

/-- A name character is no white space: its code point lies among the ASCII printable ones. -/
theorem isWhiteSpace_of_isIdentChar {c : Char} (h : IsIdentChar c) : Text.isWhiteSpace c = false := by
  have hcode : (65 ≤ c.toNat ∧ c.toNat ≤ 90) ∨ (97 ≤ c.toNat ∧ c.toNat ≤ 122) ∨
      (48 ≤ c.toNat ∧ c.toNat ≤ 57) ∨ c.toNat = 95 := by
    rcases h with h | h | h | rfl
    · simp only [Char.le_def, UInt32.le_iff_toNat_le] at h
      exact .inl h
    · simp only [Char.le_def, UInt32.le_iff_toNat_le] at h
      exact .inr (.inl h)
    · simp only [Char.le_def, UInt32.le_iff_toNat_le] at h
      exact .inr (.inr (.inl h))
    · exact .inr (.inr (.inr rfl))
  simp only [Text.isWhiteSpace, Bool.eq_false_iff, ne_eq, Text.inTable_iff, Text.whiteSpaceTable,
    List.mem_cons, List.not_mem_nil, or_false, exists_eq_or_imp, exists_eq_left, not_or, not_and,
    not_le]
  omega

/-- A name is valid exactly when it passes the blank check and the character check. -/
theorem isValidName_iff (name : String) :
    IsValidName name ↔ Text.trim name.toList ≠ [] ∧ HasIdentChars name := by
  rw [Ne, Text.trim_eq_nil_iff]
  constructor
  · rintro ⟨hne, hchars⟩
    refine ⟨fun hblank => ?_, hchars⟩
    -- The first character of the name is a name character, so the name is not all white space.
    obtain ⟨c, cs, hcs⟩ := List.exists_cons_of_ne_nil hne
    have hc := isWhiteSpace_of_isIdentChar (hchars c (by simp [hcs]))
    rw [Text.isBlank, hcs, List.all_cons, hc, Bool.false_and] at hblank
    cases hblank
  · rintro ⟨hblank, hchars⟩
    refine ⟨fun hnil => hblank ?_, hchars⟩
    rw [hnil]
    rfl

/-! ## The checks -/

/-- The blank check is trimming to nothing. -/
theorem isBlank_iff (s : String) : isBlank s = true ↔ Text.trim s.toList = [] :=
  (Text.trim_eq_nil_iff _).symm

/-- The character check is `HasIdentChars`. -/
theorem all_isNameChar_iff (name : String) :
    name.toList.all isNameChar = true ↔ HasIdentChars name := by
  simp only [List.all_eq_true, isNameChar_iff, HasIdentChars]

/-- Making a snippet, with each check stated on its own terms. -/
theorem create_eq (name description template : String) (category : Category)
    (tags : List String) :
    create name description template category tags =
      if Text.trim name.toList = [] then .error .emptyName
      else if ¬HasIdentChars name then .error (.invalidName name)
      else if Text.trim description.toList = [] then .error (.emptyDescription name)
      else if Text.trim template.toList = [] then .error (.emptyTemplate name)
      else .ok ⟨name, String.ofList (Text.trim description.toList), template, category,
        tags.eraseDups⟩ := by
  unfold create
  -- The checks are taken in their order; each one that passes leaves the next.
  by_cases hn : Text.trim name.toList = []
  · rw [if_pos ((isBlank_iff name).mpr hn), if_pos hn]
  rw [if_neg (mt (isBlank_iff name).mp hn), if_neg hn]
  by_cases hc : HasIdentChars name
  · rw [if_neg (by simpa using (all_isNameChar_iff name).mpr hc), if_neg (not_not.mpr hc)]
    by_cases hd : Text.trim description.toList = []
    · rw [if_pos ((isBlank_iff description).mpr hd), if_pos hd]
    rw [if_neg (mt (isBlank_iff description).mp hd), if_neg hd]
    by_cases ht : Text.trim template.toList = []
    · rw [if_pos ((isBlank_iff template).mpr ht), if_pos ht]
    · rw [if_neg (mt (isBlank_iff template).mp ht), if_neg ht]
  · rw [if_pos (by simpa using mt (all_isNameChar_iff name).mp hc), if_pos hc]

/-- For all fields: a snippet is made exactly when its name is valid and neither its description
nor its template is blank once trimmed, and it keeps the name, the category and the template as
given, the description trimmed and the tags in their first order without repeats. Otherwise the
error is that of the first check to fail: an empty name when the trimmed name is empty (a name
of white space included), an invalid name when the name is not blank but is not a valid name, an
empty description when the name is valid and the trimmed description empty, and an empty template
when only the trimmed template is empty; all but the first carry the name. -/
theorem create_checks_in_order (name description template : String) (category : Category)
    (tags : List String) :
    (create name description template category tags =
        .ok ⟨name, String.ofList (Text.trim description.toList), template, category,
          tags.eraseDups⟩ ↔
      IsValidName name ∧ Text.trim description.toList ≠ [] ∧ Text.trim template.toList ≠ []) ∧
    (create name description template category tags = .error .emptyName ↔
      Text.trim name.toList = []) ∧
    (create name description template category tags = .error (.invalidName name) ↔
      Text.trim name.toList ≠ [] ∧ ¬IsValidName name) ∧
    (create name description template category tags = .error (.emptyDescription name) ↔
      IsValidName name ∧ Text.trim description.toList = []) ∧
    (create name description template category tags = .error (.emptyTemplate name) ↔
      IsValidName name ∧ Text.trim description.toList ≠ [] ∧ Text.trim template.toList = []) := by
  rw [create_eq]
  -- Each check either fails, which decides the outcome, or passes and leaves the next.
  by_cases hn : Text.trim name.toList = []
  · have hinv : ¬IsValidName name := fun h => ((isValidName_iff name).mp h).1 hn
    simp [hn, hinv]
  rw [if_neg hn]
  by_cases hc : HasIdentChars name
  · rw [if_neg (not_not.mpr hc)]
    have hvalid : IsValidName name := (isValidName_iff name).mpr ⟨hn, hc⟩
    by_cases hd : Text.trim description.toList = []
    · simp [hn, hvalid, hd]
    by_cases ht : Text.trim template.toList = []
    · simp [hn, hvalid, hd, ht]
    · simp [hn, hvalid, hd, ht]
  · rw [if_pos hc]
    have hinv : ¬IsValidName name := fun h => hc ((isValidName_iff name).mp h).2
    simp [hn, hinv]

end Snippet

end SnippetAssist
