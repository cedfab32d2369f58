import SnippetAssist.Proofs.JsonShapes
import SnippetAssist.Snippet.Wire
import Mathlib.Data.List.DropRight

/-!
# Snippets and their stored form

The snippet checks make sure of one record invariant (`Snippet.Valid`): the name is not blank and
holds only letters, digits and underscores, the description is trimmed and not blank, the template
is not blank, and no tag is repeated. `create` makes only such snippets, and it makes each of them
again from its own fields, because trimming and removing repeated tags change nothing the second
time (`Text.trim_trim`, `eraseDups_of_nodup`).

Decoding runs the checks again on what it reads, so whatever it gives, from any text, is valid;
and a valid snippet is decoded from its stored form exactly, its tags in their order
(`stored_form_round_trip`).
-/

namespace SnippetAssist

/-! ## Trimming and repeated tags -/

namespace Text

theorem trimEnd_eq_rdropWhile (cs : List Char) : trimEnd cs = cs.rdropWhile isWhiteSpace := rfl

/-- What trimming leaves does not start with white space. -/
theorem trimStart_trim (cs : List Char) : trimStart (trim cs) = trim cs := by
  unfold trim trimStart
  rw [trimEnd_eq_rdropWhile, List.dropWhile_eq_self_iff]
  intro hl
  -- The trimmed text is a prefix of the text after its leading white space.
  have hpre := List.rdropWhile_prefix isWhiteSpace (cs.dropWhile isWhiteSpace)
  rw [hpre.getElem hl]
  exact List.dropWhile_get_zero_not _ _ _

theorem trim_trim (cs : List Char) : trim (trim cs) = trim cs := by
  conv_lhs => rw [trim, trimStart_trim]
  exact List.rdropWhile_idempotent _ _

theorem trim_eq_nil_iff (cs : List Char) : trim cs = [] ↔ isBlank cs = true := by
  rw [trim, trimEnd_eq_rdropWhile, List.rdropWhile_eq_nil_iff, isBlank, List.all_eq_true]
  constructor
  · intro h
    -- Nothing is left after the leading white space, since what is left starts otherwise.
    have hnil : cs.dropWhile isWhiteSpace = [] := by
      by_contra hne
      have hhead := List.head_dropWhile_not isWhiteSpace hne
      rw [h _ (List.head_mem hne)] at hhead
      cases hhead
    exact List.dropWhile_eq_nil_iff.1 hnil
  · intro h x hx
    exact h x ((List.dropWhile_suffix _).mem hx)

/-- Trimming keeps a text blank or not blank. -/
theorem isBlank_trim (cs : List Char) : isBlank (trim cs) = isBlank cs := by
  rw [Bool.eq_iff_iff, ← trim_eq_nil_iff, ← trim_eq_nil_iff, trim_trim]

end Text

theorem nodup_eraseDups (l : List String) : l.eraseDups.Nodup := by
  cases l with
  | nil => simp
  | cons a as =>
    rw [List.eraseDups_cons, List.nodup_cons]
    exact ⟨by simp, nodup_eraseDups _⟩
termination_by l.length
decreasing_by
  have := List.length_filter_le (fun b => !b == a) as
  simp only [List.length_cons]
  omega

theorem eraseDups_of_nodup {l : List String} (h : l.Nodup) : l.eraseDups = l := by
  induction l with
  | nil => rfl
  | cons a as ih =>
    rw [List.nodup_cons] at h
    -- No later tag equals the first, so the filter keeps them all.
    have hkeep : as.filter (fun b => !b == a) = as := List.filter_eq_self.2 fun b hb => by
      simp only [Bool.not_eq_eq_eq_not, Bool.not_true, beq_eq_false_iff_ne, ne_eq]
      rintro rfl
      exact h.1 hb
    rw [List.eraseDups_cons, hkeep, ih h.2]

/-! ## What the checks make sure of -/

namespace Snippet

/-- What the snippet checks make sure of: a name that is not blank and holds only letters, digits
and underscores, a trimmed description that is not blank, a template that is not blank, and tags
without repeats. -/
structure Valid (s : Snippet) : Prop where
  name_not_blank : isBlank s.name = false
  name_chars : s.name.toList.all isNameChar = true
  description_trimmed : Text.trim s.description.toList = s.description.toList
  description_not_blank : isBlank s.description = false
  template_not_blank : isBlank s.template = false
  tags_nodup : s.tags.Nodup

instance (s : Snippet) : Decidable s.Valid :=
  decidable_of_iff (isBlank s.name = false ∧ s.name.toList.all isNameChar = true ∧
      Text.trim s.description.toList = s.description.toList ∧ isBlank s.description = false ∧
      isBlank s.template = false ∧ s.tags.Nodup)
    ⟨fun ⟨a, b, c, d, e, f⟩ => ⟨a, b, c, d, e, f⟩, fun ⟨a, b, c, d, e, f⟩ => ⟨a, b, c, d, e, f⟩⟩

/-- Every snippet `create` makes passes the checks. -/
theorem valid_of_create {name description template : String} {category : Category}
    {tags : List String} {s : Snippet} (h : create name description template category tags = .ok s) :
    s.Valid := by
  unfold create at h
  split at h
  · cases h
  rename_i hname
  split at h
  · cases h
  rename_i hchars
  split at h
  · cases h
  rename_i hdesc
  split at h
  · cases h
  rename_i htemp
  cases h
  refine ⟨by simpa using hname, by simpa using hchars, ?_, ?_, by simpa using htemp,
    nodup_eraseDups tags⟩
  · rw [String.toList_ofList, Text.trim_trim]
  · rw [isBlank, String.toList_ofList, Text.isBlank_trim]
    simpa [isBlank] using hdesc

/-- A snippet that passes the checks is made again by `create` from its own fields. -/
theorem create_of_valid {s : Snippet} (h : s.Valid) :
    create s.name s.description s.template s.category s.tags = .ok s := by
  unfold create
  rw [if_neg (by simp [h.name_not_blank]), if_neg (by simp [h.name_chars]),
    if_neg (by simp [h.description_not_blank]), if_neg (by simp [h.template_not_blank]),
    h.description_trimmed, String.ofList_toList, eraseDups_of_nodup h.tags_nodup]

example : create "print" "  Print a value " "print($1)" .custom ["io", "io"] =
    .ok ⟨"print", "Print a value", "print($1)", .custom, ["io"]⟩ := by rfl

end Snippet

/-! ## Reading the stored form back -/

namespace Draft

open Json Json.Reader

/-- The draft of a snippet: its fields as they are. -/
def ofSnippet (s : Snippet) : Draft := ⟨s.name, s.description, s.template, s.category, s.tags⟩

theorem fresh_none {α : Type} (cs : List Char) : fresh (none : Option α) cs = .ok ((), cs) := rfl

/-- A category is read back from its name. -/
theorem readCategory_quote (c : Category) (rest : List Char) :
    readCategory ((quote c.name).toList ++ rest) = .ok (c, rest) := by
  rw [toList_quote, List.cons_append, readCategory, bind_apply_ok (next?_cons (by decide) _)]
  simp only
  rw [bind_apply_ok (bump_cons _ _), List.append_assoc, List.singleton_append,
    bind_apply_ok (string_escaped _ _)]
  unfold categoryNamed
  rw [Category.ofName?_name]
  rfl

/-- The text of a snippet's stored form, field by field. -/
theorem toList_encode (s : Snippet) :
    s.encode.toList = '{' :: ((quote "name").toList ++ ':' :: ((quote s.name).toList ++
      ',' :: ((quote "description").toList ++ ':' :: ((quote s.description).toList ++
      ',' :: ((quote "template").toList ++ ':' :: ((quote s.template).toList ++
      ',' :: ((quote "category").toList ++ ':' :: ((quote s.category.name).toList ++
      ',' :: ((quote "tags").toList ++ ':' ::
        ((Value.arr (s.tags.map .str)).render.toList ++ ['}'])))))))))) := by
  simp [Snippet.encode, Snippet.toJson, Value.render, Value.toList_renderFields_cons]

/-- The fields of a snippet's stored object are read up to its closing brace, with fuel for its
tags. -/
theorem readFields_encode (s : Snippet) {budget : Nat} (f : Nat) (htags : s.tags.length < budget)
    (rest : List Char) :
    readFields budget (f + 6) true {} ((quote "name").toList ++ ':' :: ((quote s.name).toList ++
      ',' :: ((quote "description").toList ++ ':' :: ((quote s.description).toList ++
      ',' :: ((quote "template").toList ++ ':' :: ((quote s.template).toList ++
      ',' :: ((quote "category").toList ++ ':' :: ((quote s.category.name).toList ++
      ',' :: ((quote "tags").toList ++ ':' ::
        ((Value.arr (s.tags.map .str)).render.toList ++ '}' :: rest)))))))))) =
      .ok (⟨some s.name, some s.description, some s.template, some s.category, some s.tags⟩,
        '}' :: rest) := by
  have htagsRead : arrayOf text budget
      ((Value.arr (s.tags.map .str)).render.toList ++ '}' :: rest) = .ok (s.tags, '}' :: rest) :=
    arrayOf_render s.tags (fun _ _ => Value.Readable.str (d := 0)) (fun t _ rest _ => text_quote t rest)
      budget htags _
  -- The five fields in their order, each after its key and a colon; none was read before.
  rw [readFields, bind_apply_ok (nextKey_first _ _)]
  simp only
  rw [bind_apply_ok (fresh_none _), bind_apply_ok (colon_cons _), bind_apply_ok (text_quote _ _)]
  rw [readFields, bind_apply_ok (nextKey_comma _ _)]
  simp only
  rw [bind_apply_ok (fresh_none _), bind_apply_ok (colon_cons _), bind_apply_ok (text_quote _ _)]
  rw [readFields, bind_apply_ok (nextKey_comma _ _)]
  simp only
  rw [bind_apply_ok (fresh_none _), bind_apply_ok (colon_cons _), bind_apply_ok (text_quote _ _)]
  rw [readFields, bind_apply_ok (nextKey_comma _ _)]
  simp only
  rw [bind_apply_ok (fresh_none _), bind_apply_ok (colon_cons _),
    bind_apply_ok (readCategory_quote _ _)]
  rw [readFields, bind_apply_ok (nextKey_comma _ _)]
  simp only
  rw [bind_apply_ok (fresh_none _), bind_apply_ok (colon_cons _), bind_apply_ok htagsRead]
  rw [readFields, bind_apply_ok (nextKey_close _ _)]
  rfl

/-- A snippet's stored form is read back as its draft, with fuel for its fields and tags. -/
theorem read_encode (s : Snippet) {budget : Nat} (hb : 6 ≤ budget) (htags : s.tags.length < budget)
    (rest : List Char) : read budget (s.encode.toList ++ rest) = .ok (ofSnippet s, rest) := by
  obtain ⟨f, rfl⟩ : ∃ f, budget = f + 6 := ⟨budget - 6, by omega⟩
  rw [toList_encode, read, List.cons_append, bind_apply_ok (next?_cons (by decide) _)]
  simp only
  rw [bind_apply_ok (bump_cons _ _)]
  simp only [List.append_assoc, List.cons_append, List.nil_append]
  rw [bind_apply_ok (readFields_encode s f htags rest)]
  rfl

end Draft

namespace Snippet

open Json Json.Reader

/-- A snippet that passes the checks is read back from its stored form. -/
theorem decode_encode {s : Snippet} (h : s.Valid) : decode s.encode = .ok s := by
  apply readText_of_apply
  have hfuel := length_lt_fuelFor s.encode.toList
  have hlen : (Json.Value.arr (s.tags.map .str)).render.toList.length + 10 ≤
      s.encode.toList.length := by
    rw [Draft.toList_encode]
    simp only [List.length_append, List.length_cons]
    omega
  have htags := length_lt_render_arr (s.tags.map .str)
  rw [List.length_map] at htags
  have hread : Draft.read (fuelFor s.encode.toList) (s.encode.toList ++ []) =
      .ok (Draft.ofSnippet s, []) := Draft.read_encode s (by omega) (by omega) []
  rw [List.append_nil] at hread
  rw [bind_apply_ok hread]
  dsimp only [Draft.toSnippet, Draft.ofSnippet]
  rw [create_of_valid h]
  rfl

/-- The stored form of a snippet is a value the reader gives back, nested three levels or more
inside the limit. -/
theorem readable_toJson (s : Snippet) {d : Nat} (hd : 2 < d) : Value.Readable d s.toJson := by
  refine .obj (by omega)
    (by show List.Nodup ["name", "description", "template", "category", "tags"]; decide) ?_
  intro kv hkv
  simp only [List.mem_cons, List.mem_nil_iff, or_false] at hkv
  -- Four strings and an array of strings.
  rcases hkv with rfl | rfl | rfl | rfl | rfl
  all_goals first
    | exact .str
    | exact .arr (by omega) fun v hv => by
        obtain ⟨t, -, rfl⟩ := List.mem_map.1 hv
        exact .str

/-- The stored form of every snippet reads as JSON to the object it was written from, tags in
their order. -/
theorem parse_encode (s : Snippet) : Value.parse s.encode = .ok s.toJson :=
  parse_render (readable_toJson s (by decide))

/-! ## Decoding gives valid snippets -/

/-- Every snippet decoded from any text passes the checks. -/
theorem valid_of_decode {text : String} {s : Snippet} (h : decode text = .ok s) : s.Valid := by
  refine Json.readText_yields (fun budget => ?_) h
  refine yields_bind_any fun d => ?_
  -- The checks run on the draft read; only a snippet that passes them is given.
  cases hd : d.toSnippet with
  | error e => exact yields_throw _
  | ok snippet => exact yields_pure (valid_of_create hd)

/-- Every snippet read from a JSON value passes the checks. -/
theorem valid_of_ofValue? {v : Json.Value} {s : Snippet} (h : ofValue? v = some s) : s.Valid := by
  obtain ⟨d, -, hd⟩ := Option.bind_eq_some_iff.1 h
  cases hs : d.toSnippet with
  | error e => rw [hs] at hd; cases hd
  | ok s' =>
    rw [hs] at hd
    cases hd
    exact valid_of_create hs

theorem mapM_getStr?_str (ts : List String) : ts.mapM (Value.getStr? ∘ Value.str) = some ts := by
  induction ts with
  | nil => rfl
  | cons t ts ih => simp [List.mapM_cons, Value.getStr?, ih]

/-- A snippet that passes the checks is read back from the JSON value of its stored form. -/
theorem ofValue?_toJson {s : Snippet} (h : s.Valid) : ofValue? s.toJson = some s := by
  have hdraft : Draft.ofValue? s.toJson = some (Draft.ofSnippet s) := by
    simp [Draft.ofValue?, toJson, Value.getStr?, Draft.categoryOf?, Category.ofName?_name,
      Draft.stringsOf?, mapM_getStr?_str, Draft.ofSnippet]
  rw [ofValue?, hdraft, Option.bind_some]
  show (create s.name s.description s.template s.category s.tags).toOption = some s
  rw [create_of_valid h]
  rfl

/-! ## The round trip -/

/-- Every snippet that `create` makes, that decoding gives from any text, or that is read from any
JSON value passes the checks; and every snippet that passes them is decoded from its stored form,
whose JSON is the object of its fields with its tags in their order. So decoding what was decoded,
once encoded, gives it again. -/
theorem stored_form_round_trip :
    (∀ name description template category tags s,
      create name description template category tags = .ok s → s.Valid) ∧
    (∀ text s, decode text = .ok s → s.Valid ∧ decode s.encode = .ok s) ∧
    (∀ v s, ofValue? v = some s → s.Valid) ∧
    (∀ s, s.Valid → decode s.encode = .ok s ∧ Value.parse s.encode = .ok s.toJson) := by
  refine ⟨fun _ _ _ _ _ _ h => valid_of_create h, fun _ _ h => ?_,
    fun _ _ h => valid_of_ofValue? h, fun s h => ⟨decode_encode h, parse_encode s⟩⟩
  have hvalid := valid_of_decode h
  exact ⟨hvalid, decode_encode hvalid⟩

/-- A snippet made with a padded description and a repeated tag is decoded from its stored form. -/
theorem created_snippet_round_trips :
    create "print" "  Print a value " "print($1)" .custom ["io", "io"] =
        .ok ⟨"print", "Print a value", "print($1)", .custom, ["io"]⟩ ∧
      decode (⟨"print", "Print a value", "print($1)", .custom, ["io"]⟩ : Snippet).encode =
        .ok ⟨"print", "Print a value", "print($1)", .custom, ["io"]⟩ :=
  ⟨rfl, (stored_form_round_trip.2.2.2 _
    (stored_form_round_trip.1 "print" "  Print a value " "print($1)" .custom ["io", "io"] _ rfl)).1⟩

end Snippet

end SnippetAssist
