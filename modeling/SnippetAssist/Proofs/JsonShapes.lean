import SnippetAssist.Proofs.JsonReadBack
import SnippetAssist.Proofs.UsageCounts

/-!
# Reading typed shapes

The typed readers read arrays and objects whose items all have one shape: `arrayOf item` reads
the items of an array with `item`, and `objectOf item` the values of an object, keeping each key
once. Written from a list whose items `item` reads back, such an array or object is read back as
that list (`arrayOf_render`, `objectOf_render`).

In the other direction, the entries `objectOf` gives never repeat a key, whatever the text
(`yields_objectOf_nodup`); with `yields_objectOf` this is the whole shape of what it reads. Keys
are set in place or at the end, and what that does to the keys and to a search by key is said
once (`nodup_keys_upsert`, `find?_upsert`).
-/

namespace SnippetAssist

/-! ## Setting an entry by key

Objects being read, usage counts and stored texts all set a key the same way: in place where the
key has an entry, else at the end. -/

section Upsert

variable {α : Type}

/-- Setting an entry keeps every key where it was, and adds the key at the end when it had no
entry. -/
theorem keys_upsert (key : String) (v : α) (acc : List (String × α)) :
    (if acc.any (·.1 == key) then acc.map (fun e => if e.1 == key then (key, v) else e)
      else acc ++ [(key, v)]).map (·.1) =
      if acc.any (·.1 == key) then acc.map (·.1) else acc.map (·.1) ++ [key] := by
  split
  · rw [List.map_map]
    apply List.map_congr_left
    intro e _
    simp only [Function.comp_apply]
    split <;> simp_all
  · rw [List.map_append, List.map_singleton]

/-- Keys stay distinct when an entry is set in place or added at the end. -/
theorem nodup_keys_upsert (key : String) (v : α) {acc : List (String × α)}
    (h : (acc.map (·.1)).Nodup) :
    ((if acc.any (·.1 == key) then acc.map (fun e => if e.1 == key then (key, v) else e)
      else acc ++ [(key, v)]).map (·.1)).Nodup := by
  rw [keys_upsert]
  split
  · exact h
  · rename_i hnew
    simp only [Bool.not_eq_true, List.any_eq_false, beq_iff_eq] at hnew
    rw [List.nodup_append]
    refine ⟨h, by simp, fun k hk k' hk' => ?_⟩
    obtain ⟨e, he, rfl⟩ := List.mem_map.1 hk
    rw [List.mem_singleton] at hk'
    rw [hk']
    exact hnew e he

/-- An entry after the update was there before or is the new one. -/
theorem mem_upsert (key : String) (v : α) {acc : List (String × α)} {e : String × α}
    (he : e ∈ if acc.any (·.1 == key) then acc.map (fun e => if e.1 == key then (key, v) else e)
      else acc ++ [(key, v)]) : e ∈ acc ∨ e = (key, v) := by
  split at he
  · obtain ⟨e', he', rfl⟩ := List.mem_map.1 he
    split
    · exact Or.inr rfl
    · exact Or.inl he'
  · simpa using he

/-- After the update, the key set holds the new value and every other key what it held. -/
theorem find?_upsert (key k : String) (v : α) (acc : List (String × α)) :
    (if acc.any (·.1 == key) then acc.map (fun e => if e.1 == key then (key, v) else e)
      else acc ++ [(key, v)]).find? (·.1 == k) =
      if k = key then some (key, v) else acc.find? (·.1 == k) := by
  split
  · rename_i hany
    -- Setting in place keeps every key, so the search finds the same entry, updated.
    rw [List.find?_map]
    have hkeys : ((·.1 == k) ∘ fun e : String × α => if e.1 == key then (key, v) else e) =
        (·.1 == k) := by
      funext e
      simp only [Function.comp_apply]
      split <;> simp_all
    rw [hkeys]
    cases hfind : acc.find? (·.1 == k) with
    | none =>
      split
      · subst k
        obtain ⟨e, he, hk⟩ := List.any_eq_true.1 hany
        exact absurd hk (by simpa using List.find?_eq_none.1 hfind e he)
      · rfl
    | some e =>
      have hk : e.1 = k := by simpa using List.find?_some hfind
      split
      · rename_i hkey; simp [hk, hkey]
      · rename_i hne; simp [hk, hne]
  · rename_i hnew
    simp only [Bool.not_eq_true, List.any_eq_false, beq_iff_eq] at hnew
    rw [List.find?_append]
    split
    · subst k
      rw [List.find?_eq_none.2 (fun e he => by simpa using hnew e he)]
      simp
    · rename_i hne
      simp [Ne.symm hne]

end Upsert

namespace Json

namespace Reader

open Value

/-! ## Arrays and objects of one shape -/

section ReadBack

variable {α : Type} {item : Reader α} {enc : α → Value} {d : Nat}

/-- Items after the first are read back by `item` up to the closing bracket, where `item` reads
each one back from its written form. -/
theorem itemsOf_tail (xs : List α) (hr : ∀ x ∈ xs, Readable d (enc x))
    (hread : ∀ x ∈ xs, ∀ rest, StopsNumber rest → item ((enc x).render.toList ++ rest) = .ok (x, rest))
    (fuel : Nat) (hf : xs.length < fuel) (acc : List α) (rest : List Char) :
    itemsOf item fuel false acc (itemsTail (xs.map enc) ++ ']' :: rest) =
      .ok (acc.reverse ++ xs, ']' :: rest) := by
  induction xs generalizing fuel acc with
  | nil =>
    obtain ⟨f, rfl⟩ : ∃ f, fuel = f + 1 := ⟨fuel - 1, by simp at hf; omega⟩
    rw [itemsOf, List.map_nil, itemsTail_nil, List.nil_append, bind_apply_ok (nextItem_close _ _ _),
      List.append_nil]
    rfl
  | cons x xs ih =>
    obtain ⟨f, rfl⟩ : ∃ f, fuel = f + 1 := ⟨fuel - 1, by simp at hf; omega⟩
    obtain ⟨c, cs, hcs, hb, hc, -⟩ := (hr x (by simp)).head
    have hx := hread x (by simp) (itemsTail (xs.map enc) ++ ']' :: rest)
      (stopsNumber_itemsTail _ rest)
    rw [hcs, List.cons_append] at hx
    rw [itemsOf, List.map_cons, itemsTail_cons, hcs]
    simp only [List.cons_append, List.append_assoc]
    rw [bind_apply_ok (nextItem_comma hc hb hx)]
    dsimp only
    rw [ih (fun y hy => hr y (by simp [hy])) (fun y hy => hread y (by simp [hy])) f
      (by simp at hf; omega)]
    simp

/-- The items of an array are read back by `item` from the first up to the closing bracket. -/
theorem itemsOf_first (xs : List α) (hr : ∀ x ∈ xs, Readable d (enc x))
    (hread : ∀ x ∈ xs, ∀ rest, StopsNumber rest → item ((enc x).render.toList ++ rest) = .ok (x, rest))
    (fuel : Nat) (hf : xs.length < fuel) (rest : List Char) :
    itemsOf item fuel true [] ((renderItems (xs.map enc)).toList ++ ']' :: rest) =
      .ok (xs, ']' :: rest) := by
  obtain ⟨f, rfl⟩ : ∃ f, fuel = f + 1 := ⟨fuel - 1, by omega⟩
  cases xs with
  | nil =>
    rw [itemsOf, List.map_nil, renderItems, String.toList_empty, List.nil_append,
      bind_apply_ok (nextItem_close _ _ _)]
    rfl
  | cons x xs =>
    obtain ⟨c, cs, hcs, hb, hc, -⟩ := (hr x (by simp)).head
    have hx := hread x (by simp) (itemsTail (xs.map enc) ++ ']' :: rest)
      (stopsNumber_itemsTail _ rest)
    rw [hcs, List.cons_append] at hx
    rw [itemsOf, List.map_cons, toList_renderItems_cons, hcs]
    simp only [List.cons_append, List.append_assoc]
    rw [bind_apply_ok (nextItem_first hc hb hx)]
    dsimp only
    rw [itemsOf_tail xs (fun y hy => hr y (by simp [hy])) (fun y hy => hread y (by simp [hy])) f
      (by simp at hf; omega)]
    simp

/-- An array is read back by `arrayOf item` where `item` reads each item back. -/
theorem arrayOf_render (xs : List α) (hr : ∀ x ∈ xs, Readable d (enc x))
    (hread : ∀ x ∈ xs, ∀ rest, StopsNumber rest → item ((enc x).render.toList ++ rest) = .ok (x, rest))
    (fuel : Nat) (hf : xs.length < fuel) (rest : List Char) :
    arrayOf item fuel ((Value.arr (xs.map enc)).render.toList ++ rest) = .ok (xs, rest) := by
  rw [arrayOf, toList_render_arr, List.cons_append, List.append_assoc, List.singleton_append,
    bind_apply_ok (next?_cons (by decide) _)]
  simp only
  rw [bind_apply_ok (bump_cons _ _), bind_apply_ok (itemsOf_first xs hr hread fuel hf rest),
    bind_apply_ok (closeArray_cons _)]
  rfl

/-- Entries after the first are read back by `item` up to the closing brace, where the keys are
distinct from each other and from those already read. -/
theorem entriesOf_tail (es : List (String × α)) (hr : ∀ e ∈ es, Readable d (enc e.2))
    (hread : ∀ e ∈ es, ∀ rest, StopsNumber rest →
      item ((enc e.2).render.toList ++ rest) = .ok (e.2, rest))
    (fuel : Nat) (hf : es.length < fuel) (acc : List (String × α))
    (hnd : ((acc ++ es).map (·.1)).Nodup) (rest : List Char) :
    entriesOf item fuel false acc (fieldsTail (es.map fun e => (e.1, enc e.2)) ++ '}' :: rest) =
      .ok (acc ++ es, '}' :: rest) := by
  induction es generalizing fuel acc with
  | nil =>
    obtain ⟨f, rfl⟩ : ∃ f, fuel = f + 1 := ⟨fuel - 1, by simp at hf; omega⟩
    rw [entriesOf, List.map_nil, fieldsTail_nil, List.nil_append,
      bind_apply_ok (nextKey_close _ _), List.append_nil]
    rfl
  | cons e es ih =>
    obtain ⟨f, rfl⟩ : ∃ f, fuel = f + 1 := ⟨fuel - 1, by simp at hf; omega⟩
    obtain ⟨k, a⟩ := e
    have hx := hread (k, a) (by simp) (fieldsTail (es.map fun e => (e.1, enc e.2)) ++ '}' :: rest)
      (stopsNumber_fieldsTail _ rest)
    -- The key is new: the entry goes at the end.
    have hfresh : acc.any (·.1 == k) = false := by
      rw [List.map_append, List.nodup_append] at hnd
      simp only [List.any_eq_false, beq_iff_eq]
      intro kv hkv hk
      exact hnd.2.2 kv.1 (List.mem_map_of_mem hkv) k (by simp) hk
    rw [entriesOf, List.map_cons, fieldsTail_cons]
    simp only [List.cons_append, List.append_assoc]
    rw [bind_apply_ok (nextKey_comma _ _)]
    dsimp only
    rw [bind_apply_ok (colon_cons _), bind_apply_ok hx]
    simp only [hfresh, Bool.false_eq_true, ↓reduceIte]
    rw [ih (fun y hy => hr y (by simp [hy])) (fun y hy => hread y (by simp [hy])) f
      (by simp at hf; omega) (acc ++ [(k, a)]) (by simpa using hnd)]
    simp

/-- The entries of an object with distinct keys are read back by `item` from the first up to
the closing brace. -/
theorem entriesOf_first (es : List (String × α)) (hr : ∀ e ∈ es, Readable d (enc e.2))
    (hread : ∀ e ∈ es, ∀ rest, StopsNumber rest →
      item ((enc e.2).render.toList ++ rest) = .ok (e.2, rest))
    (hnd : (es.map (·.1)).Nodup) (fuel : Nat) (hf : es.length < fuel) (rest : List Char) :
    entriesOf item fuel true []
        ((renderFields (es.map fun e => (e.1, enc e.2))).toList ++ '}' :: rest) =
      .ok (es, '}' :: rest) := by
  obtain ⟨f, rfl⟩ : ∃ f, fuel = f + 1 := ⟨fuel - 1, by omega⟩
  cases es with
  | nil =>
    rw [entriesOf, List.map_nil, renderFields, String.toList_empty, List.nil_append,
      bind_apply_ok (nextKey_close _ _)]
    rfl
  | cons e es =>
    obtain ⟨k, a⟩ := e
    have hx := hread (k, a) (by simp) (fieldsTail (es.map fun e => (e.1, enc e.2)) ++ '}' :: rest)
      (stopsNumber_fieldsTail _ rest)
    rw [entriesOf, List.map_cons, toList_renderFields_cons]
    simp only [List.cons_append, List.append_assoc]
    rw [bind_apply_ok (nextKey_first _ _)]
    dsimp only
    rw [bind_apply_ok (colon_cons _), bind_apply_ok hx]
    simp only [List.any_nil, Bool.false_eq_true, ↓reduceIte, List.nil_append]
    rw [entriesOf_tail es (fun y hy => hr y (by simp [hy])) (fun y hy => hread y (by simp [hy])) f
      (by simp at hf; omega) [(k, a)] (by simpa using hnd)]
    rfl

/-- An object with distinct keys is read back by `objectOf item` where `item` reads each value
back. -/
theorem objectOf_render (es : List (String × α)) (hr : ∀ e ∈ es, Readable d (enc e.2))
    (hread : ∀ e ∈ es, ∀ rest, StopsNumber rest →
      item ((enc e.2).render.toList ++ rest) = .ok (e.2, rest))
    (hnd : (es.map (·.1)).Nodup) (fuel : Nat) (hf : es.length < fuel) (rest : List Char) :
    objectOf item fuel ((Value.obj (es.map fun e => (e.1, enc e.2))).render.toList ++ rest) =
      .ok (es, rest) := by
  rw [objectOf, toList_render_obj, List.cons_append, List.append_assoc, List.singleton_append,
    bind_apply_ok (next?_cons (by decide) _)]
  simp only
  rw [bind_apply_ok (bump_cons _ _), bind_apply_ok (entriesOf_first es hr hread hnd fuel hf rest),
    bind_apply_ok (closeObject_cons _)]
  rfl

end ReadBack

/-! ## Lengths of written arrays and objects -/

theorem length_le_itemsTail (ws : List Value) : ws.length ≤ (itemsTail ws).length := by
  induction ws with
  | nil => simp
  | cons w ws ih => simp only [itemsTail_cons, List.length_cons, List.length_append]; omega

theorem length_le_fieldsTail (fs : List (String × Value)) : fs.length ≤ (fieldsTail fs).length := by
  induction fs with
  | nil => simp
  | cons kw fs ih =>
    obtain ⟨k, w⟩ := kw
    simp only [fieldsTail_cons, List.length_cons, List.length_append]
    omega

/-- A written array is longer than the number of its items. -/
theorem length_lt_render_arr (vs : List Value) : vs.length < (Value.arr vs).render.toList.length := by
  rw [toList_render_arr]
  cases vs with
  | nil => simp
  | cons w ws =>
    have := length_le_itemsTail ws
    simp only [toList_renderItems_cons, List.length_cons, List.length_append] at this ⊢
    omega

/-- A written object is longer than the number of its fields. -/
theorem length_lt_render_obj (fs : List (String × Value)) :
    fs.length < (Value.obj fs).render.toList.length := by
  rw [toList_render_obj]
  cases fs with
  | nil => simp
  | cons kw fs =>
    obtain ⟨k, w⟩ := kw
    have := length_le_fieldsTail fs
    simp only [toList_renderFields_cons, List.length_cons, List.length_append] at this ⊢
    omega

/-! ## Keys of what `objectOf` gives -/

variable {α : Type}

/-- A reader gives values with two properties when it gives values with each. -/
theorem yields_and {r : Reader α} {P Q : α → Prop} (hp : Yields r P) (hq : Yields r Q) :
    Yields r (fun a => P a ∧ Q a) :=
  fun cs a rest h => ⟨hp cs a rest h, hq cs a rest h⟩

/-- The entries `entriesOf` reads have distinct keys when those read before do. -/
theorem yields_entriesOf_nodup (item : Reader α) (fuel : Nat) (first : Bool)
    {acc : List (String × α)} (hacc : (acc.map (·.1)).Nodup) :
    Yields (entriesOf item fuel first acc) (fun es => (es.map (·.1)).Nodup) := by
  induction fuel generalizing first acc with
  | zero => exact yields_throw _
  | succ fuel ih =>
    unfold entriesOf
    refine yields_bind_any fun key => ?_
    split
    · exact yields_pure hacc
    · rename_i key
      exact yields_bind_any fun _ => yields_bind_any fun v => ih _ (nodup_keys_upsert key v hacc)

/-- The entries `objectOf` reads have distinct keys. -/
theorem yields_objectOf_nodup (item : Reader α) (fuel : Nat) :
    Yields (objectOf item fuel) (fun es => (es.map (·.1)).Nodup) := by
  unfold objectOf
  refine yields_bind_any fun c => ?_
  split
  · exact yields_throw _
  · exact yields_bind_any fun _ =>
      yields_bind (yields_entriesOf_nodup item fuel true List.nodup_nil)
        fun es hes => yields_bind_any fun _ => yields_pure hes
  · exact yields_invalidType

end Reader

end Json

end SnippetAssist
