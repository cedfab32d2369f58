import SnippetAssist.Host.Memory
import SnippetAssist.Proofs.NavigatorSessions

/-!
# Walking the stops of a session

Once a session runs, the navigator is a counter over its `N` stops: on stop `i`, counted from
one, `next` moves to stop `i + 1` while there is one and ends the session after the last; `previous`
moves to stop `i - 1` and is refused on the first stop, where it changes nothing and calls no host
operation; tab and shift-tab do as `next` and `previous`, a key that leaves the template ends the
session, and any other key is ignored. A move to a stop is one cursor move to the stop's position
in the document; if the host refuses it, the session ends and the stop's number is reported.

The fixed part of a session, its document, origin, stops and listener, is a `Walk`; the navigator
on stop `i` of it is `Walk.onStop`. One equation per navigator call says what the call does there
(`next_onStop_of_lt`, `previous_onStop_first`, ...), gathered in `Walk.Counter`, and a run of calls
other than `start` only ever leaves the navigator on a stop of the walk or without a session
(`Walk.reached_run`).
-/

namespace SnippetAssist

/-- The fixed part of a running session: the document, the point the template was inserted at,
the stops, and the listener the session holds. -/
structure Walk where
  document : DocumentId
  origin : Position
  stops : List TabStop
  listener : ListenerHandle

namespace Walk

variable {σ : Type} [EditorHost σ]

/-- The navigator on stop `i` of the walk, counted from one. -/
def onStop (w : Walk) (i : Nat) : Navigator :=
  { session := some ⟨w.document, w.origin, w.stops, i, some w.listener⟩ }

/-- The walk is over: no session, and the listener handed back to the host. -/
def finish (w : Walk) (host : σ) : Navigator × σ :=
  ({}, EditorHost.unsubscribeInput host w.listener)

/-- Moving to stop `j` of the walk, whose tab stop is `t`: one cursor move to the stop's position
in the document; if the host refuses it, the walk is over and the stop's number is reported. -/
def moveTo (w : Walk) (host : σ) (j : Nat) (t : TabStop) :
    Except NavigatorError Step × Navigator × σ :=
  match EditorHost.setCursor host w.document (t.absolute w.origin) with
  | .ok host' => (.ok (.moved j (t.absolute w.origin)), w.onStop j, host')
  | .error e => (.error (.cursorPlacement t.stop e), w.finish host)

theorem exit_onStop (w : Walk) (i : Nat) (host : σ) : (w.onStop i).exit host = w.finish host :=
  rfl

/-! ## One call on a stop of the walk -/

/-- On a stop within the walk, placing the cursor is the move to that stop. -/
theorem placeCurrent_onStop (w : Walk) {j : Nat} (h₁ : 1 ≤ j) (h₂ : j ≤ w.stops.length)
    (host : σ) : (w.onStop j).placeCurrent host = w.moveTo host j w.stops[j - 1] := by
  have hlt : j - 1 < w.stops.length := by omega
  have hcur : Session.current? ⟨w.document, w.origin, w.stops, j, some w.listener⟩ =
      some (w.stops[j - 1], w.stops[j - 1].absolute w.origin) := by
    rw [Session.current?, if_neg (Nat.one_le_iff_ne_zero.mp h₁)]
    simp only [List.getElem?_eq_getElem hlt, Option.map_some]
  simp only [Navigator.placeCurrent, onStop, hcur, moveTo]
  cases EditorHost.setCursor host w.document (w.stops[j - 1].absolute w.origin) <;> rfl

/-- Before the last stop, `next` moves to the stop after. -/
theorem next_onStop_of_lt (w : Walk) {i : Nat} (h : i < w.stops.length) (host : σ) :
    (w.onStop i).next host = w.moveTo host (i + 1) w.stops[i] := by
  have hnot : ¬ w.stops.length ≤ i := Nat.not_le.mpr h
  simp only [Navigator.next, onStop, hnot, if_false]
  show (w.onStop (i + 1)).placeCurrent host = _
  rw [placeCurrent_onStop w (Nat.le_add_left 1 i) h]
  rfl

/-- On the last stop, `next` ends the walk. -/
theorem next_onStop_of_le (w : Walk) {i : Nat} (h : w.stops.length ≤ i) (host : σ) :
    (w.onStop i).next host = (.ok .ended, w.finish host) := by
  simp only [Navigator.next, onStop, h, if_true]
  rfl

/-- After the first stop, `previous` moves to the stop before. -/
theorem previous_onStop_of_lt (w : Walk) {i : Nat} (h₁ : 1 < i) (h₂ : i ≤ w.stops.length)
    (host : σ) : (w.onStop i).previous host = w.moveTo host (i - 1) w.stops[i - 2] := by
  have hnot : ¬ i ≤ 1 := Nat.not_le.mpr h₁
  simp only [Navigator.previous, onStop, hnot, if_false]
  show (w.onStop (i - 1)).placeCurrent host = _
  rw [placeCurrent_onStop w (by omega) (by omega)]
  rfl

/-- On the first stop, `previous` is refused and changes nothing. -/
theorem previous_onStop_first (w : Walk) {i : Nat} (h : i ≤ 1) (host : σ) :
    (w.onStop i).previous host = (.error .atFirstStop, w.onStop i, host) := by
  simp only [Navigator.previous, onStop, h, if_true]

/-- A key that leaves the template ends the walk. -/
theorem handleInput_onStop_of_disqualifying (w : Walk) (i : Nat) (host : σ) {e : InputEvent}
    (he : e.isDisqualifying = true) :
    (w.onStop i).handleInput host e = (.ok .exited, w.finish host) := by
  simp only [Navigator.handleInput, he, if_true]
  rfl

theorem handleInput_onStop_tab (w : Walk) (i : Nat) (host : σ) :
    (w.onStop i).handleInput host (.key .tab) =
      (((w.onStop i).next host).1.map .stepped, ((w.onStop i).next host).2) :=
  rfl

theorem handleInput_onStop_shiftTab (w : Walk) (i : Nat) (host : σ) :
    (w.onStop i).handleInput host (.key .shiftTab) =
      (((w.onStop i).previous host).1.map .stepped, ((w.onStop i).previous host).2) :=
  rfl

/-- A key that neither steps nor leaves the template is ignored. -/
theorem handleInput_onStop_other (w : Walk) (i : Nat) (host : σ) {e : InputEvent}
    (he : e.isDisqualifying = false) (htab : e ≠ .key .tab) (hshift : e ≠ .key .shiftTab) :
    (w.onStop i).handleInput host e = (.ok .ignored, w.onStop i, host) := by
  -- Only tab, shift-tab and the other keys leave the template alone.
  have hother : e = .key .other := by
    rcases e with ⟨_ | _ | _ | _ | _ | _ | _ | _ | _⟩ | _ <;>
      simp_all [InputEvent.isDisqualifying]
  subst hother
  rfl

/-! ## The counter -/

/-- What the navigator does on stop `i` of a walk of `N` stops, for every host: `next` moves to
stop `i + 1` while `i < N` and ends the walk at `N`; `previous` moves to stop `i - 1` while
`1 < i` and is refused on the first stop, with nothing changed; tab and shift-tab are `next` and
`previous`; a key that leaves the template ends the walk, any other key is ignored. -/
structure Counter (σ : Type) [EditorHost σ] (w : Walk) (i : Nat) : Prop where
  next_lt : ∀ (h : i < w.stops.length) (host : σ),
    (w.onStop i).next host = w.moveTo host (i + 1) w.stops[i]
  next_last : w.stops.length ≤ i → ∀ host : σ, (w.onStop i).next host = (.ok .ended, w.finish host)
  previous_gt : ∀ (h₁ : 1 < i) (h₂ : i ≤ w.stops.length) (host : σ),
    (w.onStop i).previous host = w.moveTo host (i - 1) w.stops[i - 2]
  previous_first : i ≤ 1 → ∀ host : σ,
    (w.onStop i).previous host = (.error .atFirstStop, w.onStop i, host)
  tab : ∀ host : σ, (w.onStop i).handleInput host (.key .tab) =
    (((w.onStop i).next host).1.map .stepped, ((w.onStop i).next host).2)
  shiftTab : ∀ host : σ, (w.onStop i).handleInput host (.key .shiftTab) =
    (((w.onStop i).previous host).1.map .stepped, ((w.onStop i).previous host).2)
  leave : ∀ (host : σ) (e : InputEvent), e.isDisqualifying = true →
    (w.onStop i).handleInput host e = (.ok .exited, w.finish host)
  ignore : ∀ (host : σ) (e : InputEvent), e.isDisqualifying = false → e ≠ .key .tab →
    e ≠ .key .shiftTab → (w.onStop i).handleInput host e = (.ok .ignored, w.onStop i, host)

theorem counter (w : Walk) (i : Nat) : Counter σ w i where
  next_lt h host := w.next_onStop_of_lt h host
  next_last h host := w.next_onStop_of_le h host
  previous_gt h₁ h₂ host := w.previous_onStop_of_lt h₁ h₂ host
  previous_first h host := w.previous_onStop_first h host
  tab host := w.handleInput_onStop_tab i host
  shiftTab host := w.handleInput_onStop_shiftTab i host
  leave host _ he := w.handleInput_onStop_of_disqualifying i host he
  ignore host _ he htab hshift := w.handleInput_onStop_other i host he htab hshift

/-! ## Runs stay on the walk -/

/-- The navigator is on a stop of the walk, or has no session. -/
def Reached (w : Walk) (n : Navigator) : Prop :=
  n.session = none ∨ ∃ i, 1 ≤ i ∧ i ≤ w.stops.length ∧ n = w.onStop i

theorem reached_onStop (w : Walk) {i : Nat} (h₁ : 1 ≤ i) (h₂ : i ≤ w.stops.length) :
    w.Reached (w.onStop i) :=
  .inr ⟨i, h₁, h₂, rfl⟩

theorem reached_finish (w : Walk) (host : σ) : w.Reached (w.finish host).1 :=
  .inl rfl

theorem reached_moveTo (w : Walk) (host : σ) {j : Nat} (h₁ : 1 ≤ j) (h₂ : j ≤ w.stops.length)
    (t : TabStop) : w.Reached (w.moveTo host j t).2.1 := by
  unfold moveTo
  split
  · exact w.reached_onStop h₁ h₂
  · exact w.reached_finish host

end Walk

namespace NavOp

/-- The operations that move through a running session, all but `start`. -/
def isStart : NavOp → Bool
  | .start .. => true
  | _ => false

variable {σ : Type} [EditorHost σ]

/-- Without a session, every operation but `start` leaves the navigator without one. -/
theorem apply_idle (op : NavOp) (hop : op.isStart = false) {n : Navigator}
    (hn : n.session = none) (host : σ) : (op.apply (n, host)).1.session = none := by
  cases op with
  | start => cases hop
  | next => simp [apply, Navigator.next, hn]
  | previous => simp [apply, Navigator.previous, hn]
  | exit =>
    simp only [apply, Navigator.exit_of_none hn]
    exact hn
  | input e =>
    simp only [apply, Navigator.handleInput]
    split
    · exact Navigator.exit_session n host
    · simp [Navigator.isActive, hn]

/-- One operation other than `start` keeps the navigator on the walk. -/
theorem reached_apply (w : Walk) (op : NavOp) (hop : op.isStart = false) {n : Navigator}
    (hn : w.Reached n) (host : σ) : w.Reached (op.apply (n, host)).1 := by
  rcases hn with hidle | ⟨i, h₁, h₂, rfl⟩
  · exact .inl (apply_idle op hop hidle host)
  -- On stop `i`, each call moves to a stop within the walk, ends it, or stays.
  have hnext : w.Reached ((w.onStop i).next host).2.1 := by
    by_cases hlt : i < w.stops.length
    · rw [w.next_onStop_of_lt hlt]
      exact w.reached_moveTo host (by omega) hlt _
    · rw [w.next_onStop_of_le (Nat.not_lt.mp hlt)]
      exact w.reached_finish host
  have hprev : w.Reached ((w.onStop i).previous host).2.1 := by
    by_cases hgt : 1 < i
    · rw [w.previous_onStop_of_lt hgt h₂]
      exact w.reached_moveTo host (by omega) (by omega) _
    · rw [w.previous_onStop_first (Nat.not_lt.mp hgt)]
      exact w.reached_onStop h₁ h₂
  cases op with
  | start => cases hop
  | next => exact hnext
  | previous => exact hprev
  | exit =>
    show w.Reached ((w.onStop i).exit host).1
    rw [w.exit_onStop i host]
    exact w.reached_finish host
  | input e =>
    cases hdis : e.isDisqualifying
    · by_cases htab : e = .key .tab
      · subst htab; exact hnext
      by_cases hshift : e = .key .shiftTab
      · subst hshift; exact hprev
      show w.Reached ((w.onStop i).handleInput host e).2.1
      rw [w.handleInput_onStop_other i host hdis htab hshift]
      exact w.reached_onStop h₁ h₂
    · show w.Reached ((w.onStop i).handleInput host e).2.1
      rw [w.handleInput_onStop_of_disqualifying i host hdis]
      exact w.reached_finish host

/-- A run of operations other than `start` keeps the navigator on the walk. -/
theorem reached_run (w : Walk) (ops : List NavOp) (hops : ∀ op ∈ ops, op.isStart = false)
    {st : Navigator × σ} (hst : w.Reached st.1) : w.Reached (run ops st).1 := by
  induction ops generalizing st with
  | nil => exact hst
  | cons op ops ih =>
    exact ih (fun op' h => hops op' (List.mem_cons_of_mem op h))
      (reached_apply w op (hops op List.mem_cons_self) hst st.2)

end NavOp

namespace Walk

variable {σ : Type} [EditorHost σ]

/-- With stops, and the subscription `start` asks for granted as the walk's listener, starting a
session is the move to the walk's first stop: `true` once the cursor is there, and the reported
stop and no session when the host refuses the move. -/
theorem start_eq_moveTo (w : Walk) (hS : w.stops ≠ []) (n : Navigator) (host : σ) {host₀ : σ}
    (hsub : EditorHost.subscribeInput (n.exit host).2 = .ok (w.listener, host₀)) :
    n.start host w.document w.origin w.stops =
      ((w.moveTo host₀ 1 (w.stops.head hS)).1.map fun _ => true,
        (w.moveTo host₀ 1 (w.stops.head hS)).2) := by
  have hplace : (w.onStop 1).placeCurrent host₀ = w.moveTo host₀ 1 (w.stops.head hS) := by
    rw [w.placeCurrent_onStop (Nat.le_refl 1) (List.length_pos_iff.mpr hS), List.head_eq_getElem hS]
  unfold Navigator.start
  rcases hex : n.exit host with ⟨n₁, h₁⟩
  rw [hex] at hsub
  simp only [List.isEmpty_eq_false_iff.mpr hS, Bool.false_eq_true, if_false, hsub]
  -- The new session is the walk on its first stop.
  simp only [onStop] at hplace
  rw [hplace]
  unfold moveTo
  cases EditorHost.setCursor host₀ w.document ((w.stops.head hS).absolute w.origin) <;> rfl

/-- A start that answers `true` leaves the walk on its first stop, after one successful cursor
move to the first stop's position. -/
theorem start_ok_true (w : Walk) (hS : w.stops ≠ []) (n : Navigator) (host : σ) {host₀ : σ}
    (hsub : EditorHost.subscribeInput (n.exit host).2 = .ok (w.listener, host₀)) {n₁ : Navigator}
    {host₁ : σ} (h : n.start host w.document w.origin w.stops = (.ok true, n₁, host₁)) :
    n₁ = w.onStop 1 ∧
      EditorHost.setCursor host₀ w.document ((w.stops.head hS).absolute w.origin) = .ok host₁ := by
  rw [w.start_eq_moveTo hS n host hsub] at h
  unfold moveTo at h
  cases hset : EditorHost.setCursor host₀ w.document ((w.stops.head hS).absolute w.origin) with
  | ok host' =>
    rw [hset] at h
    cases h
    exact ⟨rfl, rfl⟩
  | error e =>
    rw [hset] at h
    cases h

end Walk

/-- Once a session starts over a non-empty list of stops `S`, the navigator runs the counter
`i ∈ [1, N]` over them, started at one. Starting places the cursor on `S[0]`: `true` after that
one successful cursor move, with the navigator on stop 1, and the first stop's number with no
session when the move is refused. On stop `i`, `next` moves to stop `i + 1` (to `S[i]`) before the
last stop and ends the session on it; `previous` moves to stop `i - 1` (to `S[i - 2]`) after the
first stop and on it is refused with no host call and no change; tab and shift-tab are `next` and
`previous`, a key that leaves the template ends the session, any other key is ignored. Every move
to stop `j` is one cursor move to `S[j - 1]`'s position, and when the host refuses it the session
ends and `S[j - 1]`'s number is reported. And along any run of calls other than `start`, the
navigator stays on a stop of the walk or has no session. -/
theorem Walk.navigator_runs_counter {σ : Type} [EditorHost σ] (w : Walk) (hS : w.stops ≠ [])
    (n : Navigator) (host : σ) {host₀ : σ}
    (hsub : EditorHost.subscribeInput (n.exit host).2 = .ok (w.listener, host₀)) :
    n.start host w.document w.origin w.stops =
        ((w.moveTo host₀ 1 (w.stops.head hS)).1.map fun _ => true,
          (w.moveTo host₀ 1 (w.stops.head hS)).2) ∧
      (∀ (n₁ : Navigator) (host₁ : σ),
        n.start host w.document w.origin w.stops = (.ok true, n₁, host₁) →
          n₁ = w.onStop 1 ∧
            EditorHost.setCursor host₀ w.document ((w.stops.head hS).absolute w.origin) =
              .ok host₁) ∧
      (∀ i, Walk.Counter σ w i) ∧
      ∀ (ops : List NavOp) (host₁ : σ), (∀ op ∈ ops, op.isStart = false) →
        w.Reached (NavOp.run ops (w.onStop 1, host₁)).1 :=
  ⟨w.start_eq_moveTo hS n host hsub, fun _ _ h => w.start_ok_true hS n host hsub h, w.counter,
    fun ops _ hops => NavOp.reached_run w ops hops
      (w.reached_onStop (Nat.le_refl 1) (List.length_pos_iff.mpr hS))⟩

/-- The three stops of `for $1 = $2, $3 do` inserted at `3:5` of a document, walked in a fresh
editor held in memory, whose first subscription is handle 1. -/
theorem Walk.navigator_runs_counter_for_loop :
    (⟨⟨1⟩, ⟨2, 4⟩, [⟨1, 0, 6⟩, ⟨2, 0, 11⟩, ⟨3, 0, 15⟩], 1⟩ : Walk).stops ≠ [] ∧
      EditorHost.subscribeInput (({} : Navigator).exit ({} : MemoryEditor)).2 =
        .ok (1, { live := [1], nextHandle := 2 }) ∧
      (({} : Navigator).start ({} : MemoryEditor) ⟨1⟩ ⟨2, 4⟩
          [⟨1, 0, 6⟩, ⟨2, 0, 11⟩, ⟨3, 0, 15⟩] =
        (((⟨⟨1⟩, ⟨2, 4⟩, [⟨1, 0, 6⟩, ⟨2, 0, 11⟩, ⟨3, 0, 15⟩], 1⟩ : Walk).moveTo
            ({ live := [1], nextHandle := 2 } : MemoryEditor) 1 ⟨1, 0, 6⟩).1.map fun _ => true,
          ((⟨⟨1⟩, ⟨2, 4⟩, [⟨1, 0, 6⟩, ⟨2, 0, 11⟩, ⟨3, 0, 15⟩], 1⟩ : Walk).moveTo
            ({ live := [1], nextHandle := 2 } : MemoryEditor) 1 ⟨1, 0, 6⟩).2) ∧
        (∀ (n₁ : Navigator) (host₁ : MemoryEditor),
          ({} : Navigator).start ({} : MemoryEditor) ⟨1⟩ ⟨2, 4⟩
              [⟨1, 0, 6⟩, ⟨2, 0, 11⟩, ⟨3, 0, 15⟩] = (.ok true, n₁, host₁) →
            n₁ = (⟨⟨1⟩, ⟨2, 4⟩, [⟨1, 0, 6⟩, ⟨2, 0, 11⟩, ⟨3, 0, 15⟩], 1⟩ : Walk).onStop 1 ∧
              EditorHost.setCursor ({ live := [1], nextHandle := 2 } : MemoryEditor) ⟨1⟩
                ((⟨1, 0, 6⟩ : TabStop).absolute ⟨2, 4⟩) = .ok host₁) ∧
        (∀ i, Walk.Counter MemoryEditor
          ⟨⟨1⟩, ⟨2, 4⟩, [⟨1, 0, 6⟩, ⟨2, 0, 11⟩, ⟨3, 0, 15⟩], 1⟩ i) ∧
        ∀ (ops : List NavOp) (host₁ : MemoryEditor), (∀ op ∈ ops, op.isStart = false) →
          (⟨⟨1⟩, ⟨2, 4⟩, [⟨1, 0, 6⟩, ⟨2, 0, 11⟩, ⟨3, 0, 15⟩], 1⟩ : Walk).Reached
            (NavOp.run ops
              ((⟨⟨1⟩, ⟨2, 4⟩, [⟨1, 0, 6⟩, ⟨2, 0, 11⟩, ⟨3, 0, 15⟩], 1⟩ : Walk).onStop 1,
                host₁)).1) :=
  ⟨List.cons_ne_nil _ _, rfl,
    Walk.navigator_runs_counter ⟨⟨1⟩, ⟨2, 4⟩, [⟨1, 0, 6⟩, ⟨2, 0, 11⟩, ⟨3, 0, 15⟩], 1⟩
      (List.cons_ne_nil _ _) {} ({} : MemoryEditor) rfl⟩

end SnippetAssist
