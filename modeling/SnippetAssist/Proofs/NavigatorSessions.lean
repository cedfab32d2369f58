import SnippetAssist.Navigator

/-!
# Tab-stop sessions and their listeners

The navigator listens to the editor's input only while a session runs, and it must hand each
listener back exactly once: a listener it forgets keeps the editor's input routed to a session
that is gone, and one it hands back twice releases a subscription that may already belong to
someone else. The host may refuse a subscription or a cursor move at any call.

To speak of the subscriptions the navigator made, the host is observed through a ledger
(`Ledgered`): a host of any kind, whose subscriptions are numbered in the order they are made and
whose releases are written down. The ledger is proof-only state; the host under it sees exactly
the calls the navigator makes, and gets back its own handle when a subscription is released.

The invariant `Navigator.Sound` says: no subscription is released twice; without a session every
subscription is released; with one, the session has stops, its current index is among them, and
the one subscription not released is the session's listener. Each operation keeps it
(`Sound.exit`, `Sound.placeCurrent`, `Sound.start`, `Sound.next`, `Sound.previous`,
`Sound.handleInput`), so every run does. Besides, an operation other than `start` never changes
the document, origin, stops or listener of a session it leaves running (`Navigator.Keeps`), and
`start` releases the old listener before the new session takes a fresh one.
-/

namespace SnippetAssist

/-! ## A host observed through a ledger -/

/-- A host with a ledger of the input subscriptions made on it: the host's own handle for each
subscription, in the order they were made, and the numbers of the subscriptions released. -/
structure Ledgered (σ : Type) where
  host : σ
  handles : List ListenerHandle
  released : List Nat

namespace Ledgered

variable {σ : Type} [EditorHost σ]

/-- The host with an empty ledger. -/
def init (host : σ) : Ledgered σ := ⟨host, [], []⟩

/-- The calls go to the host; a subscription is handed out under its number, and releasing a
number hands the host back its own handle for that subscription. -/
instance : EditorHost (Ledgered σ) where
  applyEdit l d p t := (EditorHost.applyEdit l.host d p t).map fun h => { l with host := h }
  append l d t := (EditorHost.append l.host d t).map fun h => { l with host := h }
  setCursor l d p := (EditorHost.setCursor l.host d p).map fun h => { l with host := h }
  subscribeInput l := (EditorHost.subscribeInput l.host).map fun (h, host) =>
    (l.handles.length, ⟨host, l.handles ++ [h], l.released⟩)
  unsubscribeInput l k :=
    ⟨EditorHost.unsubscribeInput l.host (l.handles.getD k 0), l.handles, l.released ++ [k]⟩

/-- Every subscription made so far is released. -/
def AllReleased (l : Ledgered σ) : Prop := ∀ k < l.handles.length, k ∈ l.released

/-- Subscription `k` is made and is the only one not released. -/
def OnlyLive (l : Ledgered σ) (k : Nat) : Prop :=
  k < l.handles.length ∧ k ∉ l.released ∧ ∀ j < l.handles.length, j ∉ l.released → j = k

omit [EditorHost σ] in
/-- A call that only replaces the host keeps the ledger. -/
theorem ledger_of_withHost {ε : Type} {x : Except ε σ} {l l' : Ledgered σ}
    (h : x.map (fun h => { l with host := h }) = .ok l') :
    l'.handles = l.handles ∧ l'.released = l.released := by
  cases x with
  | error e => cases h
  | ok h' => cases h; exact ⟨rfl, rfl⟩

theorem setCursor_ledger {l l' : Ledgered σ} {d : DocumentId} {p : Position}
    (h : EditorHost.setCursor l d p = .ok l') :
    l'.handles = l.handles ∧ l'.released = l.released :=
  ledger_of_withHost (x := EditorHost.setCursor l.host d p) h

theorem subscribeInput_ledger {l l' : Ledgered σ} {k : Nat}
    (h : EditorHost.subscribeInput l = .ok (k, l')) :
    k = l.handles.length ∧ l'.handles.length = l.handles.length + 1 ∧ l'.released = l.released := by
  change (EditorHost.subscribeInput l.host).map (fun (h, host) =>
    (l.handles.length, (⟨host, l.handles ++ [h], l.released⟩ : Ledgered σ))) = .ok (k, l') at h
  cases hc : EditorHost.subscribeInput l.host with
  | error e => rw [hc] at h; cases h
  | ok r => rw [hc] at h; cases h; simp

@[simp] theorem unsubscribeInput_handles (l : Ledgered σ) (k : Nat) :
    (EditorHost.unsubscribeInput l k).handles = l.handles := rfl

@[simp] theorem unsubscribeInput_released (l : Ledgered σ) (k : Nat) :
    (EditorHost.unsubscribeInput l k).released = l.released ++ [k] := rfl

end Ledgered

/-! ## What each operation does to the navigator, on any host -/

namespace Navigator

variable {σ : Type} [EditorHost σ]

@[simp] theorem currentIndex_of_session {n : Navigator} {s : Session} (h : n.session = some s) :
    n.currentIndex = s.index := by
  simp [currentIndex, h]

@[simp] theorem size_of_session {n : Navigator} {s : Session} (h : n.session = some s) :
    n.size = s.stops.length := by
  simp [size, h]

theorem isActive_eq_false {n : Navigator} : n.isActive = false ↔ n.session = none := by
  simp [isActive, Option.isSome_eq_false_iff, Option.isNone_iff_eq_none]

@[simp] theorem exit_session (n : Navigator) (host : σ) : (n.exit host).1.session = none := by
  unfold exit
  split
  · assumption
  · split <;> rfl

theorem exit_of_none {n : Navigator} (h : n.session = none) (host : σ) : n.exit host = (n, host) := by
  simp [exit, h]

theorem exit_of_listener {n : Navigator} {s : Session} {k : ListenerHandle} (h : n.session = some s)
    (hk : s.listener = some k) (host : σ) :
    n.exit host = ({ session := none }, EditorHost.unsubscribeInput host k) := by
  simp [exit, h, hk]

/-- Placing the cursor leaves the navigator as it was, on the host after a cursor move or on the
same host, or else it ends the session. -/
theorem placeCurrent_state (n : Navigator) (host : σ) :
    (n.placeCurrent host).2 = (n, host) ∨
      (∃ d p host', EditorHost.setCursor host d p = .ok host' ∧
        (n.placeCurrent host).2 = (n, host')) ∨
      (n.placeCurrent host).2 = n.exit host := by
  unfold placeCurrent
  split
  · exact .inl rfl
  · split
    · exact .inl rfl
    · split
      · rename_i host' hset
        exact .inr (.inl ⟨_, _, host', hset, rfl⟩)
      · exact .inr (.inr rfl)

/-- Starting ends the old session; then, with stops and a subscription, a session over them
begins on that subscription and its cursor is placed. -/
theorem start_state (n : Navigator) (host : σ) (d : DocumentId) (o : Position)
    (ss : List TabStop) :
    (n.start host d o ss).2 = n.exit host ∨
      ∃ h host', ss ≠ [] ∧ EditorHost.subscribeInput (n.exit host).2 = .ok (h, host') ∧
        (n.start host d o ss).2 =
          (({ session := some ⟨d, o, ss, 1, some h⟩ } : Navigator).placeCurrent host').2 := by
  unfold start
  rcases hex : n.exit host with ⟨n₁, h₁⟩
  dsimp only
  split
  · exact .inl rfl
  · rename_i hss
    split
    · exact .inl rfl
    · rename_i h host' hsub
      refine .inr ⟨h, host', by simpa using hss, hsub, ?_⟩
      split <;> rename_i heq <;> rw [heq]

/-- Stepping forward leaves the navigator alone, ends the session after the last stop, or moves
the index up by one and places the cursor. -/
theorem next_state (n : Navigator) (host : σ) :
    (n.next host).2 = (n, host) ∨ (n.next host).2 = n.exit host ∨
      ∃ s, n.session = some s ∧ s.index < s.stops.length ∧
        (n.next host).2 =
          (({ session := some { s with index := s.index + 1 } } : Navigator).placeCurrent host).2 := by
  unfold next
  split
  · exact .inl rfl
  · rename_i s hs
    split
    · exact .inr (.inl rfl)
    · exact .inr (.inr ⟨s, hs, by omega, rfl⟩)

/-- Stepping back leaves the navigator alone on the first stop, or moves the index down by one
and places the cursor. -/
theorem previous_state (n : Navigator) (host : σ) :
    (n.previous host).2 = (n, host) ∨
      ∃ s, n.session = some s ∧ 1 < s.index ∧
        (n.previous host).2 =
          (({ session := some { s with index := s.index - 1 } } : Navigator).placeCurrent host).2 := by
  unfold previous
  split
  · exact .inl rfl
  · rename_i s hs
    split
    · exact .inl rfl
    · exact .inr ⟨s, hs, by omega, rfl⟩

/-- An input event ends the session, steps forward or back, or changes nothing. -/
theorem handleInput_state (n : Navigator) (host : σ) (e : InputEvent) :
    (n.handleInput host e).2 = (n, host) ∨ (n.handleInput host e).2 = n.exit host ∨
      (n.handleInput host e).2 = (n.next host).2 ∨
      (n.handleInput host e).2 = (n.previous host).2 := by
  unfold handleInput
  split
  · exact .inr (.inl rfl)
  · split
    · exact .inl rfl
    · split
      · exact .inr (.inr (.inl rfl))
      · exact .inr (.inr (.inr rfl))
      · exact .inl rfl

theorem exit_handles (n : Navigator) (l : Ledgered σ) : (n.exit l).2.handles = l.handles := by
  unfold exit
  split
  · rfl
  · split <;> rfl

theorem exit_releases {n : Navigator} {s : Session} {k : Nat} (hs : n.session = some s)
    (hk : s.listener = some k) (l : Ledgered σ) : k ∈ (n.exit l).2.released := by
  simp [exit_of_listener hs hk]

theorem mem_released_exit {k : Nat} {l : Ledgered σ} (hk : k ∈ l.released) (n : Navigator) :
    k ∈ (n.exit l).2.released := by
  unfold exit
  split
  · exact hk
  · split
    · simp [hk]
    · exact hk

theorem mem_released_placeCurrent {k : Nat} {l : Ledgered σ} (hk : k ∈ l.released)
    (n : Navigator) : k ∈ (n.placeCurrent l).2.2.released := by
  rcases placeCurrent_state n l with heq | ⟨d, p, l', hset, heq⟩ | heq <;> rw [heq]
  · exact hk
  · rw [(Ledgered.setCursor_ledger hset).2]; exact hk
  · exact mem_released_exit hk n

/-! ## The invariant -/

/-- What the navigator keeps true on a ledgered host: no subscription is released twice, and only
subscriptions that were made are released; without a session it counts no stops and every
subscription is released; with one, the session has stops, its current index is among them, and
its listener is the one subscription not released. -/
structure Sound (n : Navigator) (l : Ledgered σ) : Prop where
  nodup : l.released.Nodup
  made : ∀ k ∈ l.released, k < l.handles.length
  idle : n.isActive = false → n.currentIndex = 0 ∧ n.size = 0 ∧ l.AllReleased
  active : ∀ s, n.session = some s →
    s.stops ≠ [] ∧ 1 ≤ n.currentIndex ∧ n.currentIndex ≤ n.size ∧
      ∃ k, s.listener = some k ∧ l.OnlyLive k

section Sound

variable {n : Navigator} {l : Ledgered σ}

omit [EditorHost σ] in
theorem sound_of_none (hs : n.session = none) (hn : l.released.Nodup)
    (hm : ∀ k ∈ l.released, k < l.handles.length) (ha : l.AllReleased) : Sound n l :=
  ⟨hn, hm, fun _ => ⟨by simp [currentIndex, hs], by simp [size, hs], ha⟩,
    fun s h => by rw [hs] at h; cases h⟩

omit [EditorHost σ] in
theorem sound_of_some {s : Session} {k : Nat} (hs : n.session = some s) (hn : l.released.Nodup)
    (hm : ∀ k ∈ l.released, k < l.handles.length) (hst : s.stops ≠ [])
    (hi : 1 ≤ s.index ∧ s.index ≤ s.stops.length) (hk : s.listener = some k)
    (hl : l.OnlyLive k) : Sound n l :=
  ⟨hn, hm, fun h => by simp [isActive_eq_false.mp h] at hs,
    fun s' h => by
      rw [hs] at h; cases h
      rw [currentIndex_of_session hs, size_of_session hs]
      exact ⟨hst, hi.1, hi.2, k, hk, hl⟩⟩

omit [EditorHost σ] in
theorem Sound.allReleased (h : Sound n l) (hs : n.session = none) : l.AllReleased :=
  (h.idle (isActive_eq_false.mpr hs)).2.2

omit [EditorHost σ] in
theorem Sound.session (h : Sound n l) {s : Session} (hs : n.session = some s) :
    s.stops ≠ [] ∧ 1 ≤ s.index ∧ s.index ≤ s.stops.length ∧
      ∃ k, s.listener = some k ∧ l.OnlyLive k := by
  have := h.active s hs
  rwa [currentIndex_of_session hs, size_of_session hs] at this

omit [EditorHost σ] in
theorem sound_init (host : σ) : Sound ({} : Navigator) (Ledgered.init host) :=
  sound_of_none rfl List.nodup_nil (by simp [Ledgered.init]) (by simp [Ledgered.AllReleased, Ledgered.init])

omit [EditorHost σ] in
/-- The invariant reads only the ledger, not the host under it. -/
theorem Sound.of_ledger {l' : Ledgered σ} (h : Sound n l) (hh : l'.handles = l.handles)
    (hr : l'.released = l.released) : Sound n l' := by
  obtain ⟨host, handles, released⟩ := l
  obtain ⟨host', handles', released'⟩ := l'
  simp only at hh hr
  subst hh hr
  exact ⟨h.nodup, h.made, h.idle, h.active⟩

/-- Ending the session releases its listener, and then every subscription is released. -/
theorem Sound.exit (h : Sound n l) : Sound (n.exit l).1 (n.exit l).2 := by
  cases hs : n.session with
  | none => rw [exit_of_none hs]; exact h
  | some s =>
    obtain ⟨-, -, -, k, hk, hlt, hout, honly⟩ := h.session hs
    rw [exit_of_listener hs hk]
    refine sound_of_none rfl ?_ ?_ ?_
    · simp only [Ledgered.unsubscribeInput_released]
      refine List.nodup_append.mpr ⟨h.nodup, by simp, fun a ha b hb => ?_⟩
      rw [List.mem_singleton] at hb
      subst hb
      exact fun hab => hout (hab ▸ ha)
    · intro j hj
      simp only [Ledgered.unsubscribeInput_released, List.mem_append, List.mem_singleton] at hj
      simp only [Ledgered.unsubscribeInput_handles]
      rcases hj with hj | rfl
      · exact h.made j hj
      · exact hlt
    · intro j hj
      simp only [Ledgered.unsubscribeInput_handles] at hj
      simp only [Ledgered.unsubscribeInput_released, List.mem_append, List.mem_singleton]
      by_cases hjr : j ∈ l.released
      · exact .inl hjr
      · exact .inr (honly j hj hjr)

theorem Sound.placeCurrent (h : Sound n l) : Sound (n.placeCurrent l).2.1 (n.placeCurrent l).2.2 := by
  rcases placeCurrent_state n l with heq | ⟨d, p, l', hset, heq⟩ | heq <;> rw [heq]
  · exact h
  · obtain ⟨hh, hr⟩ := Ledgered.setCursor_ledger hset
    exact h.of_ledger hh hr
  · exact h.exit

omit [EditorHost σ] in
/-- Moving to another stop of the session keeps the invariant. -/
theorem Sound.withIndex (h : Sound n l) {s : Session} (hs : n.session = some s) {i : Nat}
    (hi : 1 ≤ i) (hi' : i ≤ s.stops.length) :
    Sound ({ session := some { s with index := i } } : Navigator) l := by
  obtain ⟨hst, -, -, k, hk, hl⟩ := h.session hs
  exact sound_of_some rfl h.nodup h.made hst ⟨hi, hi'⟩ hk hl

/-- Starting ends the old session, and a new one holds the subscription it just made, which is
the only one not released. -/
theorem Sound.start (h : Sound n l) (d : DocumentId) (o : Position) (ss : List TabStop) :
    Sound (n.start l d o ss).2.1 (n.start l d o ss).2.2 := by
  rcases start_state n l d o ss with heq | ⟨k, l', hss, hsub, heq⟩ <;> rw [heq]
  · exact h.exit
  · have hex := h.exit
    have hidle := hex.allReleased (exit_session n l)
    obtain ⟨rfl, hlen, hrel⟩ := Ledgered.subscribeInput_ledger hsub
    apply Sound.placeCurrent
    have hmade : ∀ j ∈ l'.released, j < l'.handles.length := fun j hj => by
      rw [hrel] at hj; have := hex.made j hj; omega
    refine sound_of_some rfl (hrel ▸ hex.nodup) hmade hss
      ⟨Nat.le_refl 1, List.length_pos_iff.mpr hss⟩ rfl ⟨by omega, ?_, ?_⟩
    · rw [hrel]; intro hk; have := hex.made _ hk; omega
    · intro j hj hjr
      rw [hrel] at hjr
      rcases Nat.lt_or_ge j (n.exit l).2.handles.length with hlt | hge
      · exact absurd (hidle j hlt) hjr
      · omega

theorem Sound.next (h : Sound n l) : Sound (n.next l).2.1 (n.next l).2.2 := by
  rcases next_state n l with heq | heq | ⟨s, hs, hlt, heq⟩ <;> rw [heq]
  · exact h
  · exact h.exit
  · exact (h.withIndex hs (by omega) (by omega)).placeCurrent

theorem Sound.previous (h : Sound n l) : Sound (n.previous l).2.1 (n.previous l).2.2 := by
  rcases previous_state n l with heq | ⟨s, hs, hlt, heq⟩ <;> rw [heq]
  · exact h
  · obtain ⟨-, -, hle, -⟩ := h.session hs
    exact (h.withIndex hs (by omega) (by omega)).placeCurrent

theorem Sound.handleInput (h : Sound n l) (e : InputEvent) :
    Sound (n.handleInput l e).2.1 (n.handleInput l e).2.2 := by
  rcases handleInput_state n l e with heq | heq | heq | heq <;> rw [heq]
  · exact h
  · exact h.exit
  · exact h.next
  · exact h.previous

end Sound

/-! ## What a session keeps -/

/-- Any session `n'` runs is one `n` ran, with the same document, origin, stops and listener. -/
def Keeps (n n' : Navigator) : Prop :=
  ∀ s', n'.session = some s' → ∃ s, n.session = some s ∧ s.document = s'.document ∧
    s.origin = s'.origin ∧ s.stops = s'.stops ∧ s.listener = s'.listener

theorem Keeps.refl (n : Navigator) : n.Keeps n :=
  fun s' h => ⟨s', h, rfl, rfl, rfl, rfl⟩

theorem Keeps.trans {n m k : Navigator} (h₁ : n.Keeps m) (h₂ : m.Keeps k) : n.Keeps k := by
  intro s'' hs''
  obtain ⟨s', hs', hd', ho', hst', hl'⟩ := h₂ s'' hs''
  obtain ⟨s, hs, hd, ho, hst, hl⟩ := h₁ s' hs'
  exact ⟨s, hs, hd.trans hd', ho.trans ho', hst.trans hst', hl.trans hl'⟩

theorem keeps_exit (n m : Navigator) (host : σ) : n.Keeps (m.exit host).1 := by
  intro s' h
  rw [exit_session] at h
  cases h

theorem keeps_withIndex {n : Navigator} {s : Session} (hs : n.session = some s) (i : Nat) :
    n.Keeps { session := some { s with index := i } } := by
  intro s' h
  cases h
  exact ⟨s, hs, rfl, rfl, rfl, rfl⟩

theorem keeps_placeCurrent (n : Navigator) (host : σ) : n.Keeps (n.placeCurrent host).2.1 := by
  rcases placeCurrent_state n host with heq | ⟨d, p, host', -, heq⟩ | heq <;> rw [heq]
  · exact Keeps.refl n
  · exact Keeps.refl n
  · exact keeps_exit n n host

theorem keeps_next (n : Navigator) (host : σ) : n.Keeps (n.next host).2.1 := by
  rcases next_state n host with heq | heq | ⟨s, hs, -, heq⟩ <;> rw [heq]
  · exact Keeps.refl n
  · exact keeps_exit n n host
  · exact (keeps_withIndex hs _).trans (keeps_placeCurrent _ host)

theorem keeps_previous (n : Navigator) (host : σ) : n.Keeps (n.previous host).2.1 := by
  rcases previous_state n host with heq | ⟨s, hs, -, heq⟩ <;> rw [heq]
  · exact Keeps.refl n
  · exact (keeps_withIndex hs _).trans (keeps_placeCurrent _ host)

theorem keeps_handleInput (n : Navigator) (host : σ) (e : InputEvent) :
    n.Keeps (n.handleInput host e).2.1 := by
  rcases handleInput_state n host e with heq | heq | heq | heq <;> rw [heq]
  · exact Keeps.refl n
  · exact keeps_exit n n host
  · exact keeps_next n host
  · exact keeps_previous n host

/-- A session that `start` leaves running is over the given document, origin and stops, and
listens through the subscription that `start` made. -/
theorem start_session_fresh {n : Navigator} {l : Ledgered σ} {d : DocumentId} {o : Position}
    {ss : List TabStop} {s' : Session} (h : (n.start l d o ss).2.1.session = some s') :
    s'.document = d ∧ s'.origin = o ∧ s'.stops = ss ∧ s'.listener = some l.handles.length := by
  rcases start_state n l d o ss with heq | ⟨k, l', -, hsub, heq⟩ <;> rw [heq] at h
  · rw [exit_session] at h; cases h
  · obtain ⟨s, hs, hd, ho, hst, hl⟩ := keeps_placeCurrent _ l' s' h
    cases hs
    obtain ⟨rfl, -, -⟩ := Ledgered.subscribeInput_ledger hsub
    rw [exit_handles] at hl
    exact ⟨hd.symm, ho.symm, hst.symm, hl.symm⟩

/-- `start` releases the listener of the session it ends. -/
theorem start_releases {n : Navigator} {s : Session} {k : Nat} (hs : n.session = some s)
    (hk : s.listener = some k) (l : Ledgered σ) (d : DocumentId) (o : Position)
    (ss : List TabStop) : k ∈ (n.start l d o ss).2.2.released := by
  have hex := exit_releases hs hk l
  rcases start_state n l d o ss with heq | ⟨k', l', -, hsub, heq⟩ <;> rw [heq]
  · exact hex
  · obtain ⟨-, -, hrel⟩ := Ledgered.subscribeInput_ledger hsub
    exact mem_released_placeCurrent (hrel ▸ hex) _

end Navigator

/-! ## Runs -/

/-- An operation that users of the navigator call. -/
inductive NavOp where
  | start (document : DocumentId) (origin : Position) (stops : List TabStop)
  | next
  | previous
  | exit
  | input (event : InputEvent)

namespace NavOp

variable {σ : Type} [EditorHost σ]

/-- The navigator and host after an operation, whatever it returned. -/
def apply : NavOp → Navigator × σ → Navigator × σ
  | .start d o ss, (n, h) => (n.start h d o ss).2
  | .next, (n, h) => (n.next h).2
  | .previous, (n, h) => (n.previous h).2
  | .exit, (n, h) => n.exit h
  | .input e, (n, h) => (n.handleInput h e).2

/-- The navigator and host after a run of operations. -/
def run (ops : List NavOp) (st : Navigator × σ) : Navigator × σ :=
  ops.foldl (fun st op => op.apply st) st

/-- What one operation does to the session: `start` releases the listener of the session it
ends, and a session it leaves running is over its arguments on the subscription it made; any
other operation leaves a running session's document, origin, stops and listener as they were. -/
def SessionStep : NavOp → Navigator × Ledgered σ → Navigator × Ledgered σ → Prop
  | .start d o ss, (n, l), (n', l') =>
    (∀ s k, n.session = some s → s.listener = some k → k ∈ l'.released) ∧
      ∀ s', n'.session = some s' →
        s'.document = d ∧ s'.origin = o ∧ s'.stops = ss ∧ s'.listener = some l.handles.length
  | _, (n, _), (n', _) => n.Keeps n'

theorem sound_apply (op : NavOp) {st : Navigator × Ledgered σ} (h : st.1.Sound st.2) :
    (op.apply st).1.Sound (op.apply st).2 := by
  obtain ⟨n, l⟩ := st
  cases op with
  | start d o ss => exact h.start d o ss
  | next => exact h.next
  | previous => exact h.previous
  | exit => exact h.exit
  | input e => exact h.handleInput e

/-- Every run keeps the invariant. -/
theorem sound_run (ops : List NavOp) {st : Navigator × Ledgered σ} (h : st.1.Sound st.2) :
    (run ops st).1.Sound (run ops st).2 := by
  induction ops generalizing st with
  | nil => exact h
  | cons op ops ih => exact ih (sound_apply op h)

theorem sessionStep_apply (op : NavOp) (st : Navigator × Ledgered σ) :
    SessionStep op st (op.apply st) := by
  obtain ⟨n, l⟩ := st
  cases op with
  | start d o ss =>
    exact ⟨fun s k hs hk => Navigator.start_releases hs hk l d o ss,
      fun s' h => Navigator.start_session_fresh h⟩
  | next => exact Navigator.keeps_next n l
  | previous => exact Navigator.keeps_previous n l
  | exit => exact Navigator.keeps_exit n n l
  | input e => exact Navigator.keeps_handleInput n l e

/-- On any host, whose subscriptions and cursor moves may each be refused at any call, every
state a run of navigator operations reaches from a fresh navigator is sound: no subscription is
released twice; without a session the navigator counts no stops and every subscription it made
is released; with one, the session has stops, its current index is among them, and its listener
is the one subscription not released. And from there, `start` releases the old listener and a new
session holds the subscription it just made, while any other operation leaves a running session's
document, origin, stops and listener as they were. -/
theorem run_sound_and_sessions_kept (host : σ) (ops : List NavOp) :
    (run ops ({}, Ledgered.init host)).1.Sound (run ops ({}, Ledgered.init host)).2 ∧
      ∀ op, SessionStep op (run ops ({}, Ledgered.init host))
        (op.apply (run ops ({}, Ledgered.init host))) :=
  ⟨sound_run ops (Navigator.sound_init host), fun op => sessionStep_apply op _⟩

end NavOp

end SnippetAssist
