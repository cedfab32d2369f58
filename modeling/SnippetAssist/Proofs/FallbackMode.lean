import SnippetAssist.Proofs.EngineRuns
import SnippetAssist.Proofs.Insertion

/-!
# Fallback mode

A host that is not enabled, or that offers no positioned edit, puts the engine in fallback mode:
snippets are appended to the end of the document and no tab-stop session runs. This module shows
that the engine keeps to this along every run, on a host of any kind whose calls may each fail,
observed through its ledger of input subscriptions (`Ledgered`):

* whenever the engine is in fallback mode, no session runs, and so every subscription the engine
  ever made on the host has been released (`Engine.Settled`, kept by every operation);
* in fallback mode an insertion uses the host only to append: two hosts that append alike give
  the same insertion, whatever they do on a positioned edit, a cursor move or a subscription
  (`insert_fallback_appends_only`); one that goes through reports that no session was started;
  and starting tab stops is refused before the host is called.
-/

namespace SnippetAssist

namespace Navigator

variable {σ : Type} [EditorHost σ] {n : Navigator}

/-- Without a session, stepping forward changes nothing. -/
theorem next_of_none (h : n.session = none) (host : σ) : (n.next host).2 = (n, host) := by
  simp [next, h]

/-- Without a session, stepping back changes nothing. -/
theorem previous_of_none (h : n.session = none) (host : σ) : (n.previous host).2 = (n, host) := by
  simp [previous, h]

/-- Without a session, an input event leaves the navigator without one. -/
theorem handleInput_of_none (h : n.session = none) (host : σ) (e : InputEvent) :
    (n.handleInput host e).2.1.session = none := by
  rcases handleInput_state n host e with heq | heq | heq | heq <;> rw [heq]
  · exact h
  · exact exit_session n host
  · rw [next_of_none h]; exact h
  · rw [previous_of_none h]; exact h

end Navigator

namespace Engine

variable {S σ : Type} [SettingsStore S] [EditorHost σ]

/-- A host call that edits a document: an edit at a position, or an append. -/
def EditStep (host host' : σ) : Prop :=
  (∃ d p t, EditorHost.applyEdit host d p t = .ok host') ∨
    ∃ d t, EditorHost.append host d t = .ok host'

/-- An edit leaves the ledger of subscriptions as it was. -/
theorem EditStep.ledger {l l' : Ledgered σ} (h : EditStep l l') :
    l'.handles = l.handles ∧ l'.released = l.released := by
  rcases h with ⟨d, p, t, h⟩ | ⟨d, t, h⟩
  · exact Ledgered.ledger_of_withHost (x := EditorHost.applyEdit l.host d p t) h
  · exact Ledgered.ledger_of_withHost (x := EditorHost.append l.host d t) h

/-- An insertion keeps the mode. It changes neither the navigator nor the host, or it edits the
host and then keeps the navigator or, in primary mode only, starts a session on the edited host. -/
theorem insert_steps (e : Engine S) (host : σ) (r : InsertRequest) :
    (e.insert host r).2.1.mode = e.mode ∧
      ((e.insert host r).2.1.navigator = e.navigator ∧ (e.insert host r).2.2 = host ∨
        ∃ host', EditStep host host' ∧
          ((e.insert host r).2.1.navigator = e.navigator ∧ (e.insert host r).2.2 = host' ∨
            e.mode = .primary ∧ ∃ d o ss,
              (e.insert host r).2.1.navigator = (e.navigator.start host' d o ss).2.1 ∧
                (e.insert host r).2.2 = (e.navigator.start host' d o ss).2.2)) := by
  unfold insert
  cases hget : e.repository.get? r.snippet with
  | none => exact ⟨rfl, .inl ⟨rfl, rfl⟩⟩
  | some s =>
    rcases hrec : e.usage.record r.snippet with ⟨k, u'⟩
    cases hm : e.mode with
    | fallback =>
      cases hedit : EditorHost.append host r.document (Template.expand s.template fun _ => none) with
      | error err => refine ⟨?_, .inl ⟨?_, ?_⟩⟩ <;> simp [hedit, hm]
      | ok host' =>
        refine ⟨?_, .inr ⟨host', .inr ⟨_, _, hedit⟩, .inl ⟨?_, ?_⟩⟩⟩ <;>
          simp [hedit, persistUsage_mode, persistUsage_navigator]
    | primary =>
      cases hedit : EditorHost.applyEdit host r.document r.position
          (Template.expand s.template fun _ => none) with
      | error err => refine ⟨?_, .inl ⟨?_, ?_⟩⟩ <;> simp [hedit, hm]
      | ok host' =>
        rcases hstart : e.navigator.start host' r.document r.position
          (Template.tabStops s.template) with ⟨res, nav, host''⟩
        refine ⟨?_, .inr ⟨host', .inl ⟨_, _, _, hedit⟩,
          .inr ⟨rfl, r.document, r.position, Template.tabStops s.template, ?_, ?_⟩⟩⟩ <;>
          simp [hedit, persistUsage_mode, persistUsage_navigator, hstart]

omit [SettingsStore S] in
/-- Redetecting takes the mode of the new capabilities; in fallback mode it ends the session. -/
theorem redetect_steps (e : Engine S) (host : σ) (caps : Capabilities) :
    (e.redetect host caps).1.mode = caps.mode ∧
      (caps.mode = .fallback → (e.redetect host caps).1.navigator = (e.navigator.exit host).1 ∧
        (e.redetect host caps).2 = (e.navigator.exit host).2) ∧
      (caps.mode ≠ .fallback → (e.redetect host caps).1.navigator = e.navigator ∧
        (e.redetect host caps).2 = host) := by
  unfold redetect
  by_cases hm : caps.mode = .fallback <;> simp [hm]

omit [SettingsStore S] in
/-- In fallback mode starting tab stops is refused, and the engine and host stay as they were. -/
theorem startTabStops_fallback {τ : Type} [EditorHost τ] {e : Engine S} (he : e.mode = .fallback)
    (host : τ) (d : DocumentId) (o : Position) (t : String) :
    e.startTabStops host d o t = (.error .hostUnavailable, e, host) := by
  simp [startTabStops, he]

/-! ## The invariant -/

/-- What the engine keeps on a ledgered host: its navigator is sound (`Navigator.Sound`: every
subscription is released once, except the listener of a running session), and in fallback mode
no session runs. -/
structure Settled (e : Engine S) (l : Ledgered σ) : Prop where
  sound : e.navigator.Sound l
  idle : e.mode = .fallback → e.navigator.session = none

omit [EditorHost σ] in
theorem settled_new (store : S) (caps : Capabilities) (config : EngineConfig) (host : σ) :
    Settled (Engine.new store caps config) (Ledgered.init host) :=
  ⟨Navigator.sound_init host, fun _ => rfl⟩

omit [SettingsStore S] [EditorHost σ] in
/-- A step that keeps the mode and maps the navigator and host through a navigator operation
that keeps soundness and leaves a navigator without a session without one. -/
theorem settled_of_navigator {e e' : Engine S} {l l' : Ledgered σ} (h : Settled e l)
    (hmode : e'.mode = e.mode) (hsound : e'.navigator.Sound l')
    (hidle : e.navigator.session = none → e'.navigator.session = none) : Settled e' l' :=
  ⟨hsound, fun hf => hidle (h.idle (hmode ▸ hf))⟩

/-- Every operation keeps the invariant. -/
theorem settled_apply (op : Op) {e : Engine S} {l : Ledgered σ} (h : Settled e l) :
    Settled (op.apply e l).2.1 (op.apply e l).2.2 := by
  cases op with
  | insert r =>
    simp only [Op.apply]
    obtain ⟨hmode, ⟨hn, hl⟩ | ⟨l', hedit, ⟨hn, hl⟩ | ⟨hprim, d, o, ss, hn, hl⟩⟩⟩ :=
      insert_steps e l r
    · refine settled_of_navigator h hmode ?_ fun hs => hn ▸ hs
      rw [hn, hl]
      exact h.sound
    · obtain ⟨hh, hr⟩ := hedit.ledger
      refine settled_of_navigator h hmode ?_ fun hs => hn ▸ hs
      rw [hn, hl]
      exact h.sound.of_ledger hh hr
    · -- A session starts only in primary mode, where the invariant asks for no idle navigator.
      obtain ⟨hh, hr⟩ := hedit.ledger
      refine ⟨by rw [hn, hl]; exact (h.sound.of_ledger hh hr).start d o ss, fun hf => ?_⟩
      rw [hmode, hprim] at hf
      cases hf
  | resetUsage =>
    obtain ⟨st, hs⟩ := resetUsage_eq e
    simp only [Op.apply, hs]
    exact ⟨h.sound, h.idle⟩
  | redetect caps =>
    simp only [Op.apply]
    obtain ⟨hmode, hfb, hpr⟩ := redetect_steps e l caps
    by_cases hm : caps.mode = .fallback
    · obtain ⟨hn, hl⟩ := hfb hm
      refine ⟨by rw [hn, hl]; exact h.sound.exit, fun _ => ?_⟩
      rw [hn]
      exact Navigator.exit_session _ _
    · obtain ⟨hn, hl⟩ := hpr hm
      exact ⟨by rw [hn, hl]; exact h.sound, fun hf => absurd (hmode ▸ hf) hm⟩
  | startTabStops d o t =>
    simp only [Op.apply]
    by_cases hm : e.mode = .fallback
    · rw [startTabStops_fallback hm]
      exact h
    · -- Out of fallback mode the start runs, and the invariant asks for no idle navigator.
      rcases startTabStops_cases e l d o t with hs | hs <;> rw [hs]
      · exact h
      · exact ⟨h.sound.start d o _, fun hf => absurd hf hm⟩
  | nextStop =>
    exact settled_of_navigator h rfl h.sound.next fun hn => by
      simp [Op.apply, nextStop, Navigator.next_of_none hn, hn]
  | previousStop =>
    exact settled_of_navigator h rfl h.sound.previous fun hn => by
      simp [Op.apply, previousStop, Navigator.previous_of_none hn, hn]
  | exitTabStops =>
    exact settled_of_navigator h rfl h.sound.exit fun _ => Navigator.exit_session _ _
  | handleInput ev =>
    exact settled_of_navigator h rfl (h.sound.handleInput ev) fun hn =>
      Navigator.handleInput_of_none hn l ev
  | complete _ => exact h
  | completeAt _ _ => exact h
  | rank _ => exact h
  | register outcome =>
    simp only [Op.apply, register_state]
    exact ⟨h.sound, h.idle⟩
  | addCustom s =>
    simp only [Op.apply]
    rcases addCustom_cases e s with ⟨err, hs⟩ | ⟨repo, st, -, hs⟩ <;> rw [hs]
    · exact h
    · exact ⟨h.sound, h.idle⟩
  | removeCustom name =>
    simp only [Op.apply]
    rcases removeCustom_cases e name with ⟨err, hs⟩ | ⟨s, repo, st, -, hs⟩ <;> rw [hs]
    · exact h
    · exact ⟨h.sound, h.idle⟩
  | shutdown =>
    exact settled_of_navigator h rfl h.sound.exit fun _ => Navigator.exit_session _ _

/-- Every run keeps the invariant. -/
theorem settled_run (ops : List Op) {e : Engine S} {l : Ledgered σ} (h : Settled e l) :
    Settled (run ops e l).2.1 (run ops e l).2.2 := by
  induction ops generalizing e l with
  | nil => exact h
  | cons op ops ih => exact ih (settled_apply op h)

/-! ## Insertion and tab stops in fallback mode -/

/-- In fallback mode an insertion uses the host only to append: two hosts on one state that
append alike give the same insertion, whatever they do on positioned edits, cursor moves and
subscriptions. -/
theorem insert_fallback_appends_only {τ : Type} (H₁ H₂ : EditorHost τ)
    (happ : H₁.append = H₂.append) {e : Engine S} (he : e.mode = .fallback) (host : τ)
    (r : InsertRequest) : @insert S τ _ H₁ e host r = @insert S τ _ H₂ e host r := by
  unfold insert
  cases e.repository.get? r.snippet with
  | none => rfl
  | some s => simp [he, persistUsage_mode, happ]

/-- In fallback mode an insertion that goes through reports the fallback mode, the new count and
no session. -/
theorem insert_fallback_outcome {τ : Type} [EditorHost τ] {e : Engine S} (he : e.mode = .fallback)
    (host : τ) (r : InsertRequest) {out : InsertOutcome} (h : (e.insert host r).1 = .ok out) :
    out = ⟨.fallback, (e.usage.record r.snippet).1, .skipped⟩ := by
  unfold insert at h
  cases hget : e.repository.get? r.snippet with
  | none => simp [hget] at h
  | some s =>
    cases hedit : EditorHost.append host r.document (Template.expand s.template fun _ => none) with
    | error err => simp [hget, he, hedit] at h
    | ok host' =>
      simp only [hget, he, hedit, persistUsage_mode, Except.ok.injEq] at h
      exact h.symm

/-- Along every run of an engine made over any store and for any capabilities, on any host whose
calls may each fail, observed through its ledger of subscriptions: whenever the engine is in
fallback mode, no tab-stop session runs and every input subscription it made has been released;
an insertion then uses the host only to append (two hosts that append alike give the same
insertion) and one that goes through reports that no session was started; and starting tab stops
is refused without a call to the host. -/
theorem fallback_mode_never_navigates (store : S) (caps : Capabilities) (config : EngineConfig)
    (host : σ) (ops : List Op)
    (hfb : (run ops (Engine.new store caps config) (Ledgered.init host)).2.1.mode = .fallback) :
    let e := (run ops (Engine.new store caps config) (Ledgered.init host)).2.1
    let l := (run ops (Engine.new store caps config) (Ledgered.init host)).2.2
    e.navigator.isActive = false ∧ l.AllReleased ∧
      (∀ (τ : Type) (H₁ H₂ : EditorHost τ), H₁.append = H₂.append →
        ∀ (h : τ) (r : InsertRequest), @insert S τ _ H₁ e h r = @insert S τ _ H₂ e h r) ∧
      (∀ (τ : Type) [EditorHost τ] (h : τ) (r : InsertRequest) (out : InsertOutcome),
        (e.insert h r).1 = .ok out → out.mode = .fallback ∧ out.session = .skipped) ∧
      (∀ (τ : Type) [EditorHost τ] (h : τ) (d : DocumentId) (o : Position) (t : String),
        e.startTabStops h d o t = (.error .hostUnavailable, e, h)) := by
  intro e l
  have hset := settled_run ops (settled_new store caps config host)
  have hidle : e.navigator.session = none := hset.idle hfb
  refine ⟨Navigator.isActive_eq_false.mpr hidle, hset.sound.allReleased hidle,
    fun τ H₁ H₂ happ h r => insert_fallback_appends_only H₁ H₂ happ hfb h r,
    fun τ _ h r out hout => ?_, fun τ _ h d o t => startTabStops_fallback hfb h d o t⟩
  rw [insert_fallback_outcome hfb h r hout]
  exact ⟨rfl, rfl⟩

/-- An engine that starts a session on an editor in memory and then finds the host disabled is
in fallback mode, with no session and with the session's listener released. -/
theorem fallback_after_session_in_memory :
    let st := run [.startTabStops ⟨1⟩ ⟨0, 0⟩ "print($1)", .redetect ⟨false, []⟩]
      (Engine.new ({} : MemoryStore) ⟨true, ["apply_edit"]⟩ {}) (Ledgered.init ({} : MemoryEditor))
    st.2.1.mode = .fallback ∧ st.2.1.navigator.isActive = false ∧ st.2.2.AllReleased :=
  have h := fallback_mode_never_navigates ({} : MemoryStore) ⟨true, ["apply_edit"]⟩ {}
    ({} : MemoryEditor) [.startTabStops ⟨1⟩ ⟨0, 0⟩ "print($1)", .redetect ⟨false, []⟩] rfl
  ⟨rfl, h.1, h.2.1⟩

end Engine

end SnippetAssist
