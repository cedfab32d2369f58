import SnippetAssist.Engine
import SnippetAssist.Proofs.NavigatorSessions
import SnippetAssist.Proofs.UsageCounts
import SnippetAssist.Host.Memory

/-!
# Runs of the engine

A caller drives the engine through a sequence of operations: insertions, resets of the usage
counts, mode changes, tab-stop navigation, completion queries, registration attempts and custom
snippets, on a host and a store of any kind, each of which may refuse any call. Two things hold
along every such run.

The usage counts count exactly the insertions that went through. The count of a name is what was
loaded when the engine was made (nothing if loading failed, and nothing once the counts were
reset), plus the insertions of that name since the last reset that returned an outcome, stopping
at the limit. An insertion that failed counts nothing, one whose tab-stop session could not start
counts, a store that refuses to save changes nothing, and each insertion that goes through
reports the new count of its snippet (`usage_count_after_run`). Each step makes at most one call on
the counts (`usageCall?`: a successful insertion records a use, a reset resets), so the counts
after a run are those of the run of its calls (`usage_run`), and the law of such runs
(`Usage.count_run`) is the engine's.

An operation that fails, unless a tab-stop session could not listen or place the cursor, changes
nothing: the host and the engine are as they were, but that a registration attempt is recorded
(`failed_operation_keeps_state`). For moving back from a stop this needs the index of a running
session to lie within its stops (`Navigator.InRange`), which every run keeps.
-/

namespace SnippetAssist

/-! ## Sessions stay within their stops -/

namespace Navigator

/-- The index of a running session does not pass its number of stops. -/
def InRange (n : Navigator) : Prop := ∀ s, n.session = some s → s.index ≤ s.stops.length

variable {σ : Type} [EditorHost σ] {n : Navigator}

theorem inRange_empty : ({} : Navigator).InRange := fun s h => by cases h

theorem inRange_exit (n : Navigator) (host : σ) : (n.exit host).1.InRange := by
  intro s h
  rw [exit_session] at h
  cases h

theorem inRange_withIndex {s : Session} {i : Nat} (hi : i ≤ s.stops.length) :
    ({ session := some { s with index := i } } : Navigator).InRange := by
  intro s' h
  cases h
  exact hi

theorem InRange.placeCurrent (h : n.InRange) (host : σ) : (n.placeCurrent host).2.1.InRange := by
  rcases placeCurrent_state n host with heq | ⟨d, p, host', -, heq⟩ | heq <;> rw [heq]
  · exact h
  · exact h
  · exact inRange_exit n host

theorem inRange_start (n : Navigator) (host : σ) (d : DocumentId) (o : Position)
    (ss : List TabStop) : (n.start host d o ss).2.1.InRange := by
  rcases start_state n host d o ss with heq | ⟨k, host', hss, -, heq⟩ <;> rw [heq]
  · exact inRange_exit n host
  · have hfirst : ({ session := some ⟨d, o, ss, 1, some k⟩ } : Navigator).InRange := by
      intro s h
      cases h
      exact List.length_pos_iff.mpr hss
    exact hfirst.placeCurrent host'

theorem InRange.next (h : n.InRange) (host : σ) : (n.next host).2.1.InRange := by
  rcases next_state n host with heq | heq | ⟨s, hs, hlt, heq⟩ <;> rw [heq]
  · exact h
  · exact inRange_exit n host
  · exact (inRange_withIndex hlt).placeCurrent host

theorem InRange.previous (h : n.InRange) (host : σ) : (n.previous host).2.1.InRange := by
  rcases previous_state n host with heq | ⟨s, hs, -, heq⟩ <;> rw [heq]
  · exact h
  · exact (inRange_withIndex (Nat.le_trans (Nat.sub_le _ _) (h s hs))).placeCurrent host

theorem InRange.handleInput (h : n.InRange) (host : σ) (e : InputEvent) :
    (n.handleInput host e).2.1.InRange := by
  rcases handleInput_state n host e with heq | heq | heq | heq <;> rw [heq]
  · exact h
  · exact inRange_exit n host
  · exact h.next host
  · exact h.previous host

end Navigator

/-! ## Which navigator failures change nothing -/

/-- The failures after which no session runs: the navigator could not listen to input, or it
could not place the cursor and ended the session. -/
def NavigatorError.endsSession : NavigatorError → Bool
  | .registration _ => true
  | .cursorPlacement _ _ => true
  | .notActive => false
  | .atFirstStop => false

/-- The engine's failures after which no tab-stop session runs. -/
def EngineError.endsSession : EngineError → Bool
  | .navigation e => e.endsSession
  | _ => false

namespace Navigator

variable {σ : Type} [EditorHost σ] {n : Navigator}

/-- A step that, when it fails without ending the session, leaves the navigator and host as
they were. -/
def KeepsOnFailure {α : Type} (r : Except NavigatorError α × Navigator × σ) (n : Navigator)
    (host : σ) : Prop :=
  ∀ err, r.1 = .error err → err.endsSession = false → r.2 = (n, host)

/-- A session between its first and last stop is on a stop. -/
theorem Session.current?_isSome {s : Session} (h₁ : 1 ≤ s.index) (h₂ : s.index ≤ s.stops.length) :
    s.current?.isSome := by
  unfold Session.current?
  rw [if_neg (by omega)]
  simp [List.getElem?_eq_getElem (by omega : s.index - 1 < s.stops.length)]

omit [EditorHost σ] in
/-- A failure that does not end the session survives mapping the step's answer. -/
theorem KeepsOnFailure.map {α β : Type} {r : Except NavigatorError α × Navigator × σ}
    {host : σ} (h : KeepsOnFailure r n host) (f : α → β) :
    KeepsOnFailure (r.1.map f, r.2) n host := by
  intro err hr hend
  cases hr' : r.1 with
  | ok v => simp [hr', Except.map] at hr
  | error e =>
    simp only [hr', Except.map, Except.error.injEq] at hr
    subst hr
    exact h e hr' hend

/-- On a stop, placing the cursor can only fail by ending the session. -/
theorem placeCurrent_failure_ends {s : Session} (hs : n.session = some s)
    (hc : s.current?.isSome) (host : σ) {err : NavigatorError}
    (hr : (n.placeCurrent host).1 = .error err) : err.endsSession = true := by
  obtain ⟨⟨stop, pos⟩, hsp⟩ := Option.isSome_iff_exists.mp hc
  unfold placeCurrent at hr
  simp only [hs, hsp] at hr
  split at hr
  · cases hr
  · simp only [Except.error.injEq] at hr
    simp [← hr, NavigatorError.endsSession]

theorem keepsOnFailure_next (n : Navigator) (host : σ) : KeepsOnFailure (n.next host) n host := by
  intro err hr hend
  unfold next at hr ⊢
  split
  · rfl
  · rename_i s hs
    split
    · simp_all
    · rename_i hlt
      simp only [hs, hlt, if_false] at hr
      have hc := Session.current?_isSome (s := { s with index := s.index + 1 })
        (Nat.le_add_left 1 _) (by simp only; omega)
      rw [placeCurrent_failure_ends rfl hc host hr] at hend
      cases hend

theorem keepsOnFailure_previous (h : n.InRange) (host : σ) :
    KeepsOnFailure (n.previous host) n host := by
  intro err hr hend
  unfold previous at hr ⊢
  split
  · rfl
  · rename_i s hs
    split
    · rfl
    · rename_i hgt
      simp only [hs, hgt, if_false] at hr
      -- One stop back is still a stop, since the index did not pass the stops.
      have hc := Session.current?_isSome (s := { s with index := s.index - 1 })
        (by simp only; omega) (by simp only; have := h s hs; omega)
      rw [placeCurrent_failure_ends rfl hc host hr] at hend
      cases hend

theorem keepsOnFailure_handleInput (h : n.InRange) (host : σ) (e : InputEvent) :
    KeepsOnFailure (n.handleInput host e) n host := by
  unfold handleInput
  split
  · intro err hr; simp at hr
  · split
    · intro err hr; simp at hr
    · split
      · exact (keepsOnFailure_next n host).map InputOutcome.stepped
      · exact (keepsOnFailure_previous h host).map InputOutcome.stepped
      · intro err hr; simp at hr

/-- Starting a session can only fail by ending it: no listener was given, or the cursor could
not be placed on the first stop. -/
theorem start_failure_ends (n : Navigator) (host : σ) (d : DocumentId) (o : Position)
    (ss : List TabStop) {err : NavigatorError} (hr : (n.start host d o ss).1 = .error err) :
    err.endsSession = true := by
  unfold start at hr
  rcases hex : n.exit host with ⟨n₁, h₁⟩
  simp only [hex] at hr
  by_cases hss : ss.isEmpty
  · simp [hss] at hr
  · simp only [hss, Bool.false_eq_true, if_false] at hr
    cases hsub : EditorHost.subscribeInput h₁ with
    | error e =>
      simp only [hsub, Except.error.injEq] at hr
      simp [← hr, NavigatorError.endsSession]
    | ok p =>
      obtain ⟨k, host'⟩ := p
      simp only [hsub] at hr
      -- The new session is on its first stop, so only the cursor can fail.
      have hc := Session.current?_isSome (s := ⟨d, o, ss, 1, some k⟩) (Nat.le_refl 1)
        (List.length_pos_iff.mpr (by simpa using hss))
      cases hpc : ({ session := some ⟨d, o, ss, 1, some k⟩ } : Navigator).placeCurrent host' with
      | mk r rest =>
        cases r with
        | ok v => simp [hpc] at hr
        | error e =>
          simp only [hpc, Except.error.injEq] at hr
          subst hr
          exact placeCurrent_failure_ends rfl hc host' (by rw [hpc])

end Navigator

/-! ## Engine operations and runs -/

namespace Engine

/-- An operation that a caller makes on the engine, with its arguments. -/
inductive Op where
  | insert (r : InsertRequest)
  | resetUsage
  | redetect (caps : Capabilities)
  | startTabStops (document : DocumentId) (origin : Position) (template : String)
  | nextStop
  | previousStop
  | exitTabStops
  | handleInput (event : InputEvent)
  | complete (r : Request)
  | completeAt (source : String) (position : Position)
  | rank (r : Request)
  | register (outcome : Except HostError Unit)
  | addCustom (s : Snippet)
  | removeCustom (name : String)
  | shutdown

/-- A reset of the usage counts. -/
def Op.isReset : Op → Bool
  | .resetUsage => true
  | _ => false

/-- A registration attempt. -/
def Op.isRegister : Op → Bool
  | .register _ => true
  | _ => false

/-- What an operation answered, as far as the engine's state goes: the outcome of an insertion,
an error, or any other answer. -/
inductive Reply where
  | inserted (outcome : InsertOutcome)
  | failed (error : EngineError)
  | answered

/-- The reply to an insertion. -/
def Reply.ofInsert : Except EngineError InsertOutcome → Reply
  | .ok out => .inserted out
  | .error e => .failed e

/-- The reply to an operation other than an insertion. -/
def Reply.ofResult {α : Type} : Except EngineError α → Reply
  | .ok _ => .answered
  | .error e => .failed e

variable {S σ : Type} [SettingsStore S] [EditorHost σ]

/-- The reply to an operation, and the engine and host after it. Completion queries answer
without changing either. -/
def Op.apply : Op → Engine S → σ → Reply × Engine S × σ
  | .insert r, e, host => let r := e.insert host r; (Reply.ofInsert r.1, r.2)
  | .resetUsage, e, host => (.answered, e.resetUsage, host)
  | .redetect caps, e, host => (.answered, e.redetect host caps)
  | .startTabStops d o t, e, host =>
    let r := e.startTabStops host d o t
    (Reply.ofResult r.1, r.2)
  | .nextStop, e, host => let r := e.nextStop host; (Reply.ofResult r.1, r.2)
  | .previousStop, e, host => let r := e.previousStop host; (Reply.ofResult r.1, r.2)
  | .exitTabStops, e, host => (.answered, e.exitTabStops host)
  | .handleInput ev, e, host => let r := e.handleInput host ev; (Reply.ofResult r.1, r.2)
  | .complete _, e, host => (.answered, e, host)
  | .completeAt _ _, e, host => (.answered, e, host)
  | .rank _, e, host => (.answered, e, host)
  | .register outcome, e, host => let r := e.register outcome; (Reply.ofResult r.1, r.2, host)
  | .addCustom s, e, host => let r := e.addCustom s; (Reply.ofResult r.1, r.2, host)
  | .removeCustom name, e, host => let r := e.removeCustom name; (Reply.ofResult r.1, r.2, host)
  | .shutdown, e, host => (.answered, e.shutdown host)

/-- The steps of a run, each operation with its reply, and the engine and host after it. -/
def run : List Op → Engine S → σ → List (Op × Reply) × Engine S × σ
  | [], e, host => ([], e, host)
  | op :: ops, e, host =>
    let st := op.apply e host
    let rest := run ops st.2.1 st.2.2
    ((op, st.1) :: rest.1, rest.2)

@[simp] theorem run_nil (e : Engine S) (host : σ) : run [] e host = ([], e, host) := rfl

@[simp] theorem run_cons_steps (op : Op) (ops : List Op) (e : Engine S) (host : σ) :
    (run (op :: ops) e host).1 =
      (op, (op.apply e host).1) :: (run ops (op.apply e host).2.1 (op.apply e host).2.2).1 := rfl

@[simp] theorem run_cons_state (op : Op) (ops : List Op) (e : Engine S) (host : σ) :
    (run (op :: ops) e host).2 = (run ops (op.apply e host).2.1 (op.apply e host).2.2).2 := rfl

/-! ## What each engine function does -/

/-- Storing the counts changes the store only. -/
theorem persistUsage_eq (e : Engine S) : ∃ st, e.persistUsage = { e with store := st } := by
  unfold persistUsage
  split
  · exact ⟨_, rfl⟩
  · exact ⟨e.store, rfl⟩

/-- Storing the custom snippets changes the store only. -/
theorem persistCustom_eq (e : Engine S) : ∃ st, e.persistCustom = { e with store := st } := by
  unfold persistCustom
  split
  · exact ⟨_, rfl⟩
  · exact ⟨e.store, rfl⟩

/-- An insertion fails and leaves the engine and host as they were, or it goes through: it
records the use and reports the new count, changes only the counts, the store and the
navigator, and either keeps the navigator or starts a session on the edited host. -/
theorem insert_cases (e : Engine S) (host : σ) (r : InsertRequest) :
    (∃ err, e.insert host r = (.error err, e, host)) ∨
      ∃ (out : InsertOutcome) (st : S) (host' : σ), (e.insert host r).1 = .ok out ∧
        out.usage = (e.usage.record r.snippet).1 ∧
        ((e.insert host r).2.1 = { e with usage := (e.usage.record r.snippet).2, store := st } ∨
          ∃ d o ss, (e.insert host r).2.1 =
            { e with
              usage := (e.usage.record r.snippet).2
              store := st
              navigator := (e.navigator.start host' d o ss).2.1 }) := by
  unfold insert
  cases hget : e.repository.get? r.snippet with
  | none => exact .inl ⟨_, rfl⟩
  | some s =>
    rcases hrec : e.usage.record r.snippet with ⟨k, u'⟩
    cases hm : e.mode with
    | fallback =>
      obtain ⟨st, hst⟩ := persistUsage_eq ({ e with mode := .fallback, usage := u' } : Engine S)
      cases hedit : EditorHost.append host r.document (Template.expand s.template fun _ => none) with
      | error err => exact .inl ⟨.insertion err, by simp only [hedit]⟩
      | ok host' =>
        refine .inr ⟨⟨.fallback, k, .skipped⟩, st, host', ?_⟩
        simp [hedit, hst]
    | primary =>
      obtain ⟨st, hst⟩ := persistUsage_eq ({ e with mode := .primary, usage := u' } : Engine S)
      cases hedit : EditorHost.applyEdit host r.document r.position
          (Template.expand s.template fun _ => none) with
      | error err => exact .inl ⟨.insertion err, by simp only [hedit]⟩
      | ok host' =>
        simp only [hedit, hst]
        rcases hstart : e.navigator.start host' r.document r.position
          (Template.tabStops s.template) with ⟨res, nav, host''⟩
        exact .inr ⟨_, st, host', rfl, rfl, .inr ⟨r.document, r.position, _, by rw [hstart]⟩⟩

omit [SettingsStore S] in
/-- Starting a session is refused in fallback mode; otherwise it is the navigator's start. -/
theorem startTabStops_cases (e : Engine S) (host : σ) (d : DocumentId) (o : Position)
    (t : String) :
    e.startTabStops host d o t = (.error .hostUnavailable, e, host) ∨
      e.startTabStops host d o t =
        ((e.navigator.start host d o (Template.tabStops t)).1.mapError .navigation,
          { e with navigator := (e.navigator.start host d o (Template.tabStops t)).2.1 },
          (e.navigator.start host d o (Template.tabStops t)).2.2) := by
  unfold startTabStops
  split
  · exact .inl rfl
  · exact .inr rfl

omit [SettingsStore S] in
/-- Registering changes the record of registration only. -/
theorem register_state (e : Engine S) (outcome : Except HostError Unit) :
    (e.register outcome).2 = { e with registration := (e.registration.attempt outcome).2 } := by
  unfold register
  rcases e.registration.attempt outcome with ⟨d, reg⟩
  cases d <;> rfl

/-- Adding a custom snippet fails and changes nothing, or changes the repository and the store. -/
theorem addCustom_cases (e : Engine S) (s : Snippet) :
    (∃ err, e.addCustom s = (.error err, e)) ∨
      ∃ repo st, (e.addCustom s).1 = .ok () ∧
        (e.addCustom s).2 = { e with repository := repo, store := st } := by
  unfold addCustom
  split
  · exact .inl ⟨_, rfl⟩
  · rename_i repo _
    obtain ⟨st, hst⟩ := persistCustom_eq ({ e with repository := repo } : Engine S)
    exact .inr ⟨repo, st, rfl, hst⟩

/-- Removing a custom snippet fails and changes nothing, or changes the repository and the
store. -/
theorem removeCustom_cases (e : Engine S) (name : String) :
    (∃ err, e.removeCustom name = (.error err, e)) ∨
      ∃ s repo st, (e.removeCustom name).1 = .ok s ∧
        (e.removeCustom name).2 = { e with repository := repo, store := st } := by
  unfold removeCustom
  split
  · exact .inl ⟨_, rfl⟩
  · rename_i s repo _
    obtain ⟨st, hst⟩ := persistCustom_eq ({ e with repository := repo } : Engine S)
    exact .inr ⟨s, repo, st, rfl, hst⟩

/-- Resetting empties the counts and stores them. -/
theorem resetUsage_eq (e : Engine S) : ∃ st, e.resetUsage = { e with usage := Usage.empty, store := st } :=
  persistUsage_eq _

omit [SettingsStore S] in
/-- A mode change keeps the navigator, or ends its session. -/
theorem redetect_eq (e : Engine S) (host : σ) (caps : Capabilities) :
    (e.redetect host caps).1 = { e with mode := caps.mode } ∨
      (e.redetect host caps).1 = { e with mode := caps.mode, navigator := (e.navigator.exit host).1 } := by
  unfold redetect
  rcases hex : e.navigator.exit host with ⟨nav, host'⟩
  by_cases hm : caps.mode = .fallback
  · exact .inr (by simp [hm, hex])
  · exact .inl (by simp [hm])

/-! ## One operation -/

/-- A successful insertion of the snippet named `n`. -/
def isInsertionOf (n : String) : Op × Reply → Bool
  | (.insert r, .inserted _) => r.snippet == n
  | _ => false

/-- The call on the usage counts that a step makes: a successful insertion records a use of its
snippet and a reset resets; no other step touches the counts. -/
def usageCall? : Op × Reply → Option Usage.Op
  | (.insert r, .inserted _) => some (.record r.snippet)
  | (.resetUsage, _) => some .reset
  | _ => none

/-- A step calls a reset on the counts exactly when it is a reset, and then makes no other call. -/
theorem usageCall?_isReset (x : Op × Reply) :
    (x.1.isReset = true ∧ usageCall? x = some .reset) ∨
      (x.1.isReset = false ∧ ∀ c ∈ (usageCall? x).toList, c.isReset = false) := by
  obtain ⟨op, reply⟩ := x
  cases op with
  | resetUsage => exact .inl ⟨rfl, rfl⟩
  | insert r => exact .inr ⟨rfl, by cases reply <;> simp [usageCall?]⟩
  | _ => exact .inr ⟨rfl, fun c hc => by cases hc⟩

/-- A step records a use of `n` exactly when it is a successful insertion of `n`. -/
theorem count_usageCall? (n : String) (x : Op × Reply) :
    (usageCall? x).toList.count (.record n) = if isInsertionOf n x then 1 else 0 := by
  obtain ⟨op, reply⟩ := x
  cases op with
  | insert r =>
    cases reply with
    | inserted out => by_cases h : r.snippet = n <;> simp [usageCall?, isInsertionOf, h]
    | _ => rfl
  | _ => rfl

theorem ofResult_mapError_failed {α : Type} {x : Except NavigatorError α} {err : EngineError}
    (h : Reply.ofResult (x.mapError .navigation) = .failed err) :
    ∃ e, x = .error e ∧ err = .navigation e := by
  cases x with
  | ok v => cases h
  | error e =>
    cases h
    exact ⟨e, rfl, rfl⟩

/-- Every operation other than an insertion or a reset keeps the usage counts. -/
theorem usage_apply_other (op : Op) (e : Engine S) (host : σ) (hi : ∀ r, op ≠ .insert r)
    (hr : op.isReset = false) : (op.apply e host).2.1.usage = e.usage := by
  cases op with
  | insert r => exact absurd rfl (hi r)
  | resetUsage => cases hr
  | redetect caps => rcases redetect_eq e host caps with h | h <;> simp [Op.apply, h]
  | startTabStops d o t =>
    rcases startTabStops_cases e host d o t with h | h <;> simp [Op.apply, h]
  | register outcome => simp [Op.apply, register_state]
  | addCustom s =>
    rcases addCustom_cases e s with ⟨err, h⟩ | ⟨repo, st, -, h⟩ <;> simp [Op.apply, h]
  | removeCustom name =>
    rcases removeCustom_cases e name with ⟨err, h⟩ | ⟨s, repo, st, -, h⟩ <;> simp [Op.apply, h]
  | _ => rfl

/-- What one operation does to the usage counts is the call on them that it makes. -/
theorem usage_apply (op : Op) (e : Engine S) (host : σ) :
    (op.apply e host).2.1.usage = Usage.run (usageCall? (op, (op.apply e host).1)).toList e.usage := by
  cases op with
  | insert r =>
    rcases insert_cases e host r with ⟨err, h⟩ | ⟨out, st, host', hok, -, h | ⟨d, o, ss, h⟩⟩
    · simp [Op.apply, h, Reply.ofInsert, usageCall?]
    all_goals simp [Op.apply, hok, h, Reply.ofInsert, usageCall?, Usage.run, Usage.Op.apply]
  | resetUsage =>
    obtain ⟨st, h⟩ := resetUsage_eq e
    simp [Op.apply, h, usageCall?, Usage.run, Usage.Op.apply, Usage.reset]
  | _ => exact usage_apply_other _ e host (fun r h => by cases h) rfl

/-- A successful insertion reports the new count of its snippet. -/
theorem inserted_usage (r : InsertRequest) (e : Engine S) (host : σ) {out : InsertOutcome}
    (h : ((Op.insert r).apply e host).1 = .inserted out) :
    out.usage = ((Op.insert r).apply e host).2.1.usage.count r.snippet := by
  rcases insert_cases e host r with ⟨err, heq⟩ | ⟨out', st, host', hok, husage, hs | ⟨d, o, ss, hs⟩⟩
  · simp [Op.apply, heq, Reply.ofInsert] at h
  all_goals
    simp only [Op.apply, hok, Reply.ofInsert, Reply.inserted.injEq] at h
    subst h
    simp [Op.apply, hs, husage]

/-- Every operation keeps the index of a running session within its stops. -/
theorem inRange_apply (op : Op) {e : Engine S} (h : e.navigator.InRange) (host : σ) :
    (op.apply e host).2.1.navigator.InRange := by
  cases op with
  | insert r =>
    rcases insert_cases e host r with ⟨err, heq⟩ | ⟨out, st, host', -, -, hs | ⟨d, o, ss, hs⟩⟩
    · simpa [Op.apply, heq] using h
    · simpa [Op.apply, hs] using h
    · simpa [Op.apply, hs] using Navigator.inRange_start e.navigator host' d o ss
  | resetUsage =>
    obtain ⟨st, hs⟩ := resetUsage_eq e
    simpa [Op.apply, hs] using h
  | redetect caps =>
    rcases redetect_eq e host caps with hs | hs
    · simpa [Op.apply, hs] using h
    · simpa [Op.apply, hs] using Navigator.inRange_exit e.navigator host
  | startTabStops d o t =>
    rcases startTabStops_cases e host d o t with hs | hs
    · simpa [Op.apply, hs] using h
    · simpa [Op.apply, hs] using Navigator.inRange_start e.navigator host d o _
  | nextStop => exact h.next host
  | previousStop => exact h.previous host
  | exitTabStops => exact Navigator.inRange_exit e.navigator host
  | handleInput ev => exact h.handleInput host ev
  | complete _ => exact h
  | completeAt _ _ => exact h
  | rank _ => exact h
  | register outcome => simpa [Op.apply, register_state] using h
  | addCustom s =>
    rcases addCustom_cases e s with ⟨err, hs⟩ | ⟨repo, st, -, hs⟩ <;> simpa [Op.apply, hs] using h
  | removeCustom name =>
    rcases removeCustom_cases e name with ⟨err, hs⟩ | ⟨s, repo, st, -, hs⟩ <;>
      simpa [Op.apply, hs] using h
  | shutdown => exact Navigator.inRange_exit e.navigator host

/-- A failed operation whose failure does not end a tab-stop session leaves the host as it was,
and the engine too but for the record of a registration attempt. -/
def KeepsOnFailure (op : Op) (e : Engine S) (host : σ) : Prop :=
  ∀ err, (op.apply e host).1 = .failed err → err.endsSession = false →
    (op.apply e host).2.2 = host ∧
      { (op.apply e host).2.1 with registration := e.registration } = e ∧
      (op.isRegister = false → (op.apply e host).2.1 = e)

/-- A navigation step's failure that does not end the session keeps the engine and host. -/
theorem keepsOnFailure_navigation {op : Op} {e : Engine S} {host : σ} {α : Type}
    {r : Except NavigatorError α × Navigator × σ}
    (hop : op.apply e host = (Reply.ofResult (r.1.mapError .navigation),
      { e with navigator := r.2.1 }, r.2.2))
    (hkeep : Navigator.KeepsOnFailure r e.navigator host) : KeepsOnFailure op e host := by
  intro err hf hend
  rw [hop] at hf ⊢
  obtain ⟨ne, hne, rfl⟩ := ofResult_mapError_failed hf
  have hst := hkeep ne hne hend
  rw [hst]
  exact ⟨rfl, rfl, fun _ => rfl⟩

/-- Every failure that does not end a tab-stop session changes nothing, provided a running
session's index lies within its stops. -/
theorem keepsOnFailure_apply (op : Op) {e : Engine S} (h : e.navigator.InRange) (host : σ) :
    KeepsOnFailure op e host := by
  cases op with
  | insert r =>
    intro err hf hend
    rcases insert_cases e host r with ⟨err', heq⟩ | ⟨out, st, host', hok, -, -⟩
    · simp [Op.apply, heq]
    · simp [Op.apply, hok, Reply.ofInsert] at hf
  | startTabStops d o t =>
    rcases startTabStops_cases e host d o t with hs | hs
    · intro err hf hend
      simp [Op.apply, hs]
    · intro err hf hend
      simp only [Op.apply, hs] at hf
      obtain ⟨ne, hne, rfl⟩ := ofResult_mapError_failed hf
      rw [EngineError.endsSession, Navigator.start_failure_ends _ _ _ _ _ hne] at hend
      cases hend
  | nextStop => exact keepsOnFailure_navigation rfl (Navigator.keepsOnFailure_next _ host)
  | previousStop => exact keepsOnFailure_navigation rfl (Navigator.keepsOnFailure_previous h host)
  | handleInput ev =>
    exact keepsOnFailure_navigation rfl (Navigator.keepsOnFailure_handleInput h host ev)
  | register outcome =>
    intro err hf hend
    simp [Op.apply, register_state, Op.isRegister]
  | addCustom s =>
    intro err hf hend
    rcases addCustom_cases e s with ⟨err', hs⟩ | ⟨repo, st, hok, -⟩
    · simp [Op.apply, hs]
    · simp [Op.apply, hok, Reply.ofResult] at hf
  | removeCustom name =>
    intro err hf hend
    rcases removeCustom_cases e name with ⟨err', hs⟩ | ⟨s, repo, st, hok, -⟩
    · simp [Op.apply, hs]
    · simp [Op.apply, hok, Reply.ofResult] at hf
  | _ => intro err hf; simp [Op.apply] at hf

/-! ## Runs -/

/-- The steps of a trace after its last reset of the usage counts; all of them when there is
none. -/
def sinceLastReset (trace : List (Op × Reply)) : List (Op × Reply) :=
  (trace.reverse.takeWhile fun x => !x.1.isReset).reverse

theorem sinceLastReset_append_singleton (t : List (Op × Reply)) (x : Op × Reply) :
    sinceLastReset (t ++ [x]) = if x.1.isReset then [] else sinceLastReset t ++ [x] := by
  unfold sinceLastReset
  cases h : x.1.isReset <;> simp [h]

/-- The calls on the usage counts along a trace. -/
def usageCalls (trace : List (Op × Reply)) : List Usage.Op := trace.filterMap usageCall?

theorem usageCalls_cons (x : Op × Reply) (t : List (Op × Reply)) :
    usageCalls (x :: t) = (usageCall? x).toList ++ usageCalls t := by
  unfold usageCalls
  cases h : usageCall? x <;> simp [h]

theorem usageCalls_append_singleton (t : List (Op × Reply)) (x : Op × Reply) :
    usageCalls (t ++ [x]) = usageCalls t ++ (usageCall? x).toList := by
  unfold usageCalls
  cases h : usageCall? x <;> simp [h]

/-- The usage counts after a run are what the calls of its trace make of the counts it started
from: the engine's counts follow a run of recorded uses and resets. -/
theorem usage_run (ops : List Op) (e : Engine S) (host : σ) :
    (run ops e host).2.1.usage = Usage.run (usageCalls (run ops e host).1) e.usage := by
  induction ops generalizing e host with
  | nil => rfl
  | cons op ops ih =>
    rw [run_cons_state, run_cons_steps, ih, usageCalls_cons, Usage.run_append, ← usage_apply]

theorem any_isReset_usageCalls (t : List (Op × Reply)) :
    (usageCalls t).any Usage.Op.isReset = t.any (·.1.isReset) := by
  induction t with
  | nil => rfl
  | cons x t ih =>
    rw [usageCalls_cons, List.any_append, ih, List.any_cons]
    rcases usageCall?_isReset x with ⟨hx, hc⟩ | ⟨hx, hc⟩
    · simp [hx, hc]
    · have hnone : (usageCall? x).toList.any Usage.Op.isReset = false :=
        List.any_eq_false.mpr fun c h => by simp [hc c h]
      rw [hnone, hx]

/-- The calls on the counts since the last reset are those made by the steps since the last
reset. -/
theorem usageCalls_sinceLastReset (t : List (Op × Reply)) :
    usageCalls (sinceLastReset t) = Usage.sinceLastReset (usageCalls t) := by
  -- The trace is followed from its end, where a reset clears both sides.
  induction t using List.reverseRecOn with
  | nil => rfl
  | append_singleton t x ih =>
    rw [sinceLastReset_append_singleton, usageCalls_append_singleton]
    rcases usageCall?_isReset x with ⟨hx, hc⟩ | ⟨hx, hc⟩
    · rw [if_pos hx, hc]
      exact (Usage.sinceLastReset_append_reset _).symm
    · rw [if_neg (by simp [hx]), usageCalls_append_singleton, ih,
        Usage.sinceLastReset_append_of_not_reset _ hc]

theorem count_usageCalls (n : String) (t : List (Op × Reply)) :
    (usageCalls t).count (.record n) = t.countP (isInsertionOf n) := by
  induction t with
  | nil => rfl
  | cons x t ih =>
    rw [usageCalls_cons, List.count_append, ih, List.countP_cons, count_usageCall?, Nat.add_comm]

/-- The counts of a name along a run: from a count within the limit, a run ends on the count it
started from, or nothing if it reset the counts, plus its successful insertions of that name
since its last reset, stopping at the limit. This is the law of runs of recorded uses and resets,
read through the calls that the run's steps make. -/
theorem count_run (ops : List Op) {e : Engine S} (host : σ) (n : String)
    (hle : e.usage.count n ≤ Usage.countLimit) :
    (run ops e host).2.1.usage.count n =
      min Usage.countLimit
        ((if (run ops e host).1.any (·.1.isReset) then 0 else e.usage.count n) +
          (sinceLastReset (run ops e host).1).countP (isInsertionOf n)) := by
  rw [usage_run, Usage.count_run _ n hle, any_isReset_usageCalls, ← usageCalls_sinceLastReset,
    count_usageCalls]

/-- Every run keeps the index of a running session within its stops. -/
theorem inRange_run (ops : List Op) {e : Engine S} (h : e.navigator.InRange) (host : σ) :
    (run ops e host).2.1.navigator.InRange := by
  induction ops generalizing e host with
  | nil => exact h
  | cons op ops ih => exact ih (inRange_apply op h host) _

/-- The engine as made reads its usage counts from the store, or starts without any. -/
theorem new_usage (store : S) (caps : Capabilities) (config : EngineConfig) :
    (Engine.new store caps config).usage = (loadUsage store).toOption.getD Usage.empty := by
  unfold Engine.new
  cases loadUsage store <;> rfl

theorem count_new_le (store : S) (caps : Capabilities) (config : EngineConfig) (n : String) :
    (Engine.new store caps config).usage.count n ≤ Usage.countLimit := by
  rw [new_usage]
  cases h : loadUsage store with
  | error e => simp [Except.toOption, Usage.countLimit]
  | ok u => exact count_le_of_loadUsage h n

/-- Along every run of an engine made over any store, on any host, with any failures: the count
of a name is what the store held for it when the engine was made (nothing if it could not be
read, and nothing once the counts were reset), plus the insertions of that name that returned an
outcome since the last reset, stopping at the limit; and an insertion that returns an outcome
reports the new count of its snippet. -/
theorem usage_count_after_run (store : S) (caps : Capabilities) (config : EngineConfig) (host : σ)
    (ops : List Op) (n : String) :
    (run ops (Engine.new store caps config) host).2.1.usage.count n =
        min Usage.countLimit
          ((if (run ops (Engine.new store caps config) host).1.any (·.1.isReset) then 0
            else ((loadUsage store).toOption.getD Usage.empty).count n) +
            (sinceLastReset (run ops (Engine.new store caps config) host).1).countP
              (isInsertionOf n)) ∧
      ∀ r out,
        ((Op.insert r).apply (run ops (Engine.new store caps config) host).2.1
          (run ops (Engine.new store caps config) host).2.2).1 = .inserted out →
        out.usage = ((Op.insert r).apply (run ops (Engine.new store caps config) host).2.1
          (run ops (Engine.new store caps config) host).2.2).2.1.usage.count r.snippet := by
  refine ⟨?_, fun r out h => inserted_usage r _ _ h⟩
  rw [count_run ops host n (count_new_le store caps config n), new_usage]

/-- In every state a run reaches, from an engine made over any store, on any host, with any
failures: an operation that fails, unless a tab-stop session could not listen to input or place
the cursor, leaves the host, the repository, the usage counts, the navigator and the store as
they were; and unless it is a registration attempt, which records itself, the whole engine. -/
theorem failed_operation_keeps_state (store : S) (caps : Capabilities) (config : EngineConfig)
    (host : σ) (ops : List Op) (op : Op) (err : EngineError)
    (hfail : (op.apply (run ops (Engine.new store caps config) host).2.1
      (run ops (Engine.new store caps config) host).2.2).1 = .failed err)
    (hend : err.endsSession = false) :
    let e := (run ops (Engine.new store caps config) host).2.1
    let e' := (op.apply e (run ops (Engine.new store caps config) host).2.2).2.1
    (op.apply e (run ops (Engine.new store caps config) host).2.2).2.2 =
        (run ops (Engine.new store caps config) host).2.2 ∧
      e'.repository = e.repository ∧ e'.usage = e.usage ∧ e'.navigator = e.navigator ∧
      e'.store = e.store ∧ (op.isRegister = false → e' = e) := by
  intro e e'
  have hrange : e.navigator.InRange := inRange_run ops Navigator.inRange_empty host
  obtain ⟨hhost, heng, hreg⟩ := keepsOnFailure_apply op hrange _ err hfail hend
  refine ⟨hhost, ?_, ?_, ?_, ?_, hreg⟩ <;> rw [← heng]

/-- On an editor in memory, after inserting `task.wait($1)` has started a tab-stop session,
inserting a snippet that does not exist is refused and changes nothing: the session, the counts
and the store stay as the first insertion left them. -/
theorem unknown_insertion_after_session_keeps_state :
    let ops := [Op.insert ⟨⟨1⟩, "wait", ⟨0, 0⟩⟩]
    let op := Op.insert ⟨⟨1⟩, "nosuch", ⟨0, 0⟩⟩
    let e := (run ops (Engine.new ({} : MemoryStore) ⟨true, ["apply_edit"]⟩ {})
      ({} : MemoryEditor)).2.1
    let host := (run ops (Engine.new ({} : MemoryStore) ⟨true, ["apply_edit"]⟩ {})
      ({} : MemoryEditor)).2.2
    let e' := (op.apply e host).2.1
    e.navigator.isActive = true ∧
      (op.apply e host).1 = .failed (.unknownSnippet "nosuch") ∧
      EngineError.endsSession (.unknownSnippet "nosuch") = false ∧
      (op.apply e host).2.2 = host ∧
      e'.repository = e.repository ∧ e'.usage = e.usage ∧ e'.navigator = e.navigator ∧
      e'.store = e.store ∧ (op.isRegister = false → e' = e) :=
  ⟨by decide +kernel, rfl, rfl, failed_operation_keeps_state _ _ _ _ [.insert ⟨⟨1⟩, "wait", ⟨0, 0⟩⟩]
    (.insert ⟨⟨1⟩, "nosuch", ⟨0, 0⟩⟩) _ rfl rfl⟩

end Engine

end SnippetAssist
