import SnippetAssist.Proofs.EngineRuns

/-!
# Registration retries

The record of registration attempts is a small state machine driven by attempts and resets. An
attempt runs its callback, which may act on anything the caller holds, only while the record is
neither registered nor out of attempts; otherwise it runs nothing. The record is then a summary
of the callbacks run since the last reset (`Registration.Records`): it counts one attempt per
callback and never more than allowed, it is registered exactly when the last callback succeeded,
it keeps the error of the last callback when that one failed, and no callback ran after a
success. An attempt's decision is where the record stands after it (`Registration.standing`).

To watch the callbacks run, each attempt's callback writes its outcome down (`logged`): a
callback runs at most once per attempt, so its outcome is all an attempt can learn from it.

The engine's record only ever sees attempts, so it is such a summary in every state a run of the
engine reaches. Registering with the engine therefore fails exactly when the record gives up,
carrying the record's last error, and the fallback error for a record that never tried is used
exactly when no attempts are allowed.
-/

namespace SnippetAssist

namespace Registration

/-! ## One attempt -/

section Attempt

variable {m : Type → Type} [Monad m] {r : Registration}

/-- A registered record runs no callback and stays registered. -/
theorem attemptWith_of_registered (h : r.registered = true) (register : m (Except HostError Unit)) :
    r.attemptWith register = pure (.registered, r) := by
  simp [attemptWith, h]

/-- A record out of attempts runs no callback and gives up. -/
theorem attemptWith_of_spent (h : r.registered = false) (hle : r.maxAttempts ≤ r.attempts)
    (register : m (Except HostError Unit)) : r.attemptWith register = pure (.giveUp, r) := by
  simp [attemptWith, h, hle]

/-- Otherwise the callback runs once and the record settles with its outcome. -/
theorem attemptWith_of_open (h : r.registered = false) (hlt : r.attempts < r.maxAttempts)
    (register : m (Except HostError Unit)) : r.attemptWith register = r.settle <$> register := by
  simp [attemptWith, h, Nat.not_le.mpr hlt]

end Attempt

@[simp] theorem settle_ok (r : Registration) (u : Unit) :
    r.settle (.ok u) =
      (.registered, { r with attempts := r.attempts + 1, registered := true, lastError := none }) :=
  rfl

@[simp] theorem settle_error (r : Registration) (e : HostError) :
    r.settle (.error e) =
      (if r.maxAttempts ≤ r.attempts + 1 then .giveUp else .retryLater,
        { r with attempts := r.attempts + 1, lastError := some e }) :=
  rfl

/-- Where a record stands: registered, out of attempts, or with attempts left. -/
def standing (r : Registration) : RetryDecision :=
  if r.registered then .registered else if r.maxAttempts ≤ r.attempts then .giveUp else .retryLater

theorem standing_eq_registered_iff (r : Registration) :
    r.standing = .registered ↔ r.registered = true := by
  unfold standing
  split
  · simp_all
  · split <;> simp_all

theorem standing_eq_giveUp_iff {r : Registration} (h : r.attempts ≤ r.maxAttempts) :
    r.standing = .giveUp ↔ r.registered = false ∧ r.attempts = r.maxAttempts := by
  unfold standing
  split
  · simp_all
  · split <;> simp_all <;> omega

theorem standing_eq_retryLater_iff (r : Registration) :
    r.standing = .retryLater ↔ r.registered = false ∧ r.attempts < r.maxAttempts := by
  unfold standing
  split
  · simp_all
  · split <;> simp_all

/-- Settling an unregistered record with an outcome decides where it then stands. -/
theorem settle_standing (r : Registration) (hreg : r.registered = false)
    (outcome : Except HostError Unit) : (r.settle outcome).1 = (r.settle outcome).2.standing := by
  cases outcome with
  | ok u => simp [standing]
  | error e =>
    -- A failure leaves the record unregistered, so what decides is whether this attempt was
    -- the last one allowed.
    simp only [settle_error, standing, hreg, Bool.false_eq_true, if_false]

/-! ## Callbacks that write down that they ran -/

/-- The outcomes of the callbacks that attempts ran, oldest first. -/
abbrev Calls := List (Except HostError Unit)

/-- A callback that gives `outcome` and writes it down when it runs. -/
def logged (outcome : Except HostError Unit) : StateM Calls (Except HostError Unit) :=
  modifyGet fun calls => (outcome, calls ++ [outcome])

/-- An operation on the record: an attempt whose callback gives `outcome` if it runs, or a
reset. -/
inductive Op where
  | attempt (outcome : Except HostError Unit)
  | reset

/-- The decision of an operation (none for a reset), the record after it, and the callbacks run
since the last reset. -/
def Op.apply : Op → Registration × Calls → Option RetryDecision × Registration × Calls
  | .attempt o, (r, calls) =>
    let ((d, r'), calls') := (r.attemptWith (logged o)).run calls
    (some d, r', calls')
  | .reset, (r, _) => (none, r.reset, [])

/-- The record after a sequence of operations, and the callbacks run since the last reset. -/
def run (ops : List Op) (s : Registration × Calls) : Registration × Calls :=
  ops.foldl (fun s op => (op.apply s).2) s

@[simp] theorem run_nil (s : Registration × Calls) : run [] s = s := rfl

@[simp] theorem run_cons (op : Op) (ops : List Op) (s : Registration × Calls) :
    run (op :: ops) s = run ops (op.apply s).2 := rfl

@[simp] theorem apply_reset (r : Registration) (calls : Calls) :
    Op.reset.apply (r, calls) = (none, r.reset, []) := rfl

/-- An attempt runs its callback, and writes its outcome down, exactly when the record is
neither registered nor out of attempts. -/
theorem apply_attempt (o : Except HostError Unit) (r : Registration) (calls : Calls) :
    (Op.attempt o).apply (r, calls) =
      if r.registered then (some .registered, r, calls)
      else if r.maxAttempts ≤ r.attempts then (some .giveUp, r, calls)
      else (some (r.settle o).1, (r.settle o).2, calls ++ [o]) := by
  by_cases hreg : r.registered
  · simp only [Op.apply, attemptWith_of_registered hreg, if_pos hreg]
    rfl
  · have hreg' : r.registered = false := by simpa using hreg
    by_cases hle : r.maxAttempts ≤ r.attempts
    · simp only [Op.apply, attemptWith_of_spent hreg' hle, hreg', hle]
      rfl
    · simp only [Op.apply, attemptWith_of_open hreg' (Nat.not_le.mp hle), hreg', hle]
      rfl

/-- The callbacks written down after an attempt: its own outcome is added exactly when the
record had not registered and had attempts left. -/
theorem calls_apply_attempt (o : Except HostError Unit) (r : Registration) (calls : Calls) :
    ((Op.attempt o).apply (r, calls)).2.2 =
      if r.registered = false ∧ r.attempts < r.maxAttempts then calls ++ [o] else calls := by
  rw [apply_attempt]
  by_cases hreg : r.registered <;> by_cases hle : r.maxAttempts ≤ r.attempts <;> simp [hreg, hle]

/-- The attempt of the engine, with its callback's outcome given, is the logged attempt with the
log left out. -/
theorem apply_attempt_eq (o : Except HostError Unit) (r : Registration) (calls : Calls) :
    ((Op.attempt o).apply (r, calls)).1 = some (r.attempt o).1 ∧
      ((Op.attempt o).apply (r, calls)).2.1 = (r.attempt o).2 := by
  rw [apply_attempt, attempt_eq]
  split
  · exact ⟨rfl, rfl⟩
  · split <;> exact ⟨rfl, rfl⟩

/-- An attempt decides where the record stands after it. -/
theorem apply_attempt_standing (o : Except HostError Unit) (r : Registration) (calls : Calls) :
    ((Op.attempt o).apply (r, calls)).1 = some ((Op.attempt o).apply (r, calls)).2.1.standing := by
  rw [apply_attempt]
  split
  · rename_i hreg
    simp [standing, hreg]
  · rename_i hreg
    split
    · rename_i hle
      simp [standing, hreg, hle]
    · rw [settle_standing r (by simpa using hreg)]

theorem maxAttempts_apply (op : Op) (r : Registration) (calls : Calls) :
    (op.apply (r, calls)).2.1.maxAttempts = r.maxAttempts := by
  cases op with
  | reset => rfl
  | attempt o =>
    rw [apply_attempt]
    split
    · rfl
    · split
      · rfl
      · cases o <;> rfl

theorem maxAttempts_run (ops : List Op) (s : Registration × Calls) :
    (run ops s).1.maxAttempts = s.1.maxAttempts := by
  induction ops generalizing s with
  | nil => rfl
  | cons op ops ih => rw [run_cons, ih, maxAttempts_apply]

/-! ## What the record says about the callbacks -/

/-- What a record says about the callbacks run since the last reset, `calls`, oldest first: one
attempt per callback and never more than allowed; registered exactly when the last callback
succeeded; the error of the last callback when it failed; and every callback before the last one
failed, so none ran after a success. -/
structure Records (r : Registration) (calls : Calls) : Prop where
  attempts_eq : r.attempts = calls.length
  attempts_le : r.attempts ≤ r.maxAttempts
  registered_iff : r.registered = true ↔ calls.getLast? = some (.ok ())
  lastError_iff : ∀ e, r.lastError = some e ↔ calls.getLast? = some (.error e)
  failed_before : ∀ c ∈ calls.dropLast, c ≠ .ok ()

theorem records_new (max : Nat) : Records (new max) [] :=
  ⟨rfl, Nat.zero_le _, by simp [new], by simp [new], by simp⟩

namespace Records

variable {r : Registration} {calls : Calls}

/-- While a record is not registered, every callback it ran failed. -/
theorem all_failed (h : Records r calls) (hreg : r.registered = false) :
    ∀ c ∈ calls, c ≠ .ok () := by
  intro c hc
  rcases List.eq_nil_or_concat calls with rfl | ⟨pre, b, rfl⟩
  · cases hc
  · rw [List.concat_eq_append, List.mem_append, List.mem_singleton] at hc
    rcases hc with hpre | rfl
    · exact h.failed_before c (by simpa using hpre)
    · intro hok
      have : r.registered = true := h.registered_iff.mpr (by simp [hok])
      simp_all

/-- A record has no last error exactly when it is registered or has made no attempt. -/
theorem lastError_eq_none_iff (h : Records r calls) :
    r.lastError = none ↔ r.registered = true ∨ r.attempts = 0 := by
  rw [h.attempts_eq, List.length_eq_zero_iff, h.registered_iff, Option.eq_none_iff_forall_ne_some]
  rcases List.eq_nil_or_concat calls with rfl | ⟨pre, b, rfl⟩
  · simp only [List.getLast?_nil, reduceCtorEq, or_true, iff_true]
    intro e he
    simpa using (h.lastError_iff e).mp he
  · simp only [List.concat_eq_append, List.getLast?_concat, Option.some.injEq,
      List.append_eq_nil_iff, List.cons_ne_self, and_false, or_false]
    constructor
    · -- The last callback did not fail, or its error would be the last error.
      intro hnone
      cases b with
      | ok u => rfl
      | error e => exact absurd ((h.lastError_iff e).mpr (by simp)) (hnone e)
    · rintro rfl e he
      simpa using (h.lastError_iff e).mp he

theorem reset (r : Registration) : Records r.reset [] := records_new r.maxAttempts

/-- An attempt that runs its callback adds its outcome to what the record summarises. -/
theorem settle (h : Records r calls) (hreg : r.registered = false) (hlt : r.attempts < r.maxAttempts)
    (o : Except HostError Unit) : Records (r.settle o).2 (calls ++ [o]) := by
  have hfailed := h.all_failed hreg
  cases o with
  | ok u =>
    refine ⟨by simp [h.attempts_eq], by simp; omega, by simp, by simp, ?_⟩
    simpa using hfailed
  | error e =>
    refine ⟨by simp [h.attempts_eq], by simp; omega, by simp [hreg], by simp, ?_⟩
    simpa using hfailed

/-- Every operation keeps the record a summary of the callbacks run since the last reset. -/
theorem apply (h : Records r calls) (op : Op) :
    Records (op.apply (r, calls)).2.1 (op.apply (r, calls)).2.2 := by
  cases op with
  | reset => exact Records.reset r
  | attempt o =>
    rw [apply_attempt]
    split
    · exact h
    · rename_i hreg
      have hreg' : r.registered = false := by simpa using hreg
      split
      · exact h
      · rename_i hle
        exact h.settle hreg' (Nat.not_le.mp hle) o

/-- An attempt whose callback's outcome is given keeps the record a summary of some callbacks. -/
theorem attempt (h : Records r calls) (o : Except HostError Unit) :
    ∃ calls', Records (r.attempt o).2 calls' :=
  ⟨_, (apply_attempt_eq o r calls).2 ▸ h.apply (.attempt o)⟩

end Records

theorem records_run (ops : List Op) {s : Registration × Calls} (h : Records s.1 s.2) :
    Records (run ops s).1 (run ops s).2 := by
  induction ops generalizing s with
  | nil => exact h
  | cons op ops ih => exact ih (h.apply op)

end Registration

/-! ## The engine's record -/

namespace Engine

variable {S σ : Type} [SettingsStore S] [EditorHost σ]

/-- An operation other than a registration attempt leaves the engine's record alone; an attempt
is the record's own attempt. -/
theorem registration_apply (op : Op) (e : Engine S) (host : σ) :
    (op.apply e host).2.1.registration = e.registration ∨
      ∃ o, (op.apply e host).2.1.registration = (e.registration.attempt o).2 := by
  cases op with
  | insert r =>
    left
    rcases insert_cases e host r with ⟨err, h⟩ | ⟨out, st, host', -, -, h | ⟨d, o, ss, h⟩⟩ <;>
      simp [Op.apply, h]
  | resetUsage =>
    obtain ⟨st, h⟩ := resetUsage_eq e
    exact .inl (by simp [Op.apply, h])
  | redetect caps => exact .inl (by rcases redetect_eq e host caps with h | h <;> simp [Op.apply, h])
  | startTabStops d o t =>
    exact .inl (by rcases startTabStops_cases e host d o t with h | h <;> simp [Op.apply, h])
  | register o => exact .inr ⟨o, by simp [Op.apply, register_state]⟩
  | addCustom s =>
    exact .inl (by rcases addCustom_cases e s with ⟨err, h⟩ | ⟨repo, st, -, h⟩ <;> simp [Op.apply, h])
  | removeCustom name =>
    exact .inl (by
      rcases removeCustom_cases e name with ⟨err, h⟩ | ⟨s, repo, st, -, h⟩ <;> simp [Op.apply, h])
  | _ => exact .inl rfl

/-- The engine's record, made with `max` attempts, summarises some callbacks. -/
def RegistrationSound (max : Nat) (e : Engine S) : Prop :=
  e.registration.maxAttempts = max ∧ ∃ calls, Registration.Records e.registration calls

theorem registrationSound_new (store : S) (caps : Capabilities) (config : EngineConfig) :
    RegistrationSound config.registrationAttempts (Engine.new store caps config) :=
  ⟨rfl, [], Registration.records_new _⟩

theorem RegistrationSound.apply {max : Nat} {e : Engine S} (h : RegistrationSound max e) (op : Op)
    (host : σ) : RegistrationSound max (op.apply e host).2.1 := by
  obtain ⟨hmax, calls, hrec⟩ := h
  rcases registration_apply op e host with hkeep | ⟨o, hatt⟩
  · exact ⟨hkeep ▸ hmax, calls, hkeep ▸ hrec⟩
  · refine ⟨?_, hatt ▸ hrec.attempt o⟩
    rw [hatt, ← (Registration.apply_attempt_eq o e.registration calls).2,
      Registration.maxAttempts_apply, hmax]

theorem RegistrationSound.run {max : Nat} {e : Engine S} (h : RegistrationSound max e)
    (ops : List Op) (host : σ) : RegistrationSound max (Engine.run ops e host).2.1 := by
  induction ops generalizing e host with
  | nil => exact h
  | cons op ops ih => exact ih (h.apply op host) _

omit [SettingsStore S] in
/-- Registering fails exactly when the record gives up: with the record's last error when it
has one, and with the fallback error otherwise. -/
theorem register_fst (e : Engine S) (o : Except HostError Unit) :
    (e.register o).1 =
      if (e.registration.attempt o).1 = .giveUp then
        .error (.registration (((e.registration.attempt o).2.lastError).getD
          ⟨"register_completion", "no registration attempts allowed"⟩))
      else .ok (e.registration.attempt o).1 := by
  unfold register
  rcases e.registration.attempt o with ⟨d, reg⟩
  cases d <;> rfl

omit [SettingsStore S] in
/-- When an engine whose record summarises its callbacks gives up, the record has a last error
exactly when attempts are allowed. -/
theorem lastError_of_giveUp {max : Nat} {e : Engine S} (h : RegistrationSound max e)
    {o : Except HostError Unit} (hd : (e.registration.attempt o).1 = .giveUp) :
    (e.registration.attempt o).2.lastError = none ↔ max = 0 := by
  obtain ⟨hmax, calls, hrec⟩ := h
  obtain ⟨hdec, hreg⟩ := Registration.apply_attempt_eq o e.registration calls
  have hrec' := hrec.apply (.attempt o)
  rw [Registration.apply_attempt_standing, hd, hreg, Option.some.injEq] at hdec
  rw [hreg] at hrec'
  have hmax' : (e.registration.attempt o).2.maxAttempts = max := by
    rw [← hreg, Registration.maxAttempts_apply, hmax]
  -- Giving up leaves the record unregistered with every allowed attempt made.
  obtain ⟨hnot, hall⟩ := (Registration.standing_eq_giveUp_iff hrec'.attempts_le).mp hdec
  rw [hrec'.lastError_eq_none_iff, hnot, hall, hmax']
  simp

end Engine

/-- Along every sequence of attempts and resets of a record allowing `m` attempts, with callbacks
that succeed or fail at will: the record allows `m` attempts and summarises the callbacks run
since the last reset (`Registration.Records`: as many attempts as callbacks and never more than
`m`, registered exactly when the last callback succeeded, the last error that of the last
callback when it failed, and no callback after a success), and it has no last error exactly when
it is registered or has made no attempt. The next attempt runs its callback exactly when the
record is neither registered nor out of attempts, and decides `registered` exactly when the
record is then registered, `giveUp` exactly when it is not and all `m` attempts are made, and
`retryLater` exactly when it is not and attempts are left. And along every run of an engine made
over any store, registering fails exactly when its record gives up: with the record's last host
error when attempts are allowed, and with the fallback error, the record having none, exactly
when no attempts are. -/
theorem registration_retry_laws {S σ : Type} [SettingsStore S] [EditorHost σ] (m : Nat)
    (ops : List Registration.Op) (o : Except HostError Unit) (store : S) (caps : Capabilities)
    (config : EngineConfig) (host : σ) (eops : List Engine.Op) :
    let s := Registration.run ops (Registration.new m, [])
    let t := (Registration.Op.attempt o).apply s
    let e := (Engine.run eops (Engine.new store caps config) host).2.1
    let d := (e.registration.attempt o).1
    s.1.maxAttempts = m ∧ Registration.Records s.1 s.2 ∧
      (s.1.lastError = none ↔ s.1.registered = true ∨ s.1.attempts = 0) ∧
      t.2.2 = (if s.1.registered = false ∧ s.1.attempts < m then s.2 ++ [o] else s.2) ∧
      (t.1 = some .registered ↔ t.2.1.registered = true) ∧
      (t.1 = some .giveUp ↔ t.2.1.registered = false ∧ t.2.1.attempts = m) ∧
      (t.1 = some .retryLater ↔ t.2.1.registered = false ∧ t.2.1.attempts < m) ∧
      (d ≠ .giveUp → (e.register o).1 = .ok d) ∧
      (d = .giveUp → ∃ h, (e.register o).1 = .error (.registration h) ∧
        if config.registrationAttempts = 0 then
          (e.register o).2.registration.lastError = none ∧
            h = ⟨"register_completion", "no registration attempts allowed"⟩
        else (e.register o).2.registration.lastError = some h) := by
  intro s t e d
  have hmax : s.1.maxAttempts = m := Registration.maxAttempts_run ops _
  have hrec : Registration.Records s.1 s.2 :=
    Registration.records_run ops (Registration.records_new m)
  have hrec' := hrec.apply (.attempt o)
  have hmax' : t.2.1.maxAttempts = m := by
    rw [Registration.maxAttempts_apply, hmax]
  have hdec : t.1 = some t.2.1.standing := Registration.apply_attempt_standing o _ _
  have hsound : Engine.RegistrationSound config.registrationAttempts e :=
    (Engine.registrationSound_new store caps config).run eops host
  refine ⟨hmax, hrec, hrec.lastError_eq_none_iff, ?_, ?_, ?_, ?_, ?_, ?_⟩
  · rw [Registration.calls_apply_attempt, hmax]
  · rw [hdec, Option.some.injEq, Registration.standing_eq_registered_iff]
  · rw [hdec, Option.some.injEq, Registration.standing_eq_giveUp_iff hrec'.attempts_le, hmax']
  · rw [hdec, Option.some.injEq, Registration.standing_eq_retryLater_iff, hmax']
  · intro hd
    rw [Engine.register_fst, if_neg hd]
  · intro hd
    have hnone := Engine.lastError_of_giveUp hsound hd
    refine ⟨_, by rw [Engine.register_fst, if_pos hd], ?_⟩
    rw [Engine.register_state]
    split
    · rename_i hzero
      have hlast := hnone.mpr hzero
      exact ⟨hlast, by rw [hlast]; rfl⟩
    · rename_i hpos
      obtain ⟨h, hh⟩ := Option.ne_none_iff_exists'.mp (mt hnone.mp hpos)
      rw [hh]
      rfl

/-- A record allowing two attempts, after one failed callback, gives up on the next failure and
runs that callback; an engine that allows no attempts gives up with the fallback error. -/
theorem registration_gives_up_after_budget :
    let fail : Except HostError Unit := .error ⟨"register_completion", "not ready"⟩
    ((Registration.Op.attempt fail).apply
        (Registration.run [.attempt fail] (Registration.new 2, []))).1 = some .giveUp ∧
      ((Registration.Op.attempt fail).apply
        (Registration.run [.attempt fail] (Registration.new 2, []))).2.2 = [fail, fail] ∧
      ∃ h, ((Engine.new ({} : MemoryStore) ⟨true, ["apply_edit"]⟩ { registrationAttempts := 0 }
          ).register fail).1 = .error (.registration h) ∧
        h = ⟨"register_completion", "no registration attempts allowed"⟩ := by
  intro fail
  have laws := registration_retry_laws 2 [.attempt fail] fail ({} : MemoryStore)
    ⟨true, ["apply_edit"]⟩ { registrationAttempts := 0 } ({} : MemoryEditor) []
  obtain ⟨-, -, -, hcalls, -, -, -, -, hgive⟩ := laws
  refine ⟨rfl, by rw [hcalls]; rfl, ?_⟩
  obtain ⟨h, herr, hsyn⟩ := hgive rfl
  exact ⟨h, herr, hsyn.2⟩

end SnippetAssist
