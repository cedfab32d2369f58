import SnippetAssist.Host

/-!
# Registering with the host

Registering the completion provider may fail while the host starts up, so it is retried, up to
a number of attempts. Once registered, further attempts report success without trying; once the
attempts are spent, they report giving up without trying. A reset starts over.
-/

namespace SnippetAssist

/-- What an attempt to register says to do next. -/
inductive RetryDecision where
  | registered
  | retryLater
  | giveUp
deriving DecidableEq, Repr

/-- The state of registration: attempts made, success, and the last failure. -/
structure Registration where
  maxAttempts : Nat
  attempts : Nat := 0
  registered : Bool := false
  lastError : Option HostError := none
deriving Repr

namespace Registration

/-- No attempt made yet. -/
def new (maxAttempts : Nat) : Registration := { maxAttempts := maxAttempts }

/-- The record after an attempt whose callback gave `outcome`, and what to do next: the
attempt is counted; a success registers and forgets the last failure, a failure is kept as the
last one and gives up once it was the last attempt allowed. -/
def settle (r : Registration) (outcome : Except HostError Unit) : RetryDecision × Registration :=
  let r := { r with attempts := r.attempts + 1 }
  match outcome with
  | .ok () => (.registered, { r with registered := true, lastError := none })
  | .error e =>
    let r := { r with lastError := some e }
    (if r.maxAttempts ≤ r.attempts then .giveUp else .retryLater, r)

/-- One attempt, which runs the callback `register` unless registration is done or the
attempts are spent. The callback may act in any monad, as a host call does. -/
def attemptWith {m : Type → Type} [Monad m] (r : Registration)
    (register : m (Except HostError Unit)) : m (RetryDecision × Registration) :=
  if r.registered then pure (.registered, r)
  else if r.maxAttempts ≤ r.attempts then pure (.giveUp, r)
  else r.settle <$> register

/-- One attempt, whose callback gives `outcome` if it is called. -/
def attempt (r : Registration) (outcome : Except HostError Unit) : RetryDecision × Registration :=
  Id.run (r.attemptWith (pure outcome))

/-- Starts over: no attempts, not registered. -/
def reset (r : Registration) : Registration := new r.maxAttempts

/-- An attempt settles with the callback's outcome, unless registration is done or the
attempts are spent. -/
theorem attempt_eq (r : Registration) (outcome : Except HostError Unit) :
    r.attempt outcome =
      if r.registered then (.registered, r)
      else if r.maxAttempts ≤ r.attempts then (.giveUp, r)
      else r.settle outcome := by
  unfold attempt attemptWith
  split
  · rfl
  · split <;> rfl

theorem attempts_le (r : Registration) (h : r.attempts ≤ r.maxAttempts)
    (outcome : Except HostError Unit) : (r.attempt outcome).2.attempts ≤ r.maxAttempts := by
  rw [attempt_eq]
  split
  · exact h
  · split
    · exact h
    · cases outcome <;> simp only [settle] <;> omega

end Registration

end SnippetAssist
