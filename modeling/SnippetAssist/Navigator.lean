import SnippetAssist.Host
import SnippetAssist.Template

/-!
# Stepping through tab stops

After a template is inserted, the navigator walks its tab stops: it listens to the editor's input,
puts the cursor on the first stop, moves forward on tab and back on shift-tab, and ends after the
last stop. Typing, clicking or a key that edits ends the session. Whenever the session ends, the
listener is released exactly once.

The current stop is counted from one. Moving back from the first stop is refused and changes
nothing. When the cursor cannot be placed, the session ends and the stop is reported.
-/

namespace SnippetAssist

/-- Why a navigation step failed. -/
inductive NavigatorError where
  | notActive
  | atFirstStop
  | registration (e : HostError)
  | cursorPlacement (stop : Nat) (e : HostError)
deriving DecidableEq, Repr

/-- The text of a navigation error. -/
def NavigatorError.message : NavigatorError → String
  | .notActive => "no tab-stop session is active"
  | .atFirstStop => "already at the first tab stop"
  | .registration e => "could not listen for tab-stop input: " ++ e.display
  | .cursorPlacement stop e =>
    "could not place the cursor at tab stop $" ++ Nat.repr stop ++ ": " ++ e.display

/-- What a step did: moved to the stop with the given index and position, or ended. -/
inductive Step where
  | moved (index : Nat) (position : Position)
  | ended
deriving DecidableEq, Repr

/-- What an input event did to the session. -/
inductive InputOutcome where
  | ignored
  | stepped (s : Step)
  | exited
deriving DecidableEq, Repr

/-- A session over the stops of one inserted template. -/
structure Session where
  document : DocumentId
  origin : Position
  stops : List TabStop
  index : Nat
  listener : Option ListenerHandle
deriving Repr

/-- The stop the session is on, with its position in the document. -/
def Session.current? (s : Session) : Option (TabStop × Position) :=
  if s.index = 0 then none
  else (s.stops[s.index - 1]?).map fun t => (t, t.absolute s.origin)

/-- The navigator: a session or none. -/
structure Navigator where
  session : Option Session := none
deriving Repr

namespace Navigator

/-- A session is running. -/
def isActive (n : Navigator) : Bool := n.session.isSome

/-- The index of the current stop, counted from one; zero without a session. -/
def currentIndex (n : Navigator) : Nat := (n.session.map (·.index)).getD 0

/-- The number of stops of the session; zero without a session. -/
def size (n : Navigator) : Nat := (n.session.map (·.stops.length)).getD 0

/-- The document of the session. -/
def document? (n : Navigator) : Option DocumentId := n.session.map (·.document)

/-- The current stop and its position. -/
def current? (n : Navigator) : Option (TabStop × Position) := n.session.bind Session.current?

variable {σ : Type} [EditorHost σ]

/-- Ends the session, releasing its listener. -/
def exit (n : Navigator) (host : σ) : Navigator × σ :=
  match n.session with
  | none => (n, host)
  | some s =>
    match s.listener with
    | some h => ({ session := none }, EditorHost.unsubscribeInput host h)
    | none => ({ session := none }, host)

/-- Puts the cursor on the current stop; if the host refuses, the session ends. -/
def placeCurrent (n : Navigator) (host : σ) : Except NavigatorError Step × Navigator × σ :=
  match n.session with
  | none => (.error .notActive, n, host)
  | some s =>
    match s.current? with
    | none => (.error .notActive, n, host)
    | some (stop, pos) =>
      match EditorHost.setCursor host s.document pos with
      | .ok host => (.ok (.moved s.index pos), n, host)
      | .error e =>
        let (n, host) := n.exit host
        (.error (.cursorPlacement stop.stop e), n, host)

/-- Starts a session over `stops` after ending any running one: listens to input and puts the
cursor on the first stop. Without stops there is no session. -/
def start (n : Navigator) (host : σ) (document : DocumentId) (origin : Position)
    (stops : List TabStop) : Except NavigatorError Bool × Navigator × σ :=
  let (n, host) := n.exit host
  if stops.isEmpty then (.ok false, n, host)
  else
    match EditorHost.subscribeInput host with
    | .error e => (.error (.registration e), n, host)
    | .ok (h, host) =>
      let n : Navigator := { session := some ⟨document, origin, stops, 1, some h⟩ }
      match n.placeCurrent host with
      | (.ok _, n, host) => (.ok true, n, host)
      | (.error e, n, host) => (.error e, n, host)

/-- Moves to the next stop, or ends the session after the last. -/
def next (n : Navigator) (host : σ) : Except NavigatorError Step × Navigator × σ :=
  match n.session with
  | none => (.error .notActive, n, host)
  | some s =>
    if s.stops.length ≤ s.index then
      let (n, host) := n.exit host
      (.ok .ended, n, host)
    else ({ session := some { s with index := s.index + 1 } } : Navigator).placeCurrent host

/-- Moves to the previous stop; refused on the first. -/
def previous (n : Navigator) (host : σ) : Except NavigatorError Step × Navigator × σ :=
  match n.session with
  | none => (.error .notActive, n, host)
  | some s =>
    if s.index ≤ 1 then (.error .atFirstStop, n, host)
    else ({ session := some { s with index := s.index - 1 } } : Navigator).placeCurrent host

/-- Handles an input event: an event that leaves the template ends the session; tab and
shift-tab step; anything else is ignored. -/
def handleInput (n : Navigator) (host : σ) (e : InputEvent) :
    Except NavigatorError InputOutcome × Navigator × σ :=
  if e.isDisqualifying then
    let wasActive := n.isActive
    let (n, host) := n.exit host
    (.ok (if wasActive then .exited else .ignored), n, host)
  else if !n.isActive then (.ok .ignored, n, host)
  else
    match e with
    | .key .tab =>
      let (r, n, host) := n.next host
      (r.map .stepped, n, host)
    | .key .shiftTab =>
      let (r, n, host) := n.previous host
      (r.map .stepped, n, host)
    | _ => (.ok .ignored, n, host)

end Navigator

end SnippetAssist
