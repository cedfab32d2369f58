import SnippetAssist.Position

/-!
# The editor host

What the completion engine needs from the editor it runs in: documents it can edit, a cursor it
can move, and a stream of input events it can listen to. Each operation of a host takes the
host's state and gives the next state, or the host's error; a call that fails changes nothing.

The engine works in one of two modes. With a host that is enabled and offers positioned edits it
inserts at the cursor and steps through tab stops (`primary`); otherwise it can only append text
(`fallback`).
-/

namespace SnippetAssist

/-- A document open in the editor. -/
structure DocumentId where
  id : Nat
deriving DecidableEq, Repr

/-- `doc#N`. -/
def DocumentId.display (d : DocumentId) : String := "doc#" ++ Nat.repr d.id

/-- `DocumentId(N)`. -/
def DocumentId.debug (d : DocumentId) : String := "DocumentId(" ++ Nat.repr d.id ++ ")"

/-- A failed call into the host: which operation, and the host's reason. -/
structure HostError where
  operation : String
  message : String
deriving DecidableEq, Repr

/-- The text of a host error. -/
def HostError.display (e : HostError) : String :=
  "host call `" ++ e.operation ++ "` failed: " ++ e.message

/-- A key the editor reports. -/
inductive Key where
  | tab
  | shiftTab
  | char (c : Char)
  | space
  | enter
  | backspace
  | delete
  | escape
  | other
deriving DecidableEq, Repr

/-- An input event the editor reports. -/
inductive InputEvent where
  | key (k : Key)
  | pointerPress
deriving DecidableEq, Repr

/-- An event that means the user has left the template: a click, typing, or a key that edits or
escapes. Tab, shift-tab and other keys leave the session alone. -/
def InputEvent.isDisqualifying : InputEvent → Bool
  | .pointerPress => true
  | .key (.char _) | .key .space | .key .enter | .key .backspace | .key .delete
  | .key .escape => true
  | .key .tab | .key .shiftTab | .key .other => false

/-- A token for a subscription to input events. -/
abbrev ListenerHandle := Nat

/-- The two ways the engine can work with a host. -/
inductive Mode where
  | primary
  | fallback
deriving DecidableEq, Repr

/-- `primary` or `fallback`. -/
def Mode.name : Mode → String
  | .primary => "primary"
  | .fallback => "fallback"

/-- What a host says it can do. -/
structure Capabilities where
  enabled : Bool
  methods : List String

/-- The host method that positioned editing needs. -/
def positionedEditMethod : String := "apply_edit"

/-- Primary mode needs an enabled host with positioned edits. -/
def Capabilities.mode (caps : Capabilities) : Mode :=
  if caps.enabled && caps.methods.contains positionedEditMethod then .primary else .fallback

/-- The operations of an editor, on its state `σ`. -/
class EditorHost (σ : Type) where
  /-- Inserts text at a position of a document. -/
  applyEdit : σ → DocumentId → Position → String → Except HostError σ
  /-- Appends text to a document. -/
  append : σ → DocumentId → String → Except HostError σ
  /-- Moves the cursor to a position of a document. -/
  setCursor : σ → DocumentId → Position → Except HostError σ
  /-- Starts listening to input events. -/
  subscribeInput : σ → Except HostError (ListenerHandle × σ)
  /-- Stops listening; this cannot fail. -/
  unsubscribeInput : σ → ListenerHandle → σ

end SnippetAssist
