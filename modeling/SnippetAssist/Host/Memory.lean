import SnippetAssist.Host
import SnippetAssist.LineIndex

/-!
# An editor held in memory

An editor host whose one document is a text in memory. It records what the engine asks of it:
the cursor, the listeners live and released (and whether one was released twice), the number of
edits, and the cursor moves. It can be told to refuse edits, cursor moves or subscriptions.

An edit at a position goes to that position's offset; a line the text does not have, or an
offset inside a character, is refused. Listener handles count up from one.
-/

namespace SnippetAssist

/-- The state of an editor held in memory. -/
structure MemoryEditor where
  text : String := ""
  cursor : Option Position := none
  live : List ListenerHandle := []
  released : List ListenerHandle := []
  doubleRelease : Bool := false
  edits : Nat := 0
  cursorMoves : List (DocumentId × Position) := []
  nextHandle : ListenerHandle := 1
  failEdits : Bool := false
  failCursor : Bool := false
  failSubscribe : Bool := false

namespace MemoryEditor

/-- Inserts text at a position of the document. -/
def applyEdit (ed : MemoryEditor) (_ : DocumentId) (pos : Position) (t : String) :
    Except HostError MemoryEditor :=
  if ed.failEdits then .error ⟨"apply_edit", "document is read-only"⟩
  else
    let cs := ed.text.toList
    match (LineIndex.ofChars cs).offset? pos with
    | none => .error ⟨"apply_edit", "position out of range"⟩
    | some offset =>
      match Text.splitAtByte? cs offset with
      | none => .error ⟨"apply_edit", "position inside a character"⟩
      | some (before, after) =>
        .ok { ed with text := String.ofList (before ++ t.toList ++ after), edits := ed.edits + 1 }

/-- Appends text to the document. -/
def append (ed : MemoryEditor) (_ : DocumentId) (t : String) : Except HostError MemoryEditor :=
  if ed.failEdits then .error ⟨"append", "document is read-only"⟩
  else .ok { ed with text := ed.text ++ t, edits := ed.edits + 1 }

/-- Moves the cursor and records the move. -/
def setCursor (ed : MemoryEditor) (doc : DocumentId) (pos : Position) :
    Except HostError MemoryEditor :=
  if ed.failCursor then .error ⟨"set_cursor", "editor lost focus"⟩
  else .ok { ed with cursor := some pos, cursorMoves := ed.cursorMoves ++ [(doc, pos)] }

/-- Starts a listener with the next handle. -/
def subscribeInput (ed : MemoryEditor) : Except HostError (ListenerHandle × MemoryEditor) :=
  if ed.failSubscribe then .error ⟨"subscribe_input", "rejected"⟩
  else .ok (ed.nextHandle, { ed with live := ed.live ++ [ed.nextHandle], nextHandle := ed.nextHandle + 1 })

/-- Stops a listener, noting a handle released twice. -/
def unsubscribeInput (ed : MemoryEditor) (h : ListenerHandle) : MemoryEditor :=
  { ed with
    live := ed.live.erase h
    released := ed.released ++ [h]
    doubleRelease := ed.doubleRelease || ed.released.contains h }

instance : EditorHost MemoryEditor where
  applyEdit := applyEdit
  append := append
  setCursor := setCursor
  subscribeInput := subscribeInput
  unsubscribeInput := unsubscribeInput

end MemoryEditor

end SnippetAssist
