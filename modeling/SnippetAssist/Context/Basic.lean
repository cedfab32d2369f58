import SnippetAssist.Context.Lexical
import SnippetAssist.Text.Search

/-!
# The completion context

What the text before the cursor says about the snippet wanted next: the token being typed, the
identifier before it, the current line, and a handful of flags and patterns.

* A script is nearly empty when fewer than ten characters precede the cursor.
* The cursor is at the start of a line when only white space precedes the token on the line.
* Inside a function: more whole words `function` than `end` precede the cursor. Inside a table:
  more `{` than `}` precede it.
* The patterns, each a test of the current line: a service access (`game:GetService` on the line,
  or `game:` right before the token), an event connection (`:Connect(`), a variable declaration
  or a numeric loop (the line starts with `local ` or `for ` after white space), an open
  `Instance.new("` whose string is not closed, and an event handler (a dot followed by an event
  name, or the token after a dot being the start of one).
-/

namespace SnippetAssist

/-- A situation in a script that favours certain snippets. -/
inductive Pattern where
  | emptyScript
  | serviceAccess
  | eventConnection
  | variableDeclaration
  | numericLoop
  | instanceCreation
  | eventHandler
deriving DecidableEq, Repr

namespace Pattern

/-- The name of a pattern. -/
def name : Pattern → String
  | .emptyScript => "empty_script"
  | .serviceAccess => "service_access"
  | .eventConnection => "event_connection"
  | .variableDeclaration => "variable_declaration"
  | .numericLoop => "numeric_loop"
  | .instanceCreation => "instance_creation"
  | .eventHandler => "event_handler"

/-- The patterns from most to least telling: detection reports the first one present. -/
def priority : List Pattern :=
  [.emptyScript, .serviceAccess, .eventConnection, .variableDeclaration, .instanceCreation,
    .eventHandler, .numericLoop]

end Pattern

/-- The event properties that an event handler names. -/
def eventProperties : List String :=
  ["Touched", "Changed", "Activated", "MouseButton1Click", "PlayerAdded", "PlayerRemoving",
    "CharacterAdded", "Heartbeat", "RenderStepped", "Died", "ChildAdded", "ChildRemoved"]

/-- Fewer characters than this before the cursor make a nearly empty script. -/
def emptyScriptThreshold : Nat := 10

/-- What the text before the cursor says. -/
structure Context where
  currentToken : String
  previousToken : String
  currentLine : String
  isEmpty : Bool
  lineStart : Bool
  afterDot : Bool
  afterColon : Bool
  inFunction : Bool
  inTable : Bool
  inComment : Bool
  patterns : List Pattern
deriving Repr

namespace Context

/-- The line accesses a service. -/
def serviceAccess (line lineBeforeToken : List Char) : Bool :=
  Text.hasInfix "game:GetService".toList line || "game:".toList.isSuffixOf lineBeforeToken

/-- The line holds an `Instance.new("` whose string is still open: no quote follows its last
opener. -/
def openInstance : List Char → Bool
  | [] => false
  | c :: rest =>
    let opener := "Instance.new(\"".toList
    (opener.isPrefixOf (c :: rest) && !((c :: rest).drop opener.length).contains '"')
      || openInstance rest

/-- Some dot on the line is followed by an event name. -/
def accessesEvent : List Char → Bool
  | [] => false
  | c :: rest =>
    (c = '.' && eventProperties.any fun e => e.toList.isPrefixOf rest) || accessesEvent rest

/-- The line names an event after a dot, or the token after a dot starts an event name. -/
def eventHandler (line lineBeforeToken token : List Char) : Bool :=
  accessesEvent line ||
    (!token.isEmpty && lineBeforeToken.getLast? == some '.' &&
      eventProperties.any fun e => token.isPrefixOf e.toList)

/-- Reads the context from the text before the cursor, the text after it (unused), and the line
the cursor is on. -/
def analyze (textBefore _textAfter currentLine : String) : Context :=
  let before := textBefore.toList
  let line := currentLine.toList
  let token := trailingIdent before
  let beforeToken := withoutTrailingIdent before
  let lineBeforeToken := Text.dropSuffix line token
  let isEmpty := before.length < emptyScriptThreshold
  -- The patterns are listed in the order in which they are reported.
  let found : List (Pattern × Bool) := [
    (.serviceAccess, serviceAccess line lineBeforeToken),
    (.eventConnection, Text.hasInfix ":Connect(".toList line),
    (.variableDeclaration, "local ".toList.isPrefixOf (Text.trimStart line)),
    (.numericLoop, "for ".toList.isPrefixOf (Text.trimStart line)),
    (.instanceCreation, openInstance line),
    (.eventHandler, eventHandler line lineBeforeToken token)]
  { currentToken := String.ofList token
    previousToken := String.ofList (trailingIdent (Text.trimEnd beforeToken))
    currentLine := currentLine
    isEmpty := isEmpty
    lineStart := Text.isBlank lineBeforeToken
    afterDot := beforeToken.getLast? == some '.'
    afterColon := beforeToken.getLast? == some ':'
    inFunction := countWord "end".toList before < countWord "function".toList before
    inTable := before.count '}' < before.count '{'
    inComment := opensComment line
    patterns := (if isEmpty then [.emptyScript] else []) ++ (found.filter (·.2)).map (·.1) }

/-- The most telling pattern present. -/
def detect (ctx : Context) : Option Pattern := Pattern.priority.find? ctx.patterns.contains

end Context

end SnippetAssist
