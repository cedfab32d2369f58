import SnippetAssist.Completion
import SnippetAssist.Navigator
import SnippetAssist.Registration
import SnippetAssist.Settings.Persist

/-!
# The snippet engine

The engine ties the library together for one editor: it offers completions, inserts snippets,
walks their tab stops, keeps usage counts and custom snippets in a settings store, and registers
itself with the host.

Made over a store, it starts from the built-in snippets, adds the stored custom snippets that it
accepts, and loads the stored usage counts; a store that cannot be read gives no custom snippets
or no counts. Inserting a snippet edits the document at the position in primary mode and appends
to it in fallback mode, counts one use and stores the counts, and in primary mode starts a
session over the template's stops. Adding or removing a custom snippet stores the custom
snippets. A failed store write is ignored; the engine keeps its own state. An error other than a
failed tab-stop session leaves the engine as it was.
-/

namespace SnippetAssist

/-- The engine's settings: how many completions, how much text around the cursor, and how many
registration attempts. -/
structure EngineConfig where
  maxResults : Nat := 10
  lookback : Nat := 1000
  registrationAttempts : Nat := 5

/-- Why an engine operation failed. -/
inductive EngineError where
  | hostUnavailable
  | registration (e : HostError)
  | insertion (e : HostError)
  | validation (e : ValidationError)
  | navigation (e : NavigatorError)
  | unknownSnippet (name : String)

/-- The text of an engine error; validation and navigation errors keep their own. -/
def EngineError.message : EngineError → String
  | .hostUnavailable => "positioned editing is unavailable in fallback mode"
  | .registration e => "completion registration rejected: " ++ e.display
  | .insertion e => "snippet insertion failed: " ++ e.display
  | .validation e => e.message
  | .navigation e => e.message
  | .unknownSnippet n => "unknown snippet `" ++ n ++ "`"

/-- A request to insert a snippet. -/
structure InsertRequest where
  document : DocumentId
  snippet : String
  position : Position

/-- How the tab-stop session after an insertion went. -/
inductive SessionStart where
  | started
  | noStops
  | skipped
  | failed (e : NavigatorError)

/-- What an insertion did: the mode, the snippet's new count, and the session. -/
structure InsertOutcome where
  mode : Mode
  usage : Nat
  session : SessionStart

/-- The engine over a settings store of type `S`. -/
structure Engine (S : Type) where
  config : EngineConfig
  mode : Mode
  repository : Repository
  usage : Usage
  navigator : Navigator
  registration : Registration
  store : S

namespace Engine

variable {S σ : Type} [SettingsStore S] [EditorHost σ]

/-- The engine over a store, for a host with the given capabilities. -/
def new (store : S) (caps : Capabilities) (config : EngineConfig) : Engine S :=
  let repository := match loadCustomSnippets store with
    | .ok custom => (Repository.builtin.extendCustom custom).2
    | .error _ => Repository.builtin
  let usage := match loadUsage store with
    | .ok u => u
    | .error _ => Usage.empty
  { config := config
    mode := caps.mode
    repository := repository
    usage := usage
    navigator := {}
    registration := Registration.new config.registrationAttempts
    store := store }

/-- Stores the usage counts; a failed write is ignored. -/
def persistUsage (e : Engine S) : Engine S :=
  match saveUsage e.store e.usage with
  | .ok st => { e with store := st }
  | .error _ => e

/-- Stores the custom snippets; a failed write is ignored. -/
def persistCustom (e : Engine S) : Engine S :=
  match saveCustomSnippets e.store e.repository.custom with
  | .ok st => { e with store := st }
  | .error _ => e

/-- Takes the mode from new capabilities; in fallback mode any session ends. -/
def redetect (e : Engine S) (host : σ) (caps : Capabilities) : Engine S × σ :=
  let e := { e with mode := caps.mode }
  if e.mode = .fallback then
    let (nav, host) := e.navigator.exit host
    ({ e with navigator := nav }, host)
  else (e, host)

/-- The completions for a request. -/
def complete (e : Engine S) (r : Request) : List CompletionItem :=
  completions r e.repository e.usage e.config.maxResults

/-- The completions at a position of a source. -/
def completeAt (e : Engine S) (source : String) (p : Position) : List CompletionItem :=
  e.complete (Request.ofSource source p e.config.lookback)

/-- The ranked snippets for a request, comments or not. -/
def rank (e : Engine S) (r : Request) : List Snippet :=
  rankCompletions r e.repository e.usage e.config.maxResults

/-- One registration attempt with the given outcome; giving up is an error carrying the last
failure. -/
def register (e : Engine S) (outcome : Except HostError Unit) :
    Except EngineError RetryDecision × Engine S :=
  let (d, reg) := e.registration.attempt outcome
  let e := { e with registration := reg }
  match d with
  | .giveUp =>
    (.error (.registration (reg.lastError.getD ⟨"register_completion", "no registration attempts allowed"⟩)), e)
  | d => (.ok d, e)

/-- Inserts a snippet, counts the use, and in primary mode starts its tab stops. -/
def insert (e : Engine S) (host : σ) (r : InsertRequest) :
    Except EngineError InsertOutcome × Engine S × σ :=
  match e.repository.get? r.snippet with
  | none => (.error (.unknownSnippet r.snippet), e, host)
  | some s =>
    let body := Template.expand s.template fun _ => none
    let edit := match e.mode with
      | .primary => EditorHost.applyEdit host r.document r.position body
      | .fallback => EditorHost.append host r.document body
    match edit with
    | .error err => (.error (.insertion err), e, host)
    | .ok host =>
      let (n, usage) := e.usage.record r.snippet
      let e := ({ e with usage := usage } : Engine S).persistUsage
      match e.mode with
      | .fallback => (.ok ⟨e.mode, n, .skipped⟩, e, host)
      | .primary =>
        let (result, nav, host) :=
          e.navigator.start host r.document r.position (Template.tabStops s.template)
        let session := match result with
          | .ok true => .started
          | .ok false => .noStops
          | .error err => .failed err
        (.ok ⟨e.mode, n, session⟩, { e with navigator := nav }, host)

/-- Starts a session over the stops of a template; refused in fallback mode. -/
def startTabStops (e : Engine S) (host : σ) (document : DocumentId) (origin : Position)
    (template : String) : Except EngineError Bool × Engine S × σ :=
  if e.mode = .fallback then (.error .hostUnavailable, e, host)
  else
    let (result, nav, host) := e.navigator.start host document origin (Template.tabStops template)
    (result.mapError .navigation, { e with navigator := nav }, host)

/-- Moves to the next tab stop. -/
def nextStop (e : Engine S) (host : σ) : Except EngineError Step × Engine S × σ :=
  let (result, nav, host) := e.navigator.next host
  (result.mapError .navigation, { e with navigator := nav }, host)

/-- Moves to the previous tab stop. -/
def previousStop (e : Engine S) (host : σ) : Except EngineError Step × Engine S × σ :=
  let (result, nav, host) := e.navigator.previous host
  (result.mapError .navigation, { e with navigator := nav }, host)

/-- Ends the tab-stop session. -/
def exitTabStops (e : Engine S) (host : σ) : Engine S × σ :=
  let (nav, host) := e.navigator.exit host
  ({ e with navigator := nav }, host)

/-- Passes an input event to the tab-stop session. -/
def handleInput (e : Engine S) (host : σ) (ev : InputEvent) :
    Except EngineError InputOutcome × Engine S × σ :=
  let (result, nav, host) := e.navigator.handleInput host ev
  (result.mapError .navigation, { e with navigator := nav }, host)

/-- Adds a custom snippet and stores the custom snippets. -/
def addCustom (e : Engine S) (s : Snippet) : Except EngineError Unit × Engine S :=
  match e.repository.addCustom s with
  | .error err => (.error (.validation err), e)
  | .ok repo => (.ok (), ({ e with repository := repo } : Engine S).persistCustom)

/-- Removes a custom snippet and stores the custom snippets. -/
def removeCustom (e : Engine S) (name : String) : Except EngineError Snippet × Engine S :=
  match e.repository.removeCustom name with
  | .error err => (.error (.validation err), e)
  | .ok (s, repo) => (.ok s, ({ e with repository := repo } : Engine S).persistCustom)

/-- Forgets the usage counts and stores that. -/
def resetUsage (e : Engine S) : Engine S := ({ e with usage := e.usage.reset } : Engine S).persistUsage

/-- Ends any session before the engine goes away. -/
def shutdown (e : Engine S) (host : σ) : Engine S × σ := e.exitTabStops host

end Engine

end SnippetAssist
