import SnippetAssist.Ranking
import SnippetAssist.LineIndex
import SnippetAssist.Snippet.Repository

/-!
# Completion requests

A completion request is the cursor position with the text before and after it. Made from a
whole source, the cursor offset is the position's offset (the end of the source for a line it
does not have), moved back to a character boundary; the request keeps at most `lookback`
characters on each side of it.

Completions are the ranked snippets as items for the editor, none inside a comment.
-/

namespace SnippetAssist

/-- The cursor and the text around it. -/
structure Request where
  position : Position
  textBefore : String
  textAfter : String

namespace Request

/-- The request at a position of a source, with at most `lookback` characters on each side. -/
def ofSource (source : String) (p : Position) (lookback : Nat) : Request :=
  let cs := source.toList
  let idx := LineIndex.ofChars cs
  let offset := (idx.offset? p).getD idx.length
  let before := Text.prefixWithin cs offset
  let after := cs.drop before.length
  { position := idx.lineCol (Text.byteLength before)
    textBefore := String.ofList (before.drop (before.length - lookback))
    textAfter := String.ofList (after.take lookback) }

/-- The part of the current line before the cursor. -/
def currentLine (r : Request) : String :=
  String.ofList (r.textBefore.toList.reverse.takeWhile (· ≠ '\n')).reverse

/-- The context of the request. -/
def context (r : Request) : Context := Context.analyze r.textBefore r.textAfter r.currentLine

end Request

/-- A completion offered to the editor. -/
structure CompletionItem where
  label : String
  detail : String
  documentation : String

namespace CompletionItem

/-- The editor's kind number for a snippet completion. -/
def snippetKind : Nat := 15

/-- The item for a snippet: its name, description and template. -/
def ofSnippet (s : Snippet) : CompletionItem := ⟨s.name, s.description, s.template⟩

end CompletionItem

/-- The snippets ranked for a request, comments or not. -/
def rankCompletions (r : Request) (repo : Repository) (usage : Usage) (limit : Nat) :
    List Snippet :=
  (Ranking.rank repo.snippets r.context usage limit).map (·.1)

/-- The completions for a request: none inside a comment, else the ranked snippets. -/
def completions (r : Request) (repo : Repository) (usage : Usage) (maxResults : Nat) :
    List CompletionItem :=
  let ctx := r.context
  if ctx.inComment then []
  else (Ranking.rank repo.snippets ctx usage maxResults).map (CompletionItem.ofSnippet ·.1)

end SnippetAssist
