import SnippetAssist.Text.WhiteSpace

/-!
# Lexical facts about the text before the cursor

Identifiers are runs of ASCII letters, digits and underscores. The token being typed is the
identifier that ends the text, possibly empty. A whole word is a maximal identifier run. A line
opens a comment when two hyphens stand together outside a quoted string; a quote closes only
with the same quote character, and quotes do not span lines here.
-/

namespace SnippetAssist.Context

/-- A character of an identifier: an ASCII letter or digit, or an underscore. -/
def isIdentChar (c : Char) : Bool := c.isAlphanum || c = '_'

/-- The identifier that ends `cs`: its longest suffix of identifier characters. -/
def trailingIdent (cs : List Char) : List Char := (cs.reverse.takeWhile isIdentChar).reverse

/-- `cs` without the identifier that ends it. -/
def withoutTrailingIdent (cs : List Char) : List Char := (cs.reverse.dropWhile isIdentChar).reverse

/-- The maximal runs of identifier characters of `cs`, the current run `run` reversed so far. -/
def identRunsFrom (run : List Char) : List Char → List (List Char)
  | [] => if run.isEmpty then [] else [run.reverse]
  | c :: rest =>
    if isIdentChar c then identRunsFrom (c :: run) rest
    else if run.isEmpty then identRunsFrom [] rest
    else run.reverse :: identRunsFrom [] rest

/-- The maximal runs of identifier characters of `cs`, in order. -/
def identRuns (cs : List Char) : List (List Char) := identRunsFrom [] cs

/-- How often `word` stands in `cs` as a whole word. -/
def countWord (word cs : List Char) : Nat := (identRuns cs).count word

/-- Whether a line opens a comment, scanning from a state: the open quote if any, and the
character before. -/
def opensCommentFrom (quote : Option Char) (prev : Char) : List Char → Bool
  | [] => false
  | c :: rest =>
    match quote with
    | some q => opensCommentFrom (if c = q then none else some q) c rest
    | none =>
      if c = '"' || c = '\'' then opensCommentFrom (some c) c rest
      else if c = '-' && prev = '-' then true
      else opensCommentFrom none c rest

/-- The line opens a comment: two hyphens together outside a quoted string. -/
def opensComment (line : List Char) : Bool := opensCommentFrom none '\x00' line

theorem withoutTrailingIdent_append_trailingIdent (cs : List Char) :
    withoutTrailingIdent cs ++ trailingIdent cs = cs := by
  rw [withoutTrailingIdent, trailingIdent, ← List.reverse_append, List.takeWhile_append_dropWhile,
    List.reverse_reverse]

end SnippetAssist.Context
