import SnippetAssist.Context.Basic
import SnippetAssist.Snippet.Basic
import SnippetAssist.Usage
import SnippetAssist.Text.Lowercase
import SnippetAssist.Text.Search

/-!
# Ranking snippets

A snippet's total score blends three signals, as doubles in this order of operations:

  `0.5 · context + 0.3 · min(3 · uses, 50) + 0.2 · prefix`

The context score (at most 50) favours snippets that fit the most telling pattern of the context
and adds bonuses for statements at the start of a line, control flow inside a function and
tables inside a table. The prefix score (at most 10) says how the name matches the token being
typed: 10 when it starts with it, 5 when it contains it, 2 when its initials start with it, all
compared in lowercase; an empty token scores 5.

Ranking keeps every snippet while no token is typed and the positive totals otherwise, orders
them by total, highest first, equal totals in repository order, and cuts the list at a limit.
-/

namespace SnippetAssist

namespace Ranking

/-- The largest context score. -/
def maxContextScore : Nat := 50

/-- The largest usage score before weighting. -/
def maxUsageScore : Nat := 50

/-- Snippets that start a statement, favoured at the start of a line. -/
def statementSnippets : List String :=
  ["if", "ifelse", "for", "forpairs", "foripairs", "while", "repeat", "local", "function",
    "pcall", "print"]

/-- Tags favoured inside a function body. -/
def functionBodyTags : List String := ["conditional", "loop", "pcall"]

/-- `per` for each of the tags that the snippet carries. -/
def tagBonus (s : Snippet) (tags : List String) (per : Nat) : Nat :=
  (tags.filter s.hasTag).length * per

/-- The score of the most telling pattern of the context. -/
def patternScore (s : Snippet) : Option Pattern → Nat
  | some .serviceAccess => (if s.name = "service" then 50 else 0) + tagBonus s ["service"] 30
  | some .eventConnection =>
    (if s.name = "function" then 40 else 0) + tagBonus s ["function", "callback"] 30
  | some .variableDeclaration =>
    (if s.name = "local" then 35 else if s.name = "service" then 30
      else if s.name = "instance" then 25 else 0) + tagBonus s ["variable", "declaration"] 20
  | some .instanceCreation =>
    (if s.name = "instance" then 40 else 0) + tagBonus s ["instance", "creation"] 25
  | some .eventHandler => if s.name = "connect" ∨ s.name = "touched" then 40 else 0
  | some .numericLoop =>
    (if s.name = "for" ∨ s.name = "forpairs" ∨ s.name = "foripairs" then 35 else 0)
      + tagBonus s ["loop"] 25
  | some .emptyScript => 0
  | none => 0

/-- How well a snippet fits the context, from 0 to 50. A nearly empty script favours the module
skeleton, then services and functions, and nothing else. -/
def contextMatch (s : Snippet) (ctx : Context) : Nat :=
  if ctx.isEmpty then
    if s.name = "module" then 40 else if s.name = "service" ∨ s.name = "function" then 20 else 0
  else
    let score := patternScore s ctx.detect
      + (if ctx.lineStart && statementSnippets.contains s.name then 10 else 0)
      + (if ctx.inFunction then tagBonus s functionBodyTags 8 else 0)
      + (if ctx.inTable then tagBonus s ["table"] 10 else 0)
    min score maxContextScore

/-- The lowercase first letters of the words of `cs`, the character before being `prev`. A word
starts after white space or an underscore, or at an uppercase letter after a lowercase one. -/
def initialsFrom (prev : Option Char) : List Char → List Char
  | [] => []
  | c :: rest =>
    let separator := Text.isWhiteSpace c || c = '_'
    let starts := !separator && match prev with
      | none => true
      | some p => Text.isWhiteSpace p || p = '_' || (Text.isLowercase p && Text.isUppercase c)
    (if starts then Text.lowerChar c else []) ++ initialsFrom (some c) rest

/-- The lowercase first letters of the words of a name. -/
def initials (name : String) : String := String.ofList (initialsFrom none name.toList)

/-- How well a name matches the token being typed, from 0 to 10. -/
def prefixMatch (name token : String) : Nat :=
  if token.isEmpty then 5
  else
    let t := Text.lowercase token.toList
    let n := Text.lowercase name.toList
    if t.isPrefixOf n then 10
    else if Text.hasInfix t n then 5
    else if t.isPrefixOf (initialsFrom none name.toList) then 2
    else 0

/-- The usage score: three points per use, at most 50. -/
def usageScore (uses : Nat) : Nat := min (3 * uses) maxUsageScore

/-- The weighted total of a snippet's three scores. -/
def total (s : Snippet) (ctx : Context) (usage : Usage) : Float :=
  0.5 * Float.ofNat (contextMatch s ctx) + 0.3 * Float.ofNat (usageScore (usage.count s.name))
    + 0.2 * Float.ofNat (prefixMatch s.name ctx.currentToken)

/-- The snippets worth offering with their totals, best first, at most `limit` of them. -/
def rank (snippets : List Snippet) (ctx : Context) (usage : Usage) (limit : Nat) :
    List (Snippet × Float) :=
  let keepZero := ctx.currentToken.isEmpty
  let scored := (snippets.map fun s => (s, total s ctx usage)).filter fun p => keepZero || p.2 > 0
  (scored.mergeSort fun a b => b.2 ≤ a.2).take limit

end Ranking

end SnippetAssist
