import SnippetAssist.Snippet.Library

/-!
# Snippet repositories

A repository holds snippets in a fixed order, at most one per name. Made from a list, it keeps
the first snippet of each name. Only custom snippets may be added, under a name not yet taken,
and they go to the end; only custom snippets may be removed, and the others keep their order.
-/

namespace SnippetAssist

/-- Snippets in their order, one per name. -/
structure Repository where
  snippets : List Snippet

namespace Repository

/-- The snippet with the given name. -/
def get? (r : Repository) (name : String) : Option Snippet :=
  r.snippets.find? (·.name == name)

/-- A snippet with the given name is present. -/
def contains (r : Repository) (name : String) : Bool :=
  r.snippets.any (·.name == name)

/-- The number of snippets. -/
def size (r : Repository) : Nat := r.snippets.length

/-- The custom snippets, in order. -/
def custom (r : Repository) : List Snippet := r.snippets.filter (·.isCustom)

/-- The names of all snippets, in order. -/
def names (r : Repository) : List String := r.snippets.map (·.name)

/-- The snippets of a list, keeping the first of each name, after those already in `acc`. -/
def firstOfEachName (acc : List Snippet) : List Snippet → List Snippet
  | [] => acc
  | s :: rest =>
    if acc.any (·.name == s.name) then firstOfEachName acc rest
    else firstOfEachName (acc ++ [s]) rest

/-- A repository of the snippets of a list, the first of each name kept. -/
def ofList (xs : List Snippet) : Repository := ⟨firstOfEachName [] xs⟩

/-- The repository of the built-in snippets. -/
def builtin : Repository := ofList builtinSnippets

/-- Adds a custom snippet at the end; a snippet of another category, or a taken name, is
refused. -/
def addCustom (r : Repository) (s : Snippet) : Except ValidationError Repository :=
  if !s.isCustom then .error (.builtinImmutable s.name)
  else if r.contains s.name then .error (.duplicate s.name)
  else .ok ⟨r.snippets ++ [s]⟩

/-- Removes the custom snippet with the given name and gives it back. -/
def removeCustom (r : Repository) (name : String) : Except ValidationError (Snippet × Repository) :=
  match r.get? name with
  | none => .error (.notFound name)
  | some s =>
    if !s.isCustom then .error (.builtinImmutable name)
    else .ok (s, ⟨r.snippets.filter (·.name != name)⟩)

/-- Adds each snippet of the list that `addCustom` accepts; gives the number accepted. -/
def extendCustom (r : Repository) : List Snippet → Nat × Repository
  | [] => (0, r)
  | s :: rest =>
    match r.addCustom s with
    | .ok r' => let (n, r'') := r'.extendCustom rest; (n + 1, r'')
    | .error _ => r.extendCustom rest

end Repository

end SnippetAssist
