import SnippetAssist.Text.WhiteSpace

/-!
# Snippets

A snippet is a named template with a description, a category and a list of tags. Every snippet
is checked when it is made, in this order: the name must not be blank, the name may hold only
ASCII letters, digits and underscores, the description must not be blank, and the template must
not be blank. The description is kept trimmed, the template as given, and the tags in their
first order with repeats removed.
-/

namespace SnippetAssist

/-- The group a snippet belongs to. Built-in snippets are essential, common or advanced; every
snippet a user adds is custom. -/
inductive Category where
  | essential
  | common
  | advanced
  | custom
deriving DecidableEq, Repr

namespace Category

/-- The lowercase name of a category. -/
def name : Category → String
  | .essential => "essential"
  | .common => "common"
  | .advanced => "advanced"
  | .custom => "custom"

/-- The category with the given lowercase name. -/
def ofName? : String → Option Category
  | "essential" => some .essential
  | "common" => some .common
  | "advanced" => some .advanced
  | "custom" => some .custom
  | _ => none

theorem ofName?_name (c : Category) : ofName? c.name = some c := by
  cases c <;> rfl

end Category

/-- A named code template. -/
structure Snippet where
  name : String
  description : String
  template : String
  category : Category
  tags : List String
deriving DecidableEq, Repr

/-- Why a snippet is refused, by the snippet checks or by a repository. -/
inductive ValidationError where
  | emptyName
  | emptyDescription (name : String)
  | emptyTemplate (name : String)
  | invalidName (name : String)
  | duplicate (name : String)
  | builtinImmutable (name : String)
  | notFound (name : String)
deriving DecidableEq, Repr

/-- The text of a validation error. -/
def ValidationError.message : ValidationError → String
  | .emptyName => "snippet name must not be empty"
  | .emptyDescription n => "snippet `" ++ n ++ "` needs a description"
  | .emptyTemplate n => "snippet `" ++ n ++ "` needs a template"
  | .invalidName n => "snippet name `" ++ n ++ "` may only contain letters, digits and underscores"
  | .duplicate n => "a snippet named `" ++ n ++ "` already exists"
  | .builtinImmutable n => "built-in snippet `" ++ n ++ "` cannot be removed"
  | .notFound n => "no custom snippet named `" ++ n ++ "`"

namespace Snippet

/-- A character allowed in a snippet name: an ASCII letter or digit, or an underscore. -/
def isNameChar (c : Char) : Bool := c.isAlphanum || c = '_'

/-- A text that holds white space only. -/
def isBlank (s : String) : Bool := Text.isBlank s.toList

/-- The snippet with these fields, or the first check it fails. -/
def create (name description template : String) (category : Category) (tags : List String) :
    Except ValidationError Snippet :=
  if isBlank name then .error .emptyName
  else if !name.toList.all isNameChar then .error (.invalidName name)
  else if isBlank description then .error (.emptyDescription name)
  else if isBlank template then .error (.emptyTemplate name)
  else .ok ⟨name, String.ofList (Text.trim description.toList), template, category, tags.eraseDups⟩

/-- A custom snippet, one the user added. -/
def isCustom (s : Snippet) : Bool := s.category == .custom

/-- The snippet carries the tag. -/
def hasTag (s : Snippet) (tag : String) : Bool := s.tags.contains tag

end Snippet

end SnippetAssist
