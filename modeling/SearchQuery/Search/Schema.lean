import SearchQuery.Bridge.Relational
import SearchQuery.Entries
import SearchQuery.Text.Identifier

/-!
# Search classes

A search class declares what can be searched for: its model, the model's bridge, its search
attributes and its callbacks. All search classes live in one registry, which starts with the one
class that every other class descends from.

## Shape of a class

What a class declares is kept in two places. The `Schema` is copied when a subclass is made, so
later declarations on either class do not show in the other one. The members, which tell how an
attribute stores its value and what it contributes, are looked up in the class first and then in
its ancestors, nearest first, so they are seen by every descendant that has none of that name
itself. A contribution shares its name space with the attributes: that of attribute `a` is the
member `find_options_for_a`.
-/

namespace SearchQuery

/-- What runs before a search composes its options: a text, which names a method or else is an
expression, with the code of the expression; code; or any other value, which cannot run. -/
inductive Callback where
  | expression (text : String) (code : Script)
  | code (code : Script)
  | value (v : Value)
  deriving Inhabited

/-- Code that calls nothing, as a callback. -/
def Callback.hook (h : Hook) : Callback :=
  .code (.ofHook h)

/-- What a search class declares. Names that are declared again are listed again; the last
default counts. -/
structure Schema where
  model : Option Model := none
  bridge : Option Bridge := none
  names : List String := []
  defaults : List (String × Value) := []
  callbacks : List Callback := []
  deriving Inhabited

namespace Schema

/-- Whether a search attribute is declared. -/
def declares (s : Schema) (name : String) : Bool :=
  s.defaults.any (·.1 == name)

/-- The search attributes in order of first declaration. -/
def uniqueNames (s : Schema) : List String :=
  s.names.eraseDups

/-- Declare a search attribute with its default. -/
def register (s : Schema) (name : String) (default : Value) : Schema :=
  { s with names := s.names ++ [name], defaults := putEntry s.defaults name default }

end Schema

/-- A member of a search class: an attribute with the conversion of what is stored in it, the
contribution of an attribute, or a method written for the class. -/
inductive Member where
  | attribute (conversion : Option Conversion)
  | contribution (name : String) (block : Hook)
  | method (hook : Hook)
  deriving Inhabited

/-- The text that stands for the search attribute of a name. -/
def Member.attributeLiteral (name : String) : String :=
  "<SearchAttribute " ++ name ++ ">"

/-- The name of the member that tells what an attribute contributes. -/
def contributionName (name : String) : String :=
  "find_options_for_" ++ name

/-- A search class: its name, its ancestors from the nearest to the first of all, its schema and
its own members. -/
structure SearchClass where
  name : String
  ancestors : List Nat := []
  schema : Schema := {}
  members : List (String × Member) := []
  deriving Inhabited

/-- All search classes. A class is known by its position. -/
structure Registry where
  classes : List SearchClass := [{ name := "Search" }]
  deriving Inhabited

/-- A class as its instances see it: its name and schema, and the member of every name. `depth` is how
often the composition of options can still be started by its own callbacks. -/
structure ClassView where
  name : String
  schema : Schema
  member? : String → Option Member
  depth : Nat := 225

namespace Registry

/-- The class that all others descend from. -/
def root : Nat := 0

/-- A class, or the first one if there is no such class. -/
def find (r : Registry) (id : Nat) : SearchClass :=
  (r.classes[id]?).getD { name := "Search" }

/-- The registry with a class changed. -/
def update (r : Registry) (id : Nat) (f : SearchClass → SearchClass) : Registry :=
  { r with classes := r.classes.modify id f }

/-- The member of a class or of its nearest ancestor that has one of that name. -/
def member? (r : Registry) (id : Nat) (name : String) : Option Member :=
  (id :: (r.find id).ancestors).findSome? fun i => (r.find i).members.lookup name

/-- A class as its instances see it on a machine. To start the composition anew takes four calls. -/
def view (r : Registry) (id : Nat) (m : Machine := {}) : ClassView where
  name := (r.find id).name
  schema := (r.find id).schema
  member? := r.member? id
  depth := m.frames / 4

end Registry

end SearchQuery
