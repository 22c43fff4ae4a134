import SearchQuery.Failure

/-!
# Builders of search attributes

A search attribute is declared by a builder: its name, its options and, optionally, a block that
tells what the attribute contributes to a search.

## Shape of code

A block, like every other piece of code that a search runs, acts on the search through a few
operations only: it reads, writes and ignores attributes, one or all of them, notes lines, and asks
for the label of a NaN that it makes.
`Hook` is the tree of these operations. Each node holds what the code does next, for every answer
it may get, so a hook always ends, and what it does depends on nothing but the search.

Code that runs before a search composes its options may do more: it may also call what the search has
under a name, and look for an attribute that may be missing. `Script` is the tree of such code.
-/

namespace SearchQuery

/-- Code that runs on behalf of a search. -/
inductive Hook where
  | done (result : Value)
  | fail (cause : Failure)
  | read (name : String) (next : Value → Hook)
  | write (name : String) (value : Value) (next : Hook)
  | ignore (name : String) (next : Hook)
  | note (line : String) (next : Hook)
  | ignoreAll (next : Hook)
  | label (next : Nat → Hook)
  deriving Inhabited

/-- Code that may also call the operations and methods of a search by their names, and look for an
attribute that may be missing. -/
inductive Script where
  | done (result : Value)
  | hook (code : Hook) (next : Value → Script)
  | look (name : String) (next : Option Value → Script)
  | call (method : String) (arguments : List Value) (next : Value → Script)
  deriving Inhabited

/-- The script of a hook. -/
def Script.ofHook (h : Hook) : Script :=
  .hook h .done

/-- A conversion that an attribute applies to what is stored in it. -/
abbrev Conversion := Value → Except Failure Value

/-- The setting of an option: a value or a conversion. -/
inductive Setting where
  | value (v : Value)
  | conversion (f : Conversion)
  deriving Inhabited

namespace Setting

/-- Whether a setting counts as given and true. -/
def truthy : Setting → Bool
  | value v => v.truthy
  | conversion _ => true

/-- A setting as a conversion: `null` is none, and no other value can be applied. -/
def toConversion? : Setting → Option Conversion
  | value .null => none
  | value _ => some fun _ => .error .wrongType
  | conversion f => some f

/-- A setting as a value. A conversion is shown as none. -/
def toValue : Setting → Value
  | value v => v
  | conversion _ => .null

end Setting

/-- The options of a declaration, in order. -/
abbrev Options := List (String × Setting)

namespace Options

/-- The setting of an option. -/
def get? (o : Options) (name : String) : Option Setting :=
  o.lookup name

/-- The options without one of them. -/
def erase (o : Options) (name : String) : Options :=
  o.filter (·.1 != name)

/-- The options with one of them set; a new one comes last. -/
def set (o : Options) (name : String) (s : Setting) : Options :=
  if o.any (·.1 == name) then o.map fun p => if p.1 == name then (p.1, s) else p
  else o ++ [(name, s)]

/-- Whether one of the options has a name that is taken. -/
def uses (o : Options) (taken : List String) : Bool :=
  o.any fun p => taken.contains p.1

/-- The names of the options that are not among those allowed. -/
def unknown (o : Options) (allowed : List String) : List String :=
  (o.map (·.1)).filter (!allowed.contains ·)

end Options

/-- The declaration of a search attribute. -/
structure Builder where
  name : String
  options : Options := []
  block : Option Hook := none
  deriving Inhabited

/-- A builder without a block, with all its parts shown. -/
def Builder.literal (b : Builder) : Except Failure String :=
  let options := Value.dict (b.options.map fun p => (.text p.1, p.2.toValue))
  if options.isTooLong then .error .badValue
  else
    .ok ("SearchAttributeBuilder(" ++ Text.quoted b.name ++ ", " ++ options.literal ++
      ", block=None)")

end SearchQuery
