import SearchQuery.Query.Exclusion
import SearchQuery.Query.Token
import SearchQuery.Value.Fragments

/-!
# Text criteria

A text criterion is what a search string asks for: keywords that must appear, keywords that must
not, keywords of which one is enough, and pairs of a key and a value.

## Shape of the classification

Keywords are sorted one by one (`State.add`). A keyword that ends in a colon opens a pair, and
the next keyword is its value, whatever it looks like. Otherwise a minus makes a keyword
negative, a plus makes it mandatory, and all others are optional. Excluded keywords are left out;
values of pairs are not filtered. When nothing at all is left, the whole search string is the one
optional keyword, so that a search for noise does not match everything.
-/

namespace SearchQuery

/-- Keywords sorted by kind. Pairs are grouped by key, keys in order of first use. -/
structure Keywords where
  mandatory : List String := []
  negative : List String := []
  optional : List String := []
  pairs : List (String × List String) := []
  deriving DecidableEq, Inhabited

namespace Keywords

/-- Whether there is no keyword of any kind. -/
def isEmpty (k : Keywords) : Bool :=
  k.mandatory.isEmpty && k.negative.isEmpty && k.optional.isEmpty && k.pairs.isEmpty

/-- Add the value of a pair behind the values its key has. -/
def addPair (pairs : List (String × List String)) (key value : String) :
    List (String × List String) :=
  if pairs.any (·.1 == key) then
    pairs.map fun p => if p.1 == key then (p.1, p.2 ++ [value]) else p
  else pairs ++ [(key, [value])]

end Keywords

/-- How search strings are read: what is noise, and whether colons make pairs. -/
structure QueryOptions where
  exclusions : List Pattern := []
  pairing : Bool := true
  deriving Inhabited

/-- Keywords sorted so far, and the key of a pair whose value is still to come. -/
structure Sorting where
  key : Option String := none
  keywords : Keywords := {}
  deriving DecidableEq, Inhabited

namespace Sorting

/-- Sort one more keyword. -/
def add (o : QueryOptions) (s : Sorting) (token : String) : Sorting :=
  let k := s.keywords
  let kept (word : String) (words : List String) : List String :=
    if Query.isExcluded o.exclusions word then words else words ++ [word]
  match s.key with
  | some key => ⟨none, { k with pairs := Keywords.addPair k.pairs key token }⟩
  | none =>
    match token.toList with
    | '-' :: cs => ⟨none, { k with negative := kept (String.ofList cs) k.negative }⟩
    | '+' :: cs => ⟨none, { k with mandatory := kept (String.ofList cs) k.mandatory }⟩
    | cs =>
      if o.pairing && cs.getLast? == some ':' then ⟨some (String.ofList cs.dropLast), k⟩
      else ⟨none, { k with optional := kept token k.optional }⟩

end Sorting

/-- A search string and what it asks for. -/
structure Criterion where
  query : String
  keywords : Keywords
  deriving DecidableEq, Inhabited

namespace Criterion

/-- The keywords of a search string, before the fallback. -/
def sort (o : QueryOptions) (query : String) : Keywords :=
  let text := Text.collapseChars query.toList
  ((Query.tokenChars text).foldl (fun (s : Sorting) t => s.add o (String.ofList t)) {}).keywords

/-- Read a search string. -/
def read (o : QueryOptions) (query : String) : Criterion :=
  if Text.isBlank query then ⟨query, {}⟩
  else
    let k := sort o query
    ⟨query, if k.isEmpty then { optional := [query] } else k⟩

/-- The keywords that may or must appear. -/
def positive (c : Criterion) : List String :=
  c.keywords.mandatory ++ c.keywords.optional

/-! ## The condition -/

/-- The pattern of texts that contain a keyword. -/
def containing (keyword : String) : String :=
  "%" ++ keyword ++ "%"

/-- A keyword appears in a field. -/
def appears (keyword field : String) : Fragment Value :=
  { sql := field ++ " LIKE ?", params := [.text (containing keyword)] }

/-- A keyword appears in a field that is not null. -/
def appearsForSure (keyword field : String) : Fragment Value :=
  { sql := field ++ " IS NOT NULL AND " ++ field ++ " LIKE ?"
    params := [.text (containing keyword)] }

/-- One of the fields satisfies a test. -/
def anyField (fields : List String) (test : String → Fragment Value) : Fragment Value :=
  fields.foldl (fun f field => f.or (test field)) .empty

/-- All words hold. -/
def allOf (words : List String) (test : String → Fragment Value) : Fragment Value :=
  words.foldl (fun f word => f.and (test word)) .empty

/-- One of the words holds. -/
def oneOf (words : List String) (test : String → Fragment Value) : Fragment Value :=
  words.foldl (fun f word => f.or (test word)) .empty

/-- Every mandatory keyword appears in some field. -/
def mandatoryPart (c : Criterion) (fields : List String) : Fragment Value :=
  allOf c.keywords.mandatory fun word => anyField fields (appears word)

/-- Every negative keyword appears in some field. -/
def negativePart (c : Criterion) (fields : List String) : Fragment Value :=
  allOf c.keywords.negative fun word => anyField fields (appearsForSure word)

/-- Some optional keyword appears in some field. -/
def optionalPart (c : Criterion) (fields : List String) : Fragment Value :=
  oneOf c.keywords.optional fun word => anyField fields (appears word)

/-- The condition that the fields of a row meet the criterion: every mandatory keyword appears in
some field, not all negative keywords appear, and some optional keyword appears. Pairs are left
to the caller. -/
def condition (c : Criterion) (fields : List String) : Fragment Value :=
  ((c.mandatoryPart fields).and (c.negativePart fields).negate).and (c.optionalPart fields)

/-! ## The text -/

/-- A keyword, in double quotes if it holds a space. -/
def quotedKeyword (keyword : String) : String :=
  if keyword.toList.contains ' ' then "\"" ++ keyword ++ "\"" else keyword

/-- The criterion written as a search string. -/
def text (c : Criterion) : String :=
  let k := c.keywords
  " ".intercalate (k.mandatory.map ("+" ++ quotedKeyword ·) ++
    k.negative.map ("-" ++ quotedKeyword ·) ++ k.optional.map quotedKeyword ++
    k.pairs.flatMap fun p => p.2.map fun value => p.1 ++ ":" ++ quotedKeyword value)

/-- The criterion with its name. -/
def literal (c : Criterion) : String :=
  "TextCriterion(" ++ Text.quoted c.text ++ ")"

end Criterion

end SearchQuery
