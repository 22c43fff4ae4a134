/-!
# Markup

What the commands show is text with style tags in brackets, such as `[info]…[/info]`. Text that
is not the program's own is escaped, so that no part of it is taken for a tag.

## Shape of a tag

A tag is an opening bracket, a lower-case letter or one of `#`, `/` and `@`, and then anything but
an opening bracket up to the first closing bracket. A backslash in front takes its meaning away,
and is itself doubled where it stands in front of a tag or ends the text.
-/

namespace SearchQuery.Markup

/-- Whether `c` may follow the bracket that opens a tag. -/
def startsTag (c : Char) : Bool :=
  c.isLower || c == '#' || c == '/' || c == '@'

/-- Whether what follows an opening bracket makes it a tag. -/
def isTag : List Char → Bool
  | [] => false
  | c :: cs => startsTag c && (cs.find? fun d => d == '[' || d == ']') == some ']'

/-- A run of backslashes. -/
def backslashes (n : Nat) : List Char :=
  List.replicate n '\\'

/-- Escape the tags of a text that follows `pending` backslashes. -/
def escapeTags (pending : Nat) : List Char → List Char
  | [] => backslashes pending
  | c :: cs =>
    if c == '\\' then escapeTags (pending + 1) cs
    else if c == '[' && isTag cs then backslashes (2 * pending + 1) ++ c :: escapeTags 0 cs
    else backslashes pending ++ c :: escapeTags 0 cs

/-- Double the backslash that ends a text, unless it follows another one. -/
def closeText (cs : List Char) : List Char :=
  match cs.reverse with
  | '\\' :: '\\' :: _ => cs
  | '\\' :: _ => cs ++ ['\\']
  | _ => cs

/-- A text as it is written inside markup. -/
def escape (s : String) : String :=
  String.ofList (closeText (escapeTags 0 s.toList))

/-- A markup text in a style. -/
def styled (style body : String) : String :=
  "[" ++ style ++ "]" ++ body ++ "[/" ++ style ++ "]"

/-- A text in a style. -/
def styledText (style s : String) : String :=
  styled style (escape s)

/-- The characters that markup shows, without its tags and escapes. The first `skip` characters
are not shown, and `pending` backslashes come before them. -/
def plainChars (skip pending : Nat) : List Char → List Char
  | [] => backslashes pending
  | c :: cs =>
    match skip with
    | skip + 1 => plainChars skip 0 cs
    | 0 =>
      if c == '\\' then plainChars 0 (pending + 1) cs
      else if c == '[' && isTag cs then
        -- Backslashes in front of a tag come in pairs; an odd one makes the tag plain text.
        if pending % 2 == 1 then backslashes (pending / 2) ++ c :: plainChars 0 0 cs
        else
          let tag := cs.takeWhile (· != ']')
          backslashes (pending / 2) ++ plainChars (tag.length + 1) 0 cs
      else backslashes pending ++ c :: plainChars 0 0 cs

/-- Markup without its tags and escapes. -/
def plain (markup : String) : String :=
  String.ofList (plainChars 0 0 markup.toList)

end SearchQuery.Markup
