import DeclDocs.Text.Word

/-!
Element tags in running text. A tag starts with `<`, an optional slash and a letter or underscore,
and runs to the next `>`; if another `<` or the end of the text comes first, the `<` is prose. The
scan goes from left to right and goes on behind each tag it finds.
-/
namespace DeclDocs.Doc

open Text

/-- A tag in a text: its name and the positions of its first character and behind its last. -/
structure Tag where
  name : List Char
  closing : Bool
  selfClosing : Bool
  start : Nat
  stop : Nat
  deriving DecidableEq, Repr

def isNameStart (c : Char) : Bool := isAsciiLetter c || c == '_'

def isNameChar (c : Char) : Bool := isWord c || c == ':' || c == '.' || c == '-'

def isAngle (c : Char) : Bool := c == '<' || c == '>'

/-- The tag whose body, the text behind `<` and the optional slash, is given. -/
def tagOfBody? (start : Nat) (closing : Bool) (body : List Char) : Option Tag :=
  match body with
  | [] => none
  | c :: _ =>
      if isNameStart c then
        let inner := body.takeWhile fun c => !isAngle c
        match body.dropWhile fun c => !isAngle c with
        | '>' :: _ =>
            some {
              name := body.takeWhile isNameChar
              closing
              selfClosing := inner.getLast? == some '/'
              start
              stop := start + (if closing then 2 else 1) + inner.length + 1 }
        | _ => none
      else none

/-- The tag that starts at the head of a text, the head being at position `start`. -/
def tagAt? (start : Nat) : List Char → Option Tag
  | '<' :: '/' :: body => tagOfBody? start true body
  | '<' :: body => tagOfBody? start false body
  | _ => none

/-- Scan a text whose head is at `position`, passing over the first `skip` characters. -/
def scanTags (position skip : Nat) : List Char → List Tag
  | [] => []
  | c :: rest =>
      match skip with
      | skip + 1 => scanTags (position + 1) skip rest
      | 0 =>
          match tagAt? position (c :: rest) with
          | some tag => tag :: scanTags (position + 1) (tag.stop - tag.start - 1) rest
          | none => scanTags (position + 1) 0 rest

/-- The tags of a text from left to right. -/
def tags (text : List Char) : List Tag := scanTags 0 0 text

end DeclDocs.Doc
