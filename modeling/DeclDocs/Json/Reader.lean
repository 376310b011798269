import DeclDocs.Json.Token

/-!
JSON values from tokens. The reader keeps the arrays and objects that are still open on a stack and
takes one token at a time; it never looks back.
-/
namespace DeclDocs.Json

/-- An array or object that is still open: what it holds so far, newest first for arrays. -/
inductive Frame where
  | array (items : List Json)
  | object (fields : List (String × Json))
  | member (fields : List (String × Json)) (name : String)

/-- What the reader expects next, or the value it has just completed. -/
inductive Stage where
  | value
  | firstItem
  | firstName
  | name
  | colon
  | done (value : Json)

def read : Stage → List Frame → List Token → Option Json
  | .done v, [], [] => some v
  | _, _, [] => none
  | .value, frames, .scalar v :: rest => read (.done v) frames rest
  | .value, frames, .openBracket :: rest => read .firstItem (.array [] :: frames) rest
  | .value, frames, .openBrace :: rest => read .firstName (.object [] :: frames) rest
  | .firstItem, frames, .scalar v :: rest => read (.done v) frames rest
  | .firstItem, frames, .openBracket :: rest => read .firstItem (.array [] :: frames) rest
  | .firstItem, frames, .openBrace :: rest => read .firstName (.object [] :: frames) rest
  | .firstItem, .array _ :: frames, .closeBracket :: rest => read (.done (.arr [])) frames rest
  | .firstName, .object fields :: frames, .scalar (.str n) :: rest =>
      read .colon (.member fields n :: frames) rest
  | .firstName, .object _ :: frames, .closeBrace :: rest => read (.done (.obj [])) frames rest
  | .name, .object fields :: frames, .scalar (.str n) :: rest =>
      read .colon (.member fields n :: frames) rest
  | .colon, frames, .colon :: rest => read .value frames rest
  | .done v, .array items :: frames, .comma :: rest =>
      read .value (.array (v :: items) :: frames) rest
  | .done v, .array items :: frames, .closeBracket :: rest =>
      read (.done (.arr (v :: items).reverse)) frames rest
  | .done v, .member fields n :: frames, .comma :: rest =>
      read .name (.object (putField n v fields) :: frames) rest
  | .done v, .member fields n :: frames, .closeBrace :: rest =>
      read (.done (.obj (putField n v fields))) frames rest
  | _, _, _ :: _ => none

/-- The value a text denotes, if it is one JSON value and nothing else. -/
def parse? (text : List Char) : Option Json :=
  (tokens? text).bind (read .value [])

end DeclDocs.Json
