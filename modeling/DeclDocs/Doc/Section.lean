/-!
The sections of a documentation comment that are read, with their names in the markup and the text
that stands for a section that is not there.
-/
namespace DeclDocs.Doc

inductive Section where
  | summary
  | returns
  deriving DecidableEq, Repr

namespace Section

def name : Section → String
  | .summary => "summary"
  | .returns => "returns"

def all : List Section := [.summary, .returns]

def ofName? (text : String) : Option Section := all.find? fun s => s.name == text

/-- The text recorded for a section that is not documented. -/
def placeholder : Section → String
  | .summary => " NO SUMMARY "
  | .returns => " NO RETURNS "

end Section

/-- A text is absent if there is none or if it is the placeholder of some section. -/
def isAbsent : Option String → Bool
  | none => true
  | some text => Section.all.any fun s => text == s.placeholder

end DeclDocs.Doc
