/-!
Cutting a text at a separator, and taking a given start off it. A text has one part more than it
has separators, so there is always at least one part.
-/
namespace DeclDocs.Text

/-- The parts between the separators; a text without one is its own single part. -/
def splitOn {α : Type} [DecidableEq α] (sep : α) : List α → List (List α)
  | [] => [[]]
  | c :: rest =>
      if c = sep then [] :: splitOn sep rest
      else
        match splitOn sep rest with
        | [] => [[c]]
        | part :: parts => (c :: part) :: parts

theorem splitOn_ne_nil {α : Type} [DecidableEq α] (sep : α) (text : List α) :
    splitOn sep text ≠ [] := by
  cases text with
  | nil => simp [splitOn]
  | cons c rest =>
      unfold splitOn
      split
      · simp
      · split <;> simp

/-- What follows a given start, if the text has that start. -/
def dropStart? {α : Type} [DecidableEq α] : List α → List α → Option (List α)
  | [], text => some text
  | _ :: _, [] => none
  | s :: start, c :: rest => if s = c then dropStart? start rest else none

end DeclDocs.Text
