import DeclDocs.Doc.Block
import Mathlib.Data.List.Basic

/-!
How comments are grouped into blocks. The blocks, one behind the other, hold the trimmed lines of the
documentation comments in their order, and no block is empty. Two lines that follow each other are in
one block exactly if their comments follow each other in the input and no row is left free between
them. Each of these facts is carried through the grouping together with the block that is still open.
-/
namespace DeclDocs.Doc

open Text

section Places

variable {α : Type}

/-- The places `k` and `k + 1` of the concatenation lie in one block. -/
def InOneBlock (found : List (List α)) (k : Nat) : Prop :=
  ∃ front block back, found = front ++ block :: back ∧ front.flatten.length ≤ k ∧
    k + 1 < front.flatten.length + block.length

theorem not_inOneBlock_nil (k : Nat) : ¬ InOneBlock ([] : List (List α)) k := by
  rintro ⟨front, block, back, hfound, -⟩
  simp at hfound

theorem inOneBlock_cons {block : List α} {found : List (List α)} {k : Nat} :
    InOneBlock (block :: found) k ↔
      k + 1 < block.length ∨ (block.length ≤ k ∧ InOneBlock found (k - block.length)) := by
  constructor
  · rintro ⟨front, inner, back, hfound, hstart, hstop⟩
    cases front with
    | nil =>
      obtain ⟨rfl, -⟩ := List.cons.inj hfound
      exact Or.inl (by simpa using hstop)
    | cons first front =>
      obtain ⟨rfl, hrest⟩ := List.cons.inj hfound
      rw [List.flatten_cons, List.length_append] at hstart hstop
      exact Or.inr ⟨by omega, front, inner, back, hrest, by omega, by omega⟩
  · rintro (hinside | ⟨hbehind, front, inner, back, rfl, hstart, hstop⟩)
    · exact ⟨[], block, found, rfl, Nat.zero_le k, by simpa using hinside⟩
    · refine ⟨block :: front, inner, back, rfl, ?_, ?_⟩
      · rw [List.flatten_cons, List.length_append]
        omega
      · rw [List.flatten_cons, List.length_append]
        omega

/-- Closing a block puts its lines before those of the blocks that follow. -/
theorem inOneBlock_closeBlock {lines : List (List Char)} {found : List (List (List Char))}
    {k : Nat} : InOneBlock (closeBlock lines ++ found) k ↔
      k + 1 < lines.length ∨ (lines.length ≤ k ∧ InOneBlock found (k - lines.length)) := by
  cases lines with
  | nil => simp [closeBlock]
  | cons line lines =>
    have hclose : closeBlock (line :: lines) = [(line :: lines).reverse] := rfl
    rw [hclose, List.singleton_append, inOneBlock_cons, List.length_reverse]

end Places

variable {marker : Marker}

def GoesOn (marker : Marker) (row : Nat) (comments : List Comment) : Prop :=
  ∃ c rest, comments = c :: rest ∧ isDocComment marker c.text = true ∧ c.firstRow ≤ row + 1

/-- The documentation comments numbered `k` and `k + 1` follow each other in the list, and the second
starts at most one row behind the end of the first. -/
def Adjoin (marker : Marker) (comments : List Comment) (k : Nat) : Prop :=
  ∃ left first second right, comments = left ++ first :: second :: right ∧
    left.countP (fun c => isDocComment marker c.text) = k ∧
    isDocComment marker first.text = true ∧ isDocComment marker second.text = true ∧
    second.firstRow ≤ first.lastRow + 1

section Adjoining

variable {c : Comment} {rest : List Comment} {k : Nat}

theorem not_adjoin_nil : ¬ Adjoin marker [] k := by
  rintro ⟨left, first, second, right, hcomments, -⟩
  simp at hcomments

theorem adjoin_cons_ordinary (h : isDocComment marker c.text = false) :
    Adjoin marker (c :: rest) k ↔ Adjoin marker rest k := by
  constructor
  · rintro ⟨left, first, second, right, hcomments, hcount, hfirst, hlater⟩
    cases left with
    | nil =>
      obtain ⟨rfl, -⟩ := List.cons.inj hcomments
      simp [h] at hfirst
    | cons d left =>
      obtain ⟨rfl, hrest⟩ := List.cons.inj hcomments
      exact ⟨left, first, second, right, hrest, by simpa [h] using hcount, hfirst, hlater⟩
  · rintro ⟨left, first, second, right, rfl, hcount, hdocs⟩
    exact ⟨c :: left, first, second, right, rfl, by simpa [h] using hcount, hdocs⟩

theorem adjoin_cons_doc (h : isDocComment marker c.text = true) :
    Adjoin marker (c :: rest) k ↔
      (k = 0 ∧ GoesOn marker c.lastRow rest) ∨ (0 < k ∧ Adjoin marker rest (k - 1)) := by
  have hnumber : ∀ left : List Comment,
      (c :: left).countP (fun c => isDocComment marker c.text) =
        left.countP (fun c => isDocComment marker c.text) + 1 := by
    intro left
    simp [h]
  constructor
  · rintro ⟨left, first, second, right, hcomments, hcount, hfirst, hsecond, hrow⟩
    cases left with
    | nil =>
      obtain ⟨rfl, hrest⟩ := List.cons.inj hcomments
      exact Or.inl ⟨hcount.symm, second, right, hrest, hsecond, hrow⟩
    | cons d left =>
      obtain ⟨rfl, hrest⟩ := List.cons.inj hcomments
      rw [hnumber] at hcount
      exact Or.inr ⟨by omega, left, first, second, right, hrest, by omega, hfirst, hsecond, hrow⟩
  · rintro (⟨rfl, second, right, rfl, hsecond, hrow⟩ |
      ⟨hpos, left, first, second, right, rfl, hcount, hdocs⟩)
    · exact ⟨[], c, second, right, rfl, rfl, h, hsecond, hrow⟩
    · refine ⟨c :: left, first, second, right, rfl, ?_, hdocs⟩
      rw [hnumber]
      omega

end Adjoining

section Grouping

/-- What one comment does to the open block: an ordinary comment closes it, and a documentation comment
closes it and starts another one, or goes on with it. -/
theorem groupFrom_step (marker : Marker) (lines : List (List Char)) (row : Nat) (c : Comment)
    (rest : List Comment) :
    (isDocComment marker c.text = false ∧
      groupFrom marker lines row (c :: rest) = closeBlock lines ++ groupFrom marker [] 0 rest) ∨
    (isDocComment marker c.text = true ∧ lines ≠ [] ∧ row + 1 < c.firstRow ∧
      groupFrom marker lines row (c :: rest) =
        closeBlock lines ++ groupFrom marker [trim c.text] c.lastRow rest) ∨
    (isDocComment marker c.text = true ∧ (lines = [] ∨ c.firstRow ≤ row + 1) ∧
      groupFrom marker lines row (c :: rest) =
        groupFrom marker (trim c.text :: lines) c.lastRow rest) := by
  rw [groupFrom]
  cases hdoc : isDocComment marker c.text with
  | false => exact Or.inl ⟨rfl, rfl⟩
  | true =>
    by_cases hgap : lines ≠ [] ∧ row + 1 < c.firstRow
    · exact Or.inr (Or.inl ⟨rfl, hgap.1, hgap.2, by simp [hgap]⟩)
    · refine Or.inr (Or.inr ⟨rfl, ?_, ?_⟩)
      · by_cases hlines : lines = []
        · exact Or.inl hlines
        · exact Or.inr (Nat.le_of_not_lt fun hlt => hgap ⟨hlines, hlt⟩)
      · simp only [Bool.not_true, Bool.false_eq_true, if_false]
        rw [if_neg (by simpa using hgap)]

theorem flatten_closeBlock (lines : List (List Char)) :
    (closeBlock lines).flatten = lines.reverse := by
  cases lines with
  | nil => rfl
  | cons line lines => simp [closeBlock]

theorem nil_not_mem_closeBlock (lines : List (List Char)) : [] ∉ closeBlock lines := by
  cases lines with
  | nil => simp [closeBlock]
  | cons line lines => simp [closeBlock]

/-- No line is lost or moved: the lines of the open block come first. -/
theorem flatten_groupFrom (marker : Marker) (lines : List (List Char)) (row : Nat)
    (comments : List Comment) :
    (groupFrom marker lines row comments).flatten =
      lines.reverse ++ (comments.filter fun c => isDocComment marker c.text).map
        fun c => trim c.text := by
  induction comments generalizing lines row with
  | nil => simp [groupFrom, flatten_closeBlock]
  | cons c rest ih =>
    rcases groupFrom_step marker lines row c rest with
      ⟨hdoc, heq⟩ | ⟨hdoc, -, -, heq⟩ | ⟨hdoc, -, heq⟩
    · simp [heq, ih, flatten_closeBlock, hdoc]
    · simp [heq, ih, flatten_closeBlock, hdoc]
    · simp [heq, ih, hdoc]

theorem nil_not_mem_groupFrom (marker : Marker) (lines : List (List Char)) (row : Nat)
    (comments : List Comment) : [] ∉ groupFrom marker lines row comments := by
  induction comments generalizing lines row with
  | nil => exact nil_not_mem_closeBlock lines
  | cons c rest ih =>
    rcases groupFrom_step marker lines row c rest with ⟨-, heq⟩ | ⟨-, -, -, heq⟩ | ⟨-, -, heq⟩
    · rw [heq, List.mem_append, not_or]
      exact ⟨nil_not_mem_closeBlock lines, ih [] 0⟩
    · rw [heq, List.mem_append, not_or]
      exact ⟨nil_not_mem_closeBlock lines, ih _ _⟩
    · rw [heq]
      exact ih _ _

/-- Two lines that follow each other are in one block if both are in the open block, if the second is
the first to go on with it, or if the comments of both adjoin each other. -/
theorem inOneBlock_groupFrom (lines : List (List Char)) (row : Nat) (comments : List Comment)
    (k : Nat) : InOneBlock (groupFrom marker lines row comments) k ↔
      k + 1 < lines.length ∨ (k + 1 = lines.length ∧ GoesOn marker row comments) ∨
        (lines.length ≤ k ∧ Adjoin marker comments (k - lines.length)) := by
  induction comments generalizing lines row k with
  | nil =>
    have hclose : groupFrom marker lines row [] = closeBlock lines ++ [] :=
      (List.append_nil _).symm
    rw [hclose, inOneBlock_closeBlock]
    simp [not_inOneBlock_nil, not_adjoin_nil, GoesOn]
  | cons c rest ih =>
    have hgoes : GoesOn marker row (c :: rest) ↔
        isDocComment marker c.text = true ∧ c.firstRow ≤ row + 1 := by
      simp [GoesOn]
    rcases groupFrom_step marker lines row c rest with
      ⟨hdoc, heq⟩ | ⟨hdoc, hlines, hgap, heq⟩ | ⟨hdoc, hjoin, heq⟩
    · rw [heq, inOneBlock_closeBlock, ih, hgoes, adjoin_cons_ordinary hdoc]
      simp [hdoc]
    · have hfar : ¬ c.firstRow ≤ row + 1 := by omega
      rw [heq, inOneBlock_closeBlock, ih, hgoes, adjoin_cons_doc hdoc]
      simp only [hfar, and_false, false_or, List.length_singleton]
      grind
    · -- If the last line of the open block is at `k`, there is one, and the comment goes on with it.
      have hnear : k + 1 = lines.length → c.firstRow ≤ row + 1 := by
        intro hlast
        refine hjoin.resolve_left ?_
        rintro rfl
        simp at hlast
      have hplace : k - lines.length - 1 = k - (lines.length + 1) := Nat.sub_sub _ _ _
      rw [heq, ih, hgoes, adjoin_cons_doc hdoc, List.length_cons, hplace]
      simp only [hdoc, true_and]
      grind

end Grouping

/-- Grouping comments neither loses nor repeats nor moves a line of documentation, leaves no block
empty, and keeps two lines together exactly if their comments adjoin each other. -/
theorem blocks_keep_lines (marker : Marker) (comments : List Comment) :
    (blocks marker comments).flatten =
      (comments.filter fun c => isDocComment marker c.text).map (fun c => trim c.text) ∧
    [] ∉ blocks marker comments ∧
    ∀ k, InOneBlock (blocks marker comments) k ↔ Adjoin marker comments k := by
  refine ⟨?_, nil_not_mem_groupFrom marker [] 0 comments, fun k => ?_⟩
  · rw [blocks, flatten_groupFrom, List.reverse_nil, List.nil_append]
  · rw [blocks, inOneBlock_groupFrom]
    simp

end DeclDocs.Doc
