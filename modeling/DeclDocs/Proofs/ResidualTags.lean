import DeclDocs.Doc.Search
import DeclDocs.Proofs.TagRemoval

/-!
The tags of a section that are left in its cleaned text. Cleaning takes tags off line by line and in
one pass, and it knows fewer spellings of a tag than the scan that found the section. So a tag of the
section can be left over in three ways: it has a spelling that only the scan knows, it was put
together when a tag inside it was taken off, or it was put together when two lines were joined. There
is no fourth way, and each of the three occurs.
-/
namespace DeclDocs.Doc

open Text

/-- The whole text is one start or end tag of that name to the scan. -/
def IsScannedTag (name text : List Char) : Prop :=
  ∃ tag, tagAt? 0 text = some tag ∧ tag.stop = text.length ∧ tag.name = name ∧
    tag.selfClosing = false

def IsRemovedTag (name text : List Char) : Prop := sectionTagLength? name text = some text.length

instance (name text : List Char) : Decidable (IsRemovedTag name text) :=
  inferInstanceAs (Decidable (_ = _))

def IsSectionTag (name text : List Char) : Prop := IsScannedTag name text ∨ IsRemovedTag name text

def HoldsSectionTag (name text : List Char) : Prop :=
  ∃ tag, tag <:+: text ∧ IsSectionTag name tag

/-- A tag in a spelling that only the scan knows: the name ends at a character that is not blank, or
something other than blanks follows it in an end tag. -/
def IsMissedTag (name text : List Char) : Prop :=
  ∃ closing c more, text = written closing (name ++ c :: more) ∧ isNameChar c = false ∧
    (∀ d ∈ c :: more, isAngle d = false) ∧ (c :: more).getLast? ≠ some '/' ∧
    if closing then ∃ d ∈ c :: more, isBlank d = false else isBlank c = false

theorem isRemovedTag_iff {name text : List Char} (hname : IsName name) :
    IsRemovedTag name text ↔ IsRemovable name text := by
  constructor
  · intro h
    obtain ⟨tag, rest, htag, rfl, hlength⟩ := (sectionTagLength?_eq_some_iff hname).mp h
    have hrest : rest = [] := by
      rw [List.length_append] at hlength
      exact List.eq_nil_of_length_eq_zero (by omega)
    rwa [hrest, List.append_nil]
  · intro h
    have hlength := sectionTagLength?_removable hname h []
    rwa [List.append_nil] at hlength

theorem IsScannedTag.exists_written {name text : List Char} (h : IsScannedTag name text) :
    ∃ closing inner, IsInside inner ∧ text = written closing inner ∧
      inner.takeWhile isNameChar = name ∧ inner.getLast? ≠ some '/' := by
  obtain ⟨tag, htag, hstop, hname, hself⟩ := h
  obtain ⟨closing, inner, rest, hinside, rfl, rfl⟩ := exists_of_tagAt? htag
  have hrest : rest = [] := by
    simp only [tagOf, List.length_append] at hstop
    exact List.eq_nil_of_length_eq_zero (by omega)
  exact ⟨closing, inner, hinside, by rw [hrest, List.append_nil], hname, beq_eq_false_iff_ne.mp hself⟩

theorem isScannedTag_written {name inner : List Char} (closing : Bool) (hinside : IsInside inner)
    (hname : inner.takeWhile isNameChar = name) (hself : inner.getLast? ≠ some '/') :
    IsScannedTag name (written closing inner) := by
  have htag := tagAt?_written hinside 0 closing []
  rw [List.append_nil] at htag
  exact ⟨_, htag, Nat.zero_add _, hname, beq_eq_false_iff_ne.mpr hself⟩

theorem IsMissedTag.isScannedTag {name text : List Char} (hname : IsName name)
    (h : IsMissedTag name text) : IsScannedTag name text := by
  obtain ⟨closing, c, more, rfl, hc, hplain, hself, -⟩ := h
  apply isScannedTag_written closing
  · obtain ⟨d, rest, rfl, hd⟩ := hname.start
    refine ⟨⟨d, rest ++ c :: more, rfl, hd⟩, ?_⟩
    intro e he
    rcases List.mem_append.mp he with hin | hin
    · exact hname.isInside.plain e hin
    · exact hplain e hin
  · rw [List.takeWhile_append_of_pos hname.chars, List.takeWhile_cons_of_neg (by simp [hc]),
      List.append_nil]
  · simpa [List.getLast?_append] using hself

/-- The scan and the cleaning of a line disagree on these tags only. -/
theorem isMissedTag_of_scanned {name text : List Char} (h : IsScannedTag name text)
    (hnot : ¬ IsRemovable name text) : IsMissedTag name text := by
  obtain ⟨closing, inner, hinside, rfl, htake, hself⟩ := h.exists_written
  have hinner : inner = name ++ inner.dropWhile isNameChar := by
    rw [← htake, List.takeWhile_append_dropWhile]
  cases hrest : inner.dropWhile isNameChar with
  | nil =>
    rw [hrest, List.append_nil] at hinner
    rw [hinner] at hnot
    exact absurd (isRemovable_written closing name) hnot
  | cons c more =>
    rw [hrest] at hinner
    have hc : isNameChar c = false := by
      have hne : inner.dropWhile isNameChar ≠ [] := by simp [hrest]
      simpa [hrest] using List.head_dropWhile_not isNameChar hne
    have hplain : ∀ d ∈ c :: more, isAngle d = false := by
      intro d hd
      exact hinside.plain d (by rw [hinner]; exact List.mem_append_right name hd)
    have hnotTail : ¬ IsTail closing (c :: more ++ ['>']) := by
      intro htail
      exact hnot ⟨closing, _, htail, by rw [hinner]; simp [written]⟩
    refine ⟨closing, c, more, by rw [hinner], hc, hplain, ?_, ?_⟩
    · simpa [hinner, List.getLast?_append] using hself
    · cases closing with
      | true =>
        by_cases hink : ∃ d ∈ c :: more, isBlank d = false
        · exact hink
        · refine absurd ⟨c :: more, ?_, rfl⟩ hnotTail
          intro d hd
          rw [← Bool.not_eq_false]
          intro hblank
          exact hink ⟨d, hd, hblank⟩
      | false =>
        cases hblank : isBlank c with
        | false => rfl
        | true =>
          have hfree : '>' ∉ more := by
            intro hmem
            exact absurd (hplain '>' (List.mem_cons_of_mem c hmem)) (by decide)
          exact absurd (Or.inr ⟨c, more, hblank, hfree, rfl⟩) hnotTail

section Cleaned

def inkLines (text : List Char) : List (List Char) :=
  (splitOn '\n' text).filter fun line => !(trim line).isEmpty

def bare (marker line : List Char) : List Char := stripMarker marker (trim line)

def keptLines (wanted : Section) (marker text : List Char) : List (List Char) :=
  ((inkLines text).map (cleanLine wanted marker)).filter fun line => !line.isEmpty

theorem clean_eq_intercalate (wanted : Section) (marker text : List Char) :
    clean wanted marker text = [' '].intercalate (keptLines wanted marker text) := rfl

theorem mem_keptLines {wanted : Section} {marker text line : List Char} :
    line ∈ keptLines wanted marker text ↔
      (∃ l ∈ inkLines text, cleanLine wanted marker l = line) ∧ line ≠ [] := by
  simp [keptLines]

variable {wanted : Section} {tag : List Char}

/-- A tag of the section starts with `<`, so it does not start in a separator, and it has no blank at
its ends. -/
theorem IsSectionTag.shape (h : IsSectionTag wanted.name.toList tag) :
    ∃ rest, tag = '<' :: rest ∧ StartsInk tag ∧ EndsInk tag := by
  rcases h with hscanned | hremoved
  · obtain ⟨closing, inner, -, rfl, -⟩ := hscanned.exists_written
    exact ⟨_, rfl, written_startsInk closing inner, written_endsInk closing inner⟩
  · obtain ⟨closing, tail, htail, rfl⟩ := (isRemovedTag_iff (isName_section wanted)).mp hremoved
    refine ⟨_, rfl, ⟨'<', _, rfl, by decide⟩, ?_⟩
    exact htail.endsInk.append ('<' :: (slash closing ++ wanted.name.toList))

/-- In a joined text a tag of the section lies in one part or spans several. -/
theorem IsSectionTag.infix_intercalate_iff (h : IsSectionTag wanted.name.toList tag)
    {sep : List Char} (hsep : '<' ∉ sep) (parts : List (List Char)) :
    tag <:+: sep.intercalate parts ↔ (∃ part ∈ parts, tag <:+: part) ∨ Spans sep parts tag := by
  obtain ⟨rest, rfl, -⟩ := h.shape
  exact Text.infix_intercalate_iff hsep

theorem IsSectionTag.infix_cleanLine_iff (h : IsSectionTag wanted.name.toList tag)
    (marker line : List Char) :
    tag <:+: cleanLine wanted marker line ↔
      (∃ piece ∈ pieces wanted.name.toList 0 (bare marker line), tag <:+: piece) ∨
        Spans [] (pieces wanted.name.toList 0 (bare marker line)) tag := by
  rw [← h.infix_intercalate_iff (by simp), intercalate_nil, flatten_pieces]
  constructor
  · intro hin
    exact hin.trans (trim_isInfix _)
  · intro hin
    obtain ⟨-, -, hstart, hend⟩ := h.shape
    exact infix_trim hstart hend hin

/-- The tags of the section in its cleaned text: those on one line, and those that two lines make. -/
theorem IsSectionTag.infix_clean_iff (h : IsSectionTag wanted.name.toList tag)
    (marker text : List Char) :
    tag <:+: clean wanted marker text ↔
      (∃ line ∈ inkLines text, tag <:+: cleanLine wanted marker line) ∨
        Spans [' '] (keptLines wanted marker text) tag := by
  rw [clean_eq_intercalate, h.infix_intercalate_iff (by decide)]
  constructor
  · rintro (⟨part, hpart, hin⟩ | hspans)
    · obtain ⟨⟨line, hline, rfl⟩, -⟩ := mem_keptLines.mp hpart
      exact Or.inl ⟨line, hline, hin⟩
    · exact Or.inr hspans
  · rintro (⟨line, hline, hin⟩ | hspans)
    · refine Or.inl ⟨_, mem_keptLines.mpr ⟨⟨line, hline, rfl⟩, ?_⟩, hin⟩
      intro hnil
      obtain ⟨rest, rfl, -⟩ := h.shape
      simp [hnil] at hin
    · exact Or.inr hspans

/-- A tag of the section that stands whole in a piece was missed. -/
theorem IsSectionTag.isMissedTag_of_piece (h : IsSectionTag wanted.name.toList tag)
    {line piece : List Char} (hpiece : piece ∈ pieces wanted.name.toList 0 line)
    (hin : tag <:+: piece) : IsMissedTag wanted.name.toList tag := by
  have hname := isName_section wanted
  have hnot : ¬ IsRemovable wanted.name.toList tag := by
    intro hremovable
    exact not_infix_piece hname hpiece hremovable hin
  rcases h with hscanned | hremoved
  · exact isMissedTag_of_scanned hscanned hnot
  · exact absurd ((isRemovedTag_iff hname).mp hremoved) hnot

/-- A tag of the section is left in the cleaned text exactly if one was missed on a line, or one came
about where a tag was taken off, or one came about where lines were joined. -/
theorem holdsSectionTag_clean_iff (wanted : Section) (marker text : List Char) :
    HoldsSectionTag wanted.name.toList (clean wanted marker text) ↔
      (∃ line ∈ inkLines text, ∃ piece ∈ pieces wanted.name.toList 0 (bare marker line),
        ∃ tag, tag <:+: piece ∧ IsMissedTag wanted.name.toList tag) ∨
      (∃ line ∈ inkLines text, ∃ tag, IsSectionTag wanted.name.toList tag ∧
        Spans [] (pieces wanted.name.toList 0 (bare marker line)) tag) ∨
      ∃ tag, IsSectionTag wanted.name.toList tag ∧
        Spans [' '] (keptLines wanted marker text) tag := by
  constructor
  · rintro ⟨tag, hin, htag⟩
    rcases (htag.infix_clean_iff marker text).mp hin with ⟨line, hline, hclean⟩ | hspans
    · rcases (htag.infix_cleanLine_iff marker line).mp hclean with ⟨piece, hpiece, hin⟩ | hspans
      · exact Or.inl ⟨line, hline, piece, hpiece, tag, hin, htag.isMissedTag_of_piece hpiece hin⟩
      · exact Or.inr (Or.inl ⟨line, hline, tag, htag, hspans⟩)
    · exact Or.inr (Or.inr ⟨tag, htag, hspans⟩)
  · rintro (⟨line, hline, piece, hpiece, tag, hin, hmissed⟩ | ⟨line, hline, tag, htag, hspans⟩ |
      ⟨tag, htag, hspans⟩)
    · have htag : IsSectionTag wanted.name.toList tag :=
        Or.inl (hmissed.isScannedTag (isName_section wanted))
      have hclean := (htag.infix_cleanLine_iff marker line).mpr (Or.inl ⟨piece, hpiece, hin⟩)
      exact ⟨tag, (htag.infix_clean_iff marker text).mpr (Or.inl ⟨line, hline, hclean⟩), htag⟩
    · have hclean := (htag.infix_cleanLine_iff marker line).mpr (Or.inr hspans)
      exact ⟨tag, (htag.infix_clean_iff marker text).mpr (Or.inl ⟨line, hline, hclean⟩), htag⟩
    · exact ⟨tag, (htag.infix_clean_iff marker text).mpr (Or.inr hspans), htag⟩

def KeepsSectionTag (wanted : Section) (marker text : List Char) : Prop :=
  ∃ found, findSection? text wanted = some found ∧
    HoldsSectionTag wanted.name.toList (clean wanted marker found)

/-- The section is the whole text. -/
theorem keepsSectionTag_of_whole {wanted : Section} {marker text : List Char} (tag : List Char)
    (hfound : findSection? text wanted = some text) (hin : tag <:+: clean wanted marker text)
    (htag : IsSectionTag wanted.name.toList tag) : KeepsSectionTag wanted marker text :=
  ⟨text, hfound, tag, hin, htag⟩

/-- Each way occurs: a slash ends the name, a tag is taken out of the middle of another one, and the
attributes stand on the next line. -/
theorem keepsSectionTag_each_way :
    KeepsSectionTag .summary "///".toList "<summary/en>Text.</summary>".toList ∧
      KeepsSectionTag .summary "///".toList
        "<summary><sum<summary>mary>Text.</summary></summary>".toList ∧
      KeepsSectionTag .summary "///".toList
        "<summary\n/// lang=\"en\">Text.</summary>".toList := by
  refine ⟨?_, ?_, ?_⟩
  · refine keepsSectionTag_of_whole "<summary/en>".toList (by decide +kernel) (by decide +kernel)
      (Or.inl ?_)
    exact ⟨⟨"summary".toList, false, false, 0, 12⟩, by decide +kernel, rfl, rfl, rfl⟩
  · exact keepsSectionTag_of_whole "<summary>".toList (by decide +kernel) (by decide +kernel)
      (Or.inr (by decide +kernel))
  · exact keepsSectionTag_of_whole "<summary lang=\"en\">".toList (by decide +kernel)
      (by decide +kernel) (Or.inr (by decide +kernel))

end Cleaned

end DeclDocs.Doc
