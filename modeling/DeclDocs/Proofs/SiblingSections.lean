import DeclDocs.Proofs.ElementMatching
import DeclDocs.Proofs.RenderedDocs

/-!
A section among malformed siblings. What stands behind a section never hides it. What stands before
it does, if it leaves an element open: the section is then inside an element that is never closed,
and no later section of the block is at the top level either. So a section is found exactly if every
element that starts before it is closed before it.
-/
namespace DeclDocs.Doc

open Text

def plainSection (wanted : Section) (inside : List Char) : List Char :=
  startTag wanted ++ inside ++ endTag wanted

/-- A section with text on both sides. Before it there is no tag of its name, and no element that
starts there is closed behind the section, so that the section is not inside a closed element. -/
structure IsSibling (wanted : Section) (before inside after : List Char) : Prop where
  plain : '<' ∉ inside
  unnamed : ∀ tag ∈ elementTags before, tag.name ≠ wanted.name.toList
  apart : ∀ i j, i < (elementTags before).length → (elementTags before).length + 2 ≤ j →
    ¬ Matches (elementTags (before ++ plainSection wanted inside ++ after)) i j

def startTagBehind (wanted : Section) (before : List Char) : Tag :=
  ⟨wanted.name.toList, false, false, before.length, (before ++ startTag wanted).length⟩

def endTagBehind (wanted : Section) (before inside : List Char) : Tag :=
  ⟨wanted.name.toList, true, false, (before ++ startTag wanted ++ inside).length,
    (before ++ plainSection wanted inside).length⟩

/-- The tags of the section come behind those of the text before it, and are not disturbed by it. -/
theorem exists_elementTags_section (wanted : Section) (before : List Char) {inside : List Char}
    (hplain : '<' ∉ inside) (after : List Char) :
    ∃ rest, elementTags (before ++ plainSection wanted inside ++ after) =
      elementTags before ++
        startTagBehind wanted before :: endTagBehind wanted before inside :: rest := by
  have hname := isName_section wanted
  have htext : before ++ plainSection wanted inside ++ after =
      before ++ (startTag wanted ++ (inside ++ (endTag wanted ++ after))) := by
    simp only [plainSection, List.append_assoc]
  have htags : tags (before ++ plainSection wanted inside ++ after) =
      tags before ++ startTagBehind wanted before :: endTagBehind wanted before inside ::
        tagsFrom (before ++ plainSection wanted inside).length after := by
    rw [htext, tags_eq_tagsFrom, startTag, endTag, tagsFrom_append_written,
      tagsFrom_written hname.isInside, tagsFrom_append_of_not_mem _ _ _ hplain,
      tagsFrom_written hname.isInside, hname.tagOf_eq, hname.tagOf_eq, ← tags_eq_tagsFrom]
    simp [startTagBehind, endTagBehind, plainSection, startTag, endTag, Nat.add_assoc]
  refine ⟨(tagsFrom (before ++ plainSection wanted inside).length after).filter
    fun tag => !tag.selfClosing, ?_⟩
  rw [elementTags, htags, List.filter_append]
  rfl

section Tags

variable {wanted : Section} {before inside : List Char} {ts rest : List Tag}
  (hts : ts = elementTags before ++
    startTagBehind wanted before :: endTagBehind wanted before inside :: rest)

include hts

theorem getElem?_startTagBehind :
    ts[(elementTags before).length]? = some (startTagBehind wanted before) :=
  getElem?_of_split hts

theorem getElem?_endTagBehind :
    ts[(elementTags before).length + 1]? = some (endTagBehind wanted before inside) := by
  have hsplit : ts = (elementTags before ++ [startTagBehind wanted before]) ++
      endTagBehind wanted before inside :: rest := by
    rw [hts, List.append_assoc]
    rfl
  simpa using getElem?_of_split hsplit

theorem startName?_startTagBehind :
    startName? ts (elementTags before).length = some wanted.name.toList :=
  startName?_of_split hts

/-- The end tag of the section matches its start tag, and nothing else. -/
theorem matches_endTagBehind_iff {i : Nat} :
    Matches ts i ((elementTags before).length + 1) ↔ i = (elementTags before).length := by
  have hstart := startName?_startTagBehind hts
  have hend : endName? ts ((elementTags before).length + 1) = some wanted.name.toList := by
    rw [endName?, getElem?_endTagBehind hts]
    rfl
  have hopen : IsOpen ts (elementTags before).length ((elementTags before).length + 1) :=
    isOpen_succ.mpr (Or.inl ⟨rfl, _, hstart⟩)
  constructor
  · intro h
    obtain ⟨name, hname, -, hiopen, hlatest⟩ := matches_iff.mp h
    have hsame : name = wanted.name.toList := Option.some.inj (hname.symm.trans hend)
    have hle : i ≤ (elementTags before).length := Nat.le_of_lt_succ hiopen.lt
    have hnot : ¬ i < (elementTags before).length := by
      intro hlt
      exact hlatest _ hlt (hsame ▸ hstart) hopen
    omega
  · rintro rfl
    refine matches_iff.mpr ⟨wanted.name.toList, hend, hstart, hopen, ?_⟩
    intro i hlt _ hiopen
    have hle := hiopen.lt
    omega

/-- No start tag before the section has its name. -/
theorem startName?_ne_before
    (hunnamed : ∀ tag ∈ elementTags before, tag.name ≠ wanted.name.toList) {i : Nat}
    (hi : i < (elementTags before).length) : startName? ts i ≠ some wanted.name.toList := by
  intro hname
  have htag : ts[i]? = some (elementTags before)[i] := by
    rw [hts, List.getElem?_append_left hi, List.getElem?_eq_getElem hi]
  exact hunnamed _ (List.getElem_mem hi) (name_of_startName? hname htag)

/-- With nothing open before it, the section is the first one at the top level. -/
theorem isSectionStart_of_isTopLevel
    (hunnamed : ∀ tag ∈ elementTags before, tag.name ≠ wanted.name.toList)
    (htop : IsTopLevel ts (elementTags before).length) :
    IsSectionStart ts wanted.name.toList (elementTags before).length :=
  ⟨startName?_startTagBehind hts, htop,
    fun _ hi hname => absurd hname (startName?_ne_before hts hunnamed hi)⟩

/-- An element that is open where the section starts stays open to the end of the text. -/
theorem IsOpen.of_apart
    (hapart : ∀ i j, i < (elementTags before).length → (elementTags before).length + 2 ≤ j →
      ¬ Matches ts i j)
    {i : Nat} (hopen : IsOpen ts i (elementTags before).length) {k : Nat}
    (hk : (elementTags before).length ≤ k) : IsOpen ts i k := by
  have hlt := hopen.lt
  induction k, hk using Nat.le_induction with
  | base => exact hopen
  | succ k hk ih =>
    refine isOpen_succ.mpr (Or.inr ⟨ih, ?_⟩)
    intro m hm hmatch
    -- The next tag is the start tag of the section, its end tag, or one behind the section.
    rcases Nat.lt_trichotomy k ((elementTags before).length + 1) with hfirst | rfl | hlater
    · obtain rfl : k = (elementTags before).length := by omega
      obtain ⟨name, hend, -⟩ := matches_iff.mp hmatch
      rw [endName?_of_split hts] at hend
      simp [startTagBehind] at hend
    · have hsame := (matches_endTagBehind_iff hts).mp hmatch
      omega
    · exact hapart m k (by omega) (by omega) hmatch

end Tags

/-- The answer of the search is the section that the matching names. -/
theorem findSection?_of_matches {text : List Char} {wanted : Section} {i j : Nat} {first last : Tag}
    (hi : IsSectionStart (elementTags text) wanted.name.toList i)
    (hmatch : Matches (elementTags text) i j) (hfirst : (elementTags text)[i]? = some first)
    (hlast : (elementTags text)[j]? = some last) :
    findSection? text wanted = some (slice text first.start last.stop) := by
  have hanswers := search_answers text wanted
  rw [findSection?]
  cases hsearch : search text wanted with
  | absent unclosed =>
    rw [hsearch] at hanswers
    exact absurd ⟨i, j, hi, hmatch⟩ hanswers
  | found start stop =>
    rw [hsearch] at hanswers
    obtain ⟨i', j', first', last', hi', hmatch', hfirst', hlast', rfl, rfl⟩ := hanswers
    obtain rfl := hi.unique hi'
    obtain rfl := hmatch.unique hmatch'
    rw [Option.some.inj (hfirst.symm.trans hfirst'), Option.some.inj (hlast.symm.trans hlast')]

theorem findSection?_eq_none_of_not_start {text : List Char} {wanted : Section}
    (h : ∀ i, ¬ IsSectionStart (elementTags text) wanted.name.toList i) :
    findSection? text wanted = none := by
  have hanswers := search_answers text wanted
  rw [findSection?]
  cases hsearch : search text wanted with
  | absent unclosed => rfl
  | found start stop =>
    rw [hsearch] at hanswers
    obtain ⟨i, -, -, -, hi, -⟩ := hanswers
    exact absurd hi (h i)

/-- A section is found behind malformed text exactly if that text leaves no element open; if it
leaves one open, no section of that name is found at all. -/
theorem findSection_sibling (wanted : Section) (before inside after : List Char)
    (h : IsSibling wanted before inside after) :
    let text := before ++ plainSection wanted inside ++ after
    let count := (elementTags before).length
    (findSection? text wanted = some (plainSection wanted inside) ↔
      IsTopLevel (elementTags text) count) ∧
    (findSection? text wanted = none ↔ ¬ IsTopLevel (elementTags text) count) := by
  intro text count
  obtain ⟨rest, hts⟩ := exists_elementTags_section wanted before h.plain after
  by_cases htop : IsTopLevel (elementTags text) count
  · have hfound : findSection? text wanted = some (plainSection wanted inside) := by
      have hslice : slice text before.length (before ++ plainSection wanted inside).length =
          plainSection wanted inside := by
        rw [List.length_append]
        exact slice_append before (plainSection wanted inside) after
      rw [findSection?_of_matches (isSectionStart_of_isTopLevel hts h.unnamed htop)
        ((matches_endTagBehind_iff hts).mpr rfl) (getElem?_startTagBehind hts)
        (getElem?_endTagBehind hts)]
      exact congrArg some hslice
    simp [hfound, htop]
  · have hnone : findSection? text wanted = none := by
      apply findSection?_eq_none_of_not_start
      intro i hi
      rcases Nat.lt_or_ge i count with hlt | hge
      · exact startName?_ne_before hts h.unnamed hlt hi.1
      · -- Whatever starts at or behind the section is inside the element that stays open.
        obtain ⟨m, hopen⟩ := not_forall_not.mp htop
        exact hi.2.1 m (hopen.of_apart hts h.apart hge)
    simp [hnone, htop]

/-- What can be checked of a section and the texts around it: no name of an element before the
section is that of an end tag behind it. -/
theorem isSibling_of_names {wanted : Section} {before inside after : List Char}
    (hplain : '<' ∉ inside)
    (hunnamed : (elementTags before).all (fun tag => tag.name != wanted.name.toList) = true)
    (hnames : let ts := elementTags (before ++ plainSection wanted inside ++ after)
      let count := (elementTags before).length
      ∀ i < count, ∀ j < ts.length, count + 2 ≤ j → startName? ts i = none ∨
        startName? ts i ≠ endName? ts j) : IsSibling wanted before inside after where
  plain := hplain
  unnamed tag htag := by simpa using List.all_eq_true.mp hunnamed tag htag
  apart i j hi hj hmatch := by
    obtain ⟨name, hend, hstart, -⟩ := matches_iff.mp hmatch
    rcases hnames i hi j hmatch.lt_length hj with hnone | hne
    · exact Option.some_ne_none name (hstart.symm.trans hnone)
    · exact hne (hstart.trans hend.symm)

/-- Prose, a stray end tag and a closed element before the section; an unclosed type argument and
a stray end tag behind it. -/
theorem findSection_among_stray_tags :
    let before := "if a < b </p> <c>x</c> ".toList
    let wrapped := plainSection .summary "Text.".toList
    let text := before ++ wrapped ++ " List<int> </b>".toList
    findSection? text .summary = some wrapped ∧ IsTopLevel (elementTags text) 3 := by
  have hsibling : IsSibling .summary "if a < b </p> <c>x</c> ".toList "Text.".toList
      " List<int> </b>".toList :=
    isSibling_of_names (by decide) (by decide +kernel) (by decide +kernel)
  have hfound := (findSection_sibling .summary _ _ _ hsibling).1
  have htext : findSection? ("if a < b </p> <c>x</c> ".toList ++
      plainSection .summary "Text.".toList ++ " List<int> </b>".toList) .summary =
      some (plainSection .summary "Text.".toList) := by decide +kernel
  exact ⟨htext, hfound.mp htext⟩

/-- An unclosed element before the section, or a type argument, hides the section. -/
theorem section_hidden_by_open_element :
    (IsSibling .summary "<remarks>Old.\n".toList "Text.".toList [] ∧
      findSection? ("<remarks>Old.\n".toList ++ plainSection .summary "Text.".toList ++ [])
        .summary = none) ∧
    IsSibling .returns "A List<int>. ".toList "Text.".toList "\n<c>x</c>".toList ∧
      findSection? ("A List<int>. ".toList ++ plainSection .returns "Text.".toList ++
        "\n<c>x</c>".toList) .returns = none := by
  refine ⟨⟨?_, by decide +kernel⟩, ?_, by decide +kernel⟩
  · exact isSibling_of_names (by decide) (by decide +kernel) (by decide +kernel)
  · exact isSibling_of_names (by decide) (by decide +kernel) (by decide +kernel)

end DeclDocs.Doc
