import DeclDocs.Proofs.ElementMatching
import DeclDocs.Proofs.TagScan
import Mathlib.Data.List.DropRight

/-!
Searching a text that has another text behind it. Whether a tag stands at a `<` is settled by the text
up to the next `>`, so the tags of a text are found again, and first, when more text follows. If no
`<` stands behind the last `>`, no tag reaches over the seam, and the tags that follow are those of
the second text, moved behind the first. A search takes nothing over the seam but the open elements.
So a section that is found stays found, and a text without the section that leaves no element open can
be left out.
-/
namespace DeclDocs.Doc

open Text

/-- No `<` stands behind the last `>` of a text, or anywhere if there is no `>`. -/
def EndsOutsideTag (text : List Char) : Prop := '<' ∉ text.rtakeWhile (· != '>')

/-- Every `<` has a `>` behind it. -/
theorem EndsOutsideTag.mem_of_angle {left right : List Char}
    (h : EndsOutsideTag (left ++ '<' :: right)) : '>' ∈ right := by
  by_contra hfree
  apply h
  have hpass : ∀ c ∈ right.reverse, (c != '>') = true := by
    intro c hc
    have hne : c ≠ '>' := by
      rintro rfl
      exact hfree (List.mem_reverse.mp hc)
    simpa using hne
  simp [List.rtakeWhile, List.takeWhile_append_of_pos hpass]

theorem EndsOutsideTag.tail {c : Char} {text : List Char} (h : EndsOutsideTag (c :: text)) :
    EndsOutsideTag text := by
  intro hmem
  apply h
  rw [List.rtakeWhile, List.mem_reverse] at hmem ⊢
  rw [List.reverse_cons, List.takeWhile_append]
  split
  · exact List.mem_append_left _ ((List.takeWhile_prefix _).subset hmem)
  · exact hmem

section Scan

/-- A `>` settles whether a tag stands at the head of a text. -/
theorem tagAt?_append_of_mem (position : Nat) (c : Char) {left : List Char} (hmem : '>' ∈ left)
    (right : List Char) : tagAt? position (c :: left ++ right) = tagAt? position (c :: left) := by
  apply tagAt?_append
  intro closing inner rest hinside htail
  rcases List.append_eq_append_iff.mp htail with ⟨extra, hextra, -⟩ | ⟨extra, hextra, -⟩
  · rcases List.eq_nil_or_concat extra with rfl | ⟨more, last, rfl⟩
    · exact ⟨[], by rw [hextra, List.append_nil, List.append_nil]⟩
    · -- The tag would have a `>` before its last character.
      rw [List.concat_eq_append, ← List.append_assoc] at hextra
      have hinner : slash closing ++ inner = left ++ more := (List.append_inj' hextra rfl).1
      have hin : '>' ∈ slash closing ++ inner := hinner ▸ List.mem_append_left more hmem
      rcases List.mem_append.mp hin with hslash | hplain
      · cases closing <;> simp [slash] at hslash
      · exact absurd (hinside.plain '>' hplain) (by decide)
  · exact ⟨extra, hextra.symm⟩

theorem tagsFrom_of_not_mem (position : Nat) {text : List Char} (h : '>' ∉ text) :
    tagsFrom position text = [] := by
  rw [List.eq_nil_iff_forall_not_mem]
  intro tag htag
  obtain ⟨before, closing, inner, after, -, rfl, -⟩ := exists_written_of_mem htag
  exact h (by simp [written])

/-- The tags of a text are not disturbed by what follows, and what follows is scanned on its own if
the text ends outside a tag. -/
theorem exists_tagsFrom_append (position : Nat) (left right : List Char) :
    ∃ more, tagsFrom position (left ++ right) = tagsFrom position left ++ more ∧
      (EndsOutsideTag left → more = tagsFrom (position + left.length) right) := by
  induction left generalizing position with
  | nil => exact ⟨tagsFrom position right, rfl, fun _ => rfl⟩
  | cons c left ih =>
    by_cases hat : tagAt? position (c :: left ++ right) = tagAt? position (c :: left)
    · obtain ⟨more, htags, hmore⟩ := ih (position + 1)
      refine ⟨more, ?_, fun hends => ?_⟩
      · rw [List.cons_append] at hat ⊢
        rw [tagsFrom, tagsFrom, hat, htags, List.append_assoc]
      · rw [hmore hends.tail, List.length_cons, Nat.add_assoc, Nat.add_comm 1]
    · -- Here a tag starts in the left text and ends in the right one.
      have hfree : '>' ∉ left := fun hmem => hat (tagAt?_append_of_mem position c hmem right)
      obtain rfl : c = '<' := by
        by_contra hne
        exact hat ((tagAt?_of_ne hne).trans (tagAt?_of_ne hne).symm)
      have hnone : tagsFrom position ('<' :: left) = [] :=
        tagsFrom_of_not_mem position (by simp [hfree])
      refine ⟨tagsFrom position ('<' :: left ++ right), ?_, fun hends => ?_⟩
      · rw [hnone, List.nil_append]
      · have hends' : EndsOutsideTag ([] ++ '<' :: left) := hends
        exact absurd hends'.mem_of_angle hfree

theorem stop_le_of_mem {text : List Char} {tag : Tag} (h : tag ∈ elementTags text) :
    tag.stop ≤ text.length := by
  have htag : tag ∈ tagsFrom 0 text := tags_eq_tagsFrom text ▸ (List.mem_filter.mp h).1
  obtain ⟨before, closing, inner, after, -, rfl, rfl⟩ := exists_written_of_mem htag
  simp only [tagOf, List.length_append]
  omega

end Scan

section Step

def afterTag (openElements : List (List Char)) (tag : Tag) : List (List Char) :=
  if tag.selfClosing then openElements
  else if !tag.closing then tag.name :: openElements
  else if openElements.contains tag.name then closeElement tag.name openElements
  else openElements

def closesAll (openElements : List (List Char)) (tag : Tag) : Bool :=
  !tag.selfClosing && tag.closing && openElements.contains tag.name &&
    (closeElement tag.name openElements).isEmpty

def startAfter (wanted : List Char) (openElements : List (List Char)) (sectionStart : Option Nat)
    (tag : Tag) : Option Nat :=
  if !tag.selfClosing && !tag.closing && openElements.isEmpty && tag.name == wanted then
    some tag.start
  else sectionStart

variable {wanted : List Char} {openElements : List (List Char)} {sectionStart : Option Nat}
  {tag : Tag}

/-- What one tag does to a search: it ends the section, or the search goes on. -/
theorem searchFrom_cons (rest : List Tag) :
    searchFrom wanted openElements sectionStart (tag :: rest) =
      match sectionStart.filter fun _ => closesAll openElements tag with
      | some start => .found start tag.stop
      | none => searchFrom wanted (afterTag openElements tag)
          (startAfter wanted openElements sectionStart tag) rest := by
  rw [searchFrom]
  by_cases hself : tag.selfClosing = true
  · simp [hself, closesAll, afterTag, startAfter]
  · by_cases hclosing : tag.closing = true
    · by_cases hmem : tag.name ∈ openElements
      · cases hremaining : closeElement tag.name openElements <;> cases sectionStart <;>
          simp [hself, hclosing, hmem, hremaining, closesAll, afterTag, startAfter,
            Option.filter_some]
      · simp [hself, hclosing, hmem, closesAll, afterTag, startAfter]
    · simp [hself, hclosing, closesAll, afterTag, startAfter]

/-- A search is inside a section only while an element is open. -/
theorem startAfter_eq_none (hstart : openElements = [] → sectionStart = none)
    (hends : sectionStart.filter (fun _ => closesAll openElements tag) = none)
    (hafter : afterTag openElements tag = []) :
    startAfter wanted openElements sectionStart tag = none := by
  unfold afterTag at hafter
  by_cases hself : tag.selfClosing = true
  · simp only [hself, if_true] at hafter
    simpa [startAfter, hself] using hstart hafter
  · by_cases hclosing : tag.closing = true
    · have hsame : startAfter wanted openElements sectionStart tag = sectionStart := by
        simp [startAfter, hclosing]
      rw [hsame]
      by_cases hmem : tag.name ∈ openElements
      · have hremaining : closeElement tag.name openElements = [] := by
          simpa [hself, hclosing, hmem] using hafter
        have hall : closesAll openElements tag = true := by
          simp [closesAll, hself, hclosing, hmem, hremaining]
        cases sectionStart with
        | none => rfl
        | some start => simp [hall, Option.filter_some] at hends
      · exact hstart (by simpa [hself, hclosing, hmem] using hafter)
    · simp [hself, hclosing] at hafter

/-- Some tags either decide a search, whatever tags follow, or leave it with the open elements. -/
theorem searchFrom_append (wanted : List Char) (hstart : openElements = [] → sectionStart = none)
    (ts : List Tag) :
    (∃ start stop, ∀ more,
      searchFrom wanted openElements sectionStart (ts ++ more) = .found start stop) ∨
    ∃ sectionStart', (ts.foldl afterTag openElements = [] → sectionStart' = none) ∧ ∀ more,
      searchFrom wanted openElements sectionStart (ts ++ more) =
        searchFrom wanted (ts.foldl afterTag openElements) sectionStart' more := by
  induction ts generalizing openElements sectionStart with
  | nil => exact Or.inr ⟨sectionStart, hstart, fun _ => rfl⟩
  | cons tag rest ih =>
    simp only [List.cons_append, List.foldl_cons, searchFrom_cons]
    cases hends : sectionStart.filter fun _ => closesAll openElements tag with
    | some start => exact Or.inl ⟨start, tag.stop, fun _ => rfl⟩
    | none => exact ih (startAfter_eq_none hstart hends)

end Step

section Moved

def Tag.moved (offset : Nat) (tag : Tag) : Tag :=
  { tag with start := offset + tag.start, stop := offset + tag.stop }

def Search.moved (offset : Nat) : Search → Search
  | .found start stop => .found (offset + start) (offset + stop)
  | .absent unclosed => .absent unclosed

theorem tagAt?_moved (offset position : Nat) (text : List Char) :
    tagAt? (offset + position) text = (tagAt? position text).map (Tag.moved offset) := by
  have hbody : ∀ closing body, tagOfBody? (offset + position) closing body =
      (tagOfBody? position closing body).map (Tag.moved offset) := by
    intro closing body
    unfold tagOfBody?
    split
    · rfl
    · split
      · simp only
        split
        · simp [Tag.moved, Nat.add_assoc]
        · rfl
      · rfl
  unfold tagAt?
  split
  · exact hbody true _
  · exact hbody false _
  · rfl

theorem tagsFrom_moved (offset position : Nat) (text : List Char) :
    tagsFrom (offset + position) text = (tagsFrom position text).map (Tag.moved offset) := by
  induction text generalizing position with
  | nil => rfl
  | cons c rest ih =>
    rw [tagsFrom, tagsFrom, tagAt?_moved, Nat.add_assoc, ih, List.map_append]
    cases tagAt? position (c :: rest) <;> rfl

/-- The positions of the tags have no say in a search. -/
theorem searchFrom_moved (wanted : List Char) (offset : Nat) (openElements : List (List Char))
    (sectionStart : Option Nat) (ts : List Tag) :
    searchFrom wanted openElements (sectionStart.map (offset + ·)) (ts.map (Tag.moved offset)) =
      (searchFrom wanted openElements sectionStart ts).moved offset := by
  induction ts generalizing openElements sectionStart with
  | nil => cases sectionStart <;> rfl
  | cons tag rest ih =>
    have hends : (sectionStart.map (offset + ·)).filter
        (fun _ => closesAll openElements (tag.moved offset)) =
        (sectionStart.filter fun _ => closesAll openElements tag).map (offset + ·) :=
      Option.filter_map
    have hstart : startAfter wanted openElements (sectionStart.map (offset + ·)) (tag.moved offset) =
        (startAfter wanted openElements sectionStart tag).map (offset + ·) := by
      unfold startAfter
      rw [apply_ite (Option.map (offset + ·))]
      rfl
    rw [List.map_cons, searchFrom_cons, searchFrom_cons, hends, hstart]
    cases sectionStart.filter fun _ => closesAll openElements tag with
    | some start => rfl
    | none => exact ih (afterTag openElements tag) _

theorem slice_moved {α : Type} (left right : List α) (start stop : Nat) :
    slice (left ++ right) (left.length + start) (left.length + stop) = slice right start stop := by
  rw [slice, slice, List.take_length_add_append, List.drop_length_add_append]

theorem slice_append_of_le {α : Type} {left : List α} {stop : Nat} (h : stop ≤ left.length)
    (right : List α) (start : Nat) : slice (left ++ right) start stop = slice left start stop := by
  rw [slice, slice, List.take_append_of_le_length h]

end Moved

section LeftOpen

def leftOpen (text : List Char) : List (List Char) := (elementTags text).foldl afterTag []

variable {ts before rest : List Tag}

/-- The names left open by some tags are those of the elements that are open behind them. -/
theorem Opened.exists_foldl (hself : ∀ tag ∈ ts, tag.selfClosing = false) {elements : List Nat}
    (hts : ts = before ++ rest) (h : Opened ts before.length elements) :
    ∃ last, Opened ts ts.length last ∧
      rest.foldl afterTag (elements.map (elementName ts)) = last.map (elementName ts) := by
  induction rest generalizing before elements with
  | nil =>
    rw [List.append_nil] at hts
    exact ⟨elements, hts ▸ h, rfl⟩
  | cons tag rest ih =>
    have hts' : ts = (before ++ [tag]) ++ rest := by simpa using hts
    have htag : tag.selfClosing = false := hself tag (by simp [hts])
    rw [List.foldl_cons]
    rcases h.step hts with ⟨hclosing, hnext⟩ |
        ⟨inner, m, outer, hclosing, -, -, hcontains, hclose, hnext⟩ |
        ⟨hclosing, hcontains, hnext⟩
    · have hafter : afterTag (elements.map (elementName ts)) tag =
          (before.length :: elements).map (elementName ts) := by
        simp [afterTag, htag, hclosing, elementName_of_split hts hclosing]
      rw [hafter]
      exact ih hts' hnext
    · have hafter : afterTag (elements.map (elementName ts)) tag = outer.map (elementName ts) := by
        rw [afterTag, htag, hclosing, hcontains, hclose]
        rfl
      rw [hafter]
      exact ih hts' hnext
    · have hafter : afterTag (elements.map (elementName ts)) tag =
          elements.map (elementName ts) := by
        rw [afterTag, htag, hclosing, hcontains]
        rfl
      rw [hafter]
      exact ih hts' hnext

theorem leftOpen_eq_nil_iff (text : List Char) :
    leftOpen text = [] ↔ IsTopLevel (elementTags text) (elementTags text).length := by
  have hself : ∀ tag ∈ elementTags text, tag.selfClosing = false := by
    intro tag htag
    simpa using (List.mem_filter.mp htag).2
  have hts : elementTags text = [] ++ elementTags text := rfl
  obtain ⟨last, hlast, hfold⟩ := opened_zero.exists_foldl hself hts
  have hopen : leftOpen text = last.map (elementName (elementTags text)) := hfold
  rw [hopen, hlast.isTopLevel_iff, List.map_eq_nil_iff]

end LeftOpen

theorem search_eq_elementTags (text : List Char) (wanted : Section) :
    search text wanted = searchFrom wanted.name.toList [] none (elementTags text) :=
  (searchFrom_filter wanted.name.toList [] none (tags text)).symm

/-- The elements of a text come first when more text follows. -/
theorem exists_elementTags_append (left right : List Char) :
    ∃ more, elementTags (left ++ right) = elementTags left ++ more ∧
      (EndsOutsideTag left → more = (elementTags right).map (Tag.moved left.length)) := by
  obtain ⟨more, htags, hmore⟩ := exists_tagsFrom_append 0 left right
  refine ⟨more.filter fun tag => !tag.selfClosing, ?_, fun hends => ?_⟩
  · rw [elementTags, elementTags, tags_eq_tagsFrom, tags_eq_tagsFrom, htags, List.filter_append]
  · rw [hmore hends, Nat.zero_add, ← Nat.add_zero left.length, tagsFrom_moved, List.filter_map,
      elementTags, tags_eq_tagsFrom]
    rfl

/-- The section found in a text is found whatever follows the text. -/
theorem findSection?_append_of_found {before s : List Char} {wanted : Section}
    (hfound : findSection? before wanted = some s) (after : List Char) :
    findSection? (before ++ after) wanted = some s := by
  have hanswers := search_answers before wanted
  obtain ⟨more, htags, -⟩ := exists_elementTags_append before after
  rw [findSection?] at hfound
  cases hsearch : search before wanted with
  | absent unclosed => simp [hsearch] at hfound
  | found start stop =>
    rw [hsearch] at hfound hanswers
    obtain ⟨i, j, first, last, -, -, -, hlast, -, rfl⟩ := hanswers
    have hle := stop_le_of_mem (List.mem_of_getElem? hlast)
    have hboth : search (before ++ after) wanted = .found start last.stop := by
      rw [search_eq_elementTags] at hsearch ⊢
      rw [htags]
      rcases searchFrom_append wanted.name.toList (fun _ => rfl) (elementTags before) with
        ⟨start', stop', hdecided⟩ | ⟨sectionStart, -, hopen⟩
      · have hnone := hdecided []
        rw [List.append_nil, hsearch] at hnone
        rw [hdecided more, hnone]
      · have hnone := hopen []
        rw [List.append_nil, hsearch, searchFrom] at hnone
        simp at hnone
    simp only [findSection?, hboth]
    rw [slice_append_of_le hle]
    exact hfound

/-- A text without the section that leaves nothing open only moves what follows. -/
theorem search_append_of_absent {before : List Char} {wanted : Section}
    (habsent : findSection? before wanted = none) (hopen : leftOpen before = [])
    (hends : EndsOutsideTag before) (after : List Char) :
    search (before ++ after) wanted = (search after wanted).moved before.length := by
  obtain ⟨more, htags, hmore⟩ := exists_elementTags_append before after
  rw [search_eq_elementTags, search_eq_elementTags, htags, hmore hends]
  rcases searchFrom_append wanted.name.toList (fun _ => rfl) (elementTags before) with
    ⟨start, stop, hdecided⟩ | ⟨sectionStart, hnone, hcarried⟩
  · have hfound := hdecided []
    rw [List.append_nil, ← search_eq_elementTags] at hfound
    simp [findSection?, hfound] at habsent
  · rw [hcarried, hnone hopen]
    have hlater := searchFrom_moved wanted.name.toList before.length [] none (elementTags after)
    rw [Option.map_none] at hlater
    rw [← hlater]
    exact congrArg (fun stack => searchFrom _ stack none _) hopen

/-- Nothing written behind a section changes or hides it; and text without the section, all of whose
elements are closed and which ends outside a tag, can stand before any text. -/
theorem findSection_append (before after : List Char) (wanted : Section) :
    (∀ s, findSection? before wanted = some s → findSection? (before ++ after) wanted = some s) ∧
    (findSection? before wanted = none →
      IsTopLevel (elementTags before) (elementTags before).length → EndsOutsideTag before →
      findSection? (before ++ after) wanted = findSection? after wanted) := by
  refine ⟨fun s hfound => findSection?_append_of_found hfound after, fun habsent htop hends => ?_⟩
  have hopen := (leftOpen_eq_nil_iff before).mpr htop
  rw [findSection?, search_append_of_absent habsent hopen hends after, findSection?]
  cases search after wanted with
  | found start stop => exact congrArg some (slice_moved before after start stop)
  | absent unclosed => rfl

/-- A summary is not hidden by the rest of a tag behind it. A closed element and a `>` in prose before
it are passed over, also where a tag that closes itself spans two lines. -/
theorem findSection_append_both_ways :
    findSection? ("<summary>A</summary> <".toList ++ "remarks><summary>B</summary>".toList)
        .summary = some "<summary>A</summary>".toList ∧
      findSection? ("b > a <remarks>Old.</remarks> <see\ncref='A'/> ".toList ++
        "<summary>B</summary>".toList) .summary = some "<summary>B</summary>".toList := by
  have hfirst := (findSection_append "<summary>A</summary> <".toList
    "remarks><summary>B</summary>".toList .summary).1 "<summary>A</summary>".toList
    (by decide +kernel)
  have hsecond := (findSection_append "b > a <remarks>Old.</remarks> <see\ncref='A'/> ".toList
    "<summary>B</summary>".toList .summary).2 (by decide +kernel)
    ((leftOpen_eq_nil_iff _).mp (by decide +kernel)) (by unfold EndsOutsideTag; decide +kernel)
  have hafter : findSection? "<summary>B</summary>".toList .summary =
      some "<summary>B</summary>".toList := by decide +kernel
  exact ⟨hfirst, hsecond.trans hafter⟩

end DeclDocs.Doc
