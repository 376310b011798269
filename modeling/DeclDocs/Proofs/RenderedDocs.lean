import DeclDocs.Extract.Documentation
import DeclDocs.Proofs.TagRemoval
import Mathlib.Data.List.Chain

/-!
Documentation that is rendered as comment lines is read back as it was. Every line is put behind the
marker and a blank, between a line with the start tag of the section and one with its end tag. Reading
goes through five stages: the leading comments of a declaration, their blocks, the section in the
first block, its lines without markers and tags, and the lines joined again. Each stage is undone in
turn. The lines may hold any markup, closed or not, except what starts like a tag of the section.
-/
namespace DeclDocs.Doc

open Text

/-- A marker that can be told from what follows it and from markup. -/
structure Marker.IsPlain (marker : Marker) : Prop where
  ink : StartsInk marker.chars
  last_ne : marker.last ≠ ' '
  no_angle : '<' ∉ marker.chars
  unbroken : '\n' ∉ marker.chars

theorem isPlain_marker (g : Grammar) : g.marker.IsPlain := by
  cases g with
  | csharp => exact ⟨⟨'/', ['/', '/'], rfl, by decide⟩, by decide, by decide, by decide⟩
  | visualBasic =>
    exact ⟨⟨'\x27', ['\x27', '\x27'], rfl, by decide⟩, by decide, by decide, by decide⟩

def startTag (wanted : Section) : List Char := written false wanted.name.toList

def endTag (wanted : Section) : List Char := written true wanted.name.toList

def commentLine (marker : Marker) (line : List Char) : List Char := marker.chars ++ ' ' :: line

def rendered (marker : Marker) (wanted : Section) (lines : List (List Char)) :
    List (List Char) :=
  (startTag wanted :: (lines ++ [endTag wanted])).map (commentLine marker)

/-- The lines of the section in its block: its first line starts behind the marker. -/
def sectionLines (marker : Marker) (wanted : Section) (lines : List (List Char)) :
    List (List Char) :=
  startTag wanted :: (lines ++ [endTag wanted]).map (commentLine marker)

/-- A line of prose: trimmed, on one line, and without the start of a tag of the section. -/
structure IsProse (wanted : Section) (line : List Char) : Prop where
  nonempty : line ≠ []
  trimmed : trim line = line
  unbroken : '\n' ∉ line
  noStartTag : ¬ ('<' :: wanted.name.toList) <:+: line
  noEndTag : ¬ ('<' :: '/' :: wanted.name.toList) <:+: line

theorem IsProse.ink {wanted : Section} {line : List Char} (h : IsProse wanted line) :
    StartsInk line ∧ EndsInk line := by
  have hne : trim line ≠ [] := by
    rw [h.trimmed]
    exact h.nonempty
  simpa only [h.trimmed] using ink_of_trim hne

/-- The lines between the tags, and the tags themselves, are each on one line and end with ink. -/
theorem unbroken_and_endsInk {wanted : Section} {lines : List (List Char)}
    (hlines : ∀ l ∈ lines, IsProse wanted l) {line : List Char}
    (hline : line ∈ startTag wanted :: (lines ++ [endTag wanted])) :
    '\n' ∉ line ∧ EndsInk line := by
  have hwritten : ∀ closing, '\n' ∉ written closing wanted.name.toList := by
    intro closing hmem
    have hfree := (isName_section wanted).not_mem (c := '\n') (by decide)
    cases closing <;> simp_all [written, slash]
  rcases List.mem_cons.mp hline with rfl | hline
  · exact ⟨hwritten false, written_endsInk _ _⟩
  · rcases List.mem_append.mp hline with hprose | hend
    · exact ⟨(hlines line hprose).unbroken, (hlines line hprose).ink.2⟩
    · rw [List.mem_singleton.mp hend]
      exact ⟨hwritten true, written_endsInk _ _⟩

section Cleaning

variable {marker : Marker} (hmarker : marker.IsPlain) {line : List Char}

include hmarker

theorem trim_commentLine (hend : EndsInk line) :
    trim (commentLine marker line) = commentLine marker line := by
  apply trim_eq_self
  · exact hmarker.ink.append _
  · have hcons : EndsInk (' ' :: line) := hend.append [' ']
    exact hcons.append marker.chars

theorem stripMarker_commentLine (hstart : StartsInk line) (hend : EndsInk line) :
    stripMarker marker.chars (trim (commentLine marker line)) = line := by
  have htrim := trim_append_append hstart hend [' '] []
  have hblank : trimStart [' '] = [] := by decide
  rw [hblank, List.append_nil, List.singleton_append] at htrim
  rw [trim_commentLine hmarker hend, stripMarker, commentLine, dropStart?_append]
  simpa [trimEnd] using htrim

theorem cleanLine_commentLine (wanted : Section) (hstart : StartsInk line) (hend : EndsInk line) :
    cleanLine wanted marker.chars (commentLine marker line) =
      trim (dropSectionTags wanted.name.toList 0 line) := by
  rw [cleanLine, stripMarker_commentLine hmarker hstart hend]

theorem cleanLine_prose {wanted : Section} (h : IsProse wanted line) :
    cleanLine wanted marker.chars (commentLine marker line) = line := by
  have hkeep : dropSectionTags wanted.name.toList 0 line = line := by
    apply dropSectionTags_eq_self (isName_section wanted)
    rintro tag ⟨closing, tail, -, rfl⟩ hin
    cases closing with
    | false =>
      apply h.noStartTag
      refine List.IsInfix.trans ?_ hin
      exact ⟨[], tail, by simp [slash]⟩
    | true =>
      apply h.noEndTag
      refine List.IsInfix.trans ?_ hin
      exact ⟨[], tail, by simp [slash]⟩
  rw [cleanLine_commentLine hmarker wanted h.ink.1 h.ink.2, hkeep, h.trimmed]

theorem cleanLine_endTag (wanted : Section) :
    cleanLine wanted marker.chars (commentLine marker (endTag wanted)) = [] := by
  rw [endTag, cleanLine_commentLine hmarker wanted (written_startsInk _ _) (written_endsInk _ _),
    dropSectionTags_written (isName_section wanted)]
  rfl

theorem cleanLine_startTag (wanted : Section) :
    cleanLine wanted marker.chars (startTag wanted) = [] := by
  have htrim : trim (startTag wanted) = startTag wanted :=
    trim_eq_self (written_startsInk _ _) (written_endsInk _ _)
  -- The section starts behind the marker of its first line, so no marker is found here.
  have hstrip : stripMarker marker.chars (startTag wanted) = startTag wanted := by
    rw [stripMarker]
    split
    · rename_i rest hrest
      obtain ⟨c, more, hchars, -⟩ := hmarker.ink
      have htext := dropStart?_eq_some_iff.mp hrest
      rw [hchars, startTag, written, List.cons_append] at htext
      have hc : c = '<' := (List.cons.inj htext).1.symm
      have hmem : '<' ∈ marker.chars := by simp [hchars, hc]
      exact absurd hmem hmarker.no_angle
    · rfl
  rw [cleanLine, htrim, hstrip, startTag, dropSectionTags_written (isName_section wanted)]
  rfl

/-- The lines of the section are what splitting gives back, and none is blank. -/
theorem unbroken_and_ink_of_sectionLines {wanted : Section} {lines : List (List Char)}
    (hlines : ∀ l ∈ lines, IsProse wanted l) {line : List Char}
    (hline : line ∈ sectionLines marker wanted lines) : '\n' ∉ line ∧ trim line ≠ [] := by
  rcases List.mem_cons.mp hline with rfl | hline
  · refine ⟨(unbroken_and_endsInk hlines List.mem_cons_self).1, ?_⟩
    rw [startTag, trim_eq_self (written_startsInk _ _) (written_endsInk _ _)]
    simp [written]
  · obtain ⟨l, hl, rfl⟩ := List.mem_map.mp hline
    obtain ⟨hfree, hend⟩ := unbroken_and_endsInk hlines (List.mem_cons_of_mem _ hl)
    rw [trim_commentLine hmarker hend]
    exact ⟨by simp [commentLine, hmarker.unbroken, hfree], by simp [commentLine]⟩

/-- Cleaning the lines of a section gives the prose back. -/
theorem clean_section {wanted : Section} {lines : List (List Char)}
    (hlines : ∀ l ∈ lines, IsProse wanted l) :
    clean wanted marker.chars (blockText (sectionLines marker wanted lines)) =
      [' '].intercalate lines := by
  have hsplit : splitOn '\n' (blockText (sectionLines marker wanted lines)) =
      sectionLines marker wanted lines := by
    apply splitOn_intercalate
    · intro line hline
      exact (unbroken_and_ink_of_sectionLines hmarker hlines hline).1
    · simp [sectionLines]
  have hkeep : (sectionLines marker wanted lines).filter (fun line => !(trim line).isEmpty) =
      sectionLines marker wanted lines := by
    rw [List.filter_eq_self]
    intro line hline
    simpa using (unbroken_and_ink_of_sectionLines hmarker hlines hline).2
  have hmap : (lines.map (commentLine marker)).map (cleanLine wanted marker.chars) = lines := by
    rw [List.map_map]
    exact (List.map_congr_left fun l hl => cleanLine_prose hmarker (hlines l hl)).trans
      (List.map_id lines)
  have hfull : lines.filter (fun line => !line.isEmpty) = lines := by
    rw [List.filter_eq_self]
    intro l hl
    simpa using (hlines l hl).nonempty
  rw [clean, hsplit, hkeep, sectionLines, List.map_cons, List.map_append, List.map_append, hmap,
    cleanLine_startTag hmarker]
  simp [cleanLine_endTag hmarker, hfull]

end Cleaning

section Searching

variable {marker : Marker} {wanted : Section}

def body (marker : Marker) : List (List Char) → List Char
  | [] => commentLine marker []
  | line :: rest => commentLine marker line ++ '\n' :: body marker rest

theorem blockText_section (marker : Marker) (first last : List Char) (lines : List (List Char)) :
    blockText (first :: (lines ++ [last]).map (commentLine marker)) =
      first ++ '\n' :: body marker lines ++ last := by
  induction lines generalizing first with
  | nil => simp [blockText, body, commentLine]
  | cons line rest ih =>
    have hrest := ih (commentLine marker line)
    rw [blockText] at hrest
    rw [blockText, List.cons_append, List.map_cons, List.intercalate_cons_cons, hrest, body]
    simp

/-- The first comment line has the marker before the section, and further lines of the block come
behind it. -/
theorem exists_blockText_rendered (marker : Marker) (wanted : Section)
    (lines more : List (List Char)) :
    ∃ tail, blockText (rendered marker wanted lines ++ more) =
      (marker.chars ++ [' ']) ++
        (startTag wanted ++ '\n' :: body marker lines ++ endTag wanted) ++ tail := by
  have hwhole : blockText (rendered marker wanted lines) =
      (marker.chars ++ [' ']) ++ (startTag wanted ++ '\n' :: body marker lines ++ endTag wanted) := by
    rw [rendered, List.map_cons, blockText_section]
    simp [commentLine]
  by_cases hmore : more = []
  · exact ⟨[], by simp [hmore, hwhole]⟩
  · refine ⟨['\n'] ++ blockText more, ?_⟩
    rw [blockText] at hwhole
    rw [blockText, intercalate_append _ (by simp [rendered]) hmore, hwhole, blockText,
      List.append_assoc]

/-- What starts with `<` and is on one line stands in a line of the prose. -/
theorem infix_body (hmarker : marker.IsPlain) {lines : List (List Char)} {part : List Char}
    (hpart : '\n' ∉ '<' :: part) (h : ('<' :: part) <:+: body marker lines) :
    ∃ l ∈ lines, ('<' :: part) <:+: l := by
  have hline : ∀ l, ('<' :: part) <:+: commentLine marker l → ('<' :: part) <:+: l := by
    intro l hl
    have hsplit : commentLine marker l = (marker.chars ++ [' ']) ++ l := by simp [commentLine]
    rw [hsplit] at hl
    exact infix_of_head hl (by simp [hmarker.no_angle])
  induction lines with
  | nil => simpa using hline [] h
  | cons line rest ih =>
    rcases infix_of_separator h hpart with hfirst | hrest
    · exact ⟨line, List.mem_cons_self, hline line hfirst⟩
    · obtain ⟨l, hl, hin⟩ := ih hrest
      exact ⟨l, List.mem_cons_of_mem line hl, hin⟩

/-- No tag between the tags of the section has its name. -/
theorem name_ne_of_mem_body (hmarker : marker.IsPlain) {lines : List (List Char)}
    (hlines : ∀ l ∈ lines, IsProse wanted l) {position : Nat} {tag : Tag}
    (h : tag ∈ tagsFrom position ('\n' :: body marker lines)) : tag.name ≠ wanted.name.toList := by
  rintro heq
  obtain ⟨before, closing, inner, after, -, htext, rfl⟩ := exists_written_of_mem h
  have hname : inner.takeWhile isNameChar = wanted.name.toList := heq
  have hwritten : ('<' :: (slash closing ++ wanted.name.toList)) <:+: written closing inner := by
    refine ⟨[], inner.dropWhile isNameChar ++ ['>'], ?_⟩
    conv => rhs; rw [written, ← List.takeWhile_append_dropWhile (p := isNameChar) (l := inner), hname]
    simp
  have hin : ('<' :: (slash closing ++ wanted.name.toList)) <:+: ['\n'] ++ body marker lines := by
    rw [List.singleton_append, htext]
    exact hwritten.trans (List.infix_append _ _ _)
  have hfree := (isName_section wanted).not_mem (c := '\n') (by decide)
  have hpart : '\n' ∉ '<' :: (slash closing ++ wanted.name.toList) := by
    cases closing <;> simpa [slash] using hfree
  obtain ⟨l, hl, hin⟩ := infix_body hmarker hpart (infix_of_head hin (by simp))
  cases closing with
  | false => exact (hlines l hl).noStartTag (by simpa [slash] using hin)
  | true => exact (hlines l hl).noEndTag (by simpa [slash] using hin)

theorem closeElement_append {name : List Char} {above : List (List Char)} (h : name ∈ above)
    (below : List (List Char)) :
    closeElement name (above ++ below) = closeElement name above ++ below := by
  have hne : above.dropWhile (fun n => n != name) ≠ [] := by
    intro hnil
    have hall := List.dropWhile_eq_nil_iff.mp hnil name h
    simp at hall
  rw [closeElement, List.dropWhile_append, if_neg (by simpa using hne), List.tail_append_of_ne_nil hne,
    closeElement]

/-- Elements of other names cannot close the section, so its own end tag ends the search. -/
theorem searchFrom_enclosed {name : List Char} {inner : List Tag}
    (hinner : ∀ tag ∈ inner, tag.name ≠ name) (above : List (List Char)) (habove : name ∉ above)
    (start first stop : Nat) (rest : List Tag) :
    searchFrom name (above ++ [name]) (some start)
        (inner ++ ⟨name, true, false, first, stop⟩ :: rest) = .found start stop := by
  induction inner generalizing above with
  | nil =>
    have hpass : ∀ n ∈ above, (n != name) = true := by
      intro n hn
      have hne : n ≠ name := by
        rintro rfl
        exact habove hn
      simpa using hne
    have hclose : closeElement name (above ++ [name]) = [] := by
      rw [closeElement, List.dropWhile_append_of_pos hpass, List.dropWhile_cons_of_neg (by simp),
        List.tail_cons]
    simp [searchFrom, hclose]
  | cons tag inner ih =>
    have hne : tag.name ≠ name := hinner tag List.mem_cons_self
    have ih' := ih fun t ht => hinner t (List.mem_cons_of_mem tag ht)
    rw [List.cons_append, searchFrom]
    by_cases hself : tag.selfClosing = true
    · simp only [hself, if_true]
      exact ih' above habove
    · by_cases hclosing : tag.closing = true
      · by_cases hmem : tag.name ∈ above
        · have hless : name ∉ closeElement tag.name above := by
            intro hin
            have hsub : (closeElement tag.name above).Sublist above :=
              (List.tail_sublist _).trans (List.dropWhile_sublist _)
            exact habove (hsub.subset hin)
          simpa [hself, hclosing, hmem, closeElement_append hmem] using ih' _ hless
        · simpa [hself, hclosing, hmem, hne] using ih' above habove
      · have hmore : name ∉ tag.name :: above := by simp [habove, Ne.symm hne]
        simpa [hself, hclosing] using ih' (tag.name :: above) hmore

/-- A section is found behind prose without `<` if no tag inside has its name. -/
theorem search_wrapped (before inner after : List Char) (hbefore : '<' ∉ before)
    (hinner : ∀ position, ∀ tag ∈ tagsFrom position inner, tag.name ≠ wanted.name.toList) :
    search (before ++ (startTag wanted ++ inner ++ endTag wanted) ++ after) wanted =
      .found before.length
        (before.length + (startTag wanted ++ inner ++ endTag wanted).length) := by
  rw [startTag, endTag]
  have hname := isName_section wanted
  generalize hlength : (written false wanted.name.toList).length = length
  have hinside := hinner (before.length + length)
  rw [search, tags_eq_tagsFrom, List.append_assoc, tagsFrom_append_of_not_mem _ _ _ hbefore,
    List.append_assoc, List.append_assoc, tagsFrom_written hname.isInside,
    tagsFrom_append_written, tagsFrom_written hname.isInside, hname.tagOf_eq, hname.tagOf_eq,
    Nat.zero_add, hlength]
  have hfound := searchFrom_enclosed hinside [] (by simp) before.length
  rw [List.nil_append] at hfound
  simp [searchFrom, hfound, hlength, Nat.add_assoc]

/-- The section is found in every block that starts with the lines rendered. -/
theorem search_rendered (hmarker : marker.IsPlain) {lines : List (List Char)}
    (hlines : ∀ l ∈ lines, IsProse wanted l) (more : List (List Char)) :
    ∃ start stop, search (blockText (rendered marker wanted lines ++ more)) wanted =
        .found start stop ∧
      slice (blockText (rendered marker wanted lines ++ more)) start stop =
        blockText (sectionLines marker wanted lines) := by
  obtain ⟨tail, htext⟩ := exists_blockText_rendered marker wanted lines more
  have hsearch := search_wrapped (marker.chars ++ [' ']) ('\n' :: body marker lines) tail
    (by simp [hmarker.no_angle]) fun _ _ htag => name_ne_of_mem_body hmarker hlines htag
  rw [htext]
  refine ⟨_, _, hsearch, ?_⟩
  rw [slice_append, sectionLines, blockText_section]

end Searching

section Grouping

variable {marker : Marker}

theorem isDocComment_commentLine (hmarker : marker.IsPlain) {line : List Char}
    (hend : EndsInk line) : isDocComment marker (commentLine marker line) = true := by
  have hno : (marker.chars ++ [marker.last]).isPrefixOf (commentLine marker line) = false := by
    rw [Bool.eq_false_iff]
    intro hprefix
    obtain ⟨rest, hrest⟩ := List.isPrefixOf_iff_prefix.mp hprefix
    rw [commentLine, List.append_assoc] at hrest
    exact hmarker.last_ne (List.cons.inj (List.append_cancel_left hrest)).1
  rw [isDocComment, trim_commentLine hmarker hend, hno, commentLine]
  simp

/-- Documentation comments on consecutive rows are added to the open block. -/
theorem exists_groupFrom_append (comments rest : List Comment) (lines : List (List Char))
    (lastRow : Nat) (hdoc : ∀ c ∈ comments, isDocComment marker c.text = true)
    (hrows : comments.IsChain fun a b => b.firstRow ≤ a.lastRow + 1)
    (hfirst : lines = [] ∨ ∀ c ∈ comments.head?, c.firstRow ≤ lastRow + 1) :
    ∃ row, groupFrom marker lines lastRow (comments ++ rest) =
      groupFrom marker ((comments.map fun c => trim c.text).reverse ++ lines) row rest := by
  induction comments generalizing lines lastRow with
  | nil => exact ⟨lastRow, rfl⟩
  | cons c comments ih =>
    have hc : isDocComment marker c.text = true := hdoc c List.mem_cons_self
    have hjoin : (!lines.isEmpty && decide (lastRow + 1 < c.firstRow)) = false := by
      rcases hfirst with rfl | hfirst
      · rfl
      · have hle := hfirst c rfl
        have hlt : ¬ lastRow + 1 < c.firstRow := by omega
        simp [hlt]
    have hnext : ∀ d ∈ comments.head?, d.firstRow ≤ c.lastRow + 1 := by
      intro d hd
      cases comments with
      | nil => simp at hd
      | cons e comments =>
        obtain rfl : e = d := by simpa using hd
        exact (List.isChain_cons_cons.mp hrows).1
    obtain ⟨row, hrow⟩ := ih (trim c.text :: lines) c.lastRow
      (fun d hd => hdoc d (List.mem_cons_of_mem c hd)) hrows.tail (Or.inr hnext)
    refine ⟨row, ?_⟩
    rw [List.cons_append, groupFrom, hc, hjoin]
    simpa using hrow

theorem exists_groupFrom_of_open (marker : Marker) {lines : List (List Char)} (lastRow : Nat)
    (comments : List Comment) (hlines : lines ≠ []) :
    ∃ more others, groupFrom marker lines lastRow comments = (lines.reverse ++ more) :: others := by
  have hclose : closeBlock lines = [lines.reverse] := by simp [closeBlock, hlines]
  induction comments generalizing lines lastRow with
  | nil => exact ⟨[], [], by simp [groupFrom, hclose]⟩
  | cons c comments ih =>
    rw [groupFrom]
    split
    · exact ⟨[], _, by rw [hclose, List.append_nil]; rfl⟩
    · split
      · exact ⟨[], _, by rw [hclose, List.append_nil]; rfl⟩
      · obtain ⟨more, others, hgroup⟩ := ih c.lastRow
          (List.cons_ne_nil (trim c.text) lines) (by simp [closeBlock])
        exact ⟨trim c.text :: more, others, by rw [hgroup]; simp⟩

/-- The first block starts with the comment lines of the section. -/
theorem exists_blocks_rendered (hmarker : marker.IsPlain) {wanted : Section}
    {lines : List (List Char)} (hlines : ∀ l ∈ lines, IsProse wanted l)
    (comments rest : List Comment)
    (htexts : comments.map (·.text) = rendered marker wanted lines)
    (hrows : comments.IsChain fun a b => b.firstRow ≤ a.lastRow + 1) :
    ∃ more others, blocks marker (comments ++ rest) =
      (rendered marker wanted lines ++ more) :: others := by
  have hink : ∀ text ∈ rendered marker wanted lines,
      isDocComment marker text = true ∧ trim text = text := by
    intro text htext
    obtain ⟨line, hline, rfl⟩ := List.mem_map.mp htext
    have hend := (unbroken_and_endsInk hlines hline).2
    exact ⟨isDocComment_commentLine hmarker hend, trim_commentLine hmarker hend⟩
  have hdoc : ∀ c ∈ comments, isDocComment marker c.text = true ∧ trim c.text = c.text := by
    intro c hc
    exact hink c.text (htexts ▸ List.mem_map_of_mem hc)
  obtain ⟨row, hrow⟩ := exists_groupFrom_append comments rest [] 0 (fun c hc => (hdoc c hc).1) hrows
    (Or.inl rfl)
  have htrim : (comments.map fun c => trim c.text) = rendered marker wanted lines := by
    rw [← htexts]
    exact List.map_congr_left fun c hc => (hdoc c hc).2
  rw [htrim, List.append_nil] at hrow
  have hopen : (rendered marker wanted lines).reverse ≠ [] := by simp [rendered]
  obtain ⟨more, others, hgroup⟩ := exists_groupFrom_of_open marker row rest hopen
  exact ⟨more, others, by rw [blocks, hrow, hgroup, List.reverse_reverse]⟩

end Grouping

end DeclDocs.Doc

namespace DeclDocs.Extract

open Syntax Doc

theorem rowOf_le (t : Tree) {first last : Nat} (h : first ≤ last) : t.rowOf first ≤ t.rowOf last :=
  (List.take_sublist_take_left h).count_le 10

/-- A node with text does not end before the row it starts on. -/
theorem firstRow_le_lastRow {t : Tree} {n : t.Node} {text : List Char}
    (h : t.textChars? n = some text) (hne : text ≠ []) : t.firstRow n ≤ t.lastRow n := by
  apply rowOf_le
  obtain ⟨octets, hoctets, rfl⟩ := Option.map_eq_some_iff.mp h
  rw [Tree.nodeOctets?] at hoctets
  split at hoctets
  · simp at hoctets
  · obtain rfl := Option.some.inj hoctets
    by_cases hle : (t.row n).start ≤ (t.row n).stop
    · exact hle
    · have hempty : t.octets (t.row n).start (t.row n).stop = [] := by
        rw [Tree.octets, List.drop_eq_nil_iff, List.length_take]
        omega
      exact absurd (by rw [hempty]; rfl) hne

section Comments

variable {t : Tree} {comments : List t.Node} {texts : List (List Char)}

theorem map_text_commentAt (htexts : comments.map t.textChars? = texts.map some) :
    (comments.map (commentAt t)).map (·.text) = texts := by
  calc (comments.map (commentAt t)).map (·.text)
      = (comments.map t.textChars?).map (·.getD []) := by simp [commentAt]
    _ = (texts.map some).map (·.getD []) := by rw [htexts]
    _ = texts := by simp [Function.comp_def]

/-- Comments that start on consecutive rows leave no row between them. -/
theorem isChain_commentAt (htexts : comments.map t.textChars? = texts.map some)
    (hne : ∀ text ∈ texts, text ≠ [])
    (hrows : comments.IsChain fun a b => t.firstRow b = t.firstRow a + 1) :
    (comments.map (commentAt t)).IsChain fun a b => b.firstRow ≤ a.lastRow + 1 := by
  rw [List.isChain_map]
  refine hrows.imp_of_mem_imp ?_
  intro a b ha _ hrow
  have hmem : t.textChars? a ∈ texts.map some := htexts ▸ List.mem_map_of_mem ha
  obtain ⟨text, htext, heq⟩ := List.mem_map.mp hmem
  have hle := firstRow_le_lastRow heq.symm (hne text htext)
  change t.firstRow b ≤ t.lastRow a + 1
  omega

end Comments

/-- The section is found in the first block, and the search ends there. -/
theorem sectionInBlocks_rendered {marker : Marker} (hmarker : marker.IsPlain) {wanted : Section}
    {lines : List (List Char)} (hlines : ∀ l ∈ lines, IsProse wanted l)
    (more : List (List Char)) (others : List (List (List Char))) :
    sectionInBlocks wanted ((rendered marker wanted lines ++ more) :: others) =
      pure (some (blockText (sectionLines marker wanted lines))) := by
  obtain ⟨start, stop, hfound, hslice⟩ := search_rendered hmarker hlines more
  rw [← hslice, sectionInBlocks]
  simp only [hfound]

/-- A declaration whose leading comments start with rendered documentation has that documentation,
and nothing is reported about it. -/
theorem documentation_of_rendered (g : Grammar) (t : Tree) (wanted : Section) (n : t.Node)
    (lines : List (List Char)) (hlines : ∀ l ∈ lines, IsProse wanted l)
    (comments rest : List t.Node)
    (hleading : leadingComments t g.layout (g.anchor t n) = comments ++ rest)
    (htexts : comments.map t.textChars? = (rendered g.marker wanted lines).map some)
    (hrows : comments.IsChain fun a b => t.firstRow b = t.firstRow a + 1) :
    documentation g t wanted n = pure (String.ofList ([' '].intercalate lines)) := by
  have hne : ∀ text ∈ rendered g.marker wanted lines, text ≠ [] := by
    intro text htext
    obtain ⟨line, -, rfl⟩ := List.mem_map.mp htext
    simp [commentLine]
  obtain ⟨more, others, hblocks⟩ := exists_blocks_rendered (isPlain_marker g) hlines
    (comments.map (commentAt t)) (rest.map (commentAt t)) (map_text_commentAt htexts)
    (isChain_commentAt htexts hne hrows)
  rw [documentation, attachedSection, hleading, List.map_append, hblocks,
    sectionInBlocks_rendered (isPlain_marker g) hlines, pure_bind]
  simp only [clean_section (isPlain_marker g) hlines]

def documentedClass : Tree where
  source := ("''' <summary>\n''' a <b> & c\n''' ''' </p>\n''' </summary>\n' <summary>\n" ++
    "Class C\nEnd Class").toList.map fun c => c.toNat.toUInt8
  rows := #[⟨none, "source_file", 0, 85, true, false, false, ""⟩,
    ⟨some 0, "comment", 0, 13, true, false, false, ""⟩,
    ⟨some 0, "comment", 14, 27, true, false, false, ""⟩,
    ⟨some 0, "comment", 28, 40, true, false, false, ""⟩,
    ⟨some 0, "comment", 41, 55, true, false, false, ""⟩,
    ⟨some 0, "comment", 56, 67, true, false, false, ""⟩,
    ⟨some 0, "type_declaration", 68, 85, true, false, false, ""⟩,
    ⟨some 6, "class_block", 68, 85, true, false, false, ""⟩]
  hasError := false
  nonempty := by decide
  placed := by decide +kernel

theorem documentation_documentedClass :
    documentation .visualBasic documentedClass .summary ⟨7, by decide⟩ =
      pure "a <b> & c ''' </p>" := by
  have hlines : ∀ l ∈ ["a <b> & c".toList, "''' </p>".toList], IsProse .summary l := by
    intro l hl
    rcases List.mem_pair.mp hl with rfl | rfl
    · exact ⟨by decide, by decide +kernel, by decide, by decide +kernel, by decide +kernel⟩
    · exact ⟨by decide, by decide +kernel, by decide, by decide +kernel, by decide +kernel⟩
  have htext : String.ofList ([' '].intercalate ["a <b> & c".toList, "''' </p>".toList]) =
      "a <b> & c ''' </p>" := by decide +kernel
  rw [← htext]
  exact documentation_of_rendered .visualBasic documentedClass .summary ⟨7, by decide⟩ _ hlines
    [⟨1, by decide⟩, ⟨2, by decide⟩, ⟨3, by decide⟩, ⟨4, by decide⟩] [⟨5, by decide⟩]
    (by decide +kernel) (by decide +kernel) (by decide +kernel)

end DeclDocs.Extract
