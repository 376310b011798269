import DeclDocs.Doc.Search
import DeclDocs.Proofs.TagScan

/-!
The tags of a text, told in two more ways. As a pattern a tag is `<`, an optional slash, a name that
takes as many characters as it can, a filler without angles that takes as few as it can, an optional
slash and `>`; what the scan sees at the head of a text is what the pattern takes first. In the text
itself a tag is a stretch from `<` to `>` with no angle between that starts like a name. Such
stretches never overlap, so the scan, which goes on behind each tag, passes over none of them.
-/
namespace DeclDocs.Doc

open Text

section Preferences

variable {p : Char → Bool} {text : List Char} {taken : List Char × List Char}

/-- One character of a class. Every part of a pattern lists what it may take from the head of a
text, each with what is left then, in the order of preference. -/
def one (p : Char → Bool) : List Char → List (List Char × List Char)
  | [] => []
  | c :: rest => if p c then [([c], rest)] else []

def optional (p : Char → Bool) (text : List Char) : List (List Char × List Char) :=
  one p text ++ [([], text)]

def many (p : Char → Bool) : List Char → List (List Char × List Char)
  | [] => [([], [])]
  | c :: rest =>
      (if p c then (many p rest).map fun taken => (c :: taken.1, taken.2) else []) ++
        [([], c :: rest)]

def few (p : Char → Bool) : List Char → List (List Char × List Char)
  | [] => [([], [])]
  | c :: rest =>
      ([], c :: rest) ::
        if p c then (few p rest).map fun taken => (c :: taken.1, taken.2) else []

theorem one_cons_of_pos {c : Char} {rest : List Char} (h : p c = true) :
    one p (c :: rest) = [([c], rest)] := if_pos h

theorem one_cons_of_neg {c : Char} {rest : List Char} (h : p c = false) :
    one p (c :: rest) = [] := if_neg (by simp [h])

theorem exists_of_mem_one (h : taken ∈ one p text) :
    ∃ c, taken.1 = [c] ∧ text = c :: taken.2 ∧ p c = true := by
  cases text with
  | nil => simp [one] at h
  | cons c rest =>
    by_cases hc : p c = true
    · rw [one_cons_of_pos hc, List.mem_singleton] at h
      exact ⟨c, by rw [h], by rw [h], hc⟩
    · simp [one, hc] at h

theorem eq_append_of_mem_optional (h : taken ∈ optional p text) : text = taken.1 ++ taken.2 := by
  rcases List.mem_append.mp h with hone | hnone
  · obtain ⟨c, htaken, htext, -⟩ := exists_of_mem_one hone
    rw [htaken, htext, List.singleton_append]
  · rw [List.mem_singleton.mp hnone, List.nil_append]

/-- What a repetition takes first is all it can take. -/
theorem exists_many_eq (p : Char → Bool) (text : List Char) :
    ∃ fewer, many p text = (text.takeWhile p, text.dropWhile p) :: fewer := by
  induction text with
  | nil => exact ⟨[], rfl⟩
  | cons c rest ih =>
    by_cases hc : p c = true
    · obtain ⟨fewer, hfewer⟩ := ih
      simp [many, hc, hfewer]
    · simp [many, hc]

theorem eq_append_of_mem_many (h : taken ∈ many p text) :
    text = taken.1 ++ taken.2 ∧ ∀ c ∈ taken.1, p c = true := by
  induction text generalizing taken with
  | nil => simp_all [many]
  | cons c rest ih =>
    by_cases hc : p c = true
    · simp only [many, hc, if_true, List.mem_append, List.mem_map, List.mem_singleton] at h
      rcases h with ⟨later, hlater, rfl⟩ | rfl
      · obtain ⟨hrest, hrun⟩ := ih hlater
        exact ⟨by rw [hrest]; rfl, List.forall_mem_cons.mpr ⟨hc, hrun⟩⟩
      · exact ⟨rfl, by simp⟩
    · simp only [many, hc, Bool.false_eq_true, if_false, List.nil_append, List.mem_singleton] at h
      rw [h]
      exact ⟨rfl, by simp⟩

end Preferences

section Endings

variable {text inner rest : List Char}

def endingsHere (text : List Char) : List (Bool × List Char) :=
  (optional (· == '/') text).flatMap fun mark =>
    (one (· == '>') mark.2).map fun close => (!mark.1.isEmpty, close.2)

def endings (text : List Char) : List (Bool × List Char) :=
  (few (fun c => !isAngle c) text).flatMap fun filler => endingsHere filler.2

theorem endings_cons (c : Char) (rest : List Char) :
    endings (c :: rest) = endingsHere (c :: rest) ++ if isAngle c then [] else endings rest := by
  cases hc : isAngle c with
  | true => simp [endings, few, hc]
  | false => simp [endings, few, hc, List.flatMap_map]

theorem endingsHere_angle (rest : List Char) : endingsHere ('>' :: rest) = [(false, rest)] := rfl

/-- At a character that is not `>` a tag only ends with a slash, right before `>`. -/
theorem endingsHere_cons {c : Char} (hc : c ≠ '>') (rest : List Char) :
    endingsHere (c :: rest) =
      if c = '/' then (one (· == '>') rest).map fun close => (true, close.2) else [] := by
  by_cases hslash : c = '/'
  · subst hslash
    simp [endingsHere, optional, one]
  · simp [endingsHere, optional, one, hslash, hc]

/-- The first ending of an inside without angles is the one at its end, with a slash if there is one
there. -/
theorem head?_endings (hplain : ∀ c ∈ inner, isAngle c = false) (rest : List Char) :
    (endings (inner ++ '>' :: rest)).head? = some (inner.getLast? == some '/', rest) := by
  induction inner with
  | nil =>
    rw [List.nil_append, endings_cons, endingsHere_angle]
    rfl
  | cons c inner ih =>
    obtain ⟨hc, hinner⟩ := List.forall_mem_cons.mp hplain
    have hangle : c ≠ '>' := by
      rintro rfl
      exact absurd hc (by decide)
    rw [List.cons_append, endings_cons, endingsHere_cons hangle, hc]
    cases inner with
    | nil =>
      by_cases hslash : c = '/'
      · simp [hslash, one]
      · have hplain : (c == '/') = false := beq_eq_false_iff_ne.mpr hslash
        simpa [hslash, hplain] using ih hinner
    | cons d inner =>
      -- the slash is not right before `>`, so the filler goes on
      have hd : (d == '>') = false := by
        obtain ⟨hd, -⟩ := List.forall_mem_cons.mp hinner
        rw [beq_eq_false_iff_ne]
        rintro rfl
        exact absurd hd (by decide)
      rw [List.cons_append, one_cons_of_neg (p := (· == '>')) hd, List.map_nil, ite_self,
        List.nil_append]
      simpa using ih hinner

theorem exists_of_mem_endingsHere {ending : Bool × List Char} (h : ending ∈ endingsHere text) :
    ∃ inner, (∀ c ∈ inner, isAngle c = false) ∧ text = inner ++ '>' :: ending.2 := by
  obtain ⟨mark, hmark, hending⟩ := List.mem_flatMap.mp h
  obtain ⟨close, hclose, rfl⟩ := List.mem_map.mp hending
  obtain ⟨c, -, hrest, hc⟩ := exists_of_mem_one hclose
  obtain rfl : c = '>' := beq_iff_eq.mp hc
  refine ⟨mark.1, ?_, by rw [eq_append_of_mem_optional hmark, hrest]⟩
  rcases List.mem_append.mp hmark with hone | hnone
  · obtain ⟨d, hd, -, hslash⟩ := exists_of_mem_one hone
    obtain rfl : d = '/' := beq_iff_eq.mp hslash
    rw [hd]
    intro c hc
    rw [List.mem_singleton.mp hc]
    decide
  · rw [List.mem_singleton.mp hnone]
    simp

/-- Every ending stands behind an inside without angles. -/
theorem exists_of_mem_endings {ending : Bool × List Char} (h : ending ∈ endings text) :
    ∃ inner, (∀ c ∈ inner, isAngle c = false) ∧ text = inner ++ '>' :: ending.2 := by
  induction text with
  | nil => simp [endings, few, endingsHere, optional, one] at h
  | cons c rest ih =>
    rw [endings_cons, List.mem_append] at h
    rcases h with hhere | hlater
    · exact exists_of_mem_endingsHere hhere
    · cases hc : isAngle c with
      | true => simp [hc] at hlater
      | false =>
        rw [hc] at hlater
        obtain ⟨inner, hplain, hrest⟩ := ih hlater
        exact ⟨c :: inner, List.forall_mem_cons.mpr ⟨hc, hplain⟩, by rw [hrest]; rfl⟩

end Endings

section Pattern

variable {start : Nat} {text body inner rest : List Char} {tag : Tag}

/-- The tags that the pattern makes of a body, which stands behind `<` and the optional slash. The
length is that of the whole text, from `<` on. -/
def bodyTags (start length : Nat) (closing : Bool) (body : List Char) : List Tag :=
  (one isNameStart body).flatMap fun first =>
    (many isNameChar first.2).flatMap fun more =>
      (endings more.2).map fun ending =>
        { name := first.1 ++ more.1
          closing := closing
          selfClosing := ending.1
          start := start
          stop := start + (length - ending.2.length) }

def patternTags (start : Nat) (text : List Char) : List Tag :=
  (one (· == '<') text).flatMap fun opening =>
    (optional (· == '/') opening.2).flatMap fun mark =>
      bodyTags start text.length (!mark.1.isEmpty) mark.2

theorem exists_of_mem_bodyTags {length : Nat} {closing : Bool}
    (h : tag ∈ bodyTags start length closing body) :
    ∃ inner rest, IsInside inner ∧ body = inner ++ '>' :: rest := by
  obtain ⟨first, hfirst, hmore⟩ := List.mem_flatMap.mp h
  obtain ⟨more, hmore, htag⟩ := List.mem_flatMap.mp hmore
  obtain ⟨ending, hending, -⟩ := List.mem_map.mp htag
  obtain ⟨c, -, hbody, hc⟩ := exists_of_mem_one hfirst
  obtain ⟨hrest, hname⟩ := eq_append_of_mem_many hmore
  obtain ⟨filler, hfiller, hend⟩ := exists_of_mem_endings hending
  refine ⟨c :: (more.1 ++ filler), ending.2, ⟨⟨c, _, rfl, hc⟩, ?_⟩, ?_⟩
  · intro d hd
    rcases List.mem_cons.mp hd with rfl | hd
    · exact isAngle_of_isNameStart hc
    · rcases List.mem_append.mp hd with hmem | hmem
      · exact isAngle_of_isNameChar (hname d hmem)
      · exact hfiller d hmem
  · rw [hbody, hrest, hend]
    simp

/-- What ends a text also ends what is left of it behind a run of other characters. -/
theorem getLast?_dropWhile_beq {p : Char → Bool} {last : Char} (hlast : p last = false)
    (text : List Char) :
    ((text.dropWhile p).getLast? == some last) = (text.getLast? == some last) := by
  have hparts := congrArg List.getLast? (List.takeWhile_append_dropWhile (p := p) (l := text))
  rw [List.getLast?_append] at hparts
  rw [← hparts]
  cases hrest : (text.dropWhile p).getLast? with
  | some c => rfl
  | none =>
    have hrun : (text.takeWhile p).getLast? ≠ some last := by
      intro h
      have hp := List.mem_takeWhile_imp (List.mem_of_getLast? h)
      exact absurd hp (by simp [hlast])
    simpa using (beq_eq_false_iff_ne.mpr hrun).symm

/-- The pattern rather takes the whole name, and the slash at the end of the inside. -/
theorem head?_bodyTags (h : IsInside inner) (start length : Nat) (closing : Bool)
    (rest : List Char) :
    (bodyTags start length closing (inner ++ '>' :: rest)).head? =
      some ⟨inner.takeWhile isNameChar, closing, inner.getLast? == some '/', start,
        start + (length - rest.length)⟩ := by
  obtain ⟨⟨c, more, rfl, hc⟩, hplain⟩ := h
  have hword : isNameChar c = true := isNameChar_of_isNameStart hc
  obtain ⟨fewer, hfewer⟩ := exists_many_eq isNameChar (more ++ '>' :: rest)
  have hname := takeWhile_append_angle isNameChar more rest (by decide)
  have hleft := dropWhile_append_angle isNameChar more rest (by decide)
  have hfiller : ∀ d ∈ more.dropWhile isNameChar, isAngle d = false := fun d hd =>
    hplain d (List.mem_cons_of_mem c ((List.dropWhile_suffix _).subset hd))
  have hslash : ((more.dropWhile isNameChar).getLast? == some '/') =
      ((c :: more).getLast? == some '/') := by
    have hall := getLast?_dropWhile_beq (p := isNameChar) (by decide : isNameChar '/' = false)
      (c :: more)
    rwa [List.dropWhile_cons_of_pos hword] at hall
  have hending := head?_endings hfiller rest
  rw [hslash] at hending
  rw [List.cons_append, bodyTags, one_cons_of_pos hc, List.flatMap_singleton, hfewer, hname, hleft,
    List.flatMap_cons, List.head?_append, List.head?_map, hending, List.takeWhile_cons_of_pos hword]
  rfl

/-- Whatever the pattern takes is written as a tag. -/
theorem exists_of_mem_patternTags (h : tag ∈ patternTags start text) :
    ∃ closing inner rest, IsInside inner ∧ text = written closing inner ++ rest := by
  obtain ⟨opening, hopening, hmark⟩ := List.mem_flatMap.mp h
  obtain ⟨mark, hmark, htag⟩ := List.mem_flatMap.mp hmark
  obtain ⟨c, -, htext, hc⟩ := exists_of_mem_one hopening
  obtain rfl : c = '<' := beq_iff_eq.mp hc
  obtain ⟨inner, rest, hinside, hbody⟩ := exists_of_mem_bodyTags htag
  rcases List.mem_append.mp hmark with hone | hnone
  · obtain ⟨d, -, hslash, hd⟩ := exists_of_mem_one hone
    obtain rfl : d = '/' := beq_iff_eq.mp hd
    exact ⟨true, inner, rest, hinside, by rw [htext, hslash, hbody]; simp [written, slash]⟩
  · obtain rfl := List.mem_singleton.mp hnone
    exact ⟨false, inner, rest, hinside, by rw [htext, hbody]; simp [written, slash]⟩

theorem patternTags_angle (start : Nat) (behind : List Char) :
    patternTags start ('<' :: behind) = (optional (· == '/') behind).flatMap fun mark =>
      bodyTags start ('<' :: behind).length (!mark.1.isEmpty) mark.2 := by
  rw [patternTags, one_cons_of_pos (by decide), List.flatMap_singleton]

/-- What the pattern takes first from a tag that is written is this tag. -/
theorem head?_patternTags (h : IsInside inner) (start : Nat) (closing : Bool) (rest : List Char) :
    (patternTags start (written closing inner ++ rest)).head? =
      some (tagOf start closing inner) := by
  have htext : written closing inner ++ rest =
      '<' :: (slash closing ++ (inner ++ '>' :: rest)) := by
    simp [written]
  have hstop : ('<' :: (slash closing ++ (inner ++ '>' :: rest))).length - rest.length =
      (written closing inner).length := by
    rw [← htext, List.length_append, Nat.add_sub_cancel]
  have hbody := head?_bodyTags h start ('<' :: (slash closing ++ (inner ++ '>' :: rest))).length
    closing rest
  rw [hstop] at hbody
  rw [htext, patternTags_angle]
  cases closing with
  | true =>
    -- the slash is taken, since a tag can be made with it
    have hmarks : optional (· == '/') (slash true ++ (inner ++ '>' :: rest)) =
        [(['/'], inner ++ '>' :: rest), ([], slash true ++ (inner ++ '>' :: rest))] := rfl
    rw [hmarks, List.flatMap_cons, List.head?_append]
    exact congrArg (Option.or · _) hbody
  | false =>
    obtain ⟨⟨c, more, rfl, hc⟩, -⟩ := h
    have hslash : (c == '/') = false := beq_eq_false_iff_ne.mpr (ne_slash_of_isNameStart hc)
    have hmarks : optional (· == '/') (slash false ++ (c :: more ++ '>' :: rest)) =
        [([], c :: more ++ '>' :: rest)] := by
      simp [optional, slash, one, hslash]
    rw [hmarks, List.flatMap_singleton]
    exact hbody

/-- What the scan sees at the head of a text is what the pattern takes first. -/
theorem tagAt?_eq_head? (start : Nat) (text : List Char) :
    tagAt? start text = (patternTags start text).head? := by
  cases hseen : tagAt? start text with
  | some tag =>
    obtain ⟨closing, inner, rest, hinside, rfl, rfl⟩ := exists_of_tagAt? hseen
    exact (head?_patternTags hinside start closing rest).symm
  | none =>
    cases htaken : (patternTags start text).head? with
    | none => rfl
    | some tag =>
      obtain ⟨closing, inner, rest, hinside, rfl⟩ :=
        exists_of_mem_patternTags (List.mem_of_mem_head? htaken)
      rw [tagAt?_written hinside] at hseen
      cases hseen

end Pattern

section Runs

variable {p : Char → Bool} {text run : List Char}

structure IsLongestRun (p : Char → Bool) (text run : List Char) : Prop where
  head : run <+: text
  all : ∀ c ∈ run, p c = true
  longest : ∀ other, other <+: text → (∀ c ∈ other, p c = true) → other.length ≤ run.length

theorem isLongestRun_takeWhile (p : Char → Bool) (text : List Char) :
    IsLongestRun p text (text.takeWhile p) where
  head := List.takeWhile_prefix p
  all _ hc := List.mem_takeWhile_imp hc
  longest other hother hall := by
    obtain ⟨rest, rfl⟩ := hother
    rw [List.takeWhile_append_of_pos hall, List.length_append]
    exact Nat.le_add_right _ _

theorem IsLongestRun.eq_takeWhile (h : IsLongestRun p text run) : run = text.takeWhile p := by
  have hrun := isLongestRun_takeWhile p text
  have hle := h.longest _ hrun.head hrun.all
  have hge := hrun.longest _ h.head h.all
  exact (List.prefix_of_prefix_length_le h.head hrun.head hge).eq_of_length (by omega)

end Runs

section Stretches

variable {text before inner after : List Char} {closing : Bool} {tag : Tag}

/-- A stretch of a text that is a tag: it goes from `<` to `>` with no angle between, and a letter
or an underscore stands behind `<` and one optional slash. A slash right behind `<` makes it an end
tag, and one right before `>` makes it close itself. -/
structure IsTagIn (text : List Char) (tag : Tag) : Prop where
  within : tag.stop ≤ text.length
  shape : ∃ inside c rest, slice text tag.start tag.stop = '<' :: (inside ++ ['>']) ∧
    (∀ d ∈ inside, d ≠ '<' ∧ d ≠ '>') ∧ (inside = c :: rest ∨ inside = '/' :: c :: rest) ∧
    isNameStart c = true
  closing : tag.closing = true ↔ text[tag.start + 1]? = some '/'
  selfClosing : tag.selfClosing = true ↔ text[tag.stop - 2]? = some '/'
  name : IsLongestRun isNameChar (text.drop (tag.start + if tag.closing then 2 else 1)) tag.name

theorem isAngle_eq_false_iff {c : Char} : isAngle c = false ↔ c ≠ '<' ∧ c ≠ '>' := by
  simp [isAngle]

/-- A slash behind `<` belongs to the end tag, since the inside starts like a name. -/
theorem getElem?_behind_angle (h : IsInside inner) (before after : List Char) (closing : Bool) :
    (before ++ written closing inner ++ after)[before.length + 1]? = some '/' ↔ closing = true := by
  obtain ⟨⟨c, more, rfl, hc⟩, -⟩ := h
  have hne := ne_slash_of_isNameStart hc
  rw [List.append_assoc, List.getElem?_append_right (by omega), Nat.add_sub_cancel_left]
  cases closing with
  | true => simp [written, slash]
  | false => simp [written, slash, hne]

/-- The character before `>` is the last one of the inside. -/
theorem getElem?_before_angle (h : IsInside inner) (before after : List Char) (closing : Bool) :
    (before ++ written closing inner ++ after)[
        before.length + (written closing inner).length - 2]? = inner.getLast? := by
  have hpos : 0 < inner.length := by
    obtain ⟨⟨c, more, rfl, -⟩, -⟩ := h
    simp
  have htext : before ++ written closing inner ++ after =
      (before ++ '<' :: slash closing) ++ (inner ++ '>' :: after) := by simp [written]
  have hindex : before.length + (written closing inner).length - 2 =
      (before ++ '<' :: slash closing).length + (inner.length - 1) := by
    simp only [written, List.length_append, List.length_cons, List.length_nil]
    omega
  rw [htext, hindex, List.getElem?_append_right (by omega), Nat.add_sub_cancel_left,
    List.getElem?_append_left (by omega), List.getLast?_eq_getElem?]

theorem drop_to_inside (before inner after : List Char) (closing : Bool) :
    (before ++ written closing inner ++ after).drop (before.length + if closing then 2 else 1) =
      inner ++ '>' :: after := by
  rw [List.append_assoc, List.drop_length_add_append]
  cases closing with
  | true => simp [written, slash]
  | false => simp [written, slash]

/-- A tag that is written in a text is a stretch of it. -/
theorem isTagIn_tagOf (h : IsInside inner) (before after : List Char) (closing : Bool) :
    IsTagIn (before ++ written closing inner ++ after) (tagOf before.length closing inner) where
  within := by
    simp only [tagOf, List.length_append]
    omega
  shape := by
    have hinside := h
    obtain ⟨⟨c, more, rfl, hc⟩, hplain⟩ := h
    refine ⟨slash closing ++ (c :: more), c, more, slice_append before _ after, ?_, ?_, hc⟩
    · intro d hd
      rw [← isAngle_eq_false_iff]
      rcases List.mem_append.mp hd with hslash | hmem
      · cases closing <;> simp_all [slash, isAngle]
      · exact hplain d hmem
    · cases closing with
      | true => exact .inr rfl
      | false => exact .inl rfl
  closing := (getElem?_behind_angle h before after closing).symm
  selfClosing := by
    have hlast := getElem?_before_angle h before after closing
    simp only [tagOf, hlast, beq_iff_eq]
  name := by
    have hrun := isLongestRun_takeWhile isNameChar (inner ++ '>' :: after)
    rw [takeWhile_append_angle isNameChar inner after (by decide)] at hrun
    rwa [← drop_to_inside before inner after closing] at hrun

/-- The text of a stretch that is a tag is written as one. -/
theorem IsTagIn.exists_slice (h : IsTagIn text tag) :
    ∃ closing inner, IsInside inner ∧ slice text tag.start tag.stop = written closing inner := by
  obtain ⟨inside, c, rest, hslice, hplain, hinside, hc⟩ := h.shape
  rw [hslice]
  simp only [← isAngle_eq_false_iff] at hplain
  rcases hinside with rfl | rfl
  · exact ⟨false, c :: rest, ⟨⟨c, rest, rfl, hc⟩, hplain⟩, by simp [written, slash]⟩
  · exact ⟨true, c :: rest, ⟨⟨c, rest, rfl, hc⟩, (List.forall_mem_cons.mp hplain).2⟩,
      by simp [written, slash]⟩

/-- The text around a stretch, and the stretch. -/
theorem exists_around_slice {start stop : Nat} (hstop : stop ≤ text.length)
    (hne : slice text start stop ≠ []) :
    ∃ before after, text = before ++ slice text start stop ++ after ∧ before.length = start ∧
      stop = start + (slice text start stop).length := by
  have hlength : (slice text start stop).length = stop - start := by
    rw [slice, List.length_drop, List.length_take_of_le hstop]
  have hpos := List.length_pos_iff.mpr hne
  refine ⟨text.take start, text.drop stop, ?_, List.length_take_of_le (by omega), by omega⟩
  have htake : text.take start = (text.take stop).take start := by
    rw [List.take_take, Nat.min_eq_left (by omega)]
  rw [slice, htake, List.take_append_drop, List.take_append_drop]

/-- Every stretch that is a tag is written as one. -/
theorem IsTagIn.exists_written (h : IsTagIn text tag) :
    ∃ before closing inner after, IsInside inner ∧ text = before ++ written closing inner ++ after ∧
      tag = tagOf before.length closing inner := by
  obtain ⟨closing, inner, hinside, hslice⟩ := h.exists_slice
  have hne : slice text tag.start tag.stop ≠ [] := by simp [hslice, written]
  obtain ⟨before, after, htext, hstart, hstop⟩ := exists_around_slice h.within hne
  rw [hslice] at htext hstop
  refine ⟨before, closing, inner, after, hinside, htext, ?_⟩
  rw [← hstart] at hstop
  have hclosing : tag.closing = closing := by
    have hiff := h.closing
    rw [htext, ← hstart, getElem?_behind_angle hinside] at hiff
    exact Bool.eq_iff_iff.mpr hiff
  have hself : tag.selfClosing = (inner.getLast? == some '/') := by
    have hiff := h.selfClosing
    rw [htext, hstop, getElem?_before_angle hinside] at hiff
    rw [Bool.eq_iff_iff, hiff, beq_iff_eq]
  have hname : tag.name = inner.takeWhile isNameChar := by
    have hrun := h.name
    rw [htext, ← hstart, hclosing, drop_to_inside] at hrun
    rw [hrun.eq_takeWhile, takeWhile_append_angle isNameChar inner after (by decide)]
  cases tag
  simp only at hstart hstop hclosing hself hname
  rw [hname, hclosing, hself, ← hstart, hstop]
  rfl

/-- The scan finds the stretches of a text that are tags. -/
theorem mem_tags_iff : tag ∈ tags text ↔ IsTagIn text tag := by
  rw [tags_eq_tagsFrom]
  constructor
  · intro h
    obtain ⟨before, closing, inner, after, hinside, rfl, rfl⟩ := exists_written_of_mem h
    rw [Nat.zero_add]
    exact isTagIn_tagOf hinside before after closing
  · intro h
    obtain ⟨before, closing, inner, after, hinside, rfl, rfl⟩ := h.exists_written
    rw [List.append_assoc, tagsFrom_append_written, tagsFrom_written hinside, Nat.zero_add]
    simp

/-- A tag is seen where it starts. -/
theorem IsTagIn.tagAt?_eq (h : IsTagIn text tag) :
    tagAt? tag.start (text.drop tag.start) = some tag := by
  obtain ⟨before, closing, inner, after, hinside, rfl, rfl⟩ := h.exists_written
  rw [tagOf, List.append_assoc, List.drop_left]
  exact tagAt?_written hinside before.length closing after

theorem IsTagIn.getElem?_start (h : IsTagIn text tag) : text[tag.start]? = some '<' := by
  obtain ⟨before, closing, inner, after, -, rfl, rfl⟩ := h.exists_written
  simp [tagOf, written]

/-- No tag starts inside another one, since behind its first character a tag has no `<`. -/
theorem IsTagIn.stop_le_start {a b : Tag} (ha : IsTagIn text a) (hb : IsTagIn text b)
    (hlt : a.start < b.start) : a.stop ≤ b.start := by
  have hangle := hb.getElem?_start
  obtain ⟨before, closing, inner, after, hinside, rfl, rfl⟩ := ha.exists_written
  by_contra hinto
  simp only [tagOf, written, List.length_cons] at hlt hinto
  obtain ⟨k, hk⟩ : ∃ k, b.start = before.length + (k + 1) :=
    ⟨b.start - before.length - 1, by omega⟩
  rw [hk, List.append_assoc, List.getElem?_append_right (by omega), Nat.add_sub_cancel_left,
    written, List.cons_append, List.getElem?_cons_succ,
    List.getElem?_append_left (by omega)] at hangle
  exact not_mem_tail_written hinside closing (List.mem_of_getElem? hangle)

/-- Two tags of a text are the same or do not overlap. -/
theorem IsTagIn.eq_or_apart {a b : Tag} (ha : IsTagIn text a) (hb : IsTagIn text b) :
    a = b ∨ a.stop ≤ b.start ∨ b.stop ≤ a.start := by
  rcases Nat.lt_trichotomy a.start b.start with hlt | heq | hgt
  · exact .inr (.inl (ha.stop_le_start hb hlt))
  · have hseen := ha.tagAt?_eq
    rw [heq, hb.tagAt?_eq] at hseen
    exact .inl (Option.some.inj hseen).symm
  · exact .inr (.inr (hb.stop_le_start ha hgt))

/-- Tags are seen from left to right. -/
theorem increasing_tagsFrom (position : Nat) (text : List Char) :
    (tagsFrom position text).Pairwise fun a b => a.start < b.start := by
  induction text generalizing position with
  | nil => exact .nil
  | cons c rest ih =>
    rw [tagsFrom, List.pairwise_append]
    refine ⟨?_, ih (position + 1), ?_⟩
    · cases tagAt? position (c :: rest) with
      | none => exact .nil
      | some tag => exact List.pairwise_singleton _ tag
    · intro first hfirst later hlater
      obtain ⟨closing, inner, after, -, -, rfl⟩ := exists_of_tagAt? (Option.mem_toList.mp hfirst)
      obtain ⟨before, closing', inner', after', -, -, rfl⟩ := exists_written_of_mem hlater
      simp only [tagOf]
      omega

theorem apart_tags (text : List Char) : (tags text).Pairwise fun a b => a.stop ≤ b.start := by
  have hincreasing := increasing_tagsFrom 0 text
  rw [← tags_eq_tagsFrom] at hincreasing
  exact hincreasing.imp_of_mem fun ha hb hlt =>
    (mem_tags_iff.mp ha).stop_le_start (mem_tags_iff.mp hb) hlt

end Stretches

/-- The scan lists exactly the stretches of a text that are tags, from left to right. Such stretches
never overlap. At every position the scan sees what the pattern takes first there. -/
theorem tags_are_stretches (text : List Char) :
    (∀ tag, tag ∈ tags text ↔ IsTagIn text tag) ∧
      (tags text).Pairwise (fun a b => a.stop ≤ b.start) ∧
      (∀ a b, IsTagIn text a → IsTagIn text b → a = b ∨ a.stop ≤ b.start ∨ b.stop ≤ a.start) ∧
      ∀ position, tagAt? position (text.drop position) =
        (patternTags position (text.drop position)).head? :=
  ⟨fun _ => mem_tags_iff, apart_tags text, fun _ _ ha hb => ha.eq_or_apart hb,
    fun position => tagAt?_eq_head? position (text.drop position)⟩

end DeclDocs.Doc
