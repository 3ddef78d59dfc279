import RoutePattern.Caret
import RoutePattern.Proofs.Table.Positions
import RoutePattern.Proofs.Text.Lines
import RoutePattern.Proofs.Text.Numeral

/-!
# The caret under an error

An error of a pattern is shown with the pattern and a caret in the line below. The width of the
gutter, the place of the pattern in its line and the offset of the error all move the caret.
`render_caret` is the main result: wherever the pattern stands, the caret stands below the character
at the offset of the error, or behind the pattern if the error is at its end.
-/

namespace RoutePattern

/-! ## The offset of an error -/

/-- The errors that scanning or reading a pattern ends with. -/
inductive PatternError.Raised (options : Options) (source : String) : PatternError → Prop where
  | scanning {error : ScanError} (h : scan source = .error error) :
      Raised options source (.lexical error)
  | reading {error : PatternError} (h : parse options source = .error error) :
      Raised options source error

/-- A scan fails at a character of the pattern. -/
theorem index_lt_of_scan {source : String} {error : ScanError} (h : scan source = .error error) :
    error.index < source.toList.length :=
  (List.getElem?_eq_some_iff.mp (culprit_of_scan h)).1

/-- An error is at a character of the pattern or at its end. -/
theorem PatternError.Raised.exists_offset {options : Options} {source : String}
    {error : PatternError} (h : error.Raised options source) :
    ∃ offset : Nat, error.index = offset ∧ offset ≤ source.toList.length := by
  cases h with
  | scanning h => exact ⟨_, rfl, (index_lt_of_scan h).le⟩
  | reading h =>
      cases error with
      | lexical error => exact ⟨_, rfl, (index_lt_of_scan (scan_of_parse h)).le⟩
      | grammatical error =>
          obtain ⟨lexeme, offset, hconcerns⟩ := exists_concerns h
          obtain ⟨before, after, hsource, hbefore, _⟩ := hconcerns.stands
          refine ⟨offset, hconcerns.index.trans hconcerns.placed, ?_⟩
          rw [hsource, List.append_assoc, List.length_append, hbefore]
          exact Nat.le_add_right _ _

/-! ## The lines of a report -/

/-- The number of a line as it stands in the gutter. -/
def FilePlace.number (place : FilePlace) : List Char :=
  place.line.repr.toList

/-- The line and the column that are told for an offset of a text. -/
def FilePlace.position (place : FilePlace) (offset : Nat) : List Char :=
  ':' :: place.number ++ ':' :: (place.columnOffset + offset + 1).repr.toList

/-- The part of a line that is the gutter, where it holds no number. -/
def FilePlace.emptyGutter (place : FilePlace) : List Char :=
  List.replicate (place.number.length + 1) ' ' ++ ['|']

/-- The line with the text that a report is about. -/
def Report.textLine (report : Report) (place : FilePlace) : List Char :=
  place.number ++ ' ' :: '|' :: ' ' :: List.replicate place.columnOffset.toNat ' '
    ++ report.source.toList

/-- The line with the caret for an offset of a text. -/
def FilePlace.caretLine (place : FilePlace) (offset : Nat) : List Char :=
  place.emptyGutter ++ List.replicate (place.columnOffset.toNat + offset + 1) ' ' ++ ['^']

/-- How the last two lines of a report show a place of its text. -/
structure Report.Shown (report : Report) (place : FilePlace) (offset : Nat)
    (upper lower : List Char) : Prop where
  /-- The number of the line, a bar, and the text behind as many blanks as it has in front of it. -/
  upper_eq : upper = place.number ++ ' ' :: '|' :: ' ' ::
    List.replicate place.columnOffset.toNat ' ' ++ report.source.toList
  /-- Blanks, a bar, and blanks up to a caret. -/
  lower_eq : ∃ before behind,
    lower = List.replicate before ' ' ++ '|' :: List.replicate behind ' ' ++ ['^']
  bars : upper.idxOf '|' = lower.idxOf '|'
  /-- The caret is as far from the column where the text begins as the place is from its beginning. -/
  caret : ∃ front, upper = front ++ report.source.toList ∧
    lower.idxOf '^' = front.length + offset

section Report

variable {report : Report} {place : FilePlace} {offset : Nat} {upper lower : List Char}

/-- The caret stands below the character that it points at. -/
theorem Report.Shown.getElem?_eq (h : report.Shown place offset upper lower) :
    upper[lower.idxOf '^']? = report.source.toList[offset]? := by
  obtain ⟨front, rfl, hcaret⟩ := h.caret
  rw [hcaret, List.getElem?_append_right (Nat.le_add_right _ _), Nat.add_sub_cancel_left]

/-- Behind the text the caret stands behind the line. -/
theorem Report.Shown.idxOf_eq_length (h : report.Shown place offset upper lower)
    (hend : offset = report.source.toList.length) : lower.idxOf '^' = upper.length := by
  obtain ⟨front, rfl, hcaret⟩ := h.caret
  rw [hcaret, hend, List.length_append]

/-- Blanks in front of a text put off the first place of any other mark. -/
theorem idxOf_replicate_append {mark : Char} (hmark : mark ≠ ' ') (count : Nat) (rest : List Char) :
    (List.replicate count ' ' ++ rest).idxOf mark = count + rest.idxOf mark := by
  rw [List.idxOf_append_of_notMem fun h => hmark (List.eq_of_mem_replicate h),
    List.length_replicate]

/-- The line with the text and the line with the caret fit together. -/
theorem Report.shown (report : Report) (place : FilePlace) (offset : Nat) :
    report.Shown place offset (report.textLine place) (place.caretLine offset) := by
  have hlower : place.caretLine offset = List.replicate (place.number.length + 1) ' '
      ++ '|' :: List.replicate (place.columnOffset.toNat + offset + 1) ' ' ++ ['^'] := by
    simp [FilePlace.caretLine, FilePlace.emptyGutter]
  have hnumber : '|' ∉ place.number := not_mem_numeral (by decide) (by decide) place.line
  refine ⟨rfl, ⟨_, _, hlower⟩, ?_, _, rfl, ?_⟩
  · rw [hlower, textLine, List.append_assoc, List.append_assoc, idxOf_replicate_append (by decide),
      List.idxOf_append_of_notMem hnumber]
    simp
  · rw [hlower, List.append_assoc, idxOf_replicate_append (by decide), List.cons_append,
      List.idxOf_cons_ne _ (by decide), idxOf_replicate_append (by decide)]
    simp only [List.idxOf_cons_self, List.length_append, List.length_cons, List.length_replicate]
    omega

/-- The pieces of a report. -/
theorem Report.exists_pieces (hindex : report.index = offset) (hoffset : 0 ≤ place.columnOffset) :
    ∃ front, (report.render place).toList
      = front ++ place.position offset ++ '\n' :: (place.emptyGutter
        ++ '\n' :: (report.textLine place ++ '\n' :: place.caretLine offset)) := by
  have hgutter : ((place.line.repr.length : Int) + 1).toNat = place.number.length + 1 := by
    rw [FilePlace.number, String.length_toList]
    omega
  have hcolumn : (place.columnOffset + offset).toNat = place.columnOffset.toNat + offset := by
    omega
  refine ⟨("error: " ++ report.message ++ "\n" ++ blanks (place.line.repr.length + 1) ++ "--> "
    ++ place.filename).toList, ?_⟩
  unfold render
  simp [blanks, textLine, FilePlace.caretLine, FilePlace.emptyGutter, FilePlace.position,
    FilePlace.number, hindex, hgutter, hcolumn, List.replicate_succ]

/-- A whole number breaks no line. -/
theorem isLineBreak_of_mem_numeral {n : Int} {c : Char} (h : c ∈ n.repr.toList) :
    isLineBreak c = false := by
  obtain rfl | hdigit := mem_numeral h
  · rfl
  · obtain ⟨hlow, hhigh⟩ := Char.isDigit_iff_toNat.mp hdigit
    have hlow : 48 ≤ c.toNat := hlow
    have hhigh : c.toNat ≤ 57 := hhigh
    simp only [isLineBreak, Bool.or_eq_false_iff, Bool.and_eq_false_iff, decide_eq_false_iff_not,
      beq_eq_false_iff_ne]
    omega

/-- Blanks break no line. -/
theorem isLineBreak_of_mem_blanks {count : Nat} {c : Char} (h : c ∈ List.replicate count ' ') :
    isLineBreak c = false := by
  rw [List.eq_of_mem_replicate h]
  rfl

/-- The last lines of a report about a text without line breaks. -/
theorem Report.splitLines_render (report : Report) (hindex : report.index = offset)
    (hoffset : 0 ≤ place.columnOffset) (hsource : ∀ c ∈ report.source.toList, isLineBreak c = false) :
    ∃ above front, splitLines (report.render place).toList
      = above ++ [front ++ place.position offset, place.emptyGutter, report.textLine place,
        place.caretLine offset] := by
  have hnumber : ∀ c ∈ place.number, isLineBreak c = false := fun _ => isLineBreak_of_mem_numeral
  have hblanks (count : Nat) : ∀ c ∈ List.replicate count ' ', isLineBreak c = false :=
    fun _ => isLineBreak_of_mem_blanks
  have hposition : ∀ c ∈ place.position offset, isLineBreak c = false := by
    have hcolumn : ∀ c ∈ (place.columnOffset + offset + 1).repr.toList, isLineBreak c = false :=
      fun _ => isLineBreak_of_mem_numeral
    simpa [FilePlace.position, or_imp, forall_and] using ⟨rfl, hnumber, rfl, hcolumn⟩
  have hgutter : ∀ c ∈ place.emptyGutter, isLineBreak c = false := by
    simpa only [FilePlace.emptyGutter, List.forall_mem_append, List.forall_mem_singleton]
      using ⟨hblanks _, rfl⟩
  have htext : ∀ c ∈ report.textLine place, isLineBreak c = false := by
    simpa only [textLine, List.forall_mem_append, List.forall_mem_cons]
      using ⟨⟨hnumber, rfl, rfl, rfl, hblanks _⟩, hsource⟩
  have hcaret : ∀ c ∈ place.caretLine offset, isLineBreak c = false := by
    simpa only [FilePlace.caretLine, List.forall_mem_append, List.forall_mem_singleton]
      using ⟨⟨hgutter, hblanks _⟩, rfl⟩
  obtain ⟨front, hrender⟩ := exists_pieces hindex hoffset
  obtain ⟨above, before, hlines⟩ := exists_linesFrom_append hposition (by simp [FilePlace.position])
    [] front (place.emptyGutter ++ '\n' :: (report.textLine place ++ '\n' :: place.caretLine offset))
  refine ⟨above, before, ?_⟩
  rw [splitLines, hrender, hlines, linesFrom_line hgutter, linesFrom_line htext,
    linesFrom_last hcaret (by simp [FilePlace.caretLine])]
  rfl

end Report

/-- Wherever a pattern without line breaks stands, the report of an error in it ends with the line of
the pattern and a line with a caret. The caret is below the character at the offset of the error, or
behind the pattern if the error is at its end, and the column that is told is that of the character
in its file. -/
theorem render_caret {options : Options} {source : String} {error : PatternError}
    (h : error.Raised options source) (hsource : ∀ c ∈ source.toList, isLineBreak c = false)
    (place : FilePlace) (hoffset : 0 ≤ place.columnOffset) :
    ∃ (offset : Nat) (above : List (List Char)) (arrow gutter upper lower : List Char),
      error.index = offset ∧ offset ≤ source.toList.length ∧
      splitLines ((error.report source).render place).toList
        = above ++ [arrow, gutter, upper, lower] ∧
      place.position offset <:+ arrow ∧
      (error.report source).Shown place offset upper lower ∧
      upper[lower.idxOf '^']? = source.toList[offset]? ∧
      (offset = source.toList.length → lower.idxOf '^' = upper.length) := by
  obtain ⟨offset, hindex, hle⟩ := h.exists_offset
  have hshown := (error.report source).shown place offset
  obtain ⟨above, front, hlines⟩ := (error.report source).splitLines_render hindex hoffset hsource
  exact ⟨offset, above, _, _, _, _, hindex, hle, hlines, List.suffix_append _ _, hshown,
    hshown.getElem?_eq, hshown.idxOf_eq_length⟩

/-- A group that is not closed, on the twelfth line of a file and behind two blanks. The error is at
the end of the pattern, and its caret stands behind the line. -/
theorem render_caret_unclosed :
    let error : PatternError := .grammatical ⟨3, .closing, .ending, some 1⟩
    let place : FilePlace := ⟨"routes", 12, 2⟩
    parse {} "/\x7ba" = .error error ∧
      ∃ (above : List (List Char)) (arrow gutter upper lower : List Char),
        splitLines ((error.report "/\x7ba").render place).toList
          = above ++ [arrow, gutter, upper, lower] ∧
        ":12:6".toList <:+ arrow ∧ upper = "12 |   /\x7ba".toList ∧ lower.idxOf '^' = 10 := by
  intro error place
  have herror : parse {} "/\x7ba" = .error error := by decide +kernel
  obtain ⟨offset, above, arrow, gutter, upper, lower, hindex, _, hlines, harrow, hshown, _, hend⟩ :=
    render_caret (.reading herror) (by simp [isLineBreak]) place (by decide)
  obtain rfl : offset = 3 := Int.ofNat_inj.mp hindex.symm
  have hposition : place.position 3 = ":12:6".toList := by decide +kernel
  have hupper : upper = "12 |   /\x7ba".toList := by
    rw [hshown.upper_eq]
    decide +kernel
  rw [hposition] at harrow
  refine ⟨herror, above, arrow, gutter, upper, lower, hlines, harrow, hupper, ?_⟩
  rw [hend (by decide +kernel), hupper]
  decide +kernel

end RoutePattern
