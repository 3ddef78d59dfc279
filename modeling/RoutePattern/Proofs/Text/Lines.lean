import RoutePattern.Text.Lines

/-!
# Lines of a table and lines of a document

An editor knows fewer line breaks than a table does: line feeds and carriage returns, where the two
in a row are one break. `linesAgree_of_splitLines` is the main result: up to the first break
that an editor does not know, the lines of a text are the same for both, and the line with that
break in it goes on for the editor. `exists_linesFrom_append` puts the lines of a text together from
those of two pieces.
-/

namespace RoutePattern

/-- Whether a character breaks a line of a document. -/
def isDocumentBreak (c : Char) : Bool :=
  c == '\n' || c == '\r'

/-- Whether a character breaks a line of a table and stands within a line of a document. -/
def isForeignBreak (c : Char) : Bool :=
  isLineBreak c && !isDocumentBreak c

/-- The lines of a document, where `current` is the line in progress, latest character first. -/
def documentLinesFrom (current : List Char) : List Char → List (List Char)
  | [] => [current.reverse]
  | '\r' :: '\n' :: rest => current.reverse :: documentLinesFrom [] rest
  | c :: rest =>
      if isDocumentBreak c then current.reverse :: documentLinesFrom [] rest
      else documentLinesFrom (c :: current) rest

/-- The lines of a document, without their breaks. The last one has no break. -/
def documentLines (text : List Char) : List (List Char) :=
  documentLinesFrom [] text

/-- The text in front of the first foreign break. -/
def familiarFront (text : List Char) : List Char :=
  text.takeWhile fun c => !isForeignBreak c

/-! ## One character -/

/-- A break of a document is one of a table, too. -/
theorem isLineBreak_of_isDocumentBreak {c : Char} (h : isDocumentBreak c = true) :
    isLineBreak c = true := by
  obtain rfl | rfl : c = '\n' ∨ c = '\r' := by simpa [isDocumentBreak] using h
  · rfl
  · rfl

/-- A break of a table is one of a document, or it is foreign. -/
theorem isDocumentBreak_or_isForeignBreak {c : Char} (h : isLineBreak c = true) :
    isDocumentBreak c = true ∧ isForeignBreak c = false ∨
      isDocumentBreak c = false ∧ isForeignBreak c = true := by
  cases hc : isDocumentBreak c <;> simp [isForeignBreak, h, hc]

variable {current rest : List Char} {c : Char}

/-- A break of its own ends a line of a document. -/
theorem documentLinesFrom_break (h : isDocumentBreak c = true)
    (hpair : c = '\r' → rest.head? ≠ some '\n') :
    documentLinesFrom current (c :: rest) = current.reverse :: documentLinesFrom [] rest := by
  rw [documentLinesFrom, if_pos h]
  rintro later rfl rfl
  exact hpair rfl rfl

/-- Any other character goes on with a line of a document. -/
theorem documentLinesFrom_plain (h : isDocumentBreak c = false) :
    documentLinesFrom current (c :: rest) = documentLinesFrom (c :: current) rest := by
  rw [documentLinesFrom, if_neg (by simp [h])]
  rintro later rfl
  cases h

/-- The line in progress is the front of the first line. -/
theorem documentLinesFrom_eq (current text : List Char) :
    ∃ more later, documentLinesFrom current text = (current.reverse ++ more) :: later := by
  fun_induction documentLinesFrom current text with
  | case1 current => exact ⟨[], [], by simp⟩
  | case2 current rest => exact ⟨[], _, by rw [List.append_nil]⟩
  | case3 current c rest => exact ⟨[], _, by rw [List.append_nil]⟩
  | case4 current c rest _ _ ih =>
      obtain ⟨more, later, h⟩ := ih
      exact ⟨c :: more, later, by rw [h]; simp⟩

/-! ## Lines in common -/

/-- The first lines of a table and of a document are the same, and the line of the table after them
is the front of that of the document. -/
def LinesAgree (document table : List (List Char)) (n : Nat) (line : List Char) : Prop :=
  document.take n = table.take n ∧ ∃ more, document[n]? = some (line ++ more)

/-- Lines agree below a line that both have. -/
theorem LinesAgree.below {first line : List Char} {document table : List (List Char)} {n : Nat}
    (hline : (first :: table)[n]? = some line)
    (h : ∀ m, n = m + 1 → table[m]? = some line → LinesAgree document table m line) :
    LinesAgree (first :: document) (first :: table) n line := by
  cases n with
  | zero => exact ⟨rfl, [], by simpa using hline⟩
  | succ n =>
      obtain ⟨htake, more, hmore⟩ := h n rfl (by simpa using hline)
      exact ⟨by rw [List.take_succ_cons, List.take_succ_cons, htake], more, by simpa using hmore⟩

/-- The front of a text that has no foreign break at its start. -/
theorem familiarFront_cons (h : isForeignBreak c = false) :
    familiarFront (c :: rest) = c :: familiarFront rest := by
  simp [familiarFront, h]

/-- What comes first is the same in the front of a text. -/
theorem head?_of_familiarFront (h : (familiarFront rest).head? = some c) : rest.head? = some c := by
  cases rest with
  | nil => simp [familiarFront] at h
  | cons d later =>
      rw [familiarFront, List.takeWhile_cons] at h
      split at h
      · exact h
      · simp at h

/-- The lines of a text are the same for a table and for a document, as long as they begin in front
of the first foreign break, and the line of the table is the front of that of the document. -/
theorem documentLinesFrom_of_linesFrom {text line : List Char} {n : Nat}
    (hline : (linesFrom current text)[n]? = some line)
    (hfront : n < (documentLinesFrom current (familiarFront text)).length) :
    LinesAgree (documentLinesFrom current text) (linesFrom current text) n line := by
  fun_induction linesFrom current text generalizing n with
  | case1 => simp at hline
  | case2 current hcurrent =>
      rw [documentLinesFrom]
      exact .below hline (by simp)
  | case3 current rest ih =>
      rw [show familiarFront ('\r' :: '\n' :: rest) = '\r' :: '\n' :: familiarFront rest from rfl,
        documentLinesFrom] at hfront
      rw [documentLinesFrom]
      refine .below hline fun m hm hrest => ih hrest ?_
      simpa [hm] using hfront
  | case4 current c rest hpair hbreak ih =>
      obtain ⟨hdocument, hforeign⟩ | ⟨hdocument, hforeign⟩ :=
        isDocumentBreak_or_isForeignBreak hbreak
      · have hsingle : c = '\r' → rest.head? ≠ some '\n' := by
          intro hc hhead
          obtain ⟨later, rfl⟩ := List.head?_eq_some_iff.mp hhead
          exact hpair later hc rfl
        rw [familiarFront_cons hforeign, documentLinesFrom_break hdocument fun hc hhead =>
          hsingle hc (head?_of_familiarFront hhead)] at hfront
        rw [documentLinesFrom_break hdocument hsingle]
        refine .below hline fun m hm hrest => ih hrest ?_
        simpa [hm] using hfront
      · -- The line of the table ends here, and that of the document goes on.
        have hrest : familiarFront (c :: rest) = [] := by simp [familiarFront, hforeign]
        rw [hrest, documentLinesFrom, List.length_singleton, Nat.lt_one_iff] at hfront
        subst hfront
        obtain ⟨more, later, hmore⟩ := documentLinesFrom_eq (c :: current) rest
        refine ⟨rfl, c :: more, ?_⟩
        rw [documentLinesFrom_plain hdocument, hmore]
        simpa using hline
  | case5 current c rest hpair hplain ih =>
      have hdocument : isDocumentBreak c = false := by
        cases hc : isDocumentBreak c with
        | false => rfl
        | true => exact absurd (isLineBreak_of_isDocumentBreak hc) hplain
      have hforeign : isForeignBreak c = false := by simp [isForeignBreak, hplain]
      rw [familiarFront_cons hforeign, documentLinesFrom_plain hdocument] at hfront
      rw [documentLinesFrom_plain hdocument]
      exact ih hline hfront

/-- A line of a table that begins in front of the first foreign break is the front of the line of
the document with its number, and the lines above it are the same. -/
theorem linesAgree_of_splitLines {text line : List Char} {n : Nat}
    (hline : (splitLines text)[n]? = some line)
    (hfront : n < (documentLines (familiarFront text)).length) :
    LinesAgree (documentLines text) (splitLines text) n line :=
  documentLinesFrom_of_linesFrom hline hfront

/-! ## Lines one after the other -/

/-- A break of its own ends a line of a table. -/
theorem linesFrom_break (h : isLineBreak c = true) (hpair : c = '\r' → rest.head? ≠ some '\n') :
    linesFrom current (c :: rest) = current.reverse :: linesFrom [] rest := by
  rw [linesFrom, if_pos h]
  rintro later rfl rfl
  exact hpair rfl rfl

/-- Any other character goes on with a line of a table. -/
theorem linesFrom_plain (h : isLineBreak c = false) :
    linesFrom current (c :: rest) = linesFrom (c :: current) rest := by
  rw [linesFrom, if_neg (by simp [h])]
  rintro later rfl
  cases h

/-- Characters that break no line go on with the one in progress. -/
theorem linesFrom_append {line : List Char} (h : ∀ c ∈ line, isLineBreak c = false)
    (current rest : List Char) :
    linesFrom current (line ++ rest) = linesFrom (line.reverse ++ current) rest := by
  induction line generalizing current with
  | nil => rfl
  | cons c line ih =>
      obtain ⟨hc, hline⟩ := List.forall_mem_cons.mp h
      rw [List.cons_append, linesFrom_plain hc, ih hline, List.reverse_cons, List.append_assoc,
        List.singleton_append]

/-- A line feed ends a line that has no other break. -/
theorem linesFrom_line {line : List Char} (h : ∀ c ∈ line, isLineBreak c = false)
    (current rest : List Char) :
    linesFrom current (line ++ '\n' :: rest) = (current.reverse ++ line) :: linesFrom [] rest := by
  rw [linesFrom_append h, linesFrom_break rfl (by simp), List.reverse_append, List.reverse_reverse]

/-- The last line of a text, if it is not empty. -/
theorem linesFrom_last {line : List Char} (h : ∀ c ∈ line, isLineBreak c = false)
    (hne : line ≠ []) : linesFrom [] line = [line] := by
  have hlines := linesFrom_append h [] []
  rw [List.append_nil, List.append_nil] at hlines
  rw [hlines, linesFrom, if_neg (by simpa using hne), List.reverse_reverse]

/-- Whatever stands in front of it, a piece without breaks and a line feed end a line, and the lines
behind it are those of the text behind it. -/
theorem exists_linesFrom_append {line : List Char} (h : ∀ c ∈ line, isLineBreak c = false)
    (hne : line ≠ []) (current front rest : List Char) :
    ∃ above before, linesFrom current (front ++ line ++ '\n' :: rest)
      = above ++ (before ++ line) :: linesFrom [] rest := by
  fun_induction linesFrom current front with
  | case1 => exact ⟨[], _, linesFrom_line h _ rest⟩
  | case2 => exact ⟨[], _, linesFrom_line h _ rest⟩
  | case3 current later ih =>
      obtain ⟨above, before, hlines⟩ := ih
      exact ⟨current.reverse :: above, before, congrArg _ hlines⟩
  | case4 current c later hpair hbreak ih =>
      obtain ⟨above, before, hlines⟩ := ih
      refine ⟨current.reverse :: above, before, ?_⟩
      have hsingle : c = '\r' → (later ++ line ++ '\n' :: rest).head? ≠ some '\n' := by
        intro hc hhead
        cases later with
        | nil =>
            obtain ⟨d, line, rfl⟩ := List.exists_cons_of_ne_nil hne
            obtain rfl : d = '\n' := by simpa using hhead
            exact absurd (h _ List.mem_cons_self) (by decide)
        | cons d later =>
            obtain rfl : d = '\n' := by simpa using hhead
            exact hpair later hc rfl
      rw [List.cons_append, List.cons_append, linesFrom_break hbreak hsingle, hlines,
        List.cons_append]
  | case5 current c later hpair hplain ih =>
      obtain ⟨above, before, hlines⟩ := ih
      refine ⟨above, before, ?_⟩
      rw [List.cons_append, List.cons_append, linesFrom_plain (by simpa using hplain), hlines]

end RoutePattern
