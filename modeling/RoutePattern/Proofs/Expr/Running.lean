import RoutePattern.Expr.Reader

/-!
# Running a reader

`run_append` is the main result: reading two stretches of pieces in a row is reading the first and
then the second. `Piece.Whole` singles out the texts that may be put in front of others, those
without a lone backslash at their end. `Rested` describes a reader between two terms, where nothing
is pending but the mark that may follow a repetition.
-/

namespace RoutePattern

/-- Two computations in a row succeed when both do. -/
theorem bind_eq_ok {ε α β : Type} {x : Except ε α} {f : α → Except ε β} {b : β} :
    (x >>= f) = .ok b ↔ ∃ a, x = .ok a ∧ f a = .ok b := by
  cases x with
  | error e => simp [bind, Except.bind]
  | ok a => simp [bind, Except.bind]

/-- Two computations in a row fail when the first does, or the second behind it. -/
theorem bind_eq_error {ε α β : Type} {x : Except ε α} {f : α → Except ε β} {e : ε} :
    (x >>= f) = .error e ↔ x = .error e ∨ ∃ a, x = .ok a ∧ f a = .error e := by
  cases x with
  | error e => simp [bind, Except.bind]
  | ok a => simp [bind, Except.bind]

/-- A computation succeeds when its optional outcome is there. -/
theorem toOption_eq_some {ε α : Type} {x : Except ε α} {a : α} :
    x.toOption = some a ↔ x = .ok a := by
  cases x with
  | error e => simp [Except.toOption]
  | ok b => simp [Except.toOption]

@[simp] theorem mapError_ok {ε δ α : Type} (f : ε → δ) (a : α) :
    (Except.ok a).mapError f = .ok a :=
  rfl

@[simp] theorem mapError_error {ε δ α : Type} (f : ε → δ) (e : ε) :
    (Except.error e : Except ε α).mapError f = .error (f e) :=
  rfl

/-- Renaming a fault leaves success as it is. -/
theorem mapError_eq_ok {ε δ α : Type} {x : Except ε α} {f : ε → δ} {a : α} :
    x.mapError f = .ok a ↔ x = .ok a := by
  cases x with
  | error e => simp
  | ok b => simp

namespace Piece

/-- No backslash stands alone at the end of a text. -/
def Whole (text : List Char) : Prop :=
  lone ∉ ofText text

/-- The pieces of an escape in front of a text. -/
theorem ofText_escaped (c : Char) (rest : List Char) :
    ofText ('\\' :: c :: rest) = escaped c :: ofText rest := by
  rw [ofText]

/-- The pieces of a character other than a backslash in front of a text. -/
theorem ofText_plain {c : Char} (hc : c ≠ '\\') (rest : List Char) :
    ofText (c :: rest) = plain c :: ofText rest := by
  rw [ofText]
  · intro h _
    exact hc h
  · intro _ _ h _
    exact hc h

/-- The pieces of two texts are those of the first and then those of the second. -/
theorem ofText_append {first : List Char} (h : Whole first) (second : List Char) :
    ofText (first ++ second) = ofText first ++ ofText second := by
  unfold Whole at h
  fun_induction ofText first with
  | case1 => rfl
  | case2 => simp at h
  | case3 c rest ih =>
      simp only [List.cons_append, ofText_escaped, List.cons.injEq, true_and]
      exact ih (by simpa using h)
  | case4 c rest hnil hcons ih =>
      have hc : c ≠ '\\' := by
        rintro rfl
        cases rest with
        | nil => exact hnil rfl rfl
        | cons d later => exact hcons d later rfl rfl
      simp only [List.cons_append, ofText_plain hc, List.cons.injEq, true_and]
      exact ih (by simpa using h)

/-- The empty text has no lone backslash. -/
theorem Whole.nil : Whole [] := by
  simp [Whole, ofText]

/-- An escape in front of a text leaves it without a lone backslash. -/
theorem Whole.escaped (c : Char) {rest : List Char} (h : Whole rest) :
    Whole ('\\' :: c :: rest) := by
  simpa [Whole, ofText_escaped] using h

/-- A character in front of a text leaves it without a lone backslash. -/
theorem Whole.plain {c : Char} (hc : c ≠ '\\') {rest : List Char} (h : Whole rest) :
    Whole (c :: rest) := by
  simpa [Whole, ofText_plain hc] using h

/-- Two texts without a lone backslash are such a text when put together. -/
theorem Whole.append {first second : List Char} (hfirst : Whole first) (hsecond : Whole second) :
    Whole (first ++ second) := by
  unfold Whole
  rw [ofText_append hfirst]
  simp only [List.mem_append, not_or]
  exact ⟨hfirst, hsecond⟩

end Piece

namespace ExprReader

/-- Take one piece: settle the reader in front of it and accept it. -/
def step (reader : ExprReader) (piece : Piece) : Except ExprFault ExprReader :=
  match reader.settle (some piece) with
  | .error fault => .error fault
  | .ok settled => settled.accept piece

/-- A step that succeeds settles the reader and then accepts the piece. -/
theorem step_eq_ok {reader later : ExprReader} {piece : Piece} :
    reader.step piece = .ok later ↔
      ∃ settled, reader.settle (some piece) = .ok settled ∧ settled.accept piece = .ok later := by
  unfold step
  cases reader.settle (some piece) with
  | error fault => simp
  | ok settled => simp

/-- Reading on after one more piece succeeds when the step and the rest do. -/
theorem run_cons {reader last : ExprReader} {piece : Piece} {rest : List Piece} :
    reader.run (piece :: rest) = .ok last ↔
      piece ≠ .lone ∧ ∃ later, reader.step piece = .ok later ∧ later.run rest = .ok last := by
  by_cases hlone : piece = .lone
  · subst hlone
    simp [run]
  · rw [run]
    · unfold step
      cases reader.settle (some piece) with
      | error fault => simp [bind, Except.bind]
      | ok settled =>
          simp only [bind, Except.bind]
          cases settled.accept piece with
          | error fault => simp
          | ok later => simp [hlone]
    · exact hlone

/-- Reading no piece changes nothing. -/
theorem run_nil (reader : ExprReader) : reader.run [] = .ok reader := by
  rw [run]

/-- Reading two stretches in a row is reading the first and then the second. -/
theorem run_append {reader last : ExprReader} {first second : List Piece} :
    reader.run (first ++ second) = .ok last ↔
      ∃ middle, reader.run first = .ok middle ∧ middle.run second = .ok last := by
  induction first generalizing reader with
  | nil => simp [run_nil]
  | cons piece rest ih =>
      simp only [List.cons_append, run_cons, ih]
      constructor
      · rintro ⟨hpiece, later, hstep, middle, hrest, hlast⟩
        exact ⟨middle, ⟨hpiece, later, hstep, hrest⟩, hlast⟩
      · rintro ⟨middle, ⟨hpiece, later, hstep, hrest⟩, hlast⟩
        exact ⟨hpiece, later, hstep, middle, hrest, hlast⟩

/-- A text that is read has no lone backslash. -/
theorem whole_of_run {reader last : ExprReader} {text : List Char}
    (h : reader.run (Piece.ofText text) = .ok last) : Piece.Whole text := by
  unfold Piece.Whole
  generalize Piece.ofText text = pieces at h
  induction pieces generalizing reader with
  | nil => simp
  | cons piece rest ih =>
      obtain ⟨hpiece, later, _, hrest⟩ := run_cons.mp h
      simp only [List.mem_cons, not_or]
      exact ⟨fun hlone => hpiece hlone.symm, ih hrest⟩

/-! ## Readers between two terms -/

/-- The reader with nothing pending. -/
def rested (reader : ExprReader) : ExprReader :=
  { reader with pending := .nothing }

/-- Nothing is pending, or only the mark that may follow a repetition. -/
def Rested (reader : ExprReader) : Prop :=
  reader.pending = .nothing ∨ reader.pending = .repetition

/-- A reader with nothing pending is at rest as it stands. -/
theorem rested_of_nothing {reader : ExprReader} (h : reader.pending = .nothing) :
    reader.rested = reader := by
  cases reader
  simp_all [rested]

/-- Whether a piece may change the order of the repetition in front of it. -/
def isOrderMark (piece : Piece) : Bool :=
  piece == .plain '?' || piece == .plain '+'

/-- Settling a reader at rest in front of a piece that marks no order drops the repetition. -/
theorem settle_rested {reader : ExprReader} (h : reader.Rested) {piece : Piece}
    (hpiece : isOrderMark piece = false) : reader.settle (some piece) = .ok reader.rested := by
  simp only [isOrderMark, Bool.or_eq_false_iff, beq_eq_false_iff_ne, ne_eq] at hpiece
  obtain hpending | hpending := h
  · simp [settle, hpending, rested_of_nothing hpending]
  · simp [settle, hpending, hpiece, rested]

/-- A reader at rest takes a piece that marks no order as if nothing were pending. -/
theorem step_rested {reader : ExprReader} (h : reader.Rested) {piece : Piece}
    (hpiece : isOrderMark piece = false) : reader.step piece = reader.rested.accept piece := by
  rw [step, settle_rested h hpiece]

/-- With nothing pending a character is accepted as it is. -/
theorem accept_plain {reader : ExprReader} (h : reader.pending = .nothing) (c : Char) :
    reader.accept (.plain c) = reader.acceptPlain c := by
  cases reader
  cases h
  rfl

/-- With nothing pending a backslash and a character are accepted for what they mean. -/
theorem accept_escaped {reader : ExprReader} (h : reader.pending = .nothing) (c : Char) :
    reader.accept (.escaped c) = reader.takeEscape c (Escape.begin c) := by
  cases reader
  cases h
  rfl

/-- A reader at rest takes a character that marks no order as if nothing were pending. -/
theorem step_plain {reader : ExprReader} (h : reader.Rested) {c : Char}
    (hc : isOrderMark (.plain c) = false) :
    reader.step (.plain c) = reader.rested.acceptPlain c := by
  rw [step_rested h hc, accept_plain rfl]

/-- With nothing pending any character is taken as it is. -/
theorem step_plain_of_nothing {reader : ExprReader} (h : reader.pending = .nothing) (c : Char) :
    reader.step (.plain c) = reader.acceptPlain c := by
  rw [step, settle, h]
  exact accept_plain h c

/-- Settling a reader at rest at the end drops the repetition. -/
theorem settle_rested_end {reader : ExprReader} (h : reader.Rested) :
    reader.settle none = .ok reader.rested := by
  obtain hpending | hpending := h
  · simp [settle, hpending, rested_of_nothing hpending]
  · simp [settle, hpending, rested]

end ExprReader

end RoutePattern
