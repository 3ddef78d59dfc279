import RoutePattern.Proofs.Expr.Outline
import RoutePattern.Proofs.Lexeme.Balanced

/-!
# Groups that are opened by name

Where every parenthesis that opens something is followed by a question mark, a capture group can
only be opened by name. `Pending.front` is what has been read of such an opening, and a step never
adds to the groups together with the openings ahead (`step_prospects`). So an expression has no more
groups than there are openings of named groups in its text (`Expression.groups_le_namings`).
-/

namespace RoutePattern

open ExprReader

/-! ## Openings in a text -/

/-- What a named group begins with. -/
def namedOpening : List Piece :=
  [.plain '(', .plain '?', .plain 'P', .plain '<']

/-- The number of places in a text where a named group may begin. -/
def namings : List Piece → Nat
  | [] => 0
  | piece :: rest => (if namedOpening.isPrefixOf (piece :: rest) then 1 else 0) + namings rest

/-- Every parenthesis that opens something is followed by a question mark. -/
def Guarded : List Piece → Prop
  | [] => True
  | piece :: rest => (piece = .plain '(' → rest.head? = some (.plain '?')) ∧ Guarded rest

variable {first second rest : List Piece}

/-- Guarded texts in a row are guarded. -/
theorem Guarded.append (hfirst : Guarded first) (hsecond : Guarded second) :
    Guarded (first ++ second) := by
  induction first with
  | nil => exact hsecond
  | cons piece rest ih =>
      refine ⟨fun hopen => ?_, ih hfirst.2⟩
      have hhead := hfirst.1 hopen
      cases rest with
      | nil => simp at hhead
      | cons next others => exact hhead

/-- What is left of a guarded text is guarded. -/
theorem Guarded.of_append (h : Guarded (first ++ second)) : Guarded second := by
  induction first with
  | nil => exact h
  | cons piece rest ih => exact ih h.2

/-- There are no more openings in what is left of a text. -/
theorem namings_le_append (first second : List Piece) :
    namings second ≤ namings (first ++ second) := by
  induction first with
  | nil => exact Nat.le_refl _
  | cons piece rest ih =>
      rw [List.cons_append, namings]
      omega

/-- The opening of a named group counts for one. -/
theorem namings_namedOpening (rest : List Piece) :
    namings (namedOpening ++ rest) = 1 + namings rest := by
  simp [namedOpening, namings]

/-- An opening of a named group is guarded by itself. -/
theorem guarded_namedOpening : Guarded namedOpening := by
  simp [namedOpening, Guarded]

/-- In a balanced text a question mark follows each parenthesis that opens something. -/
theorem Balanced.guarded {text : List Char} (h : Balanced text) :
    Guarded (Piece.ofText text) := by
  induction h with
  | nil => trivial
  | plain hc _ ih =>
      rw [Piece.ofText_plain hc.1]
      exact ⟨fun hopen => absurd (Piece.plain.inj hopen) hc.2.1, ih⟩
  | escape c _ ih =>
      rw [Piece.ofText_escaped]
      exact ⟨by simp, ih⟩
  | @group inner rest hhead hinner _ ihinner ihrest =>
      obtain ⟨others, rfl⟩ := List.head?_eq_some_iff.mp hhead
      rw [List.cons_append, Piece.ofText_plain (by decide), Piece.ofText_append hinner.whole,
        Piece.ofText_plain (c := ')') (by decide)]
      refine ⟨fun _ => ?_, ihinner.append ⟨by simp, ihrest⟩⟩
      rw [Piece.ofText_plain (by decide)]
      rfl

/-! ## Openings in progress -/

/-- What has been read of the opening of a group, as long as that may become a named one. -/
def Pending.front : Pending → List Piece
  | .opening .paren => [.plain '(']
  | .opening .question => [.plain '(', .plain '?']
  | .opening .extension => [.plain '(', .plain '?', .plain 'P']
  | .opening (.groupName _) => namedOpening
  | _ => []

namespace ExprReader

variable {reader later : ExprReader}

/-- The groups there are and the openings of named ones in the text ahead, with the one in progress.
-/
def prospects (reader : ExprReader) (rest : List Piece) : Nat :=
  reader.opened + namings (reader.pending.front ++ rest)

/-- No capture group has been opened, and no named one is in progress. -/
structure Idle (reader later : ExprReader) : Prop where
  opened : later.opened = reader.opened
  front : later.pending.front = []

/-- Adding characters opens no group. -/
theorem pushChars_idle (reader : ExprReader) (chars : List Char) :
    reader.Idle ({ reader with pending := .nothing }.pushChars chars) := by
  obtain ⟨terms, heq, _⟩ := pushChars_eq reader chars
  rw [heq]
  exact ⟨rfl, rfl⟩

/-- A move that goes on inside the same groups opens none. -/
theorem Move.idle (h : Move none reader later) {pending : Pending}
    (houtline : later.outline = reader.outline.pend pending) (hfront : pending.front = []) :
    reader.Idle later where
  opened := by
    cases h with
    | stay | refer | enter => rfl
    | capture =>
        have houter := congrArg (·.outer.length) houtline
        simp [outline, Outline.pend, openGroup] at houter
    | leave parent rest => exact close_opened _ _ _
    | setFlags on later h => exact (setFlags_eq h).2.1
  front := (congrArg (·.pending.front) houtline).trans hfront

/-- A group that depends on another one captures nothing. -/
theorem openCondition_idle {name : List Char} (h : reader.openCondition name = .ok later) :
    reader.Idle later := by
  unfold openCondition at h
  dsimp only at h
  split at h
  · cases h
  split at h
  · split at h
    · cases h
    · obtain ⟨_, _, h⟩ := bind_eq_ok.mp h
      cases h
      exact ⟨rfl, rfl⟩
  split at h
  · cases h
  · split at h
    · cases h
    · obtain ⟨inner, hinner, h⟩ := bind_eq_ok.mp h
      obtain ⟨_, _, hinner⟩ := bind_eq_ok.mp hinner
      cases hinner
      cases h
      exact ⟨rfl, rfl⟩
  · cases h

/-- An escape opens no group. -/
theorem takeEscape_idle {c : Char} {meaning : EscapeMeaning}
    (h : reader.takeEscape c meaning = .ok later) : reader.Idle later := by
  cases meaning <;> cases h <;> exact ⟨rfl, rfl⟩

/-- Turning a flag on opens no group. -/
theorem turnOn_idle {on : List Char} {letter : Char} (h : reader.turnOn on letter = .ok later) :
    reader.Idle later := by
  unfold turnOn at h
  split at h
  · cases h
  split at h
  · cases h
  · cases h
    exact ⟨rfl, rfl⟩

/-- A group with flags of its own captures nothing. -/
theorem openScoped_idle {on off : List Char} (h : reader.openScoped on off = .ok later) :
    reader.Idle later := by
  unfold openScoped at h
  split at h
  · cases h
  split at h
  · cases h
  · cases h
    exact ⟨rfl, rfl⟩

/-- Flags for the whole expression open no group. -/
theorem setFlags_idle {on : List Char} (h : reader.setFlags on = .ok later) :
    reader.Idle later := by
  refine ⟨(setFlags_eq h).2.1, ?_⟩
  unfold setFlags at h
  split at h
  · cases h
    rfl
  · cases h

/-- Closing a group opens none. -/
theorem close_idle (reader : ExprReader) (parent : Frame) (rest : List Frame) :
    reader.Idle (reader.close parent rest) :=
  ⟨close_opened _ _ _, congrArg (·.pending.front) (close_outline parent rest)⟩

/-- A named group is one more. -/
theorem nameGroup_opened {name : List Char} (h : reader.nameGroup name = .ok later) :
    later.opened = reader.opened + 1 := by
  unfold nameGroup at h
  split at h
  · cases h
  split at h
  · cases h
  · unfold openCapture at h
    dsimp only at h
    split at h <;> cases h
    rfl

/-! ## Steps -/

/-- How taking a piece goes on with the opening of a named group: not at all, by the next piece of
it, or at its name, which may be complete. -/
inductive Names (reader : ExprReader) (piece : Piece) (later : ExprReader) : Prop
  | idle (h : reader.Idle later)
  | further (hopened : later.opened = reader.opened)
      (hfront : later.pending.front = reader.pending.front ++ [piece])
  | name (hopened : later.opened = reader.opened)
      (hfront : reader.pending.front = namedOpening ∧ later.pending.front = namedOpening)
  | named (hopened : later.opened = reader.opened + 1)
      (hfront : reader.pending.front = namedOpening ∧ later.pending.front = [])

/-- A character after the question mark of an opening goes on with it if it is a capital P. -/
theorem acceptQuestion_names {piece : Piece} (hpending : reader.pending = .opening .question)
    (h : reader.acceptQuestion piece = .ok later) : reader.Names piece later := by
  unfold acceptQuestion at h
  dsimp only at h
  split at h
  · cases h
    exact .further rfl (by rw [hpending]; rfl)
  · cases h
    exact .idle ⟨rfl, rfl⟩
  · cases h
    exact .idle ⟨rfl, rfl⟩
  · cases h
    exact .idle ⟨rfl, rfl⟩
  · cases h
    exact .idle ⟨rfl, rfl⟩
  · cases h
    exact .idle ⟨rfl, rfl⟩
  · cases h
    exact .idle ⟨rfl, rfl⟩
  · cases h
    exact .idle ⟨rfl, rfl⟩
  · cases h
    exact .idle ⟨rfl, rfl⟩
  · split at h
    · exact .idle (turnOn_idle h)
    · cases h
  · cases h

/-- A piece of an opening. -/
theorem acceptOpening_names {opening : Opening} {piece : Piece}
    (hpending : reader.pending = .opening opening)
    (hparen : opening = .paren → piece = .plain '?')
    (h : reader.acceptOpening opening piece = .ok later) : reader.Names piece later := by
  unfold acceptOpening at h
  dsimp only at h
  split at h
  · cases h
    rw [hparen rfl]
    exact .further rfl (by rw [hpending]; rfl)
  · exact acceptQuestion_names hpending h
  · cases h
    exact .further rfl (by rw [hpending]; rfl)
  · cases h
    exact .idle ⟨rfl, rfl⟩
  · cases h
  · have hfront := congrArg (·.pending.front) (nameGroup_outline h)
    exact .named (nameGroup_opened h) ⟨by rw [hpending]; rfl, hfront⟩
  · cases h
    exact .name rfl ⟨by rw [hpending]; rfl, rfl⟩
  · exact .idle ((referName_move h).idle (referName_outline h) rfl)
  · cases h
    exact .idle ⟨rfl, rfl⟩
  · cases h
    exact .idle ⟨rfl, rfl⟩
  · cases h
    exact .idle ⟨rfl, rfl⟩
  · cases h
  · exact .idle (openCondition_idle h)
  · cases h
    exact .idle ⟨rfl, rfl⟩
  · cases h
    exact .idle ⟨rfl, rfl⟩
  · cases h
    exact .idle ⟨rfl, by rw [hpending]; rfl⟩
  · exact .idle (setFlags_idle h)
  · split at h
    · cases h
    · exact .idle (openScoped_idle h)
  · split at h
    · cases h
    · cases h
      exact .idle ⟨rfl, rfl⟩
  · split at h
    · exact .idle (turnOn_idle h)
    · cases h
  · cases h
  · split at h
    · exact .idle (openScoped_idle h)
    split at h
    · cases h
    split at h
    · cases h
    · cases h
      exact .idle ⟨rfl, rfl⟩
  · cases h

/-- A character that nothing pending takes. -/
theorem acceptPlain_names {c : Char} (hpending : reader.pending = .nothing)
    (h : reader.acceptPlain c = .ok later) : reader.Names (.plain c) later := by
  have hfront : reader.pending.front = [] := by
    rw [hpending]
    rfl
  unfold acceptPlain at h
  dsimp only at h
  split at h
  · cases h
    exact .idle ⟨rfl, hfront⟩
  split at h
  · cases h
    exact .idle ⟨rfl, rfl⟩
  split at h
  · cases h
    exact .idle ⟨rfl, rfl⟩
  · cases h
    exact .idle ⟨rfl, rfl⟩
  · cases h
    exact .idle ⟨rfl, rfl⟩
  · cases h
    exact .idle ⟨rfl, rfl⟩
  · cases h
    exact .further rfl (by rw [hfront]; rfl)
  · exact .idle ((repeatLast_move h).idle (repeatLast_outline h) rfl)
  · exact .idle ((repeatLast_move h).idle (repeatLast_outline h) rfl)
  · exact .idle ((repeatLast_move h).idle (repeatLast_outline h) rfl)
  · cases h
    exact .idle ⟨rfl, rfl⟩
  · exact .idle ((nextBranch_move h).idle (nextBranch_outline h) hfront)
  · split at h
    · cases h
      exact .idle (close_idle _ _ _)
    · cases h
  · cases h
    exact .idle ⟨rfl, rfl⟩

/-- A piece goes on with the opening of a named group, or no such opening is in progress any more.
-/
theorem accept_names {piece : Piece}
    (hparen : reader.pending = .opening .paren → piece = .plain '?')
    (h : reader.accept piece = .ok later) : reader.Names piece later := by
  unfold accept at h
  split at h
  · next hpending => exact acceptPlain_names hpending h
  · exact .idle (takeEscape_idle h)
  · cases h
    exact .idle ((setGreed_move _ _).idle (setGreed_outline _ _) rfl)
  · cases h
    exact .idle ((setGreed_move _ _).idle (setGreed_outline _ _) rfl)
  · split at h
    · exact .idle ((repeatBounds_move h).idle (repeatBounds_outline h) rfl)
    split at h
    · cases h
      exact .idle ⟨rfl, rfl⟩
    split at h
    · cases h
      exact .idle ⟨rfl, rfl⟩
    · cases h
      exact .idle ⟨rfl, rfl⟩
  · next hpending =>
    split at h
    · obtain ⟨_, _, h⟩ := bind_eq_ok.mp h
      exact .idle (takeEscape_idle h)
    · cases h
      exact .idle ⟨rfl, by rw [hpending]; rfl⟩
  · obtain ⟨outcome, _, h⟩ := bind_eq_ok.mp h
    cases outcome with
    | inl sub =>
        cases h
        exact .idle ⟨rfl, rfl⟩
    | inr test =>
        cases h
        exact .idle ⟨rfl, rfl⟩
  · next hpending =>
    exact acceptOpening_names hpending (fun heq => hparen (heq ▸ hpending)) h
  · next hpending =>
    split at h
    · cases h
      exact .idle ⟨rfl, rfl⟩
    · cases h
      exact .idle ⟨rfl, by rw [hpending]; rfl⟩
  · next hopening _ _ _ _ _ =>
    cases h
    refine .idle ⟨rfl, ?_⟩
    cases hpending : reader.pending with
    | opening opening => exact (hopening opening hpending).elim
    | _ => rfl

/-- Where no unnamed group begins, settling a reader leaves its groups and its opening as they are.
-/
theorem settle_front {next : Option Piece}
    (hparen : reader.pending = .opening .paren → next = some (.plain '?'))
    (h : reader.settle next = .ok later) :
    later.opened = reader.opened ∧ later.pending.front = reader.pending.front := by
  have hover (hfront : reader.pending.front = []) (hidle : reader.Idle later) :
      later.opened = reader.opened ∧ later.pending.front = reader.pending.front :=
    ⟨hidle.opened, hidle.front.trans hfront.symm⟩
  unfold settle at h
  split at h
  · next hpending =>
    refine hover (by rw [hpending]; rfl) ?_
    split at h
    · cases h
      exact ⟨rfl, by rw [hpending]; rfl⟩
    · cases h
      exact ⟨rfl, rfl⟩
  · next hpending =>
    refine hover (by rw [hpending]; rfl) ?_
    split at h
    · cases h
      exact ⟨rfl, by rw [hpending]; rfl⟩
    · cases h
      exact pushChars_idle _ _
  · next hpending =>
    refine hover (by rw [hpending]; rfl) ?_
    split at h
    · cases h
      exact ⟨rfl, by rw [hpending]; rfl⟩
    · obtain ⟨value, _, h⟩ := bind_eq_ok.mp h
      cases value with
      | inl n =>
          cases h
          exact ⟨rfl, rfl⟩
      | inr number => exact (referNumber_move h).idle (referNumber_outline h) rfl
  · next hpending =>
    refine hover (by rw [hpending]; rfl) ?_
    split at h
    · cases h
      exact ⟨rfl, by rw [hpending]; rfl⟩
    · obtain ⟨_, _, h⟩ := bind_eq_ok.mp h
      cases h
      exact ⟨rfl, rfl⟩
  · next hpending =>
    rw [if_pos (hparen hpending)] at h
    cases h
    exact ⟨rfl, rfl⟩
  · cases h
    exact ⟨rfl, rfl⟩

/-- Going on with an opening in a guarded text adds nothing to the groups and the openings of named
ones ahead. -/
theorem Names.prospects {piece : Piece} {rest : List Piece} (h : reader.Names piece later)
    (hguarded : Guarded (reader.pending.front ++ piece :: rest)) :
    Guarded (later.pending.front ++ rest) ∧
      later.prospects rest ≤ reader.prospects (piece :: rest) := by
  have hrest : Guarded rest := hguarded.of_append.2
  have hfewer : namings rest ≤ namings (piece :: rest) := namings_le_append [piece] rest
  unfold ExprReader.prospects
  cases h with
  | idle hidle =>
      have hall := namings_le_append reader.pending.front (piece :: rest)
      rw [hidle.front, hidle.opened, List.nil_append]
      exact ⟨hrest, by omega⟩
  | further hopened hfront =>
      rw [hfront, hopened, List.append_assoc, List.singleton_append]
      exact ⟨hguarded, Nat.le_refl _⟩
  | name hopened hfront =>
      rw [hfront.1, hfront.2, hopened, namings_namedOpening, namings_namedOpening]
      exact ⟨guarded_namedOpening.append hrest, by omega⟩
  | named hopened hfront =>
      rw [hfront.1, hfront.2, hopened, namings_namedOpening, List.nil_append]
      exact ⟨hrest, by omega⟩

/-- A step in a guarded text adds nothing to the groups and the openings of named ones ahead. -/
theorem step_prospects {piece : Piece} {rest : List Piece}
    (hguarded : Guarded (reader.pending.front ++ piece :: rest))
    (h : reader.step piece = .ok later) :
    Guarded (later.pending.front ++ rest) ∧
      later.prospects rest ≤ reader.prospects (piece :: rest) := by
  obtain ⟨settled, hsettle, haccept⟩ := step_eq_ok.mp h
  have hparen (hpending : reader.pending = .opening .paren) : piece = .plain '?' := by
    rw [hpending] at hguarded
    exact Option.some.inj (hguarded.1 rfl)
  obtain ⟨hopened, hfront⟩ := settle_front (fun hpending => congrArg some (hparen hpending)) hsettle
  have hsame : settled.prospects (piece :: rest) = reader.prospects (piece :: rest) := by
    rw [prospects, prospects, hopened, hfront]
  have hnames := accept_names (fun hpending => ?_) haccept
  · rw [← hfront] at hguarded
    rw [← hsame]
    exact hnames.prospects hguarded
  · rw [← hfront, hpending] at hguarded
    exact Option.some.inj (hguarded.1 rfl)

/-- Reading a guarded text adds nothing to the groups and the openings of named ones ahead. -/
theorem run_prospects {pieces : List Piece} (hguarded : Guarded (reader.pending.front ++ pieces))
    (h : reader.run pieces = .ok later) :
    Guarded later.pending.front ∧ later.prospects [] ≤ reader.prospects pieces := by
  induction pieces generalizing reader with
  | nil =>
      cases (run_nil reader).symm.trans h
      rw [List.append_nil] at hguarded
      exact ⟨hguarded, Nat.le_refl _⟩
  | cons piece rest ih =>
      obtain ⟨_, middle, hstep, hrest⟩ := run_cons.mp h
      obtain ⟨hmiddle, hle⟩ := step_prospects hguarded hstep
      obtain ⟨hlater, hle'⟩ := ih hmiddle hrest
      exact ⟨hlater, Nat.le_trans hle' hle⟩

end ExprReader

/-- An expression in which every parenthesis that opens something is followed by a question mark has
no more capture groups than there are openings of named groups in it. -/
theorem Expression.groups_le_namings {source : String} {flags : Flags} {expression : Expression}
    (hguarded : Guarded (Piece.ofText source.toList))
    (h : Expression.read source flags = .ok expression) :
    expression.groups ≤ namings (Piece.ofText source.toList) := by
  obtain ⟨reading, done, hrun, hfinish, _, _, rfl⟩ := Expression.read_eq_ok.mp h
  obtain ⟨hlast, hle⟩ := @run_prospects (start flags) _ _ hguarded hrun
  obtain ⟨hsettle, _⟩ := finish_eq_ok.mp hfinish
  have hopened := (settle_front (fun hpending => ?_) hsettle).1
  · simp only [prospects, start, Pending.front, List.nil_append, Nat.zero_add] at hle
    show done.opened ≤ _
    omega
  · rw [hpending] at hlast
    exact absurd (hlast.1 rfl) (by simp)

end RoutePattern
