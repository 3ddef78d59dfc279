import RoutePattern.Proofs.Expr.Enclosing
import RoutePattern.Proofs.Expr.Segment

/-!
# Texts that say the same

Two texts say the same if wherever the first one can be read, so can the second, and both add the same
expressions and leave the same record of capture groups (`Restates`). `RestatesTerm` is about texts
of a single term, behind which a mark may stand, and `Refills` about what fills a group. A text that
can be read by itself refills a group as it is (`Refills.of_read`), also with capture groups of its
own; the other lemmas put such texts together as patterns do. Groups that capture nothing may be left
out (`Restates.unwrap`, `Restates.wrap`).
-/

namespace RoutePattern

open ExprReader

namespace ExprReader

variable {reader other later later' middle : ExprReader} {terms others : List Term}

/-! ## Records -/

/-- What a reader knows about capture groups and about the whole expression. What has been read and
the groups that are open are left out. -/
def record (reader : ExprReader) : ExprReader :=
  { reader with
    pending := .nothing
    frame := { kind := .bare, flags := reader.frame.flags }
    outer := [] }

/-- Readers with the same record have the same flags. -/
theorem frame_flags_of_record (h : other.record = reader.record) :
    other.frame.flags = reader.frame.flags := by
  have hflags := congrArg (fun reader : ExprReader => reader.frame.flags) h
  exact hflags

/-- Readers with the same record have opened as many groups. -/
theorem opened_of_record (h : other.record = reader.record) : other.opened = reader.opened := by
  have hopened := congrArg ExprReader.opened h
  exact hopened

/-- Closing groups of one kind with the same content leaves the same record. -/
theorem record_close {parent parent' : Frame} {rest rest' : List Frame}
    (hrecord : other.record = reader.record) (hkind : other.frame.kind = reader.frame.kind)
    (hbody : other.frame.body = reader.frame.body) (hparent : parent'.flags = parent.flags) :
    (other.close parent' rest').record = (reader.close parent rest).record := by
  obtain ⟨pending, frame, outer, names, opened, closed, bound, conditions, flags, wide⟩ := reader
  obtain ⟨pending', frame', outer', names', opened', closed', bound', conditions', flags', wide'⟩ :=
    other
  simp only [record, ExprReader.mk.injEq, true_and] at hrecord
  obtain ⟨_, rfl, rfl, rfl, rfl, rfl, rfl, rfl⟩ := hrecord
  dsimp only at hkind hbody
  unfold close
  dsimp only
  rw [hkind]
  split <;> simp [record, ExprReader.push, hparent, hbody]

/-- The later reader is at rest in the same group, with more terms. -/
structure Adds (reader later : ExprReader) (terms : List Term) : Prop where
  rested : later.Rested
  frame : later.frame = { reader.frame with terms := terms.reverse ++ reader.frame.terms }
  outer : later.outer = reader.outer
  flags : later.flags = reader.flags

/-- A reader at rest adds nothing to itself. -/
theorem Adds.refl (h : reader.Rested) : reader.Adds reader [] :=
  ⟨h, rfl, rfl, rfl⟩

/-- What is added in two goes is added in a row. -/
theorem Adds.trans (hfirst : reader.Adds middle terms) (hsecond : middle.Adds later others) :
    reader.Adds later (terms ++ others) where
  rested := hsecond.rested
  frame := by rw [hsecond.frame, hfirst.frame]; simp
  outer := hsecond.outer.trans hfirst.outer
  flags := hsecond.flags.trans hfirst.flags

/-- What extends a reader adds terms to it. -/
theorem Extends.adds {count : Nat} (h : reader.Extends later terms count) :
    reader.Adds later terms :=
  ⟨h.rested, h.frame, h.beside.outer, h.beside.flags⟩

/-- Adding terms keeps the flags of the group. -/
theorem Adds.frame_flags (h : reader.Adds later terms) : later.frame.flags = reader.frame.flags := by
  rw [h.frame]

/-- Closing a group adds its term to the group around it. -/
theorem adds_close (reader : ExprReader) (parent : Frame) (rest : List Frame) :
    { reader with frame := parent, outer := rest }.Adds (reader.close parent rest)
      [reader.frame.term] := by
  have hrested := close_pending reader parent rest
  unfold close at hrested ⊢
  dsimp only at hrested ⊢
  split <;> exact ⟨.inl rfl, rfl, rfl, rfl⟩

/-- A group may be repeated. -/
theorem repeatable_term (frame : Frame) : frame.term.repeatable = true := by
  unfold Frame.term
  split
  case h_7 => split <;> rfl
  all_goals rfl

/-! ## Pairs of readers -/

/-- Two readers at rest with the same record. -/
structure Twin (flags : Flags) (reader other : ExprReader) : Prop where
  rested : reader.Rested
  rested' : other.Rested
  flags : reader.frame.flags = flags
  record : other.record = reader.record

variable {flags : Flags}

/-- The second of two such readers has the same flags. -/
theorem Twin.flags' (h : reader.Twin flags other) : other.frame.flags = flags :=
  (frame_flags_of_record h.record).trans h.flags

/-- A reader at rest makes a pair with itself. -/
theorem Twin.refl (hrested : reader.Rested) (hflags : reader.frame.flags = flags) :
    reader.Twin flags reader :=
  ⟨hrested, hrested, hflags, rfl⟩

/-- Two readers have added the same expressions, and they still have the same record. -/
structure AddBoth (reader other later later' : ExprReader) (terms terms' : List Term) : Prop where
  adds : reader.Adds later terms
  adds' : other.Adds later' terms'
  items : terms'.flatMap Term.items = terms.flatMap Term.items
  record : later'.record = later.record

/-- A pair of readers stays one when both have added the same. -/
theorem AddBoth.twin {terms terms' : List Term} (h : AddBoth reader other later later' terms terms')
    (htwin : reader.Twin flags other) : later.Twin flags later' :=
  ⟨h.adds.rested, h.adds'.rested, h.adds.frame_flags.trans htwin.flags, h.record⟩

/-- A reader inside of a group that has just been opened, with the groups around it. -/
structure Entered (flags : Flags) (kind : GroupKind) (parent : Frame) (rest : List Frame)
    (reader : ExprReader) : Prop where
  pending : reader.pending = .nothing
  frame : reader.frame = { kind, flags }
  outer : reader.outer = parent :: rest
  parent : parent.flags = flags

end ExprReader

variable {flags : Flags} {text other : List Char}

/-- Where the first text can be read, so can the second one, and both add the same expressions. -/
structure Restates (flags : Flags) (text other : List Char) : Prop where
  whole : Piece.Whole text
  whole' : Piece.Whole other
  reads : ∀ {reader reader' later : ExprReader}, reader.Twin flags reader' →
    reader.run (Piece.ofText text) = .ok later → ∃ later' terms terms',
      reader'.run (Piece.ofText other) = .ok later' ∧ AddBoth reader reader' later later' terms terms'

/-- Where the first text can be read, so can the second one, and both add the same term, which a mark
behind it may repeat. -/
structure RestatesTerm (flags : Flags) (text other : List Char) : Prop where
  whole : Piece.Whole text
  whole' : Piece.Whole other
  reads : ∀ {reader reader' later : ExprReader}, reader.Twin flags reader' →
    reader.run (Piece.ofText text) = .ok later → ∃ later' term,
      reader'.run (Piece.ofText other) = .ok later' ∧ term.repeatable = true ∧
      later.pending = .nothing ∧ later'.pending = .nothing ∧
        AddBoth reader reader' later later' [term] [term]

/-- Where the first text can be read inside of a group up to the parenthesis that closes it, so can the
second one, and both make the same term of the group. -/
structure Refills (flags : Flags) (text other : List Char) : Prop where
  whole : Piece.Whole text
  whole' : Piece.Whole other
  reads : ∀ {reader reader' later : ExprReader} {kind : GroupKind} {parent parent' : Frame}
    {rest rest' : List Frame}, reader.Entered flags kind parent rest →
    reader'.Entered flags kind parent' rest' → reader'.record = reader.record →
    reader.run (Piece.ofText text ++ [.plain ')']) = .ok later → ∃ later' term,
      reader'.run (Piece.ofText other ++ [.plain ')']) = .ok later' ∧ term.repeatable = true ∧
      later.pending = .nothing ∧ later'.pending = .nothing ∧
        AddBoth { reader with frame := parent, outer := rest }
          { reader' with frame := parent', outer := rest' } later later' [term] [term]

namespace Restates

/-- The empty text says the same as itself. -/
theorem nil : Restates flags [] [] where
  whole := .nil
  whole' := .nil
  reads htwin hrun := by
    cases hrun
    exact ⟨_, [], [], rfl, .refl htwin.rested, .refl htwin.rested', rfl, htwin.record⟩

/-- Texts in a row say the same if each of them does. -/
theorem append {first second first' second' : List Char} (hfirst : Restates flags first first')
    (hsecond : Restates flags second second') :
    Restates flags (first ++ second) (first' ++ second') where
  whole := hfirst.whole.append hsecond.whole
  whole' := hfirst.whole'.append hsecond.whole'
  reads htwin hrun := by
    rw [Piece.ofText_append hfirst.whole, run_append] at hrun
    obtain ⟨middle, hmiddle, hlast⟩ := hrun
    obtain ⟨middle', terms, terms', hmiddle', hboth⟩ := hfirst.reads htwin hmiddle
    obtain ⟨later', others, others', hlast', hboth'⟩ := hsecond.reads (hboth.twin htwin) hlast
    refine ⟨later', terms ++ others, terms' ++ others', ?_, hboth.adds.trans hboth'.adds,
      hboth.adds'.trans hboth'.adds', ?_, hboth'.record⟩
    · rw [Piece.ofText_append hfirst.whole', run_append]
      exact ⟨middle', hmiddle', hlast'⟩
    · rw [List.flatMap_append, List.flatMap_append, hboth.items, hboth'.items]

/-- What says the same as a text between two others says the same as both. -/
theorem trans {middle : List Char} (h : Restates flags text middle)
    (h' : Restates flags middle other) : Restates flags text other where
  whole := h.whole
  whole' := h'.whole'
  reads htwin hrun := by
    obtain ⟨between, terms, terms', hbetween, hboth⟩ :=
      h.reads (.refl htwin.rested htwin.flags) hrun
    obtain ⟨later', others, others', hlast, hboth'⟩ := h'.reads htwin hbetween
    -- The text in the middle has been read twice from the same reader.
    have hsame : others.flatMap Term.items = terms'.flatMap Term.items := by
      have hterms := congrArg Frame.terms (hboth.adds'.frame.symm.trans hboth'.adds.frame)
      rw [List.reverse_inj.mp (List.append_cancel_right hterms)]
    exact ⟨later', terms, others', hlast, hboth.adds, hboth'.adds',
      hboth'.items.trans (hsame.trans hboth.items), hboth'.record.trans hboth.record⟩

/-- A literal character says the same wherever it stands. -/
theorem char (hverbose : flags.verbose = false) (c : Char) :
    Restates flags (escapeChars [c]) (escapeChars [c]) := by
  obtain ⟨piece, hwhole, hpieces, hmark, haccept⟩ := exists_literal_piece hverbose c
  have hlone : piece ≠ .lone := by
    intro h
    rw [Piece.Whole, hpieces, h] at hwhole
    simp at hwhole
  have hread {reader : ExprReader} (hrested : reader.Rested) (hflags : reader.frame.flags = flags) :
      reader.run [piece] =
        .ok (reader.rested.push (.item (.char (.literal c.toNat false flags.fold)))) := by
    refine run_cons.mpr ⟨hlone, _, ?_, run_nil _⟩
    rw [step_rested hrested hmark]
    exact haccept reader.rested rfl hflags
  refine ⟨hwhole, hwhole, fun htwin hrun => ?_⟩
  rw [hpieces, hread htwin.rested htwin.flags] at hrun
  cases hrun
  refine ⟨_, _, _, by rw [hpieces, hread htwin.rested' htwin.flags'],
    (extends_push _ _).of_rested.adds, (extends_push _ _).of_rested.adds, rfl, ?_⟩
  exact htwin.record

/-- Literal text says the same wherever it stands. -/
theorem literal (hverbose : flags.verbose = false) (text : List Char) :
    Restates flags (escapeChars text) (escapeChars text) := by
  induction text with
  | nil => exact .nil
  | cons c rest ih =>
      have htext : escapeChars (c :: rest) = escapeChars [c] ++ escapeChars rest := by
        simp [escapeChars]
      rw [htext]
      exact (char hverbose c).append ih

end Restates

/-- A text of one term is a text. -/
theorem RestatesTerm.restates (h : RestatesTerm flags text other) : Restates flags text other where
  whole := h.whole
  whole' := h.whole'
  reads htwin hrun := by
    obtain ⟨later', term, hrun', _, _, _, hboth⟩ := h.reads htwin hrun
    exact ⟨later', [term], [term], hrun', hboth⟩

/-! ## What fills a group -/

namespace Refills

/-- A text that can be read by itself says the same in every group. -/
theorem of_read (hverbose : flags.verbose = false) {source : String} {expression : Expression}
    (hread : Expression.read source flags = .ok expression) :
    Refills flags source.toList source.toList := by
  obtain ⟨reading, done, halone, hfinish, _⟩ := Expression.read_eq_ok.mp hread
  have hwhole := whole_of_run halone
  refine ⟨hwhole, hwhole, ?_⟩
  intro reader reader' later kind parent parent' rest rest' hreader hreader' hrecord hrun
  obtain ⟨settled, hglobal, rfl, hothers⟩ := run_closing hverbose halone hfinish hreader.pending
    hreader.frame hreader.outer hrun
  have hsame : ({ reader with outer := parent' :: rest' } : ExprReader) = reader' := by
    obtain ⟨pending, frame, outer, names, opened, closed, bound, conditions, flags, wide⟩ := reader
    obtain ⟨pending', frame', outer', names', opened', closed', bound', conditions', flags',
      wide'⟩ := reader'
    have hpending := hreader.pending.trans hreader'.pending.symm
    have hframe := hreader.frame.trans hreader'.frame.symm
    have houter := hreader'.outer
    dsimp only at hpending hframe houter
    simp only [record, ExprReader.mk.injEq, true_and] at hrecord
    obtain ⟨_, rfl, rfl, rfl, rfl, rfl, rfl, rfl⟩ := hrecord
    rw [hpending, hframe, houter]
  have hclosing := hothers parent' rest'
  rw [hsame] at hclosing
  refine ⟨_, settled.frame.term, hclosing, repeatable_term _, close_pending _ _ _,
    close_pending _ _ _, ?_, ?_, rfl, ?_⟩
  · have hadds := adds_close settled parent rest
    exact ⟨hadds.rested, hadds.frame, hadds.outer, hadds.flags.trans hglobal⟩
  · have hadds := adds_close settled parent' rest'
    refine ⟨hadds.rested, hadds.frame, hadds.outer, hadds.flags.trans (hglobal.trans ?_)⟩
    have hflags := congrArg ExprReader.flags hrecord
    exact hflags.symm
  · exact record_close rfl rfl rfl (hreader'.parent.trans hreader.parent.symm)

/-- Texts that say the same do so in a group. -/
theorem of_restates (hverbose : flags.verbose = false) (h : Restates flags text other) :
    Refills flags text other where
  whole := h.whole
  whole' := h.whole'
  reads {reader reader' later kind parent parent' rest rest'} hreader hreader' hrecord hrun := by
    have htwin : reader.Twin flags reader' :=
      ⟨.inl hreader.pending, .inl hreader'.pending, by rw [hreader.frame], hrecord⟩
    obtain ⟨inner, hinner, hclose⟩ := run_append.mp hrun
    obtain ⟨inner', terms, terms', hinner', hboth⟩ := h.reads htwin hinner
    have hlast := hboth.twin htwin
    obtain ⟨_, after, hstep, hend⟩ := run_cons.mp hclose
    cases hend
    have houter : inner.outer = parent :: rest := hboth.adds.outer.trans hreader.outer
    have houter' : inner'.outer = parent' :: rest' := hboth.adds'.outer.trans hreader'.outer
    rw [step_close hlast.rested (by rw [hlast.flags, hverbose]) houter] at hstep
    cases hstep
    have hstep' := step_close hlast.rested' (by rw [hlast.flags', hverbose]) houter'
    have hframe : inner.frame = { kind, terms := terms.reverse, flags } := by
      rw [hboth.adds.frame, hreader.frame, List.append_nil]
    have hframe' : inner'.frame = { kind, terms := terms'.reverse, flags } := by
      rw [hboth.adds'.frame, hreader'.frame, List.append_nil]
    have hbranch : inner'.frame.branch = inner.frame.branch := by
      rw [hframe, hframe']
      simpa [Frame.branch] using hboth.items
    have hitems : inner'.frame.items = inner.frame.items := by
      unfold Frame.items Frame.allBranches
      rw [hbranch, hframe, hframe']
    have hterm : inner'.frame.term = inner.frame.term := by
      unfold Frame.term Frame.body Frame.allBranches
      rw [hitems, hbranch, hframe, hframe']
    have hadds := adds_close inner.rested parent rest
    have hadds' := adds_close inner'.rested parent' rest'
    rw [show inner'.rested.frame.term = inner.frame.term from hterm] at hadds'
    refine ⟨_, inner.frame.term, run_append.mpr ⟨inner', hinner', run_cons.mpr
      ⟨by simp, _, hstep', run_nil _⟩⟩, repeatable_term _, close_pending _ _ _,
      close_pending _ _ _, ?_, ?_, rfl, ?_⟩
    · exact ⟨hadds.rested, hadds.frame, hadds.outer, hadds.flags.trans hboth.adds.flags⟩
    · exact ⟨hadds'.rested, hadds'.frame, hadds'.outer, hadds'.flags.trans hboth.adds'.flags⟩
    · refine record_close hboth.record ?_ ?_ (hreader'.parent.trans hreader.parent.symm)
      · show inner'.frame.kind = inner.frame.kind
        rw [hframe, hframe']
      · show Expr.ofList inner'.frame.items = Expr.ofList inner.frame.items
        rw [hitems]

/-- What fills a group says the same in a group that captures nothing. -/
theorem bare (hverbose : flags.verbose = false) (h : Refills flags text other) :
    RestatesTerm flags ("(?:".toList ++ text ++ [')']) ("(?:".toList ++ other ++ [')']) where
  whole := .plain (by decide) (.plain (by decide) (.plain (by decide)
    (h.whole.append (.plain (by decide) .nil))))
  whole' := .plain (by decide) (.plain (by decide) (.plain (by decide)
    (h.whole'.append (.plain (by decide) .nil))))
  reads {reader reader' later} htwin hrun := by
    have hopen := run_open_question htwin.rested (by rw [htwin.flags, hverbose]) (.inl rfl)
    have hopen' := run_open_question htwin.rested' (by rw [htwin.flags', hverbose]) (.inl rfl)
    rw [show "(?:".toList ++ text ++ [')'] = '(' :: '?' :: ':' :: text ++ [')'] from rfl,
      ofText_question (by decide) h.whole, run_append] at hrun
    obtain ⟨inside, hinside, hrun⟩ := hrun
    cases hopen.symm.trans hinside
    have hentered : (reader.openGroup .bare reader.frame.flags).Entered flags .bare reader.frame
        reader.outer := ⟨rfl, by rw [← htwin.flags]; rfl, rfl, htwin.flags⟩
    have hentered' : (reader'.openGroup .bare reader'.frame.flags).Entered flags .bare reader'.frame
        reader'.outer := ⟨rfl, by rw [← htwin.flags']; rfl, rfl, htwin.flags'⟩
    obtain ⟨later', term, hrun', hterm, hpending, hpending', hboth⟩ :=
      h.reads hentered hentered' htwin.record hrun
    have hadds := hboth.adds
    have hadds' := hboth.adds'
    refine ⟨later', term, ?_, hterm, hpending, hpending',
      ⟨hadds.rested, hadds.frame, hadds.outer, hadds.flags⟩,
      ⟨hadds'.rested, hadds'.frame, hadds'.outer, hadds'.flags⟩, rfl, hboth.record⟩
    rw [show "(?:".toList ++ other ++ [')'] = '(' :: '?' :: ':' :: other ++ [')'] from rfl,
      ofText_question (by decide) h.whole', run_append]
    exact ⟨_, hopen', hrun'⟩

/-- What fills a group says the same in a capture group. -/
theorem capture (hverbose : flags.verbose = false) (h : Refills flags text other)
    (hhead : text.head? ≠ some '?') (hhead' : other.head? ≠ some '?') :
    RestatesTerm flags ('(' :: text ++ [')']) ('(' :: other ++ [')']) where
  whole := .plain (by decide) (h.whole.append (.plain (by decide) .nil))
  whole' := .plain (by decide) (h.whole'.append (.plain (by decide) .nil))
  reads {reader reader' later} htwin hrun := by
    rw [ofText_parenthesized h.whole] at hrun
    obtain ⟨_, opened, hstep, hrun⟩ := run_cons.mp hrun
    cases (step_open htwin.rested (by rw [htwin.flags, hverbose])).symm.trans hstep
    rw [run_capture (by simp) (head?_content_ne hhead)] at hrun
    let inside : ExprReader := { reader.openGroup (.capture (reader.opened + 1)) reader.frame.flags
      with opened := reader.opened + 1 }
    let inside' : ExprReader := { reader'.openGroup (.capture (reader'.opened + 1))
      reader'.frame.flags with opened := reader'.opened + 1 }
    have hentered : inside.Entered flags (.capture (reader.opened + 1)) reader.frame reader.outer :=
      ⟨rfl, by rw [← htwin.flags]; rfl, rfl, htwin.flags⟩
    have hentered' : inside'.Entered flags (.capture (reader.opened + 1)) reader'.frame
        reader'.outer := by
      rw [← opened_of_record htwin.record]
      exact ⟨rfl, by rw [← htwin.flags']; rfl, rfl, htwin.flags'⟩
    have hrecord : inside'.record = inside.record := by
      have hopened := congrArg (fun reader : ExprReader =>
        { reader with opened := reader.opened + 1 }) htwin.record
      exact hopened
    obtain ⟨later', term, hrun', hterm, hpending, hpending', hboth⟩ :=
      h.reads hentered hentered' hrecord hrun
    have hadds := hboth.adds
    have hadds' := hboth.adds'
    refine ⟨later', term, ?_, hterm, hpending, hpending',
      ⟨hadds.rested, hadds.frame, hadds.outer, hadds.flags⟩,
      ⟨hadds'.rested, hadds'.frame, hadds'.outer, hadds'.flags⟩, rfl, hboth.record⟩
    rw [ofText_parenthesized h.whole']
    refine run_cons.mpr ⟨by simp, _, step_open htwin.rested' (by rw [htwin.flags', hverbose]), ?_⟩
    exact (run_capture (by simp) (head?_content_ne hhead')).mpr hrun'

end Refills

/-! ## Marks and groups around a text -/

/-- Texts of one term say the same with a mark behind them. -/
theorem RestatesTerm.mark (hverbose : flags.verbose = false) (h : RestatesTerm flags text other)
    {mark : Char} {least : Nat} {most : Option Nat}
    (hmark : (mark, least, most) = ('?', 0, some 1) ∨ (mark, least, most) = ('*', 0, none) ∨
      (mark, least, most) = ('+', 1, none)) :
    Restates flags (text ++ [mark]) (other ++ [mark]) := by
  have hslash : mark ≠ '\\' := by rcases hmark with h | h | h <;> cases h <;> decide
  have hpieces : Piece.ofText [mark] = [.plain mark] := by
    rw [Piece.ofText_plain hslash, Piece.ofText]
  -- Behind a term the mark makes a repetition of it.
  have hstep {before middle : ExprReader} {term : Term} (hpending : middle.pending = .nothing)
      (hadds : before.Adds middle [term]) (hterm : term.repeatable = true)
      (hflags : before.frame.flags = flags) :
      middle.run [.plain mark] = .ok { middle with
        pending := .repetition
        frame.terms := .item (.loop .greedy least most term.body) :: before.frame.terms } := by
    have hquiet : middle.frame.flags.verbose = false := by
      rw [hadds.frame_flags, hflags, hverbose]
    have hterms : middle.frame.terms = term :: before.frame.terms := by
      rw [hadds.frame]
      rfl
    exact run_cons.mpr ⟨by simp, _, (step_repetition hpending hquiet hmark).trans
      (repeatLast_eq hterms hterm least most), run_nil _⟩
  have hmarked {before middle : ExprReader} {term : Term} (hadds : before.Adds middle [term]) :
      before.Adds { middle with
        pending := .repetition
        frame.terms := .item (.loop .greedy least most term.body) :: before.frame.terms }
        [.item (.loop .greedy least most term.body)] := by
    refine ⟨.inr rfl, ?_, hadds.outer, hadds.flags⟩
    show ({ middle.frame with terms := _ } : Frame) = _
    rw [hadds.frame]
    rfl
  refine ⟨h.whole.append (.plain hslash .nil), h.whole'.append (.plain hslash .nil),
    fun htwin hrun => ?_⟩
  rw [Piece.ofText_append h.whole, run_append, hpieces] at hrun
  obtain ⟨middle, hmiddle, hrun⟩ := hrun
  obtain ⟨middle', term, hmiddle', hterm, hpending, hpending', hboth⟩ := h.reads htwin hmiddle
  cases (hstep hpending hboth.adds hterm htwin.flags).symm.trans hrun
  refine ⟨_, _, _, ?_, hmarked hboth.adds, hmarked hboth.adds', rfl, hboth.record⟩
  rw [Piece.ofText_append h.whole', run_append, hpieces]
  exact ⟨middle', hmiddle', hstep hpending' hboth.adds' hterm htwin.flags'⟩

/-- Texts of one term say the same with a modifier behind them. -/
theorem RestatesTerm.modified (hverbose : flags.verbose = false)
    (h : RestatesTerm flags text other) {modifier : String} (hmodifier : IsModifier modifier) :
    Restates flags (text ++ modifier.toList) (other ++ modifier.toList) := by
  rcases hmodifier with rfl | rfl | rfl | rfl
  · rw [show "".toList = [] from rfl, List.append_nil, List.append_nil]
    exact h.restates
  · exact h.mark hverbose (.inl rfl)
  · exact h.mark hverbose (.inr (.inl rfl))
  · exact h.mark hverbose (.inr (.inr rfl))

/-- A reader at rest inside of a group that captures nothing makes its expressions one term. -/
theorem ExprReader.adds_bare {reader inner : ExprReader} {terms : List Term}
    (hadds : (reader.openGroup .bare reader.frame.flags).Adds inner terms) :
    reader.Adds (inner.rested.close reader.frame reader.outer)
      [.bare (terms.flatMap Term.items)] ∧
      (inner.rested.close reader.frame reader.outer).record = inner.record := by
  have hframe : inner.rested.frame =
      { kind := .bare, terms := terms.reverse, flags := reader.frame.flags } := by
    rw [show inner.rested.frame = inner.frame from rfl, hadds.frame]
    simp [openGroup]
  have hitems : inner.rested.frame.term = .bare (terms.flatMap Term.items) := by
    rw [hframe]
    simp [Frame.term, Frame.items, Frame.allBranches, Frame.branch, Alternation.ofBranches]
  have hclose := adds_close inner.rested reader.frame reader.outer
  rw [hitems] at hclose
  refine ⟨⟨hclose.rested, hclose.frame, hclose.outer, hclose.flags.trans hadds.flags⟩, ?_⟩
  have hflags : inner.frame.flags = reader.frame.flags := hadds.frame_flags
  have hkind : inner.rested.frame.kind = .bare := by rw [hframe]
  unfold close
  dsimp only
  rw [hkind]
  simp [record, ExprReader.push, rested, hflags]

namespace Restates

/-- A text in a group that captures nothing says the same without the group. -/
theorem unwrap (hverbose : flags.verbose = false) (h : Restates flags text other) :
    Restates flags ("(?:".toList ++ text ++ [')']) other where
  whole := .plain (by decide) (.plain (by decide) (.plain (by decide)
    (h.whole.append (.plain (by decide) .nil))))
  whole' := h.whole'
  reads {reader reader' later} htwin hrun := by
    have hopen := run_open_question htwin.rested (by rw [htwin.flags, hverbose]) (.inl rfl)
    rw [show "(?:".toList ++ text ++ [')'] = '(' :: '?' :: ':' :: text ++ [')'] from rfl,
      ofText_question (by decide) h.whole, run_append] at hrun
    obtain ⟨inside, hinside, hrun⟩ := hrun
    cases hopen.symm.trans hinside
    obtain ⟨inner, hinner, hclose⟩ := run_append.mp hrun
    have hinsideTwin : (reader.openGroup .bare reader.frame.flags).Twin flags reader' :=
      ⟨.inl rfl, htwin.rested', htwin.flags, htwin.record⟩
    obtain ⟨later', terms, terms', hrun', hboth⟩ := h.reads hinsideTwin hinner
    have htwin' := hboth.twin hinsideTwin
    obtain ⟨_, after, hstep, hend⟩ := run_cons.mp hclose
    cases hend
    cases (step_close htwin'.rested (by rw [htwin'.flags, hverbose])
      hboth.adds.outer).symm.trans hstep
    obtain ⟨hadds, hrecord⟩ := adds_bare hboth.adds
    refine ⟨later', _, terms', hrun', hadds, hboth.adds', ?_, hboth.record.trans hrecord.symm⟩
    simpa [Term.items] using hboth.items

/-- A text says the same in a group that captures nothing. -/
theorem wrap (hverbose : flags.verbose = false) (h : Restates flags text other) :
    Restates flags text ("(?:".toList ++ other ++ [')']) where
  whole := h.whole
  whole' := .plain (by decide) (.plain (by decide) (.plain (by decide)
    (h.whole'.append (.plain (by decide) .nil))))
  reads {reader reader' later} htwin hrun := by
    have hopen := run_open_question htwin.rested' (by rw [htwin.flags', hverbose]) (.inl rfl)
    have hinsideTwin : reader.Twin flags (reader'.openGroup .bare reader'.frame.flags) :=
      ⟨htwin.rested, .inl rfl, htwin.flags, htwin.record⟩
    obtain ⟨inner, terms, terms', hinner, hboth⟩ := h.reads hinsideTwin hrun
    have htwin' := hboth.twin hinsideTwin
    have hclose := step_close htwin'.rested' (by rw [htwin'.flags', hverbose]) hboth.adds'.outer
    obtain ⟨hadds, hrecord⟩ := adds_bare hboth.adds'
    refine ⟨_, terms, _, ?_, hboth.adds, hadds, ?_, hrecord.trans hboth.record⟩
    · rw [show "(?:".toList ++ other ++ [')'] = '(' :: '?' :: ':' :: other ++ [')'] from rfl,
        ofText_question (by decide) h.whole', run_append]
      exact ⟨_, hopen, run_append.mpr ⟨inner, hinner, run_cons.mpr
        ⟨by simp, _, hclose, run_nil _⟩⟩⟩
    · simpa [Term.items] using hboth.items

end Restates

end RoutePattern
