import RoutePattern.Proofs.Expr.Nesting

/-!
# Expressions that may stand inside of groups

A text that reads to its end without capture groups and without flags for the whole expression is
`Nestable`: it fills a group with the expressions that it stands for by itself
(`Nestable.content`). It is `Embeddable` if it also is an expression by itself, so that its
look-behinds have what they ask for.
-/

namespace RoutePattern

open ExprReader

namespace ExprReader

variable {reader host done : ExprReader} {flags : Flags}

/-- A reader at the start has met no group. -/
theorem start_groupless (flags : Flags) : (start flags).Groupless flags where
  toGrounded := grounded_of_nothing rfl rfl rfl
  global := rfl
  opened := rfl
  names := rfl
  closed := rfl
  frames := by
    intro frame hframe
    obtain rfl : frame = (start flags).frame := by simpa [start] using hframe
    exact ⟨rfl, by simp [start], by simp [start]⟩

/-- A reader at the start, inside a group that has just been opened, is the host itself. -/
theorem start_inside (hpending : host.pending = .nothing) {kind : GroupKind}
    (hframe : host.frame = { kind, flags }) : (start flags).inside host = host := by
  obtain ⟨pending, frame, outer, names, opened, closed, bound, conditions, global, wide⟩ := host
  dsimp only at hpending hframe
  subst hpending hframe
  rfl

end ExprReader

/-- The expressions in a row that a text stands for when it is read by itself. -/
def readItems (flags : Flags) (source : String) : List Expr :=
  match (do let reading ← (start flags).run (Piece.ofText source.toList); reading.finish) with
  | .ok done => done.frame.items
  | .error _ => []

/-- Whether the text of an expression sets flags for the whole of it. -/
def hasGlobalFlags (flags : Flags) (source : String) : Bool :=
  (start flags).setsFlags (Piece.ofText source.toList)

/-- How an expression without capture groups has been read. -/
theorem ExprReader.read_done {flags : Flags} {source : String}
    {expression : Expression} (hread : Expression.read source flags = .ok expression)
    (hgroups : expression.groups = 0) : ∃ reading done,
      (start flags).run (Piece.ofText source.toList) = .ok reading ∧ reading.finish = .ok done ∧
      done.Ungrouped ∧ done.frame.items = readItems flags source ∧
      expression = ⟨source, done.flags, .ofList (readItems flags source), 0⟩ := by
  obtain ⟨reading, done, hrun, hfinish, _, _, rfl⟩ := Expression.read_eq_ok.mp hread
  obtain ⟨hsettle, _, houter, _, hfind⟩ := finish_eq_ok.mp hfinish
  dsimp only at hgroups
  have hitems : readItems flags source = done.frame.items := by
    unfold readItems
    simp only [hrun, bind, Except.bind, hfinish]
  refine ⟨reading, done, hrun, hfinish, ⟨hgroups, ?_⟩, hitems.symm, ?_⟩
  · obtain ⟨_, more, hzero, hmore⟩ := (run_grows hrun).trans (settle_move hsettle).grows
    rw [hmore, hgroups] at hfind
    rw [hmore]
    cases more with
    | nil => rfl
    | cons n rest =>
        simp only [List.mem_cons, not_or] at hzero
        simp [start, Nat.pos_of_ne_zero fun h => hzero.1 h.symm] at hfind
  · rw [hitems, hgroups]
    rfl

/-- A text that can be read does not begin with a question mark. -/
theorem ExprReader.head?_of_run {flags : Flags} (hverbose : flags.verbose = false)
    {source : String} {reading : ExprReader}
    (hrun : (start flags).run (Piece.ofText source.toList) = .ok reading) :
    source.toList.head? ≠ some '?' := by
  intro hhead
  cases htext : source.toList with
  | nil => simp [htext] at hhead
  | cons c rest =>
      rw [htext, List.head?_cons, Option.some.injEq] at hhead
      subst hhead
      rw [htext, Piece.ofText_plain (by decide)] at hrun
      obtain ⟨_, _, hstep, _⟩ := run_cons.mp hrun
      rw [step_plain_of_nothing rfl] at hstep
      unfold acceptPlain at hstep
      simp [start, hverbose, repeatLast] at hstep

/-- The text of an expression that can be read inside of groups: by itself it reads to its end, and
it has neither capture groups nor flags for the whole expression. -/
structure Nestable (flags : Flags) (source : String) : Prop where
  reads : ∃ reading done, (start flags).run (Piece.ofText source.toList) = .ok reading ∧
    reading.finish = .ok done ∧ done.Ungrouped
  free : hasGlobalFlags flags source = false

namespace Nestable

variable {flags : Flags} {source : String}

/-- A nestable expression is read to its end without meeting a group. -/
theorem exists_done (h : Nestable flags source) : ∃ reading done,
    (start flags).run (Piece.ofText source.toList) = .ok reading ∧ reading.finish = .ok done ∧
    done.Ungrouped ∧ reading.Groupless flags ∧ done.Groupless flags ∧
    done.frame.items = readItems flags source := by
  obtain ⟨reading, done, hrun, hfinish, hungrouped⟩ := h.reads
  obtain ⟨hsettle, _⟩ := finish_eq_ok.mp hfinish
  -- The host is of no matter here: reading inside of any host meets no group.
  obtain ⟨_, hreading⟩ := @run_inside (start flags) _ _ _ _ rfl (start_groupless flags)
    ((settle_move hsettle).grows.ungrouped hungrouped) h.free hrun
  refine ⟨reading, done, hrun, hfinish, hungrouped, hreading,
    (settle_move hsettle).groupless hreading hungrouped (by simp), ?_⟩
  simp only [readItems, hrun, bind, Except.bind, hfinish]

/-- A nestable expression has no groups. -/
theorem groupfree_readItems (h : Nestable flags source) :
    ∀ e ∈ readItems flags source, e.Groupfree := by
  obtain ⟨_, done, _, _, _, _, hdone, hitems⟩ := h.exists_done
  rw [← hitems]
  exact (hdone.frames done.frame (by simp)).2.items

/-- A nestable expression fills a group with the expressions that it stands for by itself. -/
theorem content (hverbose : flags.verbose = false) (h : Nestable flags source) :
    Content flags source.toList 0 fun _ => readItems flags source where
  whole := by
    obtain ⟨_, _, hrun, _⟩ := h.reads
    exact whole_of_run hrun
  reads reader parent rest kind hpending hframe hkind houter := by
    obtain ⟨reading, done, hrun, hfinish, hungrouped, hgroupless, _, hitems⟩ := h.exists_done
    obtain ⟨hsettle, _, hdone, _, _⟩ := finish_eq_ok.mp hfinish
    have hreading := (settle_move hsettle).grows.ungrouped hungrouped
    have hhost : reader.frame.kind.isSimple = true := by
      rw [hframe]
      exact hkind
    obtain ⟨hrun', _⟩ := run_inside hhost (start_groupless flags) hreading h.free hrun
    rw [start_inside hpending hframe] at hrun'
    obtain ⟨hclose, hnothing⟩ := settle_close hverbose hgroupless.toGrounded hfinish
    have hsettle' : (reading.inside reader).settle (some (.plain ')')) =
        .ok (done.inside reader) := by
      rw [inside_settle reader hgroupless (hclose ▸ hungrouped), hclose]
      rfl
    have hquiet : done.frame.flags = flags :=
      ((settle_move hclose).grounded hgroupless.toGrounded (by simp)).1.quiet hdone
    -- At its end the text has changed nothing of the host but the frame of the group.
    have hinside : done.inside reader = { reader with
        pending := .nothing
        frame := { done.frame with kind }
        behindBound := (done.inside reader).behindBound } := by
      simp only [inside, hdone, hostOuter, hostFrame, hframe, hnothing]
    refine ⟨(done.inside reader).close parent rest, ?_, close_pending _ _ _, ?_⟩
    · rw [run_append]
      refine ⟨_, hrun', run_cons.mpr ⟨by simp, _, step_eq_ok.mpr ⟨_, hsettle', ?_⟩, run_nil _⟩⟩
      rw [hinside, accept_plain rfl]
      exact acceptPlain_close (by rw [hquiet, hverbose]) houter
    · have hsimple : (done.inside reader).frame.kind.isSimple = true := by
        rw [hinside]
        exact hkind
      have hextends := extends_close (done.inside reader) parent rest hsimple
      have hterm : (done.inside reader).frame.kind.term (done.inside reader).frame.items =
          kind.term (readItems flags source) := by
        rw [hinside, ← hitems]
        rfl
      rw [hterm] at hextends
      have hbeside := hextends.beside
      exact ⟨hextends.rested, hextends.frame, hbeside.outer, hbeside.opened, hbeside.conditions,
        hbeside.flags, hbeside.wide⟩

/-- A nestable expression does not begin with a question mark. -/
theorem head?_ne_question (hverbose : flags.verbose = false) (h : Nestable flags source) :
    source.toList.head? ≠ some '?' := by
  obtain ⟨_, _, hrun, _⟩ := h.reads
  exact head?_of_run hverbose hrun

end Nestable

/-- The text of an expression that may stand inside of groups: by itself it can be read, and it has
neither capture groups nor flags for the whole expression. -/
structure Embeddable (flags : Flags) (source : String) : Prop where
  reads : ∃ expression, Expression.read source flags = .ok expression ∧ expression.groups = 0
  free : hasGlobalFlags flags source = false

/-- Whether an expression may stand inside of groups is found out by reading it. -/
theorem embeddable_iff {flags : Flags} {source : String} : Embeddable flags source ↔
    (Expression.read source flags).toOption.map Expression.groups = some 0 ∧
      hasGlobalFlags flags source = false := by
  simp only [Option.map_eq_some_iff, toOption_eq_some]
  exact ⟨fun h => ⟨h.reads, h.free⟩, fun h => ⟨h.1, h.2⟩⟩

instance (flags : Flags) (source : String) : Decidable (Embeddable flags source) :=
  decidable_of_iff _ embeddable_iff.symm

/-- An embeddable expression is nestable. -/
theorem Embeddable.nestable {flags : Flags} {source : String} (h : Embeddable flags source) :
    Nestable flags source := by
  obtain ⟨_, hread, hgroups⟩ := h.reads
  obtain ⟨reading, done, hrun, hfinish, hungrouped, _⟩ := read_done hread hgroups
  exact ⟨⟨reading, done, hrun, hfinish, hungrouped⟩, h.free⟩

/-- An expression that may stand inside of groups has the flags it is read under. -/
theorem Embeddable.read_eq {flags : Flags} {source : String} (h : Embeddable flags source) :
    Expression.read source flags = .ok ⟨source, flags, .ofList (readItems flags source), 0⟩ := by
  obtain ⟨expression, hread, hgroups⟩ := h.reads
  obtain ⟨_, done, hrun, hfinish, _, _, rfl⟩ := read_done hread hgroups
  obtain ⟨_, _, hrun', hfinish', _, _, hdone, _⟩ := h.nestable.exists_done
  cases hrun.symm.trans hrun'
  cases hfinish.symm.trans hfinish'
  rw [hread, hdone.global]

/-- An expression that may stand inside of groups has no groups. -/
theorem Embeddable.groupfree_readItems {flags : Flags} {source : String}
    (h : Embeddable flags source) : ∀ e ∈ readItems flags source, e.Groupfree :=
  h.nestable.groupfree_readItems

/-- An expression that may stand inside of groups has no capture group. -/
theorem Embeddable.capturesAll_readItems {flags : Flags} {source : String}
    (h : Embeddable flags source) : capturesAll (readItems flags source) = [] :=
  capturesAll_eq_nil.mpr fun e he => (h.groupfree_readItems e he).1

/-- An expression without capture groups that has been read inside of a group sets no flags for the
whole expression. -/
theorem Embeddable.of_run_inside {flags : Flags} {source : String} {expression : Expression}
    (hread : Expression.read source flags = .ok expression) (hgroups : expression.groups = 0)
    {host last : ExprReader} (hhost : host.frame.kind.isSimple = true) {kind : GroupKind}
    (hpending : host.pending = .nothing) (hframe : host.frame = { kind, flags })
    (houter : host.outer ≠ []) {pieces : List Piece}
    (hrun : host.run (Piece.ofText source.toList ++ pieces) = .ok last) :
    Embeddable flags source := by
  refine ⟨⟨expression, hread, hgroups⟩, ?_⟩
  obtain ⟨reading, done, hreading, hfinish, hungrouped, _, _⟩ := read_done hread hgroups
  obtain ⟨hsettle, _⟩ := finish_eq_ok.mp hfinish
  rw [← Bool.not_eq_true]
  intro hflags
  have hhost' := run_inside_setsFlags hhost houter (start_groupless flags)
    ((settle_move hsettle).grows.ungrouped hungrouped) hflags hreading pieces last
  rw [start_inside hpending hframe] at hhost'
  exact hhost' hrun

end RoutePattern
