import RoutePattern.Proofs.Expr.Demand

/-!
# Expressions that keep to themselves

The text of an expression need not say inside a group what it says by itself: it may close the group
too early, go on behind the parenthesis that is meant to close it, or refer to groups in front of
it. `SelfContained` excludes this, also for a text that is no expression. `SelfContained.fills` is
the main result: if such a text has been read inside a group, it reads by itself to its end.
-/

namespace RoutePattern

open ExprReader

namespace ExprReader

variable {host reader later : ExprReader} {flags : Flags}

/-- Whether nothing is open or pending, and no capture group has been met. -/
def isClear (reader : ExprReader) : Bool :=
  match reader.pending, reader.outer with
  | .nothing, [] => decide reader.Ungrouped
  | _, _ => false

/-- What a clear reader is like. -/
theorem isClear_iff : reader.isClear = true ↔
    reader.pending = .nothing ∧ reader.outer = [] ∧ reader.Ungrouped := by
  unfold isClear
  split
  · next hpending houter => simp [hpending, houter]
  · next hnot =>
    simp only [Bool.false_eq_true, false_iff]
    rintro ⟨hpending, houter, _⟩
    exact hnot hpending houter

/-- Whether reading pieces up to a closing parenthesis depends on the pieces alone: no capture group
is opened or referred to, no group is closed that the pieces have not opened, and every group and
set is closed in the end. Reading stops at the first fault, and at flags for the whole expression,
which are a fault inside of groups. -/
def keepsToItself (reader : ExprReader) : List Piece → Bool
  | [] =>
      match reader.settle (some (.plain ')')) with
      | .ok settled => settled.isClear
      | .error fault => isOwnFault fault
  | piece :: rest =>
      reader.endsFlags piece ||
        (decide (Portable (reader.settle (some piece))) && decide (Portable (reader.step piece)) &&
          match reader.step piece with
          | .ok later => later.keepsToItself rest
          | .error _ => true)

/-- What is over in front of a closing parenthesis is over at the end of the text. -/
theorem settle_end (h : reader.settle (some (.plain ')')) = .ok later)
    (hlater : later.pending = .nothing) : reader.settle none = .ok later := by
  unfold settle at h ⊢
  cases hpending : reader.pending with
  | nothing | remark => simpa [hpending] using h
  | repetition => simpa [hpending] using h
  | bounds least comma most =>
      have hclose : boundsGoOn least comma (some (.plain ')')) = false := by
        simp [boundsGoOn, Char.isDigit]
      simpa [hpending, hclose, boundsGoOn] using h
  | escape escape =>
      simp only [hpending] at h ⊢
      split at h
      · cases h
        simp [hpending] at hlater
      · rw [if_neg (by simp [escapeGoesOn])]
        exact h
  | set sub =>
      simp only [hpending] at h
      split at h
      · cases h
        simp [hpending] at hlater
      · obtain ⟨_, _, h⟩ := bind_eq_ok.mp h
        cases h
        simp at hlater
  | opening opening =>
      cases opening with
      | paren => simpa [hpending] using h
      | _ =>
          simp only [hpending] at h
          cases h
          simp [hpending] at hlater

/-- Pieces that keep to themselves and have been read inside a group, up to the parenthesis that
closes it, can be read by themselves. -/
theorem run_of_keepsToItself {pieces rest : List Piece} {last : ExprReader}
    (hhost : host.frame.kind.isSimple = true) (houter : host.outer ≠ [])
    (hreader : reader.Groupless flags) (hkeeps : reader.keepsToItself pieces = true)
    (hrun : (reader.inside host).run (pieces ++ .plain ')' :: rest) = .ok last) :
    ∃ reading settled, reader.run pieces = .ok reading ∧ reader.setsFlags pieces = false ∧
      reading.Groupless flags ∧ reading.settle (some (.plain ')')) = .ok settled ∧
      settled.isClear = true := by
  induction pieces generalizing reader with
  | nil =>
      -- In front of the parenthesis the reader is settled alike by itself and inside the host.
      obtain ⟨_, _, hstep, _⟩ := run_cons.mp hrun
      obtain ⟨_, hinside, _⟩ := step_eq_ok.mp hstep
      unfold keepsToItself at hkeeps
      cases hsettle : reader.settle (some (.plain ')')) with
      | error fault =>
          rw [hsettle] at hkeeps
          rw [inside_settle host hreader (hsettle ▸ hkeeps), hsettle] at hinside
          cases hinside
      | ok settled =>
          rw [hsettle] at hkeeps
          exact ⟨reader, settled, run_nil reader, rfl, hreader, hsettle, hkeeps⟩
  | cons piece others ih =>
      obtain ⟨hlone, next, hnext, hlast⟩ := run_cons.mp hrun
      have hends : reader.endsFlags piece = false := by
        rw [← Bool.not_eq_true]
        exact fun hends => step_inside_endsFlags houter hends hnext
      simp only [keepsToItself, hends, Bool.false_or, Bool.and_eq_true, decide_eq_true_eq] at hkeeps
      obtain ⟨⟨hsettle, hstep⟩, hkeeps⟩ := hkeeps
      -- The step inside the host is the one by itself, so it has no fault there either.
      rw [inside_step hhost hreader hends hsettle hstep] at hnext
      cases halone : reader.step piece with
      | error fault =>
          rw [halone] at hnext
          cases hnext
      | ok later =>
          rw [halone] at hnext hkeeps hstep
          cases hnext
          obtain ⟨reading, settled, hreading, hflags, hgroupless, hclose, hclear⟩ :=
            ih (step_groupless hreader hstep hends halone) hkeeps hlast
          refine ⟨reading, settled, run_cons.mpr ⟨hlone, later, halone, hreading⟩, ?_, hgroupless,
            hclose, hclear⟩
          simp [setsFlags, hends, halone, hflags]

end ExprReader

/-- The text of an expression that keeps to itself, whether it can be read or not. -/
def SelfContained (flags : Flags) (source : String) : Prop :=
  (start flags).keepsToItself (Piece.ofText source.toList) = true

instance (flags : Flags) (source : String) : Decidable (SelfContained flags source) :=
  inferInstanceAs (Decidable (_ = true))

/-- A text that keeps to itself and has been read inside a group may stand there. -/
theorem SelfContained.fills {flags : Flags} (hascii : flags.asciiOnly = false) {source : String}
    (hwhole : Piece.Whole source.toList) (h : SelfContained flags source) :
    Fills flags (source.toList ++ [')']) (Nestable flags source) := by
  intro host last kind rest hpending hframe hkind houter hrun
  have hhost : host.frame.kind.isSimple = true := by
    rw [hframe]
    exact hkind
  rw [List.append_assoc, Piece.ofText_append hwhole, List.singleton_append,
    Piece.ofText_plain (by decide), ← start_inside hpending hframe] at hrun
  obtain ⟨reading, settled, hreading, hflags, hgroupless, hclose, hclear⟩ :=
    run_of_keepsToItself hhost houter (start_groupless flags) h hrun
  obtain ⟨hnothing, hnone, hungrouped⟩ := isClear_iff.mp hclear
  -- With nothing open, what is over at the parenthesis is over at the end of the text.
  have hglobal : settled.flags = flags :=
    ((settle_move hclose).groupless hgroupless hungrouped (by simp)).global
  have hfinish : reading.finish = .ok settled := by
    rw [finish_eq_ok]
    refine ⟨settle_end hclose hnothing, by rw [hnothing]; rfl, hnone, ?_, ?_⟩
    · simp [hglobal, hascii]
    · simp [hungrouped.conditions]
  exact ⟨⟨reading, settled, hreading, hfinish, hungrouped⟩, hflags⟩

end RoutePattern
