import RoutePattern.Proofs.Expr.Outline

/-!
# Reading inside of other groups

What a reader does depends on its innermost groups alone: the groups further out stay as they are
until the text closes a group that it has not opened (`above_accept`). A text that can be read by
itself closes none but its own groups, wherever it stands, so what stands around these may be
exchanged (`run_above`). `run_closing` is the main result: such a text fills a group up to its
closing parenthesis in the same way whatever is around the group, even with capture groups and
references.
-/

namespace RoutePattern

open ExprReader

namespace ExprReader

variable {reader later : ExprReader} {base : List Frame} {flags : Flags}

/-! ## More groups around a reader -/

/-- The reader with more groups around all of its own. -/
def above (reader : ExprReader) (base : List Frame) : ExprReader :=
  { reader with outer := reader.outer ++ base }

/-- Characters are added in the same way inside of more groups. -/
theorem above_pushChars (reader : ExprReader) (chars : List Char) :
    (reader.above base).pushChars chars = (reader.pushChars chars).above base := by
  induction chars generalizing reader with
  | nil => rfl
  | cons c rest ih => exact ih (reader.pushCode c.toNat)

/-- A capture group is opened in the same way inside of more groups. -/
theorem above_openCapture (name : Option String) :
    (reader.above base).openCapture name = (reader.openCapture name).map (·.above base) := by
  cases name with
  | none => rfl
  | some name =>
      unfold openCapture
      dsimp only
      rw [show (reader.above base).names = reader.names from rfl]
      split <;> rfl

/-- A group is referred to in the same way inside of more groups. -/
theorem above_refer (number : Nat) :
    (reader.above base).refer number = (reader.refer number).map (·.above base) := by
  unfold refer
  rw [show (reader.above base).closed = reader.closed from rfl,
    show (reader.above base).checkBehind number = reader.checkBehind number from rfl]
  split
  · rfl
  · cases reader.checkBehind number <;> rfl

/-- A reference by number is the same inside of more groups. -/
theorem above_referNumber (number : Nat) :
    (reader.above base).referNumber number = (reader.referNumber number).map (·.above base) := by
  unfold referNumber
  rw [show (reader.above base).opened = reader.opened from rfl]
  split
  · exact above_refer number
  · rfl

/-- A reference by name is the same inside of more groups. -/
theorem above_referName (name : List Char) :
    (reader.above base).referName name = (reader.referName name).map (·.above base) := by
  unfold referName
  dsimp only
  rw [show (reader.above base).names = reader.names from rfl]
  split
  · rfl
  split
  · rfl
  split
  · rfl
  · exact above_refer _

/-- A named group is opened in the same way inside of more groups. -/
theorem above_nameGroup (name : List Char) :
    (reader.above base).nameGroup name = (reader.nameGroup name).map (·.above base) := by
  unfold nameGroup
  split
  · rfl
  split
  · rfl
  · exact above_openCapture _

/-- A group that depends on another one is opened in the same way inside of more groups. -/
theorem above_openCondition (name : List Char) :
    (reader.above base).openCondition name = (reader.openCondition name).map (·.above base) := by
  unfold openCondition
  dsimp only
  rw [show (reader.above base).names = reader.names from rfl]
  split
  · rfl
  split
  · split
    · rfl
    · next number _ =>
      rw [show (reader.above base).checkBehind number = reader.checkBehind number from rfl]
      cases reader.checkBehind number <;> rfl
  split
  · rfl
  · next number _ _ =>
    split
    · rfl
    · rw [show (reader.above base).checkBehind number = reader.checkBehind number from rfl]
      cases reader.checkBehind number <;> rfl
  · rfl

/-- The last term is repeated in the same way inside of more groups. -/
theorem above_repeatLast (least : Nat) (most : Option Nat) :
    (reader.above base).repeatLast least most =
      (reader.repeatLast least most).map (·.above base) := by
  unfold repeatLast
  dsimp only
  rw [show (reader.above base).frame.terms = reader.frame.terms from rfl]
  split <;> rfl

/-- Written bounds are read in the same way inside of more groups. -/
theorem above_repeatBounds (least : List Char) (comma : Bool) (most : List Char) :
    (reader.above base).repeatBounds least comma most =
      (reader.repeatBounds least comma most).map (·.above base) := by
  unfold repeatBounds
  dsimp only
  cases readCount least with
  | error fault => rfl
  | ok low =>
      generalize (if comma then most else least) = most
      cases readCount most with
      | error fault => rfl
      | ok high =>
          show (if _ then _ else _) = Except.map _ (if _ then _ else _)
          split
          · exact above_repeatLast _ _
          split
          · rfl
          · exact above_repeatLast _ _

/-- The order of a repetition is changed in the same way inside of more groups. -/
theorem above_setGreed (greed : Greed) :
    (reader.above base).setGreed greed = (reader.setGreed greed).above base := by
  unfold setGreed
  rw [show (reader.above base).frame.terms = reader.frame.terms from rfl]
  split <;> rfl

/-- An escape means the same inside of more groups. -/
theorem above_takeEscape (c : Char) (meaning : EscapeMeaning) :
    (reader.above base).takeEscape c meaning =
      (reader.takeEscape c meaning).map (·.above base) := by
  cases meaning <;> rfl

/-- A bar begins another branch in the same way inside of more groups. -/
theorem above_nextBranch :
    (reader.above base).nextBranch = reader.nextBranch.map (·.above base) := by
  unfold nextBranch
  dsimp only
  rw [show (reader.above base).frame = reader.frame from rfl]
  split <;> rfl

/-- A group is closed in the same way inside of more groups. -/
theorem above_close (parent : Frame) (rest : List Frame) :
    (reader.above base).close parent (rest ++ base) = (reader.close parent rest).above base := by
  unfold close
  dsimp only
  rw [show (reader.above base).frame = reader.frame from rfl]
  split <;> rfl

/-- A flag is turned on in the same way inside of more groups. -/
theorem above_turnOn (on : List Char) (letter : Char) :
    (reader.above base).turnOn on letter = (reader.turnOn on letter).map (·.above base) := by
  unfold turnOn
  split
  · rfl
  split <;> rfl

/-- A group with flags of its own is opened in the same way inside of more groups. -/
theorem above_openScoped (on off : List Char) :
    (reader.above base).openScoped on off = (reader.openScoped on off).map (·.above base) := by
  unfold openScoped
  split
  · rfl
  split <;> rfl

/-- A piece after the question mark of an opening is taken in the same way inside of more groups. -/
theorem above_acceptQuestion (piece : Piece) :
    (reader.above base).acceptQuestion piece =
      (reader.acceptQuestion piece).map (·.above base) := by
  unfold acceptQuestion
  dsimp only
  split
  case h_10 =>
    split
    · exact above_turnOn _ _
    · rfl
  all_goals rfl

/-- A piece of an opening is taken in the same way inside of more groups, unless it sets flags for the
whole expression. -/
theorem above_acceptOpening {opening : Opening} {piece : Piece}
    (hflags : ∀ on, opening = .flagsOn on → piece ≠ .plain ')') :
    (reader.above base).acceptOpening opening piece =
      (reader.acceptOpening opening piece).map (·.above base) := by
  unfold acceptOpening
  dsimp only
  split
  · rfl
  · exact above_acceptQuestion _
  · rfl
  · rfl
  · rfl
  · exact above_nameGroup _
  · rfl
  · exact above_referName _
  · rfl
  · rfl
  · rfl
  · rfl
  · exact above_openCondition _
  · rfl
  · rfl
  · rfl
  · exact absurd rfl (hflags _ rfl)
  · split
    · rfl
    · exact above_openScoped _ _
  · split <;> rfl
  · split
    · exact above_turnOn _ _
    · rfl
  · rfl
  · split
    · exact above_openScoped _ _
    split
    · rfl
    split <;> rfl
  · rfl

/-- A character is taken in the same way inside of more groups, unless it closes a group that is not
there. -/
theorem above_acceptPlain {c : Char} (hclose : c = ')' → reader.outer ≠ []) :
    (reader.above base).acceptPlain c = (reader.acceptPlain c).map (·.above base) := by
  unfold acceptPlain
  dsimp only
  rw [show (reader.above base).frame = reader.frame from rfl]
  split
  · rfl
  split
  · rfl
  split
  case h_11 =>
    cases houter : reader.outer with
    | nil => exact absurd houter (hclose rfl)
    | cons parent rest =>
        rw [show (reader.above base).outer = parent :: (rest ++ base) by rw [above, houter]; rfl]
        exact congrArg Except.ok (above_close parent rest)
  case h_6 => exact above_repeatLast _ _
  case h_7 => exact above_repeatLast _ _
  case h_8 => exact above_repeatLast _ _
  case h_10 => exact above_nextBranch
  all_goals rfl

/-- A piece is taken in the same way inside of more groups, unless it closes a group that is not
there or sets flags for the whole expression. -/
theorem above_accept {piece : Piece}
    (hflags : ∀ on, reader.pending = .opening (.flagsOn on) → piece ≠ .plain ')')
    (hclose : reader.pending = .nothing → piece = .plain ')' → reader.outer ≠ []) :
    (reader.above base).accept piece = (reader.accept piece).map (·.above base) := by
  unfold accept
  rw [show (reader.above base).pending = reader.pending from rfl]
  split
  · next hpending => exact above_acceptPlain fun hc => hclose hpending (congrArg _ hc)
  · exact above_takeEscape _ _
  · simp only [Except.map, above_setGreed]
  · simp only [Except.map, above_setGreed]
  · split
    · exact above_repeatBounds _ _ _
    split
    · rfl
    split <;> rfl
  · split
    · next meaning _ =>
      cases meaning with
      | error fault => rfl
      | ok meaning => exact above_takeEscape _ _
    · rfl
  · next sub _ =>
    rw [show (reader.above base).frame = reader.frame from rfl]
    generalize sub.accept reader.frame.flags _ = outcome
    cases outcome with
    | error fault => rfl
    | ok outcome => cases outcome <;> rfl
  · next opening _ hpending =>
    exact above_acceptOpening fun on hon => hflags on (hpending.trans (congrArg _ hon))
  · split <;> rfl
  · rfl

/-- A reader is settled in the same way inside of more groups. -/
theorem above_settle (next : Option Piece) :
    (reader.above base).settle next = (reader.settle next).map (·.above base) := by
  unfold settle
  rw [show (reader.above base).pending = reader.pending from rfl]
  split
  · split <;> rfl
  · split
    · rfl
    · exact congrArg Except.ok (above_pushChars { reader with pending := .nothing } _)
  · next escape _ =>
    split
    · rfl
    · cases escape.complete with
      | error fault => rfl
      | ok value =>
          cases value with
          | inl n => rfl
          | inr number => exact above_referNumber number
  · next sub _ =>
    split
    · rfl
    · cases sub.settleEscape <;> rfl
  · split
    · rfl
    · exact above_openCapture none
  · rfl

/-! ## Reading on -/

/-- A closing parenthesis is taken only inside of a group, where nothing else is pending. -/
theorem outer_ne_nil_of_accept (hpending : reader.pending = .nothing)
    (h : reader.accept (.plain ')') = .ok later) : reader.outer ≠ [] := by
  intro houter
  have hblank : CharClass.blank.holds true ')'.toNat = false := by decide
  unfold accept at h
  simp only [hpending] at h
  unfold acceptPlain at h
  dsimp only at h
  rw [hblank] at h
  simp [houter] at h

/-- Inside of groups no flags are set for the whole expression. -/
theorem accept_flagsOn_ne_ok (hbase : base ≠ []) {on : List Char}
    (hpending : reader.pending = .opening (.flagsOn on)) :
    (reader.above base).accept (.plain ')') ≠ .ok later := by
  have houter : (reader.outer ++ base).isEmpty = false := by simp [hbase]
  unfold accept
  rw [show (reader.above base).pending = _ from hpending]
  show (reader.above base).setFlags on ≠ .ok later
  unfold setFlags
  rw [show (reader.above base).outer = reader.outer ++ base from rfl, houter]
  simp

/-- A text that can be read by itself from one reader is read inside of groups from another one with
the same outline as it is without these groups, or inside of others. -/
theorem run_above {alone last last' : ExprReader} {pieces : List Piece} (hbase : base ≠ [])
    (houtline : reader.outline = alone.outline) (hreader : reader.Grounded flags)
    (halone : alone.run pieces = .ok last) (h : (reader.above base).run pieces = .ok last') :
    ∃ later : ExprReader, last' = later.above base ∧
      (∀ base', (reader.above base').run pieces = .ok (later.above base')) ∧
        later.outline = last.outline ∧ later.Grounded flags ∧ later.flags = reader.flags := by
  induction pieces generalizing alone reader with
  | nil =>
      cases halone
      cases h
      exact ⟨reader, rfl, fun _ => rfl, houtline, hreader, rfl⟩
  | cons piece rest ih =>
      obtain ⟨hlone, aloneLater, haloneStep, haloneRest⟩ := run_cons.mp halone
      obtain ⟨_, later, hstep, hrest⟩ := run_cons.mp h
      obtain ⟨aloneSettled, haloneSettle, haloneAccept⟩ := step_eq_ok.mp haloneStep
      obtain ⟨settled, hsettle, haccept⟩ := step_eq_ok.mp hstep
      rw [above_settle] at hsettle
      cases hown : reader.settle (some piece) with
      | error fault => simp [hown, Except.map] at hsettle
      | ok own =>
          obtain rfl : own.above base = settled := by simpa [hown, Except.map] using hsettle
          have hsettled : own.outline = aloneSettled.outline :=
            settle_agree houtline _ _ _ haloneSettle hown
          -- Neither flags for the whole are set here, nor is a group closed that is further out.
          have hflags (on : List Char) (hpending : own.pending = .opening (.flagsOn on)) :
              piece ≠ .plain ')' := by
            rintro rfl
            exact accept_flagsOn_ne_ok hbase hpending haccept
          have hclose (hpending : own.pending = .nothing) (hpiece : piece = .plain ')') :
              own.outer ≠ [] := by
            subst hpiece
            have houter := outer_ne_nil_of_accept
              ((congrArg Outline.pending hsettled).symm.trans hpending) haloneAccept
            intro hnil
            have hmap := congrArg Outline.outer hsettled
            change own.outer.map Frame.flags = aloneSettled.outer.map Frame.flags at hmap
            rw [hnil] at hmap
            exact houter (List.map_eq_nil_iff.mp hmap.symm)
          rw [above_accept hflags hclose] at haccept
          cases hafter : own.accept piece with
          | error fault => simp [hafter, Except.map] at haccept
          | ok after =>
              obtain rfl : after.above base = later := by simpa [hafter, Except.map] using haccept
              obtain ⟨hgrounded, hglobal⟩ := (settle_move hown).grounded hreader (by simp)
              obtain ⟨hgrounded', hglobal'⟩ :=
                (accept_move hafter).grounded hgrounded (by simpa using hflags)
              have hlater : after.outline = aloneLater.outline :=
                accept_agree hsettled (fun on hpending => hflags on
                  ((congrArg Outline.pending hsettled).trans hpending)) _ _ haloneAccept hafter
              obtain ⟨final, hlast, hothers, houtline', hfinal, hsame⟩ :=
                ih hlater hgrounded' haloneRest hrest
              refine ⟨final, hlast, fun base' => run_cons.mpr ⟨hlone, after.above base', ?_,
                hothers base'⟩, houtline', hfinal, hsame.trans (hglobal'.trans hglobal)⟩
              refine step_eq_ok.mpr ⟨own.above base', ?_, ?_⟩
              · rw [above_settle, hown]
                rfl
              · rw [above_accept hflags hclose, hafter]
                rfl

/-- A text that can be read by itself fills a group up to the parenthesis that closes it, in the same
way whatever is around the group. -/
theorem run_closing {pieces : List Piece} {reading done last : ExprReader} {kind : GroupKind}
    {parent : Frame} {rest : List Frame} (hverbose : flags.verbose = false)
    (halone : (start flags).run pieces = .ok reading) (hfinish : reading.finish = .ok done)
    (hpending : reader.pending = .nothing) (hframe : reader.frame = { kind, flags })
    (houter : reader.outer = parent :: rest)
    (h : reader.run (pieces ++ [.plain ')']) = .ok last) :
    ∃ settled : ExprReader, settled.flags = reader.flags ∧ last = settled.close parent rest ∧
      ∀ parent' rest', ({ reader with outer := parent' :: rest' } : ExprReader).run
        (pieces ++ [.plain ')']) = .ok (settled.close parent' rest') := by
  obtain ⟨inner, hinner, hclose⟩ := run_append.mp h
  have hgrounded : ({ reader with outer := [] } : ExprReader).Grounded flags :=
    grounded_of_nothing hpending rfl (by rw [hframe])
  have houtline : ({ reader with outer := [] } : ExprReader).outline = (start flags).outline := by
    simp [outline, hpending, hframe, start]
  have hreader (frames : List Frame) : ({ reader with outer := frames } : ExprReader) =
      ({ reader with outer := [] } : ExprReader).above frames := rfl
  rw [show reader = { reader with outer := parent :: rest } by rw [← houter], hreader] at hinner
  obtain ⟨later, rfl, hothers, hlater, hgrounded', hglobal⟩ :=
    run_above (by simp) houtline hgrounded halone hinner
  -- What is pending at the end of the text is over in front of the parenthesis.
  obtain ⟨_, _, hdone, _⟩ := finish_eq_ok.mp hfinish
  obtain ⟨haloneClose, hnothing⟩ :=
    settle_close hverbose (hgrounded'.of_outline hlater.symm) hfinish
  obtain ⟨_, after, hstep, hend⟩ := run_cons.mp hclose
  cases hend
  obtain ⟨settled, hsettle, haccept⟩ := step_eq_ok.mp hstep
  rw [above_settle] at hsettle
  cases hown : later.settle (some (.plain ')')) with
  | error fault => simp [hown, Except.map] at hsettle
  | ok own =>
      obtain rfl : own.above (parent :: rest) = settled := by
        simpa [hown, Except.map] using hsettle
      have hsettled : own.outline = done.outline :=
        settle_agree hlater _ _ _ haloneClose hown
      have hownPending : own.pending = .nothing :=
        (congrArg Outline.pending hsettled).trans hnothing
      have hownOuter : own.outer = [] := by
        have hmap := congrArg Outline.outer hsettled
        change own.outer.map Frame.flags = done.outer.map Frame.flags at hmap
        rwa [hdone, List.map_nil, List.map_eq_nil_iff] at hmap
      obtain ⟨hownGrounded, hownGlobal⟩ := (settle_move hown).grounded hgrounded' (by simp)
      have hclosing (parent' : Frame) (rest' : List Frame) :
          (own.above (parent' :: rest')).accept (.plain ')') = .ok (own.close parent' rest') := by
        have hquiet : own.frame.flags.verbose = false := by
          rw [hownGrounded.quiet hownOuter, hverbose]
        show (own.above (parent' :: rest')).accept (.plain ')') =
          .ok ((own.above (parent' :: rest')).close parent' rest')
        have habove : (own.above (parent' :: rest')).pending = .nothing := hownPending
        rw [accept_plain habove]
        exact acceptPlain_close hquiet (by simp [above, hownOuter])
      refine ⟨own, hownGlobal.trans hglobal, ?_, fun parent' rest' => ?_⟩
      · exact Except.ok.inj (haccept.symm.trans (hclosing parent rest))
      · rw [hreader]
        refine run_append.mpr ⟨later.above (parent' :: rest'), hothers _, ?_⟩
        refine run_cons.mpr ⟨by simp, _, step_eq_ok.mpr
          ⟨own.above (parent' :: rest'), ?_, hclosing parent' rest'⟩, rfl⟩
        rw [above_settle, hown]
        rfl

end ExprReader

end RoutePattern
