import RoutePattern.Proofs.Expr.Move

/-!
# Outlines of readers

The outline of a reader is what is pending and the flags inside of each open group. It leaves out what
has been read and which capture groups there are. `settle_agree` and `accept_agree` say that readers
with the same outline keep the same outline, as long as they go on: so when a text closes a group does
not depend on where it stands. `settle_close` says that what may be pending at the end of a text is
over in front of a closing parenthesis, too.
-/

namespace RoutePattern

open ExprReader

namespace ExprReader

variable {reader other later later' done : ExprReader}

/-! ## Outlines -/

/-- What is pending, and the flags in force inside of each open group, the innermost one first. -/
structure Outline where
  pending : Pending
  flags : Flags
  outer : List Flags

/-- The outline of a reader. -/
def outline (reader : ExprReader) : Outline :=
  ⟨reader.pending, reader.frame.flags, reader.outer.map Frame.flags⟩

/-- The outline with something else pending. -/
def Outline.pend (outline : Outline) (pending : Pending) : Outline :=
  { outline with pending }

/-- The outline inside of one more group. -/
def Outline.enter (outline : Outline) (flags : Flags) : Outline :=
  ⟨.nothing, flags, outline.flags :: outline.outer⟩

/-- Adding characters leaves nothing pending. -/
theorem outline_pushChars (reader : ExprReader) (chars : List Char) :
    ({ reader with pending := .nothing }.pushChars chars).outline =
      reader.outline.pend .nothing := by
  obtain ⟨terms, heq, _⟩ := pushChars_eq reader chars
  rw [heq]
  rfl

/-- A capture group is one more group with the same flags. -/
theorem openCapture_outline {name : Option String} (h : reader.openCapture name = .ok later) :
    later.outline = reader.outline.enter reader.frame.flags := by
  unfold openCapture at h
  dsimp only at h
  split at h
  · cases h
    rfl
  split at h <;> cases h
  rfl

/-- A reference to a group is a term. -/
theorem refer_outline {number : Nat} (h : reader.refer number = .ok later) :
    later.outline = reader.outline.pend .nothing := by
  unfold refer at h
  split at h
  · cases h
  · obtain ⟨_, _, h⟩ := bind_eq_ok.mp h
    cases h
    rfl

/-- A reference by number is a term. -/
theorem referNumber_outline {number : Nat} (h : reader.referNumber number = .ok later) :
    later.outline = reader.outline.pend .nothing := by
  unfold referNumber at h
  split at h
  · exact refer_outline h
  · cases h

/-- A reference by name is a term. -/
theorem referName_outline {name : List Char} (h : reader.referName name = .ok later) :
    later.outline = reader.outline.pend .nothing := by
  unfold referName at h
  dsimp only at h
  split at h
  · cases h
  split at h
  · cases h
  split at h
  · cases h
  · exact refer_outline h

/-- A named group is one more group with the same flags. -/
theorem nameGroup_outline {name : List Char} (h : reader.nameGroup name = .ok later) :
    later.outline = reader.outline.enter reader.frame.flags := by
  unfold nameGroup at h
  split at h
  · cases h
  split at h
  · cases h
  · exact openCapture_outline h

/-- A group that depends on another one is one more group with the same flags. -/
theorem openCondition_outline {name : List Char} (h : reader.openCondition name = .ok later) :
    later.outline = reader.outline.enter reader.frame.flags := by
  unfold openCondition at h
  dsimp only at h
  split at h
  · cases h
  split at h
  · split at h
    · cases h
    · obtain ⟨_, _, h⟩ := bind_eq_ok.mp h
      cases h
      rfl
  split at h
  · cases h
  · split at h
    · cases h
    · obtain ⟨inner, hinner, h⟩ := bind_eq_ok.mp h
      obtain ⟨_, _, hinner⟩ := bind_eq_ok.mp hinner
      cases hinner
      cases h
      rfl
  · cases h

/-- A repetition of the last term may still be changed by a mark. -/
theorem repeatLast_outline {least : Nat} {most : Option Nat}
    (h : reader.repeatLast least most = .ok later) :
    later.outline = reader.outline.pend .repetition := by
  unfold repeatLast at h
  dsimp only at h
  split at h <;> cases h <;> rfl

/-- A repetition with written bounds may still be changed by a mark. -/
theorem repeatBounds_outline {least most : List Char} {comma : Bool}
    (h : reader.repeatBounds least comma most = .ok later) :
    later.outline = reader.outline.pend .repetition := by
  unfold repeatBounds at h
  dsimp only at h
  generalize (if comma then most else least) = most at h
  obtain ⟨low, _, h⟩ := bind_eq_ok.mp h
  obtain ⟨high, _, h⟩ := bind_eq_ok.mp h
  split at h
  · exact repeatLast_outline h
  split at h
  · cases h
  · exact repeatLast_outline h

/-- A bar changes neither what is pending nor the groups. -/
theorem nextBranch_outline (h : reader.nextBranch = .ok later) :
    later.outline = reader.outline := by
  unfold nextBranch at h
  dsimp only at h
  split at h <;> cases h
  rfl

/-- After its order a repetition is complete. -/
theorem setGreed_outline (reader : ExprReader) (greed : Greed) :
    (reader.setGreed greed).outline = reader.outline.pend .nothing := by
  unfold setGreed
  split <;> rfl

/-! ## Readers with the same outline -/

/-- Two steps agree if their outcomes have the same outline, unless one of them fails. -/
def Agree (first second : Except ExprFault ExprReader) : Prop :=
  ∀ later later', first = .ok later → second = .ok later' → later'.outline = later.outline

/-- A failed step agrees with any other. -/
theorem Agree.failed (fault : ExprFault) (second : Except ExprFault ExprReader) :
    Agree (.error fault) second :=
  fun _ _ h _ => nomatch h

/-- Outcomes with the same outline agree. -/
theorem Agree.ok (h : later'.outline = later.outline) : Agree (.ok later) (.ok later') := by
  intro _ _ hfirst hsecond
  cases hfirst
  cases hsecond
  exact h

/-- Steps agree if their outlines are known. -/
theorem Agree.of_outline {first second : Except ExprFault ExprReader} {outline outline' : Outline}
    (hfirst : ∀ later, first = .ok later → later.outline = outline)
    (hsecond : ∀ later, second = .ok later → later.outline = outline')
    (h : outline' = outline) : Agree first second := by
  intro later later' hlater hlater'
  rw [hfirst later hlater, hsecond later' hlater', h]

/-- An escape that means something has the same outline for readers with the same. -/
theorem takeEscape_agree (h : other.outline = reader.outline) (c : Char) (meaning : EscapeMeaning) :
    Agree (reader.takeEscape c meaning) (other.takeEscape c meaning) := by
  cases meaning with
  | bad => exact .failed _ _
  | code | cls | anchor => exact .ok (congrArg (·.pend .nothing) h)
  | pending escape => exact .ok (congrArg (·.pend (.escape escape)) h)

/-- A flag is turned on for readers with the same outline. -/
theorem turnOn_agree (h : other.outline = reader.outline) (on : List Char) (letter : Char) :
    Agree (reader.turnOn on letter) (other.turnOn on letter) := by
  unfold turnOn
  split
  · exact .failed _ _
  split
  · exact .failed _ _
  · exact .ok (congrArg (·.pend (.opening (.flagsOn (letter :: on)))) h)

/-- A group with flags of its own is opened by readers with the same outline. -/
theorem openScoped_agree (h : other.outline = reader.outline) (on off : List Char) :
    Agree (reader.openScoped on off) (other.openScoped on off) := by
  unfold openScoped
  split
  · exact .failed _ _
  split
  · exact .failed _ _
  · exact .ok (congrArg (fun outline : Outline => outline.enter
      (outline.flags.change on off)) h)

/-- A piece after the question mark of an opening is taken by readers with the same outline. -/
theorem acceptQuestion_agree (h : other.outline = reader.outline) (piece : Piece) :
    Agree (reader.acceptQuestion piece) (other.acceptQuestion piece) := by
  have hgo (opening : Opening) : Agree (.ok { reader with pending := .opening opening })
      (.ok { other with pending := .opening opening }) :=
    .ok (congrArg (·.pend (.opening opening)) h)
  have hopen (kind : GroupKind) : Agree (.ok (reader.openGroup kind reader.frame.flags))
      (.ok (other.openGroup kind other.frame.flags)) :=
    .ok (congrArg (fun outline : Outline => outline.enter outline.flags) h)
  unfold acceptQuestion
  dsimp only
  split
  · exact hgo _
  · exact hopen _
  · exact hgo _
  · exact hopen _
  · exact hopen _
  · exact hgo _
  · exact hgo _
  · exact hopen _
  · exact hgo _
  · split
    · exact turnOn_agree h _ _
    · exact .failed _ _
  · exact .failed _ _

/-- A piece of an opening is taken by readers with the same outline, unless it sets flags for the
whole expression. -/
theorem acceptOpening_agree (h : other.outline = reader.outline) {opening : Opening} {piece : Piece}
    (hflags : ∀ on, opening = .flagsOn on → piece ≠ .plain ')') :
    Agree (reader.acceptOpening opening piece) (other.acceptOpening opening piece) := by
  have hgo (opening : Opening) : Agree (.ok { reader with pending := .opening opening })
      (.ok { other with pending := .opening opening }) :=
    .ok (congrArg (·.pend (.opening opening)) h)
  have hrest : other.outline.pend .nothing = reader.outline.pend .nothing := by rw [h]
  have henter : other.outline.enter other.frame.flags = reader.outline.enter reader.frame.flags :=
    congrArg (fun outline : Outline => outline.enter outline.flags) h
  unfold acceptOpening
  dsimp only
  split
  · exact hgo _
  · exact acceptQuestion_agree h _
  · exact hgo _
  · exact hgo _
  · exact .failed _ _
  · exact .of_outline (fun _ => nameGroup_outline) (fun _ => nameGroup_outline) henter
  · exact hgo _
  · exact .of_outline (fun _ => referName_outline) (fun _ => referName_outline) hrest
  · exact hgo _
  · exact .ok henter
  · exact .ok henter
  · exact .failed _ _
  · exact .of_outline (fun _ => openCondition_outline) (fun _ => openCondition_outline) henter
  · exact hgo _
  · exact .ok hrest
  · exact .ok h
  · exact absurd rfl (hflags _ rfl)
  · split
    · exact .failed _ _
    · exact openScoped_agree h _ _
  · split
    · exact .failed _ _
    · exact hgo _
  · split
    · exact turnOn_agree h _ _
    · exact .failed _ _
  · exact .failed _ _
  · split
    · exact openScoped_agree h _ _
    split
    · exact .failed _ _
    split
    · exact .failed _ _
    · exact hgo _
  · exact .failed _ _

/-- Closing a group leaves the outline of what is around it. -/
theorem close_outline (parent : Frame) (rest : List Frame) :
    (reader.close parent rest).outline = ⟨.nothing, parent.flags, rest.map Frame.flags⟩ := by
  unfold close
  dsimp only
  split <;> rfl

/-- A character is taken by readers with the same outline. -/
theorem acceptPlain_agree (h : other.outline = reader.outline) (c : Char) :
    Agree (reader.acceptPlain c) (other.acceptPlain c) := by
  have hpend (pending : Pending) : other.outline.pend pending = reader.outline.pend pending := by
    rw [h]
  have hflags : other.frame.flags = reader.frame.flags := congrArg Outline.flags h
  unfold acceptPlain
  dsimp only
  rw [hflags]
  split
  · exact .ok h
  split
  · exact .ok (hpend .remark)
  split
  · exact .ok (hpend .nothing)
  · exact .ok (hpend .nothing)
  · exact .ok (hpend .nothing)
  · exact .ok (hpend (.set {}))
  · exact .ok (hpend (.opening .paren))
  · exact .of_outline (fun _ => repeatLast_outline) (fun _ => repeatLast_outline) (hpend _)
  · exact .of_outline (fun _ => repeatLast_outline) (fun _ => repeatLast_outline) (hpend _)
  · exact .of_outline (fun _ => repeatLast_outline) (fun _ => repeatLast_outline) (hpend _)
  · exact .ok (hpend (.bounds [] false []))
  · exact .of_outline (fun _ => nextBranch_outline) (fun _ => nextBranch_outline) h
  · have houter := congrArg Outline.outer h
    change other.outer.map Frame.flags = reader.outer.map Frame.flags at houter
    cases hreader : reader.outer with
    | nil => exact .failed _ _
    | cons parent rest =>
        cases hother : other.outer with
        | nil =>
            rw [hreader, hother] at houter
            cases houter
        | cons parent' rest' =>
            rw [hreader, hother] at houter
            obtain ⟨hparent, hrest⟩ := List.cons.inj houter
            refine .ok ?_
            rw [close_outline, close_outline, hparent, hrest]
  · exact .ok (hpend .nothing)

/-- A piece is taken by readers with the same outline, unless it sets flags for the whole
expression. -/
theorem accept_agree (h : other.outline = reader.outline) {piece : Piece}
    (hflags : ∀ on, reader.pending = .opening (.flagsOn on) → piece ≠ .plain ')') :
    Agree (reader.accept piece) (other.accept piece) := by
  have hpend (pending : Pending) : other.outline.pend pending = reader.outline.pend pending := by
    rw [h]
  unfold accept
  rw [show other.pending = reader.pending from congrArg Outline.pending h]
  split
  · exact acceptPlain_agree h _
  · exact takeEscape_agree h _ _
  · exact .ok (by rw [setGreed_outline, setGreed_outline, h])
  · exact .ok (by rw [setGreed_outline, setGreed_outline, h])
  · split
    · exact .of_outline (fun _ => repeatBounds_outline) (fun _ => repeatBounds_outline) (hpend _)
    split
    · exact .ok (hpend _)
    split
    · exact .ok (hpend _)
    · exact .ok (hpend _)
  · split
    · next meaning _ =>
      cases meaning with
      | error fault => exact .failed _ _
      | ok meaning => exact takeEscape_agree h _ _
    · exact .ok h
  · next sub _ =>
    rw [show other.frame.flags = reader.frame.flags from congrArg Outline.flags h]
    generalize sub.accept reader.frame.flags _ = outcome
    cases outcome with
    | error fault => exact .failed _ _
    | ok outcome =>
        cases outcome with
        | inl sub => exact .ok (hpend (.set sub))
        | inr test => exact .ok (hpend .nothing)
  · next opening _ hpending =>
    exact acceptOpening_agree h fun on hon => hflags on (hpending.trans (congrArg _ hon))
  · split
    · exact .ok (hpend .nothing)
    · exact .ok h
  · exact .ok h

/-- A reader is settled like others with the same outline. -/
theorem settle_agree (h : other.outline = reader.outline) (next : Option Piece) :
    Agree (reader.settle next) (other.settle next) := by
  have hpend (pending : Pending) : other.outline.pend pending = reader.outline.pend pending := by
    rw [h]
  unfold settle
  rw [show other.pending = reader.pending from congrArg Outline.pending h]
  split
  · split
    · exact .ok h
    · exact .ok (hpend .nothing)
  · split
    · exact .ok h
    · exact .ok (by rw [pushBounds, pushBounds, outline_pushChars, outline_pushChars, h])
  · next escape _ =>
    split
    · exact .ok h
    · cases escape.complete with
      | error fault => exact .failed _ _
      | ok value =>
          cases value with
          | inl n => exact .ok (hpend .nothing)
          | inr number =>
              exact .of_outline (fun _ => referNumber_outline) (fun _ => referNumber_outline)
                (hpend _)
  · next sub _ =>
    split
    · exact .ok h
    · cases sub.settleEscape with
      | error fault => exact .failed _ _
      | ok sub => exact .ok (hpend (.set sub))
  · split
    · exact .ok h
    · exact .of_outline (fun _ => openCapture_outline) (fun _ => openCapture_outline)
        (congrArg (fun outline : Outline => outline.enter outline.flags) h)
  · exact .ok h

/-! ## The flags of the outermost group -/

/-- The outermost group has the given flags, and a remark is pending only where the innermost flags
allow for it. -/
structure Grounded (flags : Flags) (reader : ExprReader) : Prop where
  bottom : (reader.frame.flags :: reader.outer.map Frame.flags).getLast? = some flags
  remark : reader.pending = .remark → reader.frame.flags.verbose = true

variable {flags : Flags}

/-- A reader outside of groups with nothing pending is grounded. -/
theorem grounded_of_nothing (hpending : reader.pending = .nothing) (houter : reader.outer = [])
    (hflags : reader.frame.flags = flags) : reader.Grounded flags where
  bottom := by simp [houter, hflags]
  remark h := by simp [hpending] at h

/-- Whether a reader is grounded is seen from its outline. -/
theorem Grounded.of_outline (hreader : reader.Grounded flags)
    (h : other.outline = reader.outline) : other.Grounded flags where
  bottom := Eq.trans (congrArg (fun outline : Outline => (outline.flags :: outline.outer).getLast?) h)
    hreader.bottom
  remark hpending := by
    have hquiet := hreader.remark ((congrArg Outline.pending h).symm.trans hpending)
    rw [← hquiet]
    exact congrArg (fun outline : Outline => outline.flags.verbose) h

/-- Outside of all groups the flags are those of the outermost one. -/
theorem Grounded.quiet (h : reader.Grounded flags) (houter : reader.outer = []) :
    reader.frame.flags = flags := by
  simpa [houter] using h.bottom

/-- A move that sets no flags for the whole expression keeps a reader grounded, and the flags of the
whole as they are. -/
theorem Move.grounded {taken : Option Piece} (h : Move taken reader later)
    (hreader : reader.Grounded flags)
    (hflags : ∀ on, reader.pending = .opening (.flagsOn on) → taken ≠ some (.plain ')')) :
    later.Grounded flags ∧ later.flags = reader.flags := by
  obtain ⟨hbottom, hremark⟩ := hreader
  cases h with
  | stay pending branches terms hpending hterms =>
      refine ⟨⟨hbottom, fun h => ?_⟩, rfl⟩
      rcases hpending h with h | h
      · exact hremark h
      · exact h
  | refer hlookup => exact ⟨⟨hbottom, by simp [ExprReader.push]⟩, rfl⟩
  | enter | capture => exact ⟨⟨by simpa [openGroup] using hbottom, by simp [openGroup]⟩, rfl⟩
  | leave parent rest houter =>
      have houtline := @close_outline reader parent rest
      refine ⟨⟨?_, fun h => ?_⟩, ?_⟩
      · rw [houter] at hbottom
        have hbottom : (parent.flags :: rest.map Frame.flags).getLast? = some flags := by
          simpa using hbottom
        rw [← hbottom]
        exact congrArg (fun outline : Outline => (outline.flags :: outline.outer).getLast?) houtline
      · exact absurd (h.symm.trans (congrArg Outline.pending houtline)) (by simp)
      · unfold close
        dsimp only
        split <;> rfl
  | setFlags on later h hpending htaken => exact absurd htaken (hflags on hpending)

/-- An escape that is complete at the end of a text does not go on with a closing parenthesis. -/
theorem escapeGoesOn_close {escape : Escape} {value : Nat ⊕ Nat}
    (h : escape.complete = .ok value) : escapeGoesOn escape (some (.plain ')')) = false := by
  cases escape with
  | hex text left => simp [Escape.complete] at h
  | octal text left => simp [escapeGoesOn, Escape.extend, isOctalDigit]
  | reference text => simp [escapeGoesOn, Escape.extend, isOctalDigit, Char.isDigit]
  | charName text opened =>
      cases opened with
      | false => simp [Escape.complete] at h
      | true =>
          simp only [Escape.complete] at h
          split at h <;> simp at h

/-- What ends at the end of a text also ends in front of a closing parenthesis. -/
theorem settle_close (hverbose : flags.verbose = false) (hreader : reader.Grounded flags)
    (h : reader.finish = .ok done) :
    reader.settle (some (.plain ')')) = .ok done ∧ done.pending = .nothing := by
  obtain ⟨hsettle, hfault, houter, _, _⟩ := finish_eq_ok.mp h
  unfold settle at hsettle ⊢
  cases hpending : reader.pending with
  | nothing =>
      simp only [hpending] at hsettle ⊢
      cases hsettle
      exact ⟨rfl, hpending⟩
  | repetition =>
      simp only [hpending] at hsettle ⊢
      cases hsettle
      exact ⟨rfl, rfl⟩
  | bounds least comma most =>
      simp only [hpending] at hsettle ⊢
      have hclose : boundsGoOn least comma (some (.plain ')')) = false := by
        simp [boundsGoOn, Char.isDigit]
      rw [hclose]
      cases hsettle
      obtain ⟨terms, hterms, _⟩ := pushChars_eq reader
        ('\x7b' :: least ++ (if comma then [','] else []) ++ most)
      exact ⟨rfl, by rw [pushBounds, hterms]; rfl⟩
  | escape escape =>
      simp only [hpending] at hsettle ⊢
      rw [if_neg (by simp [escapeGoesOn])] at hsettle
      obtain ⟨value, hvalue, hlater⟩ := bind_eq_ok.mp hsettle
      rw [if_neg (by rw [escapeGoesOn_close hvalue]; simp), bind_eq_ok]
      refine ⟨⟨value, hvalue, hlater⟩, ?_⟩
      cases value with
      | inl n =>
          cases hlater
          rfl
      | inr number =>
          exact congrArg Outline.pending (referNumber_outline hlater)
  | set sub =>
      simp only [hpending] at hsettle
      split at hsettle
      · cases hsettle
        simp [hpending, endFault] at hfault
      · obtain ⟨_, _, hlater⟩ := bind_eq_ok.mp hsettle
        cases hlater
        simp [endFault] at hfault
  | opening opening =>
      cases opening with
      | paren =>
          simp only [hpending] at hsettle
          cases hsettle
          simp [openGroup] at houter
      | _ =>
          simp only [hpending] at hsettle
          cases hsettle
          simp [hpending, endFault] at hfault
  | remark =>
      -- A remark would take the parenthesis, but there is none without its flag.
      simp only [hpending] at hsettle
      cases hsettle
      have hquiet := hreader.remark hpending
      rw [hreader.quiet houter, hverbose] at hquiet
      simp at hquiet

end ExprReader

end RoutePattern
