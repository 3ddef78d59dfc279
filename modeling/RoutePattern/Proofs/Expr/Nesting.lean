import RoutePattern.Proofs.Expr.Outline
import RoutePattern.Proofs.Expr.Segment

/-!
# Expressions inside of groups

An expression without capture groups says the same inside a group as it does by itself, also where
it is wrong. `ExprReader.inside` is a reader of the inner text as it is when that text stands in a
group of a host. `inside_step` says that one step keeps the two in line, if its outcome is
`Portable`, and `run_inside` that reading does. Flags for the whole expression are the exception:
they are a fault inside a group.
-/

namespace RoutePattern

open ExprReader

namespace ExprReader

/-- The reader has met no capture group while it reads an expression by itself under some flags. -/
structure Groupless (flags : Flags) (reader : ExprReader) : Prop extends
    Grounded flags reader where
  global : reader.flags = flags
  opened : reader.opened = 0
  names : reader.names = []
  closed : reader.closed = []
  frames : ∀ frame ∈ reader.frame :: reader.outer,
    frame.kind.isNumbered = false ∧ Groupfree frame.branches frame.terms

/-- A finished group that is not about group numbers and has no groups inside it is a term without
any. -/
theorem groupfree_term {frame : Frame} (hkind : frame.kind.isNumbered = false)
    (h : Groupfree frame.branches frame.terms) : ∀ e ∈ frame.term.items, e.Groupfree := by
  have hbody : frame.body.Groupfree := Expr.groupfree_ofList.mpr h.items
  unfold Frame.term
  split
  · next hcapture => simp [hcapture, GroupKind.isNumbered] at hkind
  · exact h.items
  · exact List.forall_mem_singleton.mpr ⟨by simpa [Expr.captures] using hbody.1, hbody.2, trivial⟩
  · exact List.forall_mem_singleton.mpr hbody
  · exact List.forall_mem_singleton.mpr hbody
  · exact List.forall_mem_singleton.mpr hbody
  · next hcondition => simp [hcondition, GroupKind.isNumbered] at hkind

/-- Closing a group that captures nothing adds its term to the group around it. -/
theorem close_eq {reader : ExprReader} (hkind : reader.frame.kind.isNumbered = false)
    (parent : Frame) (rest : List Frame) : ∃ bound, reader.close parent rest =
      { { reader with frame := parent, outer := rest }.push reader.frame.term with
        behindBound := bound } := by
  unfold close
  dsimp only
  split
  · next hcapture => simp [hcapture, GroupKind.isNumbered] at hkind
  · exact ⟨_, rfl⟩
  · exact ⟨_, rfl⟩

/-- A move that opens no capture group and sets no flags keeps a reader groupless. -/
theorem Move.groupless {taken : Option Piece} {reader later : ExprReader} {flags : Flags}
    (h : Move taken reader later) (hreader : reader.Groupless flags) (hlater : later.Ungrouped)
    (hflags : ∀ on, reader.pending = .opening (.flagsOn on) → taken ≠ some (.plain ')')) :
    later.Groupless flags := by
  obtain ⟨hgrounded, hglobal, _, hnames, hclosed, hframes⟩ := hreader
  obtain ⟨⟨hkind, hgroupfree⟩, houtermost⟩ := List.forall_mem_cons.mp hframes
  obtain ⟨hlaterGrounded, hsame⟩ := h.grounded hgrounded hflags
  have hlaterGlobal := hsame.trans hglobal
  have hopened := hlater.opened
  cases h with
  | stay pending branches terms hpending hterms =>
      exact ⟨hlaterGrounded, hlaterGlobal, hopened, hnames, hclosed,
        List.forall_mem_cons.mpr ⟨⟨hkind, hterms.groupfree hgroupfree⟩, houtermost⟩⟩
  | refer hlookup => simp [hclosed] at hlookup
  | enter kind flags' bound conditions hkind _ hcondition =>
      have hnumbered : kind.isNumbered = false := by
        cases kind with
        | capture number => simp [GroupKind.isCapture] at hkind
        | condition number =>
            have hnone := hlater.conditions
            rw [List.append_eq_nil_iff] at hnone
            rcases hcondition number rfl with h | h
            · exact absurd hnames h
            · exact absurd hnone.2 h
        | _ => rfl
      refine ⟨hlaterGrounded, hlaterGlobal, hopened, hnames, hclosed,
        List.forall_mem_cons.mpr ⟨⟨hnumbered, ?_, ?_⟩, hframes⟩⟩
      · simp [openGroup]
      · simp [openGroup]
  | capture => simp at hopened
  | leave parent rest houter =>
      obtain ⟨bound, hclose⟩ := close_eq hkind parent rest
      rw [houter] at houtermost
      obtain ⟨⟨hparent, hparentTerms⟩, hrest⟩ := List.forall_mem_cons.mp houtermost
      rw [hclose] at hopened hlaterGrounded hlaterGlobal ⊢
      exact ⟨hlaterGrounded, hlaterGlobal, hopened, hnames, hclosed, List.forall_mem_cons.mpr
        ⟨⟨hparent, hparentTerms.cons (groupfree_term hkind hgroupfree)⟩, hrest⟩⟩
  | setFlags on later h hpending htaken => exact absurd htaken (hflags on hpending)

/-- The bound on group numbers inside the host. -/
def hostBound (host : ExprReader) : Option Nat → Option Nat
  | none => host.behindBound
  | some _ => some (host.behindBound.getD (host.opened + 1))

/-- A group of the text inside the host. -/
def hostKind (host : ExprReader) : GroupKind → GroupKind
  | .behind positive saved => .behind positive (host.hostBound saved)
  | kind => kind

/-- An open group of the text inside the host, given those around it: what is outermost in the text
is the innermost group of the host. -/
def hostFrame (host : ExprReader) (frame : Frame) : List Frame → Frame
  | [] => { frame with kind := host.frame.kind }
  | _ :: _ => { frame with kind := host.hostKind frame.kind }

/-- The open groups around one of the text, down to those of the host. -/
def hostOuter (host : ExprReader) : List Frame → List Frame
  | [] => host.outer
  | frame :: rest => host.hostFrame frame rest :: host.hostOuter rest

/-- The reader as it is when its text stands inside the innermost group of a host. -/
def inside (reader host : ExprReader) : ExprReader :=
  { host with
    pending := reader.pending
    frame := host.hostFrame reader.frame reader.outer
    outer := host.hostOuter reader.outer
    behindBound := host.hostBound reader.behindBound }

variable {host reader later : ExprReader}

/-- The terms are the same inside a host. -/
theorem inside_terms : (reader.inside host).frame.terms = reader.frame.terms := by
  unfold inside hostFrame
  cases reader.outer <;> rfl

/-- The flags are the same inside a host. -/
theorem inside_flags : (reader.inside host).frame.flags = reader.frame.flags := by
  unfold inside hostFrame
  cases reader.outer <;> rfl

/-- Other terms are other terms inside a host. -/
theorem inside_withTerms (pending : Pending) (terms : List Term) :
    ({ reader with pending, frame.terms := terms } : ExprReader).inside host =
      { reader.inside host with pending, frame.terms := terms } := by
  unfold inside hostFrame
  cases reader.outer <;> rfl

/-- A term is added in the same way inside a host. -/
theorem inside_push (term : Term) :
    (reader.push term).inside host = (reader.inside host).push term := by
  unfold push
  rw [inside_withTerms, inside_terms]

/-- A code point is added in the same way inside a host. -/
theorem inside_pushCode (n : Nat) :
    (reader.pushCode n).inside host = (reader.inside host).pushCode n := by
  simp only [pushCode, pushTest, inside_push, inside_flags]

/-- Characters are added in the same way inside a host. -/
theorem inside_pushChars (chars : List Char) :
    (reader.pushChars chars).inside host = (reader.inside host).pushChars chars := by
  unfold pushChars
  induction chars generalizing reader with
  | nil => rfl
  | cons c rest ih =>
      rw [List.foldl_cons, List.foldl_cons, ih, inside_pushCode]

/-- A look-behind is opened in the same way inside a host. -/
theorem inside_openBehind (positive : Bool) :
    (reader.openBehind positive).inside host = (reader.inside host).openBehind positive := by
  unfold openBehind
  rw [inside_flags]
  cases hbound : reader.behindBound <;>
    simp [openGroup, inside, hostFrame, hostOuter, hostKind, hostBound, hbound]

/-- The last term is repeated in the same way inside a host. -/
theorem inside_repeatLast (least : Nat) (most : Option Nat) :
    (reader.inside host).repeatLast least most =
      (reader.repeatLast least most).map (·.inside host) := by
  unfold repeatLast
  dsimp only
  rw [inside_terms]
  cases reader.frame.terms with
  | nil => rfl
  | cons term earlier =>
      cases term with
      | bare items => exact congrArg Except.ok (inside_withTerms .repetition _).symm
      | item e =>
          cases e with
          | anchor | loop => rfl
          | _ => exact congrArg Except.ok (inside_withTerms .repetition _).symm

/-- Written bounds are read in the same way inside a host. -/
theorem inside_repeatBounds (least : List Char) (comma : Bool) (most : List Char) :
    (reader.inside host).repeatBounds least comma most =
      (reader.repeatBounds least comma most).map (·.inside host) := by
  unfold repeatBounds
  dsimp only
  generalize (if comma then most else least) = most
  cases readCount least with
  | error fault => rfl
  | ok low =>
      cases readCount most with
      | error fault => rfl
      | ok high =>
          simp only [bind, Except.bind, inside_repeatLast]
          split
          · rfl
          split
          · rfl
          · rfl

/-- The order of a repetition is changed in the same way inside a host. -/
theorem inside_setGreed (greed : Greed) :
    (reader.setGreed greed).inside host = (reader.inside host).setGreed greed := by
  unfold setGreed
  rw [inside_terms]
  split
  · exact inside_withTerms .nothing _
  · rfl

/-- An escape means the same inside a host. -/
theorem inside_takeEscape (c : Char) (meaning : EscapeMeaning) :
    (reader.inside host).takeEscape c meaning =
      (reader.takeEscape c meaning).map (·.inside host) := by
  cases meaning <;> simp only [takeEscape, Except.map, inside_pushCode, pushTest, inside_push,
    inside_flags]
  rfl

/-- A bar begins another branch in the same way inside a host. -/
theorem inside_nextBranch (hhost : host.frame.kind.isSimple = true)
    (hkind : reader.frame.kind.isNumbered = false) :
    (reader.inside host).nextBranch = reader.nextBranch.map (·.inside host) := by
  have hreader (number : Nat) : reader.frame.kind ≠ .condition number := by
    intro h
    simp [h, GroupKind.isNumbered] at hkind
  have hinside (number : Nat) : (reader.inside host).frame.kind ≠ .condition number := by
    unfold inside hostFrame
    cases reader.outer with
    | nil =>
        intro h
        simp only at h
        simp [h, GroupKind.isSimple] at hhost
    | cons parent rest =>
        intro h
        unfold hostKind at h
        dsimp only at h
        split at h
        · simp at h
        · exact hreader number h
  unfold nextBranch
  dsimp only
  split
  · next hcondition _ => exact absurd hcondition (hinside _)
  split
  · next hcondition _ => exact absurd hcondition (hreader _)
  · simp only [Except.map, inside, hostFrame, Frame.branch]
    cases reader.outer <;> rfl

/-- A group of the text is closed in the same way inside a host. -/
theorem inside_close (hkind : reader.frame.kind.isNumbered = false) {parent : Frame}
    {rest : List Frame} (houter : reader.outer = parent :: rest) :
    (reader.close parent rest).inside host =
      (reader.inside host).close (host.hostFrame parent rest) (host.hostOuter rest) := by
  obtain ⟨pending, ⟨kind, branches, terms, flags⟩, outer, names, opened, closed, bound, conditions,
    global, wide⟩ := reader
  dsimp only at houter
  subst houter
  cases kind with
  | capture number => simp [GroupKind.isNumbered] at hkind
  | behind positive saved =>
      cases rest <;> rfl
  | _ => cases rest <;> rfl

/-- A flag is turned on in the same way inside a host. -/
theorem inside_turnOn (on : List Char) (letter : Char) :
    (reader.inside host).turnOn on letter = (reader.turnOn on letter).map (·.inside host) := by
  unfold turnOn
  split
  · rfl
  split
  · rfl
  · rfl

/-- A group with flags of its own is opened in the same way inside a host. -/
theorem inside_openScoped (on off : List Char) :
    (reader.inside host).openScoped on off = (reader.openScoped on off).map (·.inside host) := by
  unfold openScoped
  rw [inside_flags]
  split
  · rfl
  split
  · rfl
  · rfl

/-- A piece after the question mark of an opening is taken in the same way inside a host. -/
theorem inside_acceptQuestion (piece : Piece) :
    (reader.inside host).acceptQuestion piece =
      (reader.acceptQuestion piece).map (·.inside host) := by
  unfold acceptQuestion
  dsimp only
  rw [inside_flags]
  split <;> try rfl
  split
  · exact inside_turnOn _ _
  · rfl

/-! ## What depends on the text alone -/

/-- A fault that lies in the text itself. The others depend on what is around the text: on the
groups that are open or can be referred to. -/
def isOwnFault : ExprFault → Bool
  | .unbalanced | .incompatibleFlags | .tooManyBranches | .unknownGroupName _ | .redefinedName _ _ _
  | .openReference | .invalidReference _ | .referenceWithinBehind => false
  | _ => true

/-- An outcome of reading a text by itself that depends on the text alone: no capture group has been
opened, none has been asked for by its number, and a fault lies in the text. -/
def Portable : Except ExprFault ExprReader → Prop
  | .ok reader => reader.Ungrouped
  | .error fault => isOwnFault fault = true

instance (reader : ExprReader) : Decidable reader.Ungrouped :=
  decidable_of_iff (reader.opened = 0 ∧ reader.conditions = [])
    ⟨fun h => ⟨h.1, h.2⟩, fun h => ⟨h.opened, h.conditions⟩⟩

instance : DecidablePred Portable
  | .ok reader => inferInstanceAs (Decidable reader.Ungrouped)
  | .error fault => inferInstanceAs (Decidable (isOwnFault fault = true))

/-- Without a finished group no reference succeeds. -/
theorem refer_eq (hclosed : reader.closed = []) (number : Nat) :
    reader.refer number = .error .openReference := by
  simp [refer, hclosed]

/-- A reader is settled in the same way inside a host, if that depends on the text alone. -/
theorem inside_settle (host : ExprReader) {flags : Flags} {next : Option Piece}
    (hreader : reader.Groupless flags) (h : Portable (reader.settle next)) :
    (reader.inside host).settle next = (reader.settle next).map (·.inside host) := by
  unfold settle at h ⊢
  rw [show (reader.inside host).pending = reader.pending from rfl]
  split
  · split <;> rfl
  · split
    · rfl
    · simp only [Except.map, pushBounds, inside_pushChars]
      rfl
  · next escape hpending =>
    simp only [hpending] at h
    split
    · rfl
    next hgoes =>
    rw [if_neg hgoes] at h
    cases hvalue : escape.complete with
    | error fault => rfl
    | ok value =>
        cases value with
        | inl n => simp only [bind, Except.bind, pure, Except.pure, Except.map, inside_pushCode]
        | inr number =>
            simp only [hvalue, bind, Except.bind, referNumber, refer_eq hreader.closed] at h
            split at h <;> simp [Portable, isOwnFault] at h
  · split
    · rfl
    · next sub _ _ =>
      cases sub.settleEscape <;> rfl
  · next hpending =>
    simp only [hpending] at h
    split
    · rfl
    next hgoes =>
    rw [if_neg hgoes] at h
    have hopened := h.opened
    simp at hopened
  · rfl

/-- A character is taken in the same way inside a host, if that depends on the text alone. -/
theorem inside_acceptPlain {flags : Flags} {c : Char} (hreader : reader.Groupless flags)
    (hhost : host.frame.kind.isSimple = true) (h : Portable (reader.acceptPlain c)) :
    (reader.inside host).acceptPlain c = (reader.acceptPlain c).map (·.inside host) := by
  have hkind := (hreader.frames reader.frame (by simp)).1
  unfold acceptPlain at h ⊢
  dsimp only at h ⊢
  rw [inside_flags]
  split
  · rfl
  next hblank =>
  rw [if_neg hblank] at h
  split
  · rfl
  next hremark =>
  rw [if_neg hremark] at h
  split
  · simp only [Except.map, pushTest, inside_push]
  · simp only [Except.map, inside_push]
  · simp only [Except.map, inside_push]
  · rfl
  · rfl
  · exact inside_repeatLast _ _
  · exact inside_repeatLast _ _
  · exact inside_repeatLast _ _
  · rfl
  · exact inside_nextBranch hhost hkind
  · cases houter : reader.outer with
    | nil =>
        -- By itself this closes nothing, while it would close the group of the host.
        rw [houter] at h
        change Portable (.error (if _ then _ else _)) at h
        split at h <;> simp [Portable, isOwnFault] at h
    | cons parent rest =>
        dsimp only [Except.map]
        rw [inside_close hkind houter]
        simp only [inside, houter, hostOuter]
  · simp only [Except.map, inside_pushCode]

/-- A named group is never opened by the text alone. -/
theorem inside_nameGroup (name : List Char) (h : Portable (reader.nameGroup name)) :
    (reader.inside host).nameGroup name = (reader.nameGroup name).map (·.inside host) := by
  unfold nameGroup openCapture at h ⊢
  dsimp only at h ⊢
  split
  · rfl
  next hempty =>
  rw [if_neg hempty] at h
  split
  · rfl
  next hidentifier =>
  rw [if_neg hidentifier] at h
  split at h
  · simp [Portable, isOwnFault] at h
  · have hopened := h.opened
    simp at hopened

/-- A group is never referred to by name from the text alone. -/
theorem inside_referName (hnames : reader.names = []) (name : List Char)
    (h : Portable (reader.referName name)) :
    (reader.inside host).referName name = (reader.referName name).map (·.inside host) := by
  unfold referName at h ⊢
  dsimp only at h ⊢
  split
  · rfl
  next hempty =>
  rw [if_neg hempty] at h
  split
  · rfl
  next hidentifier =>
  rw [if_neg hidentifier, hnames] at h
  simp [Portable, isOwnFault] at h

/-- Whether a group may be referred to does not depend on the text alone. -/
theorem checkBehind_fault {number : Nat} {fault : ExprFault}
    (h : reader.checkBehind number = .error fault) : isOwnFault fault = false := by
  unfold checkBehind at h
  split at h
  · simp at h
  split at h
  · cases h
    rfl
  split at h
  · cases h
    rfl
  · simp at h

/-- A group that depends on another one is never opened by the text alone. -/
theorem inside_openCondition (hnames : reader.names = []) (name : List Char)
    (h : Portable (reader.openCondition name)) :
    (reader.inside host).openCondition name =
      (reader.openCondition name).map (·.inside host) := by
  unfold openCondition at h ⊢
  dsimp only at h ⊢
  split
  · rfl
  next hempty =>
  rw [if_neg hempty] at h
  split
  · next hidentifier =>
    rw [if_pos hidentifier, hnames] at h
    simp [Portable, isOwnFault] at h
  next hidentifier =>
  rw [if_neg hidentifier] at h
  split
  · rfl
  · next number _ hnumber =>
    exfalso
    simp only [hnumber] at h
    split at h
    · simp [Portable, isOwnFault] at h
    cases hbehind : reader.checkBehind number with
    | error fault =>
        rw [hbehind] at h
        change isOwnFault fault = true at h
        simp [checkBehind_fault hbehind] at h
    | ok _ =>
        rw [hbehind] at h
        have hconditions := h.conditions
        simp at hconditions
  · rfl

/-- A piece of an opening is taken in the same way inside a host, if that depends on the text alone
and sets no flags for the whole expression. -/
theorem inside_acceptOpening {opening : Opening} {piece : Piece} (hnames : reader.names = [])
    (hflags : ∀ on, opening = .flagsOn on → piece ≠ .plain ')')
    (h : Portable (reader.acceptOpening opening piece)) :
    (reader.inside host).acceptOpening opening piece =
      (reader.acceptOpening opening piece).map (·.inside host) := by
  unfold acceptOpening at h ⊢
  dsimp only at h ⊢
  split
  · rfl
  · exact inside_acceptQuestion _
  · rfl
  · rfl
  · rfl
  · exact inside_nameGroup _ h
  · rfl
  · exact inside_referName hnames _ h
  · rfl
  · simp only [Except.map, inside_openBehind]
  · simp only [Except.map, inside_openBehind]
  · rfl
  · exact inside_openCondition hnames _ h
  · rfl
  · rfl
  · rfl
  · exact absurd rfl (hflags _ rfl)
  · split
    · rfl
    · exact inside_openScoped _ _
  · split <;> rfl
  · split
    · exact inside_turnOn _ _
    · rfl
  · rfl
  · split
    · exact inside_openScoped _ _
    split
    · rfl
    split <;> rfl
  · rfl

/-- A piece is taken in the same way inside a host, if that depends on the text alone and sets no
flags for the whole expression. -/
theorem inside_accept {flags : Flags} {piece : Piece} (hhost : host.frame.kind.isSimple = true)
    (hreader : reader.Groupless flags)
    (hflags : ∀ on, reader.pending = .opening (.flagsOn on) → piece ≠ .plain ')')
    (h : Portable (reader.accept piece)) :
    (reader.inside host).accept piece = (reader.accept piece).map (·.inside host) := by
  unfold accept at h ⊢
  rw [show (reader.inside host).pending = reader.pending from rfl]
  split
  · next hpending =>
    rw [hpending] at h
    exact inside_acceptPlain hreader hhost h
  · exact inside_takeEscape _ _
  · simp only [Except.map, inside_setGreed]
  · simp only [Except.map, inside_setGreed]
  · split
    · exact inside_repeatBounds _ _ _
    split
    · rfl
    split <;> rfl
  · next escape _ _ =>
    split
    · next meaning _ =>
      cases meaning with
      | error fault => rfl
      | ok meaning => exact inside_takeEscape _ _
    · rfl
  · next sub _ =>
    rw [inside_flags]
    generalize sub.accept reader.frame.flags _ = outcome
    cases outcome with
    | error fault => rfl
    | ok outcome =>
        cases outcome with
        | inl sub => rfl
        | inr test => simp only [bind, Except.bind, pure, Except.pure, Except.map, pushTest,
            inside_push]
  · next opening _ hpending =>
    simp only [hpending] at h
    exact inside_acceptOpening hreader.names
      (fun on hon => hflags on (hpending.trans (congrArg _ hon))) h
  · split <;> rfl
  · rfl

/-- Whether a piece ends flags for the whole expression. -/
def endsFlags (reader : ExprReader) (piece : Piece) : Bool :=
  match reader.pending, piece with
  | .opening (.flagsOn _), .plain ')' => true
  | _, _ => false

/-- Whether reading pieces sets flags for the whole expression. -/
def setsFlags (reader : ExprReader) : List Piece → Bool
  | [] => false
  | piece :: rest =>
      reader.endsFlags piece ||
        match reader.step piece with
        | .ok later => later.setsFlags rest
        | .error _ => false

/-- Only a closing parenthesis ends flags for the whole expression. -/
theorem endsFlags_iff {piece : Piece} : reader.endsFlags piece = true ↔
    ∃ on, reader.pending = .opening (.flagsOn on) ∧ piece = .plain ')' := by
  unfold endsFlags
  split
  · next on hpending => simp [hpending]
  · next hnot =>
    simp only [Bool.false_eq_true, false_iff]
    rintro ⟨on, hpending, hpiece⟩
    exact hnot on hpending hpiece

/-- Settling begins no flags. -/
theorem settle_flagsOn {next : Option Piece} {on : List Char} (h : reader.settle next = .ok later)
    (hpending : later.pending = .opening (.flagsOn on)) :
    reader.pending = .opening (.flagsOn on) := by
  unfold settle at h
  split at h
  · split at h <;> cases h <;> simp_all
  · split at h <;> cases h
    · simp_all
    · next least comma most _ _ =>
      obtain ⟨terms, hterms, _⟩ := pushChars_eq reader
        ('\x7b' :: least ++ (if comma then [','] else []) ++ most)
      rw [pushBounds, hterms] at hpending
      simp [reframe] at hpending
  · split at h
    · cases h
      simp_all
    · obtain ⟨value, _, h⟩ := bind_eq_ok.mp h
      cases value with
      | inl n =>
          cases h
          simp [pushCode, pushTest, push] at hpending
      | inr number =>
          dsimp only at h
          unfold referNumber refer at h
          split at h
          · split at h
            · simp at h
            · obtain ⟨_, _, h⟩ := bind_eq_ok.mp h
              cases h
              simp [push] at hpending
          · simp at h
  · split at h
    · cases h
      simp_all
    · obtain ⟨sub, _, h⟩ := bind_eq_ok.mp h
      cases h
      simp at hpending
  · split at h
    · cases h
      simp_all
    · cases h
      simp [openGroup] at hpending
  · cases h
    exact hpending

/-- In front of a piece that ends no flags for the whole expression a settled reader has none
begun. -/
theorem endsFlags_settle {piece : Piece} (h : reader.settle (some piece) = .ok later)
    (hflags : reader.endsFlags piece = false) (on : List Char)
    (hpending : later.pending = .opening (.flagsOn on)) : piece ≠ .plain ')' := by
  intro hclose
  rw [endsFlags_iff.mpr ⟨on, settle_flagsOn h hpending, hclose⟩] at hflags
  simp at hflags

/-- A step that depends on the text alone is the same inside a host, unless it sets flags for the
whole expression. -/
theorem inside_step {flags : Flags} {piece : Piece} (hhost : host.frame.kind.isSimple = true)
    (hreader : reader.Groupless flags) (hflags : reader.endsFlags piece = false)
    (hsettle : Portable (reader.settle (some piece))) (h : Portable (reader.step piece)) :
    (reader.inside host).step piece = (reader.step piece).map (·.inside host) := by
  unfold step at h ⊢
  rw [inside_settle host hreader hsettle]
  cases hsettled : reader.settle (some piece) with
  | error fault => rfl
  | ok settled =>
      rw [hsettled] at h hsettle
      exact inside_accept hhost ((settle_move hsettled).groupless hreader hsettle (by simp))
        (endsFlags_settle hsettled hflags) h

/-- A step that opens no group keeps a reader groupless, unless it sets flags for the whole
expression. -/
theorem step_groupless {flags : Flags} {piece : Piece} (hreader : reader.Groupless flags)
    (hlater : later.Ungrouped) (hflags : reader.endsFlags piece = false)
    (h : reader.step piece = .ok later) : later.Groupless flags := by
  obtain ⟨settled, hsettle, haccept⟩ := step_eq_ok.mp h
  have hmove := accept_move haccept
  have hsettled := (settle_move hsettle).groupless hreader (hmove.grows.ungrouped hlater) (by simp)
  exact hmove.groupless hsettled hlater
    fun on hon => by simpa using endsFlags_settle hsettle hflags on hon

/-- A step is the same inside a host, unless it sets flags for the whole expression. -/
theorem step_inside {flags : Flags} {piece : Piece} (hhost : host.frame.kind.isSimple = true)
    (hreader : reader.Groupless flags) (hlater : later.Ungrouped)
    (hflags : reader.endsFlags piece = false) (h : reader.step piece = .ok later) :
    (reader.inside host).step piece = .ok (later.inside host) ∧ later.Groupless flags := by
  obtain ⟨settled, hsettle, haccept⟩ := step_eq_ok.mp h
  have hsettled : Portable (reader.settle (some piece)) :=
    hsettle ▸ (accept_move haccept).grows.ungrouped hlater
  refine ⟨?_, step_groupless hreader hlater hflags h⟩
  rw [inside_step hhost hreader hflags hsettled (h ▸ hlater), h]
  rfl

/-- Pieces set flags with the first of them or with a later one. -/
theorem setsFlags_cons {piece : Piece} {rest : List Piece} :
    reader.setsFlags (piece :: rest) = true ↔ reader.endsFlags piece = true ∨
      ∃ later, reader.step piece = .ok later ∧ later.setsFlags rest = true := by
  rw [setsFlags, Bool.or_eq_true]
  cases reader.step piece with
  | error fault => simp
  | ok later => simp

/-- Reading is the same inside a host, unless it sets flags for the whole expression. -/
theorem run_inside {flags : Flags} {pieces : List Piece} (hhost : host.frame.kind.isSimple = true)
    (hreader : reader.Groupless flags) (hlater : later.Ungrouped)
    (hflags : reader.setsFlags pieces = false) (h : reader.run pieces = .ok later) :
    (reader.inside host).run pieces = .ok (later.inside host) ∧ later.Groupless flags := by
  induction pieces generalizing reader with
  | nil =>
      rw [run_nil] at h
      cases h
      exact ⟨run_nil _, hreader⟩
  | cons piece rest ih =>
      obtain ⟨hpiece, middle, hstep, hrest⟩ := run_cons.mp h
      rw [← Bool.not_eq_true, setsFlags_cons, not_or] at hflags
      obtain ⟨hcolon, hlast⟩ := hflags
      obtain ⟨hstep', hmiddle⟩ := step_inside hhost hreader ((run_grows hrest).ungrouped hlater)
        (by simpa using hcolon) hstep
      obtain ⟨hrest', hlast'⟩ :=
        ih hmiddle (by simpa using fun h => hlast ⟨middle, hstep, h⟩) hrest
      exact ⟨run_cons.mpr ⟨hpiece, _, hstep', hrest'⟩, hlast'⟩

/-- Inside a group of a host there is a group around every reader. -/
theorem inside_outer_ne_nil (houter : host.outer ≠ []) : (reader.inside host).outer ≠ [] := by
  cases h : reader.outer with
  | nil => simpa [inside, h, hostOuter] using houter
  | cons frame rest => simp [inside, h, hostOuter]

/-- A piece that ends flags for the whole expression is a fault inside a group of a host. -/
theorem step_inside_endsFlags {piece : Piece} (houter : host.outer ≠ [])
    (hends : reader.endsFlags piece = true) : (reader.inside host).step piece ≠ .ok later := by
  intro hstep
  obtain ⟨on, hon, rfl⟩ := endsFlags_iff.mp hends
  obtain ⟨settled, hsettle, haccept⟩ := step_eq_ok.mp hstep
  have hpending : (reader.inside host).pending = .opening (.flagsOn on) := hon
  simp only [settle, hpending, Except.ok.injEq] at hsettle
  subst hsettle
  simp only [accept, hpending, acceptOpening] at haccept
  exact inside_outer_ne_nil houter (setFlags_eq haccept).1

/-- Flags for the whole expression are a fault inside a group of a host. -/
theorem run_inside_setsFlags {flags : Flags} {pieces : List Piece}
    (hhost : host.frame.kind.isSimple = true) (houter : host.outer ≠ [])
    (hreader : reader.Groupless flags) (hlater : later.Ungrouped)
    (hflags : reader.setsFlags pieces = true) (h : reader.run pieces = .ok later)
    (rest : List Piece) (last : ExprReader) :
    (reader.inside host).run (pieces ++ rest) ≠ .ok last := by
  induction pieces generalizing reader with
  | nil => simp [setsFlags] at hflags
  | cons piece others ih =>
      obtain ⟨_, middle, hstep, hrest⟩ := run_cons.mp h
      intro hrun
      rw [List.cons_append] at hrun
      obtain ⟨_, next, hnext, hlast⟩ := run_cons.mp hrun
      by_cases hcolon : reader.endsFlags piece = true
      · exact step_inside_endsFlags houter hcolon hnext
      · obtain ⟨hstep', hmiddle⟩ := step_inside hhost hreader ((run_grows hrest).ungrouped hlater)
          (by simpa using hcolon) hstep
        rw [hstep'] at hnext
        cases hnext
        obtain hcolon' | ⟨next, hnext, hset⟩ := setsFlags_cons.mp hflags
        · exact hcolon hcolon'
        · rw [hstep] at hnext
          cases hnext
          exact ih hmiddle hset hrest hlast

end ExprReader

end RoutePattern
