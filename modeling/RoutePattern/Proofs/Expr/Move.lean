import RoutePattern.Proofs.Expr.Captures
import RoutePattern.Proofs.Expr.Segment

/-!
# Moves of a reader

`Move` lists what a reader may do with a piece, and `settle_move` and `accept_move` say that it does
nothing else. What it does inside of a group is an `Edit` of the branches. From it follows what
reading never undoes: `run_grows` says that groups and conditions that have been met stay.
`Expression.read_eq_ok` takes the reading of an expression apart.
-/

namespace RoutePattern

/-- Whether a group is a capture group. -/
def GroupKind.isCapture : GroupKind → Bool
  | capture _ => true
  | _ => false

/-- Whether a group is about group numbers: it has one, or it depends on the group with one. -/
def GroupKind.isNumbered : GroupKind → Bool
  | capture _ | condition _ => true
  | _ => false

/-- A test compares characters in the given way if it compares any. -/
def CharTest.KeepsTo (fold : Fold) : CharTest → Prop
  | any _ => True
  | literal _ _ own => own = fold
  | set _ _ own => own = fold

/-- What may be taken out of alternatives compares characters in the given way. -/
def Expr.KeepsTo (fold : Fold) : Expr → Prop
  | char test => test.KeepsTo fold
  | backref _ _ own => own = fold
  | _ => True

/-- The test of a set compares characters as the flags say. -/
theorem SetReader.accept_keepsTo {flags : Flags} {reader : SetReader} {piece : Piece}
    {test : CharTest} (h : reader.accept flags piece = .ok (.inr test)) :
    test.KeepsTo flags.fold := by
  have htest (members : List Member) :
      (SetReader.test flags.fold reader.negated members).KeepsTo flags.fold := by
    unfold SetReader.test
    split <;> rfl
  have hmore {outcome : Except ExprFault SetReader}
      (h : (do return .inl (← outcome)) =
        Except.ok (ε := ExprFault) (Sum.inr (α := SetReader) test)) : test.KeepsTo flags.fold := by
    obtain ⟨_, _, h⟩ := bind_eq_ok.mp h
    cases h
  unfold accept at h
  dsimp only at h
  split at h
  · split at h
    · obtain ⟨_, _, h⟩ := bind_eq_ok.mp h
      exact hmore h
    · cases h
  · split at h
    · split at h
      · cases h
      split at h
      · split at h
        · cases h
          exact htest _
        · exact hmore h
      split at h
      · cases h
      split at h
      · cases h
        exact htest _
      · exact hmore h
    · exact hmore h
    · cases h

/-- A term has no groups if there are none in it as a single expression. -/
theorem Term.groupfree_body {term : Term} :
    term.body.Groupfree ↔ ∀ e ∈ term.items, e.Groupfree := by
  cases term with
  | item e => simp [Term.body, Term.items]
  | bare items => simp [Term.body, Term.items, Expr.groupfree_ofList]

namespace ExprReader

variable {taken : Option Piece}

/-- The reader with something else pending and the innermost group changed, but not closed. -/
def reframe (reader : ExprReader) (pending : Pending) (branches : List (List Expr))
    (terms : List Term) : ExprReader :=
  { reader with pending, frame.branches := branches, frame.terms := terms }

/-- Finished branches and the terms of the current one are free of groups: there are no capture
groups in them and no references to any. -/
structure Groupfree (branches : List (List Expr)) (terms : List Term) : Prop where
  branches : ∀ branch ∈ branches, ∀ e ∈ branch, e.Groupfree
  terms : ∀ term ∈ terms, ∀ e ∈ term.items, e.Groupfree

/-- Without groups in its terms a branch has none. -/
theorem Groupfree.branch {frame : Frame} (h : Groupfree frame.branches frame.terms) :
    ∀ e ∈ frame.branch, e.Groupfree := by
  intro e he
  simp only [Frame.branch, List.mem_flatMap, List.mem_reverse] at he
  obtain ⟨term, hterm, he⟩ := he
  exact h.terms term hterm e he

/-- Without groups in its branches a group has none inside it. -/
theorem Groupfree.allBranches {frame : Frame} (h : Groupfree frame.branches frame.terms) :
    ∀ branch ∈ frame.allBranches, ∀ e ∈ branch, e.Groupfree := by
  intro branch hbranch
  simp only [Frame.allBranches, List.mem_reverse, List.mem_cons] at hbranch
  obtain rfl | hbranch := hbranch
  · exact h.branch
  · exact h.branches branch hbranch

/-- Without groups in its branches a group has none in what they are put together to. -/
theorem Groupfree.items {frame : Frame} (h : Groupfree frame.branches frame.terms) :
    ∀ e ∈ frame.items, e.Groupfree :=
  Alternation.groupfree_ofBranches _ h.allBranches

/-- A term without groups keeps the terms without one. -/
theorem Groupfree.cons {branches : List (List Expr)} {terms : List Term} {term : Term}
    (h : Groupfree branches terms) (hterm : ∀ e ∈ term.items, e.Groupfree) :
    Groupfree branches (term :: terms) :=
  ⟨h.branches, List.forall_mem_cons.mpr ⟨hterm, h.terms⟩⟩

/-- Another term without groups may stand for the last one. -/
theorem Groupfree.replace {branches : List (List Expr)} {terms : List Term} {term other : Term}
    (h : Groupfree branches (term :: terms))
    (hother : (∀ e ∈ term.items, e.Groupfree) → ∀ e ∈ other.items, e.Groupfree) :
    Groupfree branches (other :: terms) := by
  obtain ⟨hterm, hterms⟩ := List.forall_mem_cons.mp h.terms
  exact ⟨h.branches, List.forall_mem_cons.mpr ⟨hother hterm, hterms⟩⟩

/-- What going on inside of a group does to its finished branches and the terms of the current one:
nothing, one more test or condition on the place, a repetition of the last term or another order for
it, or the beginning of another branch. Tests compare characters as the flags of the group say. -/
inductive Edit (frame : Frame) : List (List Expr) → List Term → Prop
  | keep : Edit frame frame.branches frame.terms
  | char {branches : List (List Expr)} {terms : List Term} (test : CharTest)
      (htest : test.KeepsTo frame.flags.fold) (h : Edit frame branches terms) :
      Edit frame branches (.item (.char test) :: terms)
  | anchor {branches : List (List Expr)} {terms : List Term} (place : Anchor)
      (h : Edit frame branches terms) : Edit frame branches (.item (.anchor place) :: terms)
  | again {term : Term} {earlier : List Term} (least : Nat) (most : Option Nat)
      (hterms : frame.terms = term :: earlier) :
      Edit frame frame.branches (.item (.loop .greedy least most term.body) :: earlier)
  | order {greed : Greed} {least : Nat} {most : Option Nat} {body : Expr} {earlier : List Term}
      (other : Greed) (hterms : frame.terms = .item (.loop greed least most body) :: earlier) :
      Edit frame frame.branches (.item (.loop other least most body) :: earlier)
  | bar : Edit frame (frame.branch :: frame.branches) []

/-- Going on inside of a group without groups adds none. -/
theorem Edit.groupfree {frame : Frame} {branches : List (List Expr)} {terms : List Term}
    (h : Edit frame branches terms) (hframe : Groupfree frame.branches frame.terms) :
    Groupfree branches terms := by
  induction h with
  | keep => exact hframe
  | char test _ _ ih => exact ih.cons (by simp [Term.items, Expr.groupfree_char])
  | anchor place _ ih =>
      refine ih.cons ?_
      rw [Term.items, List.forall_mem_singleton]
      exact ⟨rfl, trivial⟩
  | again least most hterms =>
      rw [hterms] at hframe
      refine hframe.replace fun hterm => ?_
      simpa [Term.items, Expr.groupfree_loop] using Term.groupfree_body.mpr hterm
  | order other hterms =>
      rw [hterms] at hframe
      exact hframe.replace (by simp [Term.items, Expr.groupfree_loop])
  | bar => exact ⟨List.forall_mem_cons.mpr ⟨hframe.branch, hframe.branches⟩, by simp⟩

/-- What a reader may do with one piece: go on inside the innermost group, refer to a group, open a
group, close the innermost group, or set flags for the whole expression. `taken` is the piece, if it
is taken. A group that depends on another one names it or asks for its number, and a group without
a number or flags of its own has the flags of the one around it. -/
inductive Move (taken : Option Piece) (reader : ExprReader) : ExprReader → Prop
  | stay (pending : Pending) (branches : List (List Expr)) (terms : List Term)
      (hremark : pending = .remark → reader.pending = .remark ∨ reader.frame.flags.verbose = true)
      (hedit : Edit reader.frame branches terms) :
      Move taken reader (reader.reframe pending branches terms)
  | refer {number : Nat} {width : Width} (hclosed : reader.closed.lookup number = some width) :
      Move taken reader (reader.push (.item (.backref number width reader.frame.flags.fold)))
  | enter (kind : GroupKind) (flags : Flags) (bound : Option Nat) (conditions : List Nat)
      (hkind : kind.isCapture = false) (hconditions : 0 ∉ conditions)
      (hcondition : ∀ number, kind = .condition number → reader.names ≠ [] ∨ conditions ≠ [])
      (hflags : kind = .bare → flags = reader.frame.flags) :
      Move taken reader { reader.openGroup kind flags with
        behindBound := bound, conditions := reader.conditions ++ conditions }
  | capture (names : List (String × Nat)) :
      Move taken reader { reader.openGroup (.capture (reader.opened + 1)) reader.frame.flags with
        opened := reader.opened + 1, names }
  | leave (parent : Frame) (rest : List Frame) (houter : reader.outer = parent :: rest) :
      Move taken reader (reader.close parent rest)
  | setFlags (on : List Char) (later : ExprReader) (h : reader.setFlags on = .ok later)
    (hpending : reader.pending = .opening (.flagsOn on)) (htaken : taken = some (.plain ')')) :
      Move taken reader later

/-- Making something else pending is a move. -/
theorem Move.pend (reader : ExprReader) {pending : Pending} (h : pending ≠ .remark) :
    Move taken reader { reader with pending } :=
  .stay pending reader.frame.branches reader.frame.terms (fun hremark => absurd hremark h) .keep

/-- Adding a test is a move, if it compares characters as the flags say. -/
theorem Move.pushTest (reader : ExprReader) {test : CharTest}
    (h : test.KeepsTo reader.frame.flags.fold) : Move taken reader (reader.pushTest test) :=
  .stay .nothing reader.frame.branches _ (by simp) (.char test h .keep)

/-- Adding a condition on the place is a move. -/
theorem Move.pushAnchor (reader : ExprReader) (place : Anchor) :
    Move taken reader (reader.push (.item (.anchor place))) :=
  .stay .nothing reader.frame.branches _ (by simp) (.anchor place .keep)

/-- Opening a group that captures nothing is a move, unless it depends on a group without a name. -/
theorem Move.open (reader : ExprReader) {kind : GroupKind} {flags : Flags}
    (hkind : kind.isCapture = false)
    (hcondition : ∀ number, kind = .condition number → reader.names ≠ [])
    (hflags : kind = .bare → flags = reader.frame.flags) :
    Move taken reader (reader.openGroup kind flags) := by
  have hmove : Move taken reader { reader.openGroup kind flags with
      behindBound := reader.behindBound, conditions := reader.conditions ++ [] } :=
    .enter kind flags reader.behindBound [] hkind (by simp)
      (fun number h => .inl (hcondition number h)) hflags
  simpa [openGroup] using hmove

/-- Opening a capture group is a move. -/
theorem openCapture_move {reader later : ExprReader} {name : Option String}
    (h : reader.openCapture name = .ok later) : Move taken reader later := by
  unfold openCapture at h
  cases name with
  | none =>
      cases h
      exact .capture reader.names
  | some name =>
      dsimp only at h
      split at h
      · simp at h
      · cases h
        exact .capture _

/-- A reference to a group is a move. -/
theorem refer_move {reader later : ExprReader} {number : Nat}
    (h : reader.refer number = .ok later) : Move taken reader later := by
  unfold refer at h
  split at h
  · simp at h
  · next width hclosed =>
    cases hcheck : reader.checkBehind number with
    | error fault => simp [hcheck, bind, Except.bind] at h
    | ok _ =>
        simp only [hcheck, bind, Except.bind, pure, Except.pure, Except.ok.injEq] at h
        rw [← h]
        exact .refer hclosed

/-- Repeating the last term is a move. -/
theorem repeatLast_move {reader later : ExprReader} {least : Nat} {most : Option Nat}
    (h : reader.repeatLast least most = .ok later) : Move taken reader later := by
  unfold repeatLast at h
  dsimp only at h
  split at h
  · simp at h
  · simp at h
  · simp at h
  · next e earlier _ hterms =>
    cases h
    exact .stay .repetition reader.frame.branches _ (by simp) (.again least most hterms)
  · next items earlier hterms =>
    cases h
    exact .stay .repetition reader.frame.branches _ (by simp) (.again least most hterms)

/-- Repeating the last term within written bounds is a move. -/
theorem repeatBounds_move {reader later : ExprReader} {least most : List Char} {comma : Bool}
    (h : reader.repeatBounds least comma most = .ok later) : Move taken reader later := by
  unfold repeatBounds at h
  generalize (if comma then most else least) = most at h
  simp only [bind_eq_ok] at h
  obtain ⟨_, _, _, _, h⟩ := h
  split at h
  · exact repeatLast_move h
  split at h
  · simp at h
  · exact repeatLast_move h

/-- Adding literal characters changes only the terms of the innermost group. -/
theorem pushChars_eq (reader : ExprReader) (chars : List Char) : ∃ terms,
    { reader with pending := .nothing }.pushChars chars =
      reader.reframe .nothing reader.frame.branches terms ∧
    Edit reader.frame reader.frame.branches terms := by
  suffices h : ∀ terms, Edit reader.frame reader.frame.branches terms → ∃ more,
      (reader.reframe .nothing reader.frame.branches terms).pushChars chars =
        reader.reframe .nothing reader.frame.branches more ∧
      Edit reader.frame reader.frame.branches more from h reader.frame.terms .keep
  unfold pushChars
  induction chars with
  | nil => exact fun terms hterms => ⟨terms, rfl, hterms⟩
  | cons c rest ih => exact fun terms hterms => ih _ (.char _ rfl hterms)

/-- An escape that means something is a move. -/
theorem takeEscape_move {reader later : ExprReader} {c : Char} {meaning : EscapeMeaning}
    (h : reader.takeEscape c meaning = .ok later) : Move taken reader later := by
  cases meaning <;> cases h
  · exact .pushTest _ rfl
  · exact .pushTest _ rfl
  · exact .pushAnchor _ _
  · exact .pend _ (by simp)

/-- A reference by number is a move. -/
theorem referNumber_move {reader later : ExprReader} {number : Nat}
    (h : reader.referNumber number = .ok later) : Move taken reader later := by
  unfold referNumber at h
  split at h
  · exact refer_move h
  · simp at h

/-- Doing nothing is a move. -/
theorem Move.refl (reader : ExprReader) : Move taken reader reader :=
  .stay reader.pending reader.frame.branches reader.frame.terms .inl .keep

/-- Settling a reader is a move. -/
theorem settle_move {reader later : ExprReader} {next : Option Piece}
    (h : reader.settle next = .ok later) : Move none reader later := by
  unfold settle at h
  split at h
  · split at h <;> cases h
    · exact .refl _
    · exact .pend _ (by simp)
  · next least comma most _ =>
    split at h <;> cases h
    · exact .refl _
    · obtain ⟨terms, hterms, hedit⟩ := pushChars_eq reader
        ('\x7b' :: least ++ (if comma then [','] else []) ++ most)
      rw [pushBounds, hterms]
      exact .stay _ _ _ (by simp) hedit
  · split at h
    · cases h
      exact .refl _
    · obtain ⟨value, _, hvalue⟩ := bind_eq_ok.mp h
      cases value with
      | inl n =>
          cases hvalue
          exact .pushTest _ rfl
      | inr number => exact referNumber_move hvalue
  · split at h
    · cases h
      exact .refl _
    · obtain ⟨sub, _, hsub⟩ := bind_eq_ok.mp h
      cases hsub
      exact .pend _ (by simp)
  · split at h
    · cases h
      exact .refl _
    · exact openCapture_move h
  · cases h
    exact .refl _

/-- Beginning another branch is a move. -/
theorem nextBranch_move {reader later : ExprReader} (h : reader.nextBranch = .ok later) :
    Move taken reader later := by
  unfold nextBranch at h
  dsimp only at h
  split at h
  · simp at h
  · cases h
    exact .stay reader.pending (reader.frame.branch :: reader.frame.branches) [] .inl .bar

/-- Taking a character while nothing is pending is a move. -/
theorem acceptPlain_move {reader later : ExprReader} {c : Char}
    (h : reader.acceptPlain c = .ok later) : Move taken reader later := by
  unfold acceptPlain at h
  dsimp only at h
  split at h
  · cases h
    exact .refl _
  split at h
  · next hremark =>
    cases h
    exact .stay .remark reader.frame.branches reader.frame.terms
      (fun _ => .inr (by simp only [Bool.and_eq_true] at hremark; exact hremark.1)) .keep
  split at h
  · cases h; exact .pushTest _ trivial
  · cases h; exact .pushAnchor _ _
  · cases h; exact .pushAnchor _ _
  · cases h; exact .pend _ (by simp)
  · cases h; exact .pend _ (by simp)
  · exact repeatLast_move h
  · exact repeatLast_move h
  · exact repeatLast_move h
  · cases h; exact .pend _ (by simp)
  · exact nextBranch_move h
  · split at h
    · next houter =>
      cases h
      exact .leave _ _ houter
    · simp at h
  · cases h; exact .pushTest _ rfl

/-- A reference by name is a move. -/
theorem referName_move {reader later : ExprReader} {name : List Char}
    (h : reader.referName name = .ok later) : Move taken reader later := by
  unfold referName at h
  dsimp only at h
  split at h
  · simp at h
  split at h
  · simp at h
  split at h
  · simp at h
  · exact refer_move h

/-- Opening a named group is a move. -/
theorem nameGroup_move {reader later : ExprReader} {name : List Char}
    (h : reader.nameGroup name = .ok later) : Move taken reader later := by
  unfold nameGroup at h
  split at h
  · simp at h
  split at h
  · simp at h
  · exact openCapture_move h

/-- Opening a group that depends on another one is a move. -/
theorem openCondition_move {reader later : ExprReader} {name : List Char}
    (h : reader.openCondition name = .ok later) : Move taken reader later := by
  unfold openCondition at h
  dsimp only at h
  split at h
  · simp at h
  split at h
  · split at h
    · simp at h
    · next number hname =>
      obtain ⟨_, _, hlater⟩ := bind_eq_ok.mp h
      cases hlater
      exact .open _ rfl (fun _ _ hnil => by simp [hnil] at hname) (by simp)
  · split at h
    · simp at h
    · next hzero _ =>
      split at h
      · simp at h
      · obtain ⟨_, hinside, hlater⟩ := bind_eq_ok.mp h
        obtain ⟨_, _, hopen⟩ := bind_eq_ok.mp hinside
        cases hopen
        cases hlater
        exact .enter _ _ reader.behindBound [_] rfl (by simpa using fun h => hzero h.symm)
          (by simp) (by simp)
    · simp at h

/-- Taking a piece after the question mark of an opening is a move. -/
theorem acceptQuestion_move {reader later : ExprReader} {piece : Piece}
    (h : reader.acceptQuestion piece = .ok later) : Move taken reader later := by
  unfold acceptQuestion at h
  dsimp only at h
  split at h
  · cases h; exact .pend _ (by simp)
  · cases h; exact .open _ rfl (by simp) (by simp)
  · cases h; exact .pend _ (by simp)
  · cases h; exact .open _ rfl (by simp) (by simp)
  · cases h; exact .open _ rfl (by simp) (by simp)
  · cases h; exact .pend _ (by simp)
  · cases h; exact .pend _ (by simp)
  · cases h; exact .open _ rfl (by simp) (by simp)
  · cases h; exact .pend _ (by simp)
  · split at h
    · unfold turnOn at h
      split at h
      · simp at h
      split at h
      · simp at h
      · cases h; exact .pend _ (by simp)
    · simp at h
  · simp at h

/-- Opening a group with flags of its own is a move. -/
theorem openScoped_move {reader later : ExprReader} {on off : List Char}
    (h : reader.openScoped on off = .ok later) : Move taken reader later := by
  unfold openScoped at h
  split at h
  · simp at h
  split at h
  · simp at h
  · cases h
    exact .open _ rfl (by simp) (by simp)

/-- Turning a flag on is a move. -/
theorem turnOn_move {reader later : ExprReader} {on : List Char} {letter : Char}
    (h : reader.turnOn on letter = .ok later) : Move taken reader later := by
  unfold turnOn at h
  split at h
  · simp at h
  split at h
  · simp at h
  · cases h
    exact .pend _ (by simp)

/-- Opening a look-behind is a move. -/
theorem openBehind_move (reader : ExprReader) (positive : Bool) :
    Move taken reader (reader.openBehind positive) := by
  have hmove : Move taken reader
      { reader.openGroup (.behind positive reader.behindBound) reader.frame.flags with
        behindBound := some (reader.behindBound.getD (reader.opened + 1))
        conditions := reader.conditions ++ [] } :=
    .enter _ reader.frame.flags _ [] rfl (by simp) (by simp) (by simp)
  simpa [openBehind, openGroup] using hmove

/-- Taking a piece of an opening is a move. -/
theorem acceptOpening_move {reader later : ExprReader} {opening : Opening} {piece : Piece}
    (hpending : reader.pending = .opening opening)
    (h : reader.acceptOpening opening piece = .ok later) : Move (some piece) reader later := by
  unfold acceptOpening at h
  dsimp only at h
  split at h
  · cases h; exact .pend _ (by simp)
  · exact acceptQuestion_move h
  · cases h; exact .pend _ (by simp)
  · cases h; exact .pend _ (by simp)
  · simp at h
  · exact nameGroup_move h
  · cases h; exact .pend _ (by simp)
  · exact referName_move h
  · cases h; exact .pend _ (by simp)
  · cases h; exact openBehind_move reader true
  · cases h; exact openBehind_move reader false
  · simp at h
  · exact openCondition_move h
  · cases h; exact .pend _ (by simp)
  · cases h; exact .pend _ (by simp)
  · cases h; exact .refl _
  · exact .setFlags _ _ h hpending rfl
  · split at h
    · simp at h
    · exact openScoped_move h
  · split at h
    · simp at h
    · cases h; exact .pend _ (by simp)
  · split at h
    · exact turnOn_move h
    · simp at h
  · simp at h
  · split at h
    · exact openScoped_move h
    split at h
    · simp at h
    split at h
    · simp at h
    · cases h; exact .pend _ (by simp)
  · simp at h

/-- Changing the order of the last repetition is a move. -/
theorem setGreed_move (reader : ExprReader) (greed : Greed) :
    Move taken reader (reader.setGreed greed) := by
  unfold setGreed
  split
  · next least most body earlier hterms =>
    exact .stay .nothing reader.frame.branches _ (by simp) (.order greed hterms)
  · exact .pend _ (by simp)

/-- Taking a piece is a move. -/
theorem accept_move {reader later : ExprReader} {piece : Piece}
    (h : reader.accept piece = .ok later) : Move (some piece) reader later := by
  unfold accept at h
  split at h
  · exact acceptPlain_move h
  · exact takeEscape_move h
  · cases h; exact setGreed_move reader .lazy
  · cases h; exact setGreed_move reader .possessive
  · split at h
    · exact repeatBounds_move h
    split at h
    · cases h; exact .pend _ (by simp)
    split at h
    · cases h; exact .pend _ (by simp)
    · cases h; exact .pend _ (by simp)
  · split at h
    · obtain ⟨_, _, h⟩ := bind_eq_ok.mp h
      exact takeEscape_move h
    · cases h; exact .refl _
  · obtain ⟨outcome, houtcome, h⟩ := bind_eq_ok.mp h
    cases outcome with
    | inl sub => cases h; exact .pend _ (by simp)
    | inr test => cases h; exact .pushTest _ (SetReader.accept_keepsTo houtcome)
  · next opening _ hpending => exact acceptOpening_move hpending h
  · split at h
    · cases h; exact .pend _ (by simp)
    · cases h; exact .refl _
  · cases h; exact .refl _

/-- The later reader has met at least as many capture groups, and the same conditions by number and
perhaps more, none of them on group zero. -/
structure Grows (reader later : ExprReader) : Prop where
  opened : reader.opened ≤ later.opened
  conditions : ∃ more, 0 ∉ more ∧ later.conditions = reader.conditions ++ more

/-- Readers that have met the same groups and conditions. -/
theorem Grows.of_eq {reader later : ExprReader} (hopened : later.opened = reader.opened)
    (hconditions : later.conditions = reader.conditions) : reader.Grows later :=
  ⟨Nat.le_of_eq hopened.symm, [], by simp, by simp [hconditions]⟩

/-- Growing twice is growing. -/
theorem Grows.trans {reader middle later : ExprReader} (hfirst : reader.Grows middle)
    (hsecond : middle.Grows later) : reader.Grows later := by
  obtain ⟨hopened, first, hzero, hconditions⟩ := hfirst
  obtain ⟨hopened', second, hzero', hconditions'⟩ := hsecond
  refine ⟨Nat.le_trans hopened hopened', first ++ second, by simp [hzero, hzero'], ?_⟩
  rw [hconditions', hconditions, List.append_assoc]

/-- Closing a group opens none. -/
theorem close_opened (reader : ExprReader) (parent : Frame) (rest : List Frame) :
    (reader.close parent rest).opened = reader.opened := by
  unfold close
  dsimp only
  split <;> rfl

/-- Closing a group asks for none. -/
theorem close_conditions (reader : ExprReader) (parent : Frame) (rest : List Frame) :
    (reader.close parent rest).conditions = reader.conditions := by
  unfold close
  dsimp only
  split <;> rfl

/-- Flags for the whole expression stand outside of all groups. -/
theorem setFlags_eq {reader later : ExprReader} {on : List Char}
    (h : reader.setFlags on = .ok later) :
    reader.outer = [] ∧ later.opened = reader.opened ∧ later.conditions = reader.conditions := by
  unfold setFlags at h
  split at h
  · next hstart =>
    cases h
    simp only [Bool.and_eq_true, List.isEmpty_iff] at hstart
    exact ⟨hstart.1.1, rfl, rfl⟩
  · simp at h

/-- No move forgets a group or a condition. -/
theorem Move.grows {taken : Option Piece} {reader later : ExprReader}
    (h : Move taken reader later) : reader.Grows later := by
  cases h with
  | stay => exact .of_eq rfl rfl
  | refer => exact .of_eq rfl rfl
  | enter kind flags bound conditions _ hzero => exact ⟨Nat.le_refl _, conditions, hzero, rfl⟩
  | capture => exact ⟨Nat.le_succ _, [], by simp, by simp [openGroup]⟩
  | leave parent rest => exact .of_eq (close_opened _ _ _) (close_conditions _ _ _)
  | setFlags on later h => exact .of_eq (setFlags_eq h).2.1 (setFlags_eq h).2.2

variable {reader later : ExprReader}

/-- No step forgets a group or a condition. -/
theorem step_grows {piece : Piece} (h : reader.step piece = .ok later) : reader.Grows later := by
  obtain ⟨settled, hsettle, haccept⟩ := step_eq_ok.mp h
  exact (settle_move hsettle).grows.trans (accept_move haccept).grows

/-- Reading forgets no group and no condition. -/
theorem run_grows {pieces : List Piece} (h : reader.run pieces = .ok later) :
    reader.Grows later := by
  induction pieces generalizing reader with
  | nil =>
      rw [run_nil] at h
      cases h
      exact .of_eq rfl rfl
  | cons piece rest ih =>
      obtain ⟨_, middle, hstep, hrest⟩ := run_cons.mp h
      exact (step_grows hstep).trans (ih hrest)

/-- The reader has met no capture group and no condition by number. -/
structure Ungrouped (reader : ExprReader) : Prop where
  opened : reader.opened = 0
  conditions : reader.conditions = []

/-- What has met nothing in the end has met nothing before. -/
theorem Grows.ungrouped {reader later : ExprReader} (h : reader.Grows later)
    (hlater : later.Ungrouped) : reader.Ungrouped := by
  have hopened := h.opened
  have hconditions := h.conditions
  obtain ⟨more, _, hmore⟩ := hconditions
  rw [hlater.opened] at hopened
  rw [hlater.conditions] at hmore
  exact ⟨by omega, (List.append_eq_nil_iff.mp hmore.symm).1⟩

/-- A reader finishes when nothing is left open and every condition has its group. -/
theorem finish_eq_ok {done : ExprReader} : reader.finish = .ok done ↔
    reader.settle none = .ok done ∧ endFault done.pending = none ∧ done.outer = [] ∧
      ¬ (done.flags.asciiOnly && done.wide) = true ∧
      done.conditions.find? (done.opened < ·) = none := by
  unfold finish
  rw [bind_eq_ok]
  constructor
  · rintro ⟨settled, hsettle, h⟩
    split at h
    · simp at h
    · simp at h
    · next hfault houter =>
      split at h
      · simp at h
      · next hwide =>
        split at h
        · simp at h
        · next hfind =>
          cases h
          exact ⟨hsettle, hfault, houter, hwide, hfind⟩
  · rintro ⟨hsettle, hfault, houter, hwide, hfind⟩
    refine ⟨done, hsettle, ?_⟩
    simp only [hfault, houter, hwide, hfind, Bool.false_eq_true, ↓reduceIte]

end ExprReader

/-- An expression is read when its text is read to the end and what it says can be met. -/
theorem Expression.read_eq_ok {source : String} {flags : Flags} {expression : Expression} :
    Expression.read source flags = .ok expression ↔ ∃ reading done,
      (ExprReader.start flags).run (Piece.ofText source.toList) = .ok reading ∧
      reading.finish = .ok done ∧
      done.frame.body.demandFault? done.flags.template = none ∧
      done.frame.body.looksTooFar = false ∧
      expression = ⟨source, done.flags, done.frame.body, done.opened⟩ := by
  unfold Expression.read
  simp only [bind_eq_ok]
  constructor
  · rintro ⟨reading, hrun, done, hfinish, h⟩
    split at h
    · simp at h
    · next hdemand =>
      split at h
      · simp at h
      · next hfar =>
        cases h
        exact ⟨reading, done, hrun, hfinish, hdemand, by simpa using hfar, rfl⟩
  · rintro ⟨reading, done, hrun, hfinish, hdemand, hfar, rfl⟩
    refine ⟨reading, hrun, done, hfinish, ?_⟩
    simp only [hdemand, hfar]
    rfl

end RoutePattern
