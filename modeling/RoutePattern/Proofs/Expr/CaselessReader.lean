import RoutePattern.Proofs.Expr.Caseless

/-!
# Reading without regard to case

Whether an expression can be read, and how many groups it has, does not depend on whether case is
ignored. Each operation of a reader commutes with forgetting how characters compare, and those that
change flags do so up to what is forgotten once more. So readers that differ only in that go the
same way (`run_alike`). `Expression.groups_read_eq` is the main result.
-/

namespace RoutePattern

/-! ## Sets -/

namespace SetReader

/-- The test of a set is the same up to case. -/
theorem caseless_test (fold : Fold) (negated : Bool) (members : List Member) :
    (test fold negated members).caseless = test .keep negated members := by
  unfold test
  split <;> rfl

/-- A set is read in the same way. -/
theorem accept_caseless (flags : Flags) (reader : SetReader) (piece : Piece) :
    reader.accept flags.caseless piece =
      (reader.accept flags piece).map (Sum.map id CharTest.caseless) := by
  have hmore (outcome : Except ExprFault SetReader) :
      (do return .inl (← outcome) : Except ExprFault (SetReader ⊕ CharTest)) =
        (do return .inl (← outcome) : Except ExprFault (SetReader ⊕ CharTest)).map
          (Sum.map id CharTest.caseless) := by
    cases outcome <;> rfl
  unfold accept
  dsimp only
  rw [show flags.caseless.asciiOnly = flags.asciiOnly from rfl,
    show flags.caseless.fold = .keep from rfl]
  split
  · split
    · next meaning _ =>
      cases meaning with
      | error fault => rfl
      | ok meaning => exact hmore _
    · rfl
  · split
    · split
      · rfl
      split
      · split
        · simp [pure, Except.pure, Except.map, caseless_test]
        · exact hmore _
      split
      · rfl
      split
      · simp [pure, Except.pure, Except.map, caseless_test]
      · exact hmore _
    · exact hmore _
    · rfl

end SetReader

/-! ## Readers -/

namespace ExprReader

variable {reader : ExprReader}

/-- A reader that compares characters as they are. -/
def caseless (reader : ExprReader) : ExprReader :=
  { reader with
    frame := reader.frame.caseless
    outer := reader.outer.map Frame.caseless
    flags := reader.flags.caseless }

@[simp] theorem caseless_pending (reader : ExprReader) : reader.caseless.pending = reader.pending :=
  rfl

@[simp] theorem caseless_names (reader : ExprReader) : reader.caseless.names = reader.names :=
  rfl

@[simp] theorem caseless_opened (reader : ExprReader) : reader.caseless.opened = reader.opened :=
  rfl

@[simp] theorem caseless_closed (reader : ExprReader) : reader.caseless.closed = reader.closed :=
  rfl

@[simp] theorem caseless_conditions (reader : ExprReader) :
    reader.caseless.conditions = reader.conditions :=
  rfl

@[simp] theorem caseless_frame (reader : ExprReader) :
    reader.caseless.frame = reader.frame.caseless :=
  rfl

@[simp] theorem caseless_outer (reader : ExprReader) :
    reader.caseless.outer = reader.outer.map Frame.caseless :=
  rfl

@[simp] theorem caseless_terms (reader : ExprReader) :
    reader.caseless.frame.terms = reader.frame.terms.map Term.caseless :=
  rfl

@[simp] theorem caseless_checkBehind (reader : ExprReader) (number : Nat) :
    reader.caseless.checkBehind number = reader.checkBehind number :=
  rfl

/-- There is nothing more to forget in a reader. -/
theorem caseless_caseless (reader : ExprReader) : reader.caseless.caseless = reader.caseless := by
  simp [caseless, Frame.caseless_caseless, Flags.caseless, Function.comp_def]

/-- Characters are added in the same way. -/
theorem pushChars_caseless (chars : List Char) :
    reader.caseless.pushChars chars = (reader.pushChars chars).caseless := by
  unfold pushChars
  induction chars generalizing reader with
  | nil => rfl
  | cons c rest ih => exact @ih (reader.pushCode c.toNat)

/-- A capture group is opened in the same way. -/
theorem openCapture_caseless (name : Option String) :
    reader.caseless.openCapture name = (reader.openCapture name).map caseless := by
  unfold openCapture
  cases name with
  | none => rfl
  | some name =>
      dsimp only
      rw [caseless_names]
      cases reader.names.lookup name <;> rfl

/-- A group is referred to in the same way. -/
theorem refer_caseless (number : Nat) :
    reader.caseless.refer number = (reader.refer number).map caseless := by
  unfold refer
  rw [caseless_closed]
  cases reader.closed.lookup number with
  | none => rfl
  | some width =>
      dsimp only
      rw [caseless_checkBehind]
      cases reader.checkBehind number <;> rfl

/-- A group is referred to by number in the same way. -/
theorem referNumber_caseless (number : Nat) :
    reader.caseless.referNumber number = (reader.referNumber number).map caseless := by
  unfold referNumber
  rw [caseless_opened]
  split
  · exact refer_caseless number
  · rfl

/-- A group is referred to by name in the same way. -/
theorem referName_caseless (name : List Char) :
    reader.caseless.referName name = (reader.referName name).map caseless := by
  unfold referName
  dsimp only
  rw [caseless_names]
  split
  · rfl
  split
  · rfl
  cases reader.names.lookup (String.ofList name) with
  | none => rfl
  | some number => exact refer_caseless number

/-- A named group is opened in the same way. -/
theorem nameGroup_caseless (name : List Char) :
    reader.caseless.nameGroup name = (reader.nameGroup name).map caseless := by
  unfold nameGroup
  split
  · rfl
  split
  · rfl
  · exact openCapture_caseless _

/-- A group that depends on another one is opened in the same way. -/
theorem openCondition_caseless (name : List Char) :
    reader.caseless.openCondition name = (reader.openCondition name).map caseless := by
  unfold openCondition
  dsimp only
  rw [caseless_names, caseless_conditions]
  have hinside (number : Nat) :
      (do
        reader.caseless.checkBehind number
        return reader.caseless.openGroup (.condition number) reader.caseless.frame.flags) =
      (do
        reader.checkBehind number
        return reader.openGroup (.condition number) reader.frame.flags).map caseless := by
    rw [caseless_checkBehind]
    cases reader.checkBehind number <;> rfl
  simp only [hinside]
  split
  · rfl
  split
  · cases reader.names.lookup (String.ofList name) <;> rfl
  split
  · rfl
  · split
    · rfl
    · generalize (do
        reader.checkBehind _
        return reader.openGroup (.condition _) reader.frame.flags) = inner
      cases inner <;> rfl
  · rfl

/-- The last term is repeated in the same way. -/
theorem repeatLast_caseless (least : Nat) (most : Option Nat) :
    reader.caseless.repeatLast least most = (reader.repeatLast least most).map caseless := by
  unfold repeatLast
  dsimp only
  rw [caseless_terms]
  cases reader.frame.terms with
  | nil => rfl
  | cons term earlier =>
      cases term with
      | bare items =>
          simp [Term.caseless, Except.map, caseless, Frame.caseless, Expr.caseless,
            Expr.caseless_ofList]
      | item e => cases e <;> rfl

/-- Written bounds are read in the same way. -/
theorem repeatBounds_caseless (least : List Char) (comma : Bool) (most : List Char) :
    reader.caseless.repeatBounds least comma most =
      (reader.repeatBounds least comma most).map caseless := by
  unfold repeatBounds
  dsimp only
  generalize (if comma then most else least) = most
  cases readCount least with
  | error fault => rfl
  | ok low =>
      cases readCount most with
      | error fault => rfl
      | ok high =>
          simp only [bind, Except.bind]
          split
          · exact repeatLast_caseless _ _
          split
          · rfl
          · exact repeatLast_caseless _ _

/-- The order of the last repetition is changed in the same way. -/
theorem setGreed_caseless (greed : Greed) :
    reader.caseless.setGreed greed = (reader.setGreed greed).caseless := by
  unfold setGreed
  rw [caseless_terms]
  match reader.frame.terms with
  | [] => rfl
  | .bare items :: earlier => rfl
  | .item e :: earlier => cases e <;> rfl

/-- A group that keeps to its flags is closed in the same way. -/
theorem close_caseless
    (h : Uniform reader.frame.flags.fold reader.frame.branches reader.frame.terms)
    (parent : Frame) (rest : List Frame) :
    reader.caseless.close parent.caseless (rest.map Frame.caseless) =
      (reader.close parent rest).caseless := by
  unfold close
  dsimp only
  rw [caseless_frame, Frame.term_caseless h,
    Frame.body_caseless h, Expr.width_caseless,
    show reader.frame.caseless.kind = reader.frame.kind from rfl]
  split <;> rfl

/-- Another branch is begun in the same way. -/
theorem nextBranch_caseless :
    reader.caseless.nextBranch = reader.nextBranch.map caseless := by
  unfold nextBranch
  dsimp only
  rw [caseless_frame, Frame.branch_caseless,
    show reader.frame.caseless.kind = reader.frame.kind from rfl,
    show reader.frame.caseless.branches = reader.frame.branches.map (·.map Expr.caseless) from rfl]
  cases reader.frame.kind <;> cases reader.frame.branches <;> rfl

/-- An escape means the same. -/
theorem takeEscape_caseless (c : Char) (meaning : EscapeMeaning) :
    reader.caseless.takeEscape c meaning = (reader.takeEscape c meaning).map caseless := by
  cases meaning <;> rfl

/-- A reader is settled in the same way. -/
theorem settle_caseless (next : Option Piece) :
    reader.caseless.settle next = (reader.settle next).map caseless := by
  unfold settle
  rw [caseless_pending]
  cases reader.pending with
  | nothing | remark => rfl
  | repetition =>
      dsimp only
      split <;> rfl
  | bounds least comma most =>
      dsimp only
      split
      · rfl
      · exact congrArg Except.ok (@pushChars_caseless { reader with pending := .nothing } _)
  | escape escape =>
      dsimp only
      split
      · rfl
      · cases escape.complete with
        | error fault => rfl
        | ok value =>
            cases value with
            | inl n => rfl
            | inr number => exact referNumber_caseless number
  | set sub =>
      dsimp only
      split
      · rfl
      · cases sub.settleEscape <;> rfl
  | opening opening =>
      cases opening with
      | paren =>
          dsimp only
          split
          · rfl
          · exact openCapture_caseless none
      | _ => rfl

/-- A character is taken in the same way. -/
theorem acceptPlain_caseless (h : reader.Tidy) (c : Char) :
    reader.caseless.acceptPlain c = (reader.acceptPlain c).map caseless := by
  unfold acceptPlain
  dsimp only
  rw [show reader.caseless.frame.flags.verbose = reader.frame.flags.verbose from rfl]
  split
  · rfl
  split
  · rfl
  split
  · rfl
  · dsimp only [Except.map]
    rw [show reader.caseless.frame.flags.multiLine = reader.frame.flags.multiLine from rfl]
    split <;> rfl
  · dsimp only [Except.map]
    rw [show reader.caseless.frame.flags.multiLine = reader.frame.flags.multiLine from rfl]
    split <;> rfl
  · rfl
  · rfl
  · exact repeatLast_caseless _ _
  · exact repeatLast_caseless _ _
  · exact repeatLast_caseless _ _
  · rfl
  · exact nextBranch_caseless
  · rw [caseless_outer]
    cases reader.outer with
    | nil => rfl
    | cons parent rest => exact congrArg Except.ok (close_caseless h.uniform parent rest)
  · rfl

/-! ## Pieces of openings -/

/-- Two outcomes are the same up to case. -/
def Alike (first second : Except ExprFault ExprReader) : Prop :=
  first.map caseless = second.map caseless

/-- What comes out of the same operation is the same up to case. -/
theorem Alike.of_eq {first second : Except ExprFault ExprReader} (h : first = second.map caseless) :
    Alike first second := by
  subst h
  cases second with
  | error fault => rfl
  | ok later => exact congrArg Except.ok (caseless_caseless later)

/-- A flag is turned on in the same way. -/
theorem turnOn_caseless (on : List Char) (letter : Char) :
    reader.caseless.turnOn on letter = (reader.turnOn on letter).map caseless := by
  unfold turnOn
  split
  · rfl
  split <;> rfl

/-- A group with flags of its own is opened in the same way, up to case. -/
theorem openScoped_alike (on off : List Char) :
    Alike (reader.caseless.openScoped on off) (reader.openScoped on off) := by
  have hopen : (reader.caseless.openGroup .scoped
      (reader.caseless.frame.flags.change on off)).caseless =
        (reader.openGroup .scoped (reader.frame.flags.change on off)).caseless := by
    show (reader.caseless.caseless.openGroup .scoped
      (reader.frame.flags.caseless.change on off).caseless) =
        reader.caseless.openGroup .scoped (reader.frame.flags.change on off).caseless
    rw [caseless_caseless, Flags.caseless_change]
  unfold Alike openScoped
  split
  · rfl
  split
  · rfl
  · exact congrArg Except.ok hopen

/-- Flags for the whole expression are set in the same way, up to case. -/
theorem setFlags_alike (on : List Char) :
    Alike (reader.caseless.setFlags on) (reader.setFlags on) := by
  have hstart : (reader.caseless.outer.isEmpty && reader.caseless.frame.branches.isEmpty &&
      reader.caseless.frame.terms.isEmpty) =
        (reader.outer.isEmpty && reader.frame.branches.isEmpty && reader.frame.terms.isEmpty) := by
    simp [caseless, Frame.caseless]
  unfold Alike setFlags
  dsimp only
  rw [hstart]
  split
  · have hwhole := Flags.caseless_change reader.flags (on.filter (· != 'u')) []
    have hframe := Flags.caseless_change reader.frame.flags (on.filter (· != 'u')) []
    simp only [Except.map, caseless, Frame.caseless, hwhole, hframe]
    simp [Expr.caseless_caseless, Term.caseless_caseless, Frame.caseless_caseless,
      Function.comp_def]
  · rfl

/-- A piece after the question mark of an opening is taken in the same way. -/
theorem acceptQuestion_caseless (piece : Piece) :
    reader.caseless.acceptQuestion piece = (reader.acceptQuestion piece).map caseless := by
  unfold acceptQuestion
  dsimp only
  split <;> try rfl
  split
  · exact turnOn_caseless _ _
  · rfl

/-- A piece of an opening is taken in the same way, up to case. -/
theorem acceptOpening_alike (opening : Opening) (piece : Piece) :
    Alike (reader.caseless.acceptOpening opening piece) (reader.acceptOpening opening piece) := by
  unfold acceptOpening
  dsimp only
  split
  · exact .of_eq rfl
  · exact .of_eq (acceptQuestion_caseless _)
  · exact .of_eq rfl
  · exact .of_eq rfl
  · exact .of_eq rfl
  · exact .of_eq (nameGroup_caseless _)
  · exact .of_eq rfl
  · exact .of_eq (referName_caseless _)
  · exact .of_eq rfl
  · exact .of_eq rfl
  · exact .of_eq rfl
  · exact .of_eq rfl
  · exact .of_eq (openCondition_caseless _)
  · exact .of_eq rfl
  · exact .of_eq rfl
  · exact .of_eq rfl
  · exact setFlags_alike _
  · split
    · exact .of_eq rfl
    · exact openScoped_alike _ _
  · split <;> exact .of_eq rfl
  · split
    · exact .of_eq (turnOn_caseless _ _)
    · exact .of_eq rfl
  · exact .of_eq rfl
  · split
    · exact openScoped_alike _ _
    split
    · exact .of_eq rfl
    split <;> exact .of_eq rfl
  · exact .of_eq rfl

/-! ## Reading -/

/-- A piece is taken in the same way, up to case. -/
theorem accept_alike (h : reader.Tidy) (piece : Piece) :
    Alike (reader.caseless.accept piece) (reader.accept piece) := by
  unfold accept
  rw [caseless_pending]
  split
  · exact .of_eq (acceptPlain_caseless h _)
  · exact .of_eq (takeEscape_caseless _ _)
  · exact .of_eq (congrArg Except.ok (setGreed_caseless _))
  · exact .of_eq (congrArg Except.ok (setGreed_caseless _))
  · split
    · exact .of_eq (repeatBounds_caseless _ _ _)
    split
    · exact .of_eq rfl
    split <;> exact .of_eq rfl
  · split
    · next meaning _ =>
      cases meaning with
      | error fault => rfl
      | ok meaning => exact .of_eq (takeEscape_caseless _ _)
    · exact .of_eq rfl
  · next sub _ =>
    rw [caseless_frame, show reader.frame.caseless.flags = reader.frame.flags.caseless from rfl,
      SetReader.accept_caseless]
    generalize sub.accept reader.frame.flags _ = outcome
    cases outcome with
    | error fault => rfl
    | ok outcome => cases outcome <;> exact .of_eq rfl
  · exact acceptOpening_alike _ _
  · split <;> exact .of_eq rfl
  · exact .of_eq rfl

/-- The end of the text is met in the same way. -/
theorem finish_caseless : reader.caseless.finish = reader.finish.map caseless := by
  unfold finish
  rw [settle_caseless]
  cases reader.settle none with
  | error fault => rfl
  | ok settled =>
      simp only [bind, Except.bind, Except.map]
      rw [caseless_pending, caseless_outer,
        show settled.caseless.flags.asciiOnly = settled.flags.asciiOnly from rfl,
        show settled.caseless.wide = settled.wide from rfl,
        show settled.caseless.conditions.find? (settled.caseless.opened < ·) =
          settled.conditions.find? (settled.opened < ·) from rfl]
      cases endFault settled.pending with
      | some fault => rfl
      | none =>
          cases settled.outer with
          | cons frame rest => rfl
          | nil =>
              dsimp only [List.map]
              split
              · rfl
              · cases settled.conditions.find? (settled.opened < ·) <;> rfl

variable {other : ExprReader}

/-- Outcomes that are the same up to case are the same fault, or readers that are. -/
theorem Alike.cases {first second : Except ExprFault ExprReader} (h : Alike first second) :
    (∃ fault, first = .error fault ∧ second = .error fault) ∨
      ∃ later later' : ExprReader, first = .ok later ∧ second = .ok later' ∧
        later.caseless = later'.caseless := by
  cases first with
  | error fault =>
      cases second with
      | error fault' => exact .inl ⟨fault, rfl, congrArg Except.error (Except.error.inj h).symm⟩
      | ok later' => cases h
  | ok later =>
      cases second with
      | error fault' => cases h
      | ok later' => exact .inr ⟨later, later', rfl, rfl, Except.ok.inj h⟩

/-- Readers that are the same up to case read the same text in the same way. -/
theorem run_alike (h : reader.caseless = other.caseless) (hreader : reader.Tidy)
    (hother : other.Tidy) (pieces : List Piece) : Alike (reader.run pieces) (other.run pieces) := by
  induction pieces generalizing reader other with
  | nil =>
      rw [run_nil, run_nil]
      exact congrArg Except.ok h
  | cons piece rest ih =>
      by_cases hlone : piece = .lone
      · subst hlone
        rw [run, run]
        rfl
      have hsettle : Alike (reader.settle (some piece)) (other.settle (some piece)) := by
        rw [Alike, ← settle_caseless, ← settle_caseless, h]
      rw [run.eq_3 _ _ _ hlone, run.eq_3 _ _ _ hlone]
      rcases hsettle.cases with
        ⟨fault, hfirst, hsecond⟩ | ⟨settled, settled', hfirst, hsecond, hsame⟩
      · rw [hfirst, hsecond]
        rfl
      have hsettled := (settle_move hfirst).tidy hreader
      have hsettled' := (settle_move hsecond).tidy hother
      have haccept : Alike (settled.accept piece) (settled'.accept piece) :=
        (accept_alike hsettled piece).symm.trans (hsame ▸ accept_alike hsettled' piece)
      simp only [hfirst, hsecond, bind, Except.bind]
      rcases haccept.cases with ⟨fault, hfirst, hsecond⟩ | ⟨later, later', hfirst, hsecond, hsame⟩
      · rw [hfirst, hsecond]
        rfl
      · rw [hfirst, hsecond]
        exact ih hsame ((accept_move hfirst).tidy hsettled) ((accept_move hsecond).tidy hsettled')

end ExprReader

open ExprReader in
/-- Whether an expression can be read, with which fault if not and with how many groups if so, has
nothing to do with whether case is ignored. -/
theorem Expression.groups_read_eq (source : String) {flags others : Flags}
    (h : flags.caseless = others.caseless) :
    (Expression.read source flags).map groups = (Expression.read source others).map groups := by
  have hstart : (start flags).caseless = (start others).caseless := by
    show ({ frame := { kind := .bare, flags := flags.caseless }, flags := flags.caseless } :
        ExprReader) =
      { frame := { kind := .bare, flags := others.caseless }, flags := others.caseless }
    rw [h]
  have hrun := run_alike hstart (start_tidy flags) (start_tidy others) (Piece.ofText source.toList)
  unfold Expression.read
  rcases hrun.cases with ⟨fault, hfirst, hsecond⟩ | ⟨reading, reading', hfirst, hsecond, hsame⟩
  · rw [hfirst, hsecond]
  have hreading := run_tidy (start_tidy flags) hfirst
  have hreading' := run_tidy (start_tidy others) hsecond
  have hfinish : Alike reading.finish reading'.finish := by
    rw [Alike, ← finish_caseless, ← finish_caseless, hsame]
  simp only [hfirst, hsecond, bind, Except.bind]
  rcases hfinish.cases with ⟨fault, hfirst, hsecond⟩ | ⟨done, done', hfirst, hsecond, hsame⟩
  · rw [hfirst, hsecond]
  have hdone : done.Tidy := (settle_move (finish_eq_ok.mp hfirst).1).tidy hreading
  have hdone' : done'.Tidy := (settle_move (finish_eq_ok.mp hsecond).1).tidy hreading'
  have hbody : done.frame.body.caseless = done'.frame.body.caseless := by
    rw [← Frame.body_caseless hdone.uniform, ← Frame.body_caseless hdone'.uniform]
    exact congrArg (·.frame.body) hsame
  have htemplate : done.flags.template = done'.flags.template :=
    congrArg (·.flags.template) hsame
  have hopened : done.opened = done'.opened := congrArg (·.opened) hsame
  rw [hfirst, hsecond]
  dsimp only
  rw [← Expr.demandFault?_caseless, ← Expr.looksTooFar_caseless, hbody, htemplate,
    Expr.demandFault?_caseless, Expr.looksTooFar_caseless]
  split
  · rfl
  split
  · rfl
  · exact congrArg Except.ok hopened

end RoutePattern
