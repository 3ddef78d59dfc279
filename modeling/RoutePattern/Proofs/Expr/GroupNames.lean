import RoutePattern.Proofs.Expr.Named

/-!
# What the groups of an expression are called

`ExprReader.groupNames` lists the capture groups that a reader has met in the order of their numbers,
each with its name if it has one. A step adds one group at the end of the list, or it leaves the list
as it is (`settle_enlists`, `accept_enlists`), so reading on keeps the names there are
(`run_groupNames`).
-/

namespace RoutePattern

open ExprReader

/-- The next piece is part of what is pending, or what is pending is not over yet whatever comes. -/
def Pending.GoesOn (next : Option Piece) : Pending → Prop
  | .repetition => next = some (.plain '?') ∨ next = some (.plain '+')
  | .bounds least comma _ => boundsGoOn least comma next = true
  | .escape unit => escapeGoesOn unit next = true
  | .opening .paren => next = some (.plain '?')
  | _ => True

/-- What is pending may be over by the next piece, so that nothing is pending any more. -/
def Pending.Ends : Pending → Prop
  | .repetition | .bounds _ _ _ | .opening .paren => True
  | .escape unit => ∃ value, unit.complete = .ok value
  | _ => False

namespace ExprReader

variable {reader later : ExprReader}

/-- The name of the capture group with a number, if it has one. -/
def nameOf? (reader : ExprReader) (number : Nat) : Option String :=
  (reader.names.find? (·.2 == number)).map (·.1)

/-- The names of the capture groups in the order of their numbers. -/
def groupNames (reader : ExprReader) : List (Option String) :=
  (List.range' 1 reader.opened).map reader.nameOf?

/-- Only groups that have been opened have names. -/
def Registered (reader : ExprReader) : Prop :=
  ∀ entry ∈ reader.names, entry.2 ≤ reader.opened

/-- No capture group has been added. -/
structure KeepsGroups (reader later : ExprReader) : Prop where
  opened : later.opened = reader.opened
  names : later.names = reader.names

/-- The names are the same as long as no group is added. -/
theorem KeepsGroups.groupNames (h : reader.KeepsGroups later) :
    later.groupNames = reader.groupNames := by
  have hname : later.nameOf? = reader.nameOf? := by
    funext number
    rw [nameOf?, nameOf?, h.names]
  rw [ExprReader.groupNames, ExprReader.groupNames, h.opened, hname]

/-- The names belong to the groups there are as long as no group is added. -/
theorem KeepsGroups.registered (h : reader.KeepsGroups later) (hreader : reader.Registered) :
    later.Registered := by
  intro entry hentry
  rw [h.names] at hentry
  rw [h.opened]
  exact hreader entry hentry

/-! ## Capture groups -/

/-- A capture group has the next number, and its name is written down last. -/
theorem openCapture_eq {name : Option String} (h : reader.openCapture name = .ok later) :
    later.opened = reader.opened + 1 ∧
      later.names = reader.names ++ (name.map (·, reader.opened + 1)).toList := by
  unfold openCapture at h
  dsimp only at h
  cases name with
  | none =>
      cases h
      exact ⟨rfl, (List.append_nil _).symm⟩
  | some name =>
      dsimp only at h
      split at h <;> cases h
      exact ⟨rfl, rfl⟩

/-- A capture group adds its name at the end. -/
theorem openCapture_groupNames {name : Option String} (hreader : reader.Registered)
    (h : reader.openCapture name = .ok later) :
    later.Registered ∧ later.groupNames = reader.groupNames ++ [name] := by
  obtain ⟨hopened, hnames⟩ := openCapture_eq h
  refine ⟨fun entry hentry => ?_, ?_⟩
  · rw [hnames, List.mem_append] at hentry
    rw [hopened]
    obtain hentry | hentry := hentry
    · exact Nat.le_succ_of_le (hreader entry hentry)
    · obtain ⟨name, _, rfl⟩ := Option.map_eq_some_iff.mp (Option.mem_toList.mp hentry)
      exact Nat.le_refl _
  · have hold (number : Nat) (hnumber : number ∈ List.range' 1 reader.opened) :
        later.nameOf? number = reader.nameOf? number := by
      have hle := List.mem_range'_1.mp hnumber
      rw [nameOf?, nameOf?, hnames, List.find?_append]
      cases name with
      | none => simp
      | some name =>
          rw [Option.map_some, Option.toList_some, List.find?_singleton,
            if_neg (by simp; omega), Option.or_none]
    have hnew : later.nameOf? (1 + reader.opened) = name := by
      have hnone : reader.names.find? (·.2 == 1 + reader.opened) = none := by
        refine List.find?_eq_none.mpr fun entry hentry => ?_
        have hle := hreader entry hentry
        simp
        omega
      rw [nameOf?, hnames, List.find?_append, hnone, Option.none_or]
      cases name with
      | none => rfl
      | some name => simp [Nat.add_comm]
    rw [groupNames, groupNames, hopened, List.range'_concat, List.map_append,
      List.map_congr_left hold, List.map_singleton, Nat.one_mul, hnew]

/-- A named group has an identifier for its name. -/
theorem nameGroup_eq {text : List Char} (h : reader.nameGroup text = .ok later) :
    text ≠ [] ∧ reader.openCapture (some (String.ofList text)) = .ok later := by
  unfold nameGroup at h
  split at h
  · cases h
  · next hempty =>
    split at h
    · cases h
    · exact ⟨by simpa using hempty, h⟩

/-! ## Steps -/

/-- Settling a reader leaves it as it is where the next piece goes on with what is pending. Otherwise
that is over, or an escape in a set is. -/
theorem settle_pending {next : Option Piece} (h : reader.settle next = .ok later) :
    later = reader ∧ reader.pending.GoesOn next ∨
      (∃ sub sub', reader.pending = .set sub ∧ later.pending = .set sub') ∨
      later.pending = .nothing ∧ reader.pending.Ends := by
  unfold settle at h
  split at h
  · next hpending =>
    rw [hpending]
    split at h
    · next hnext =>
      cases h
      exact .inl ⟨rfl, hnext⟩
    · cases h
      exact .inr (.inr ⟨rfl, trivial⟩)
  · next hpending =>
    rw [hpending]
    split at h
    · next hnext =>
      cases h
      exact .inl ⟨rfl, hnext⟩
    · cases h
      exact .inr (.inr ⟨congrArg (·.pending) (outline_pushChars _ _), trivial⟩)
  · next hpending =>
    rw [hpending]
    split at h
    · next hnext =>
      cases h
      exact .inl ⟨rfl, hnext⟩
    · obtain ⟨value, hvalue, h⟩ := bind_eq_ok.mp h
      refine .inr (.inr ⟨?_, value, hvalue⟩)
      cases value with
      | inl n =>
          cases h
          rfl
      | inr number => exact congrArg (·.pending) (referNumber_outline h)
  · next hpending =>
    rw [hpending]
    split at h
    · cases h
      exact .inl ⟨rfl, trivial⟩
    · obtain ⟨sub, _, h⟩ := bind_eq_ok.mp h
      cases h
      exact .inr (.inl ⟨_, sub, rfl, rfl⟩)
  · next hpending =>
    rw [hpending]
    split at h
    · next hnext =>
      cases h
      exact .inl ⟨rfl, hnext⟩
    · exact .inr (.inr ⟨congrArg (·.pending) (openCapture_outline h), trivial⟩)
  · next hrepetition hbounds hescape _ hparen =>
    cases h
    refine .inl ⟨rfl, ?_⟩
    unfold Pending.GoesOn
    split
    · next hpending => exact absurd hpending hrepetition
    · next hpending => exact (hbounds _ _ _ hpending).elim
    · next hpending => exact (hescape _ hpending).elim
    · next hpending => exact absurd hpending hparen
    · trivial

/-- In front of a piece a settled reader goes on with it. -/
theorem settle_goesOn {next : Option Piece} (h : reader.settle next = .ok later) :
    later.pending.GoesOn next := by
  obtain ⟨rfl, hgoes⟩ | ⟨_, _, _, hlater⟩ | ⟨hlater, _⟩ := settle_pending h
  · exact hgoes
  · rw [hlater]
    trivial
  · rw [hlater]
    trivial

/-- Closing a group forgets no name. -/
theorem close_names (reader : ExprReader) (parent : Frame) (rest : List Frame) :
    (reader.close parent rest).names = reader.names := by
  unfold close
  dsimp only
  split <;> rfl

/-- A move that opens no capture group gives no name. -/
theorem Move.keepsGroups {taken : Option Piece} (h : Move taken reader later)
    (hopened : later.opened = reader.opened) : reader.KeepsGroups later := by
  refine ⟨hopened, ?_⟩
  cases h with
  | stay | refer | enter => rfl
  | capture names => exact absurd hopened (Nat.succ_ne_self _)
  | leave parent rest => exact close_names _ _ _
  | setFlags on later h =>
      unfold ExprReader.setFlags at h
      split at h <;> cases h
      rfl

/-- Settling a reader adds no group, unless it is in front of an unnamed one. -/
theorem settle_enlists {next : Option Piece} (h : reader.settle next = .ok later) :
    (reader.pending = .opening .paren → next = some (.plain '?')) ∧ reader.KeepsGroups later ∨
      reader.pending = .opening .paren ∧ next ≠ some (.plain '?') ∧
        reader.openCapture none = .ok later := by
  by_cases hparen : reader.pending = .opening .paren → next = some (.plain '?')
  · exact .inl ⟨hparen, (settle_move h).keepsGroups (settle_front hparen h).1⟩
  · obtain ⟨hpending, hnext⟩ := Classical.not_imp.mp hparen
    rw [settle, hpending] at h
    dsimp only at h
    rw [if_neg hnext] at h
    exact .inr ⟨hpending, hnext, h⟩

/-- A piece adds no group, unless it ends the name of one. -/
theorem accept_enlists {piece : Piece}
    (hparen : reader.pending = .opening .paren → piece = .plain '?')
    (h : reader.accept piece = .ok later) :
    reader.KeepsGroups later ∨
      ∃ text, reader.pending = .opening (.groupName text) ∧ piece = .plain '>' ∧
        reader.nameGroup text = .ok later := by
  cases accept_names hparen h with
  | idle hidle => exact .inl ((accept_move h).keepsGroups hidle.opened)
  | further hopened => exact .inl ((accept_move h).keepsGroups hopened)
  | name hopened => exact .inl ((accept_move h).keepsGroups hopened)
  | named hopened hfront =>
      -- Only a name can be in progress where the front is that of a named group.
      obtain ⟨text, hpending⟩ : ∃ text, reader.pending = .opening (.groupName text) := by
        have hfront := hfront.1
        cases hpending : reader.pending with
        | opening opening =>
            rw [hpending] at hfront
            cases opening with
            | groupName text => exact ⟨text, rfl⟩
            | _ => simp [Pending.front, namedOpening] at hfront
        | _ =>
            rw [hpending] at hfront
            simp [Pending.front, namedOpening] at hfront
      simp only [accept, hpending] at h
      by_cases hpiece : piece = .plain '>'
      · subst hpiece
        exact .inr ⟨text, hpending, rfl, h⟩
      · have hlater : later = { reader with
            pending := .opening (.groupName (text ++ piece.text)) } := by
          unfold acceptOpening at h
          dsimp only at h
          split at h <;> simp_all
        rw [hlater] at hopened
        exact absurd hopened (Nat.succ_ne_self _).symm

/-- What goes on behind a parenthesis alone is a question mark. -/
theorem settle_paren {piece : Piece} (h : reader.settle (some piece) = .ok later)
    (hpending : later.pending = .opening .paren) : piece = .plain '?' := by
  have hgoes := settle_goesOn h
  rw [hpending] at hgoes
  exact Option.some.inj hgoes

/-- A step keeps the names there are. -/
theorem step_groupNames {piece : Piece} (hreader : reader.Registered)
    (h : reader.step piece = .ok later) :
    later.Registered ∧ reader.groupNames <+: later.groupNames := by
  obtain ⟨settled, hsettle, haccept⟩ := step_eq_ok.mp h
  have hsettled : settled.Registered ∧ reader.groupNames <+: settled.groupNames := by
    obtain ⟨_, hkeeps⟩ | ⟨_, _, hopen⟩ := settle_enlists hsettle
    · exact ⟨hkeeps.registered hreader, hkeeps.groupNames ▸ List.prefix_rfl⟩
    · obtain ⟨hregistered, hnames⟩ := openCapture_groupNames hreader hopen
      exact ⟨hregistered, hnames ▸ List.prefix_append _ _⟩
  obtain hkeeps | ⟨text, _, _, hname⟩ :=
    accept_enlists (settle_paren hsettle) haccept
  · exact ⟨hkeeps.registered hsettled.1, hkeeps.groupNames ▸ hsettled.2⟩
  · obtain ⟨hregistered, hnames⟩ := openCapture_groupNames hsettled.1 (nameGroup_eq hname).2
    exact ⟨hregistered, hsettled.2.trans (hnames ▸ List.prefix_append _ _)⟩

/-- Reading on keeps the names there are. -/
theorem run_groupNames {pieces : List Piece} (hreader : reader.Registered)
    (h : reader.run pieces = .ok later) :
    later.Registered ∧ reader.groupNames <+: later.groupNames := by
  induction pieces generalizing reader with
  | nil =>
      cases (run_nil reader).symm.trans h
      exact ⟨hreader, List.prefix_rfl⟩
  | cons piece rest ih =>
      obtain ⟨_, middle, hstep, hrest⟩ := run_cons.mp h
      obtain ⟨hmiddle, hfirst⟩ := step_groupNames hreader hstep
      obtain ⟨hlater, hsecond⟩ := ih hmiddle hrest
      exact ⟨hlater, hfirst.trans hsecond⟩

end ExprReader

end RoutePattern
