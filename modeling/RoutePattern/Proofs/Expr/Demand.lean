import RoutePattern.Proofs.Expr.Stretch

/-!
# What reading on takes for granted

A text that has been read tells something about its stretches. `Demands` says what holds if a stretch
has been read, whatever follows it, and `Fills` what holds if that has happened at the beginning of
a group. `Demands.append` puts demands in a row, and `Embeddable.fills` is the demand of an
expression that stands in a group: it sets no flags for the whole.
-/

namespace RoutePattern

open ExprReader

/-- A claim holds whenever a reader at rest has read a text with anything behind it. -/
def Demands (flags : Flags) (text : List Char) (claim : Prop) : Prop :=
  ∀ (reader last : ExprReader) (rest : List Char), reader.Rested → reader.frame.flags = flags →
    reader.run (Piece.ofText (text ++ rest)) = .ok last → claim

/-- A claim holds whenever a text with anything behind it has been read at the beginning of a
group. -/
def Fills (flags : Flags) (text : List Char) (claim : Prop) : Prop :=
  ∀ (reader last : ExprReader) (kind : GroupKind) (rest : List Char), reader.pending = .nothing →
    reader.frame = { kind, flags } → kind.isSimple = true → reader.outer ≠ [] →
    reader.run (Piece.ofText (text ++ rest)) = .ok last → claim

variable {flags : Flags} {text : List Char} {claim : Prop}

namespace Demands

/-- What a text demands is demanded by the text with more behind it. -/
theorem more (h : Demands flags text claim) (rest : List Char) :
    Demands flags (text ++ rest) claim := by
  intro reader last rest' hrested hflags hrun
  rw [List.append_assoc] at hrun
  exact h reader last (rest ++ rest') hrested hflags hrun

/-- What is always true is demanded. -/
theorem of_true (h : claim) : Demands flags text claim :=
  fun _ _ _ _ _ _ => h

/-- Two texts in a row demand what each of them does, if the first one is then a stretch. -/
theorem append {first second : List Char} {other : Prop} {count : Nat}
    {items : Nat → List Expr} (hfirst : Demands flags first claim)
    (hstretch : claim → Stretch flags first count items) (hsecond : Demands flags second other) :
    Demands flags (first ++ second) (claim ∧ other) := by
  intro reader last rest hrested hflags hrun
  rw [List.append_assoc] at hrun
  have hclaim := hfirst reader last (second ++ rest) hrested hflags hrun
  obtain ⟨terms, hterms, _⟩ := hstretch hclaim
  obtain ⟨middle, hmiddle, hextends⟩ := hterms.reads reader hrested hflags
  rw [Piece.ofText_append hterms.whole, run_append] at hrun
  obtain ⟨middle', hmiddle', hrest⟩ := hrun
  cases hmiddle.symm.trans hmiddle'
  exact ⟨hclaim, hsecond middle last rest hextends.rested (hextends.frame_flags.trans hflags)
    hrest⟩

/-- What comes behind a stretch is demanded. -/
theorem after {first second : List Char} {count : Nat} {items : Nat → List Expr}
    (hstretch : Stretch flags first count items) (h : Demands flags second claim) :
    Demands flags (first ++ second) claim := by
  intro reader last rest hrested hflags hrun
  exact ((of_true trivial).append (fun _ => hstretch) h reader last rest hrested hflags hrun).2

/-- What is demanded anywhere is demanded at the beginning of a group. -/
theorem fills (h : Demands flags text claim) : Fills flags text claim := by
  intro reader last kind rest hpending hframe _ _ hrun
  exact h reader last rest (.inl hpending) (by rw [hframe]) hrun

/-- A second alternative demands what its text does. -/
theorem bar (hverbose : flags.verbose = false) (h : Demands flags text claim) :
    Demands flags ('|' :: text) claim := by
  intro reader last rest hrested hflags hrun
  rw [List.cons_append, Piece.ofText_plain (by decide)] at hrun
  obtain ⟨_, later, hstep, hrest⟩ := run_cons.mp hrun
  have hquiet : reader.rested.frame.flags.verbose = false := by
    rw [show reader.rested.frame = reader.frame from rfl, hflags, hverbose]
  rw [step_plain hrested rfl, acceptPlain_bar hquiet] at hstep
  simp only [nextBranch, rested] at hstep
  split at hstep
  · simp at hstep
  · cases hstep
    refine h _ last rest (.inl ?_) ?_ hrest
    · rfl
    · exact hflags

/-- A set demands that its characters can be read. -/
theorem set (hverbose : flags.verbose = false) (negated : Bool) {chars : List Char}
    (hchars : chars ≠ []) : Demands flags (setText negated chars)
      (∃ test, readSet flags.fold negated chars = .ok test) := by
  intro reader last rest hrested hflags hrun
  rw [Piece.ofText_append (whole_setText negated chars), run_append] at hrun
  obtain ⟨middle, hset, _⟩ := hrun
  obtain ⟨test, htest, _⟩ := (run_set hrested (by rw [hflags, hverbose]) hchars).mp hset
  exact ⟨test, by rw [← hflags, htest]⟩

end Demands

namespace Fills

/-- A group that begins with a question mark demands what fills it. -/
theorem question (hverbose : flags.verbose = false) (h : Fills flags text claim) {c : Char}
    {kind : GroupKind} (hkind : (c, kind) = (':', .bare) ∨ (c, kind) = ('=', .ahead true)) :
    Demands flags ('(' :: '?' :: c :: text) claim := by
  intro reader last rest hrested hflags hrun
  have hc : c ≠ '\\' := by rcases hkind with h | h <;> cases h <;> decide
  have hsimple : kind.isSimple = true := by rcases hkind with h | h <;> cases h <;> rfl
  have hopen := run_open_question hrested (by rw [hflags, hverbose]) hkind
  have hpieces : Piece.ofText ('(' :: '?' :: c :: text ++ rest) =
      [.plain '(', .plain '?', .plain c] ++ Piece.ofText (text ++ rest) := by
    simp only [List.cons_append]
    rw [Piece.ofText_plain (by decide), Piece.ofText_plain (by decide), Piece.ofText_plain hc]
    rfl
  rw [hpieces, run_append] at hrun
  obtain ⟨middle, hmiddle, hrest⟩ := hrun
  cases hopen.symm.trans hmiddle
  exact h _ last kind rest rfl (by rw [hflags]; rfl) hsimple (by simp [openGroup]) hrest

/-- A group that captures nothing demands what fills it. -/
theorem bare (hverbose : flags.verbose = false) (h : Fills flags text claim) :
    Demands flags ("(?:".toList ++ text) claim :=
  h.question hverbose (.inl rfl)

/-- A look-ahead demands what fills it. -/
theorem ahead (hverbose : flags.verbose = false) (h : Fills flags text claim) :
    Demands flags ("(?=".toList ++ text) claim :=
  h.question hverbose (.inr rfl)

/-- A capture group demands what fills it. -/
theorem capture (hverbose : flags.verbose = false) (h : Fills flags text claim)
    (hempty : text ≠ []) (hhead : text.head? ≠ some '?') : Demands flags ('(' :: text) claim := by
  intro reader last rest hrested hflags hrun
  rw [List.cons_append, Piece.ofText_plain (by decide)] at hrun
  obtain ⟨_, later, hstep, hrest⟩ := run_cons.mp hrun
  cases (step_open hrested (by rw [hflags, hverbose])).symm.trans hstep
  have hpieces : Piece.ofText (text ++ rest) ≠ [] ∧
      (Piece.ofText (text ++ rest)).head? ≠ some (.plain '?') := by
    cases text with
    | nil => exact absurd rfl hempty
    | cons c text =>
        rw [List.cons_append]
        by_cases hc : c = '\\'
        · subst hc
          cases text ++ rest with
          | nil => simp [Piece.ofText]
          | cons d more => simp [Piece.ofText_escaped]
        · rw [Piece.ofText_plain hc]
          simpa using hhead
  rw [run_capture hpieces.1 hpieces.2] at hrest
  exact h _ last (.capture (reader.opened + 1)) rest rfl (by rw [← hflags]; rfl) rfl
    (by simp [openGroup]) hrest

end Fills

/-- An expression that can be read alone and stands in a group may stand there. -/
theorem Embeddable.fills {source : String} {expression : Expression}
    (hread : Expression.read source flags = .ok expression) (hgroups : expression.groups = 0) :
    Fills flags source.toList (Embeddable flags source) := by
  intro reader last kind rest hpending hframe hkind houter hrun
  obtain ⟨_, _, hreading, _⟩ := read_done hread hgroups
  rw [Piece.ofText_append (whole_of_run hreading)] at hrun
  exact .of_run_inside hread hgroups (by rw [hframe]; exact hkind) hpending hframe houter hrun

end RoutePattern
