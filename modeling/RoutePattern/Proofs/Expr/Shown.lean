import RoutePattern.Path
import RoutePattern.Proofs.Expr.GroupNames

/-!
# Groups that a text shows

`captureNames` looks for the groups of an expression in its text and knows nothing of what the text
means. It agrees with a reader piece by piece: `Pending.begun` is what the reader has taken of
something that may still show a group, and with one more piece the scan sees the same as with what
the reader has begun then (`accept_begun`, `settle_begun`). Parentheses that mean no group are the
exception. `Pending.Exposes` says that there is none.
-/

namespace RoutePattern

open ExprReader

/-! ## Scanning a text -/

variable {c : Char} {rest text : List Char}

/-- A character that is neither a parenthesis nor a backslash shows no group. -/
theorem captureNames_cons (hparen : c ≠ '(') (hescape : c ≠ '\\') (rest : List Char) :
    captureNames false (c :: rest) = captureNames false rest := by
  simp [captureNames, hparen, hescape]

/-- A backslash hides the character behind it. -/
theorem captureNames_escaped (c : Char) (rest : List Char) :
    captureNames false ('\\' :: c :: rest) = captureNames false rest := by
  simp [captureNames]

/-- A text without parentheses and backslashes shows no group. -/
theorem captureNames_append (h : ∀ c ∈ text, c ≠ '(' ∧ c ≠ '\\') (rest : List Char) :
    captureNames false (text ++ rest) = captureNames false rest := by
  induction text with
  | nil => rfl
  | cons c text ih =>
      obtain ⟨hc, htext⟩ := List.forall_mem_cons.mp h
      rw [List.cons_append, captureNames_cons hc.1 hc.2, ih htext]

/-- A parenthesis without a question mark behind it shows an unnamed group. -/
theorem captureNames_unnamed (h : rest.head? ≠ some '?') :
    captureNames false ('(' :: rest) = none :: captureNames false rest := by
  have hcapture : captureAt rest = some none := by
    cases rest with
    | nil => rfl
    | cons next rest =>
        have hnext : next ≠ '?' := fun heq => h (congrArg some heq)
        unfold captureAt
        dsimp only
        split
        · next heq => exact absurd (List.cons.inj heq).1 hnext
        · exact if_neg (by simpa using hnext)
  simp [captureNames, hcapture]

/-- A parenthesis shows no group if the question mark behind it begins no name. -/
theorem captureNames_question (hparen : c ≠ '(') (hescape : c ≠ '\\') (hname : c ≠ 'P')
    (rest : List Char) :
    captureNames false ('(' :: '?' :: c :: rest) = captureNames false rest := by
  have hcapture : captureAt ('?' :: c :: rest) = none := by
    unfold captureAt
    split <;> simp_all
  rw [captureNames]
  simp only [hcapture]
  simp [captureNames, hparen, hescape]

/-- A reference to a named group shows no group. -/
theorem captureNames_reference (rest : List Char) :
    captureNames false ('(' :: '?' :: 'P' :: '=' :: rest) = captureNames false rest := by
  have hcapture : captureAt ('?' :: 'P' :: '=' :: rest) = none := by
    simp [captureAt]
  rw [captureNames]
  simp only [hcapture]
  simp [captureNames]

/-- A named group is shown, unless a question mark follows. -/
theorem captureNames_named (hname : text ≠ []) (hwords : ∀ c ∈ text, isGroupNameChar c = true)
    (hrest : rest.head? ≠ some '?') :
    captureNames false ('(' :: '?' :: 'P' :: '<' :: (text ++ '>' :: rest)) =
      some text :: captureNames false rest := by
  have hend : ∀ c ∈ '?' :: 'P' :: '<' :: (text ++ ['>']), c ≠ '(' ∧ c ≠ '\\' := by
    simp only [List.mem_cons, List.mem_append, List.not_mem_nil, or_false]
    rintro c (rfl | rfl | rfl | hc | rfl)
    · decide
    · decide
    · decide
    · have hword := hwords c hc
      refine ⟨?_, ?_⟩
      · rintro rfl
        exact absurd hword (by decide +kernel)
      · rintro rfl
        exact absurd hword (by decide +kernel)
    · decide
  have htake : (text ++ '>' :: rest).takeWhile isGroupNameChar = text := by
    rw [List.takeWhile_append_of_pos hwords,
      List.takeWhile_cons_of_neg (show ¬ isGroupNameChar '>' = true by decide +kernel),
      List.append_nil]
  have hname : groupNameAt (text ++ '>' :: rest) = some text := by
    simp [groupNameAt, htake, hname]
  have hcapture : captureAt ('?' :: 'P' :: '<' :: (text ++ '>' :: rest)) = some (some text) := by
    simp only [captureAt, hname]
    rw [if_neg (by simpa [List.drop_append] using hrest)]
  have hquiet := captureNames_append hend rest
  simp only [List.cons_append, List.append_assoc, List.nil_append] at hquiet
  rw [captureNames]
  simp [hcapture, hquiet]

/-! ## What a text shows in front of others -/

/-- Two texts show the same groups, whatever follows. -/
def ShowAlike (first second : List Char) : Prop :=
  ∀ rest, captureNames false (first ++ rest) = captureNames false (second ++ rest)

/-- A piece that is no opening parenthesis shows no group. -/
theorem showAlike_piece {piece : Piece} (hparen : piece ≠ .plain '(') (hescape : piece ≠ .plain '\\')
    (hlone : piece ≠ .lone) : ShowAlike piece.text [] := by
  intro rest
  cases piece with
  | plain c =>
      exact captureNames_cons (fun h => hparen (h ▸ rfl)) (fun h => hescape (h ▸ rfl)) rest
  | escaped c => exact captureNames_escaped c rest
  | lone => exact absurd rfl hlone

/-- An identifier has no parenthesis and no backslash. -/
theorem quiet_of_isIdentifier (h : isIdentifier text = true) : ∀ c ∈ text, c ≠ '(' ∧ c ≠ '\\' := by
  cases text with
  | nil => simp
  | cons first text =>
      simp only [isIdentifier, Bool.and_eq_true, List.all_eq_true] at h
      refine List.forall_mem_cons.mpr ⟨⟨?_, ?_⟩, fun c hc => ⟨?_, ?_⟩⟩
      · rintro rfl
        exact absurd h.1 (by decide +kernel)
      · rintro rfl
        exact absurd h.1 (by decide +kernel)
      · rintro rfl
        exact absurd (h.2 _ hc) (by decide +kernel)
      · rintro rfl
        exact absurd (h.2 _ hc) (by decide +kernel)

/-- The name of a character has no parenthesis and no backslash. -/
theorem quiet_of_codeOfName {n : Nat} (h : codeOfName? text = some n) :
    ∀ c ∈ text, c ≠ '(' ∧ c ≠ '\\' := by
  unfold codeOfName? at h
  split at h
  · next hparts =>
    intro c hc
    have hpart := List.all_eq_true.mp hparts c hc
    refine ⟨?_, ?_⟩
    · rintro rfl
      simp [isNamePart] at hpart
    · rintro rfl
      simp [isNamePart] at hpart
  · cases h

/-! ## What has been read of an opening -/

/-- What has been read of something that may yet show a group: the opening of a group, a reference to
one, or the name of a character. -/
def Pending.begun : Pending → List Char
  | .opening .paren => ['(']
  | .opening .question => ['(', '?']
  | .opening .extension => ['(', '?', 'P']
  | .opening (.groupName text) => '(' :: '?' :: 'P' :: '<' :: text
  | .opening (.groupReference text) => '(' :: '?' :: 'P' :: '=' :: text
  | .escape (.charName text true) => text
  | _ => []

namespace Pending

/-- A parenthesis that comes now stands in a set. -/
def inSet : Pending → Bool
  | .set _ => true
  | _ => false

/-- A parenthesis that comes now stands in a comment in parentheses. -/
def inComment : Pending → Bool
  | .opening .comment => true
  | _ => false

/-- A parenthesis that comes now stands in a remark between the parts of a verbose expression. -/
def inRemark : Pending → Bool
  | .remark => true
  | _ => false

/-- A parenthesis that comes now stands in front of a condition or in it. -/
def inCondition : Pending → Bool
  | .opening .question | .opening (.condition _) => true
  | _ => false

/-- A parenthesis that comes now is read as the opening of a group. -/
def Exposes (pending : Pending) : Prop :=
  pending.inSet = false ∧ pending.inComment = false ∧ pending.inRemark = false ∧
    pending.inCondition = false

instance (pending : Pending) : Decidable pending.Exposes :=
  inferInstanceAs (Decidable (_ ∧ _))

end Pending

namespace ExprReader

variable {reader later : ExprReader}

/-- An opening parenthesis that means a group goes on with what has been read. -/
theorem accept_opening (hgoes : reader.pending.GoesOn (some (.plain '(')))
    (hexposes : reader.pending.Exposes) (h : reader.accept (.plain '(') = .ok later) :
    later.pending.begun = reader.pending.begun ++ ['('] := by
  obtain ⟨hset, hcomment, hremark, hcondition⟩ := hexposes
  cases hpending : reader.pending with
  | nothing =>
      have hblank : CharClass.blank.holds true '('.toNat = false := by decide
      simp only [accept, hpending, acceptPlain, hblank] at h
      simp at h
      rw [← h]
      rfl
  | repetition =>
      rw [hpending] at hgoes
      simp [Pending.GoesOn] at hgoes
  | bounds least comma most =>
      rw [hpending] at hgoes
      simp [Pending.GoesOn, boundsGoOn, Char.isDigit] at hgoes
  | escape unit =>
      rw [hpending] at hgoes
      cases unit with
      | charName text opened =>
          cases opened with
          | false => cases hgoes
          | true =>
              simp only [accept, hpending] at h
              cases h
              rfl
      | _ => simp [Pending.GoesOn, escapeGoesOn, Escape.extend, isHexDigit, isOctalDigit,
          Char.isDigit] at hgoes
  | set sub =>
      rw [hpending] at hset
      cases hset
  | remark =>
      rw [hpending] at hremark
      cases hremark
  | opening opening =>
      simp only [accept, hpending] at h
      cases opening with
      | paren =>
          rw [hpending] at hgoes
          simp [Pending.GoesOn] at hgoes
      | question | condition =>
          rw [hpending] at hcondition
          cases hcondition
      | comment =>
          rw [hpending] at hcomment
          cases hcomment
      | groupName text | groupReference text =>
          cases h
          rfl
      | extension | behind => cases h
      | flagsOn on => simp [acceptOpening, flagLetters] at h
      | flagsOff on off => simp [acceptOpening, flagLetters] at h

/-! ## Other pieces -/

/-- What has been read of an escape that means something. -/
theorem takeEscape_begun {c : Char} {meaning : EscapeMeaning}
    (hmeaning : ∀ unit, meaning = .pending unit → (Pending.escape unit).begun = [])
    (h : reader.takeEscape c meaning = .ok later) : later.pending.begun = [] := by
  cases meaning with
  | pending unit =>
      cases h
      exact hmeaning unit rfl
  | code | cls | anchor =>
      cases h
      rfl
  | bad => cases h

/-- No escape begins inside the name of a character. -/
theorem begin_begun {c : Char} {unit : Escape} (h : Escape.begin c = .pending unit) :
    (Pending.escape unit).begun = [] := by
  unfold Escape.begin at h
  split at h
  · cases h
  · cases h
  · cases h
  split at h
  · cases h
    rfl
  split at h
  · cases h
    rfl
  unfold Escape.other at h
  split at h
  · cases h
    rfl
  · cases h
    rfl
  · cases h
    rfl
  · cases h
    rfl
  · split at h <;> cases h

/-- An escape goes on inside the name of a character only behind its opening brace. -/
theorem extend_begun {unit next : Escape} {piece : Piece}
    (hunit : ∀ text, unit ≠ .charName text true)
    (h : unit.extend piece = some (.ok (.pending next))) : (Pending.escape next).begun = [] := by
  unfold Escape.extend at h
  split at h
  · split at h
    · split at h
      · cases hcode : Escape.hexCode _ <;> rw [hcode] at h <;> cases h
      · cases h
        rfl
    · cases h
  · split at h
    · split at h
      · cases hcode : Escape.octalCode _ <;> rw [hcode] at h <;> cases h
      · cases h
        rfl
    · cases h
  · split at h
    · cases h
      rfl
    split at h
    · cases hcode : Escape.octalCode _ <;> rw [hcode] at h <;> cases h
    · cases h
  · exact absurd rfl (hunit _)
  · exact absurd rfl (hunit _)
  · cases h
    rfl
  · cases h

/-- A piece of the name of a character goes on with it, and its end shows that there was no
parenthesis in it. -/
theorem accept_charName {text : List Char} {piece : Piece}
    (hpending : reader.pending = .escape (.charName text true))
    (h : reader.accept piece = .ok later) :
    ShowAlike (text ++ piece.text) later.pending.begun := by
  simp only [accept, hpending] at h
  by_cases hclose : piece = .plain '\x7d'
  · subst hclose
    simp only [Escape.extend] at h
    cases hempty : text.isEmpty with
    | true => simp [hempty, bind, Except.bind] at h
    | false =>
        cases hcode : codeOfName? text with
        | none => simp [hempty, hcode, bind, Except.bind] at h
        | some n =>
            simp only [hempty, hcode, Bool.false_eq_true, ↓reduceIte, bind, Except.bind] at h
            cases h
            intro rest
            rw [List.append_assoc, captureNames_append (quiet_of_codeOfName hcode)]
            exact captureNames_cons (by decide) (by decide) rest
  · have hextend : (Escape.charName text true).extend piece =
        some (.ok (.pending (.charName (text ++ piece.text) true))) := by
      cases piece with
      | plain c =>
          unfold Escape.extend
          split <;> simp_all
      | _ => rfl
    rw [hextend] at h
    cases h
    exact fun _ => rfl

/-- A flag that is turned on leaves nothing to see. -/
theorem turnOn_begun {on : List Char} {letter : Char} (h : reader.turnOn on letter = .ok later) :
    later.pending.begun = [] := by
  unfold turnOn at h
  split at h
  · cases h
  split at h
  · cases h
  · cases h
    rfl

/-- Flags for the whole expression leave nothing to see. -/
theorem setFlags_begun {on : List Char} (h : reader.setFlags on = .ok later) :
    later.pending.begun = [] := by
  unfold setFlags at h
  split at h <;> cases h
  rfl

/-- A group with flags of its own leaves nothing to see. -/
theorem openScoped_begun {on off : List Char} (h : reader.openScoped on off = .ok later) :
    later.pending.begun = [] := by
  unfold openScoped at h
  split at h
  · cases h
  split at h
  · cases h
  · cases h
    rfl

/-- Behind the question mark of an opening only a capital P may lead to a name. -/
theorem acceptQuestion_begun {piece : Piece} (hparen : piece ≠ .plain '(')
    (hescape : piece ≠ .plain '\\') (h : reader.acceptQuestion piece = .ok later) :
    ShowAlike ('(' :: '?' :: piece.text) later.pending.begun := by
  have hother {c : Char} (hpiece : piece = .plain c) (hname : c ≠ 'P')
      (hlater : later.pending.begun = []) :
      ShowAlike ('(' :: '?' :: piece.text) later.pending.begun := by
    subst hpiece
    rw [hlater]
    exact captureNames_question (fun heq => hparen (heq ▸ rfl)) (fun heq => hescape (heq ▸ rfl)) hname
  unfold acceptQuestion at h
  dsimp only at h
  split at h
  · cases h
    exact fun _ => rfl
  · cases h
    exact hother rfl (by decide) rfl
  · cases h
    exact hother rfl (by decide) rfl
  · cases h
    exact hother rfl (by decide) rfl
  · cases h
    exact hother rfl (by decide) rfl
  · cases h
    exact hother rfl (by decide) rfl
  · cases h
    exact hother rfl (by decide) rfl
  · cases h
    exact hother rfl (by decide) rfl
  · cases h
    exact hother rfl (by decide) rfl
  · next hname _ _ _ _ _ _ _ _ =>
    split at h
    · exact hother rfl (fun heq => hname (heq ▸ rfl)) (turnOn_begun h)
    · cases h
  · cases h

/-- A reference by name shows no group. -/
theorem referName_begun {text : List Char} (h : reader.referName text = .ok later) :
    ShowAlike ('(' :: '?' :: 'P' :: '=' :: (text ++ [')'])) later.pending.begun := by
  have hname : isIdentifier text = true := by
    unfold referName at h
    dsimp only at h
    split at h
    · cases h
    split at h
    · cases h
    · next hidentifier => simpa using hidentifier
  have hlater : later.pending.begun = [] :=
    congrArg (·.pending.begun) (referName_outline h)
  intro rest
  rw [hlater, List.cons_append, List.cons_append, List.cons_append, List.cons_append,
    captureNames_reference, List.append_assoc, captureNames_append (quiet_of_isIdentifier hname)]
  exact captureNames_cons (by decide) (by decide) rest

/-- A piece of an opening that does not end the name of a new group. -/
theorem acceptOpening_begun {opening : Opening} {piece : Piece}
    (hpending : reader.pending = .opening opening) (hparen : piece ≠ .plain '(')
    (hescape : piece ≠ .plain '\\') (hlone : piece ≠ .lone)
    (hgoes : (Pending.opening opening).GoesOn (some piece))
    (hname : ∀ text, opening = .groupName text → piece ≠ .plain '>')
    (h : reader.acceptOpening opening piece = .ok later) :
    ShowAlike ((Pending.opening opening).begun ++ piece.text) later.pending.begun := by
  have hover (hbegun : (Pending.opening opening).begun = []) (hlater : later.pending.begun = []) :
      ShowAlike ((Pending.opening opening).begun ++ piece.text) later.pending.begun := by
    rw [hbegun, hlater]
    exact showAlike_piece hparen hescape hlone
  unfold acceptOpening at h
  dsimp only at h
  split at h
  · cases h
    cases hgoes
    exact fun _ => rfl
  · exact acceptQuestion_begun hparen hescape h
  · cases h
    exact fun _ => rfl
  · cases h
    exact fun _ => rfl
  · cases h
  · exact absurd rfl (hname _ rfl)
  · cases h
    exact fun _ => rfl
  · exact referName_begun h
  · cases h
    exact fun _ => rfl
  · cases h
    exact hover rfl rfl
  · cases h
    exact hover rfl rfl
  · cases h
  · exact hover rfl (congrArg (·.pending.begun) (openCondition_outline h))
  · cases h
    exact hover rfl rfl
  · cases h
    exact hover rfl rfl
  · cases h
    exact hover rfl (by rw [hpending]; rfl)
  · exact hover rfl (setFlags_begun h)
  · split at h
    · cases h
    · exact hover rfl (openScoped_begun h)
  · split at h
    · cases h
    · cases h
      exact hover rfl rfl
  · split at h
    · exact hover rfl (turnOn_begun h)
    · cases h
  · cases h
  · split at h
    · exact hover rfl (openScoped_begun h)
    split at h
    · cases h
    split at h
    · cases h
    · cases h
      exact hover rfl rfl
  · cases h

/-- A character that nothing pending takes, but for an opening parenthesis. -/
theorem acceptPlain_begun {c : Char} (hparen : c ≠ '(') (hpending : reader.pending = .nothing)
    (h : reader.acceptPlain c = .ok later) : later.pending.begun = [] := by
  have hbegun : reader.pending.begun = [] := by
    rw [hpending]
    rfl
  unfold acceptPlain at h
  dsimp only at h
  split at h
  · cases h
    exact hbegun
  split at h
  · cases h
    rfl
  split at h
  · cases h
    rfl
  · cases h
    rfl
  · cases h
    rfl
  · cases h
    rfl
  · exact absurd rfl hparen
  · exact congrArg (·.pending.begun) (repeatLast_outline h)
  · exact congrArg (·.pending.begun) (repeatLast_outline h)
  · exact congrArg (·.pending.begun) (repeatLast_outline h)
  · cases h
    rfl
  · exact (congrArg (·.pending.begun) (nextBranch_outline h)).trans hbegun
  · split at h
    · cases h
      exact congrArg (·.pending.begun) (close_outline _ _)
    · cases h
  · cases h
    rfl

/-- A piece that neither opens a group nor ends the name of one. -/
theorem accept_begun {piece : Piece} (hparen : piece ≠ .plain '(') (hescape : piece ≠ .plain '\\')
    (hlone : piece ≠ .lone) (hgoes : reader.pending.GoesOn (some piece))
    (hname : ∀ text, reader.pending = .opening (.groupName text) → piece ≠ .plain '>')
    (h : reader.accept piece = .ok later) :
    ShowAlike (reader.pending.begun ++ piece.text) later.pending.begun := by
  have hover (hbegun : reader.pending.begun = []) (hlater : later.pending.begun = []) :
      ShowAlike (reader.pending.begun ++ piece.text) later.pending.begun := by
    rw [hbegun, hlater]
    exact showAlike_piece hparen hescape hlone
  by_cases hunit : ∃ text, reader.pending = .escape (.charName text true)
  · obtain ⟨text, hpending⟩ := hunit
    rw [hpending]
    exact accept_charName hpending h
  unfold accept at h
  split at h
  · next hpending =>
    exact hover (by rw [hpending]; rfl)
      (acceptPlain_begun (fun heq => hparen (heq ▸ rfl)) hpending h)
  · next hpending =>
    exact hover (by rw [hpending]; rfl) (takeEscape_begun (fun _ => begin_begun) h)
  · next hpending =>
    cases h
    exact hover (by rw [hpending]; rfl) (congrArg (·.pending.begun) (setGreed_outline _ _))
  · next hpending _ =>
    cases h
    exact hover (by rw [hpending]; rfl) (congrArg (·.pending.begun) (setGreed_outline _ _))
  · next hpending =>
    refine hover (by rw [hpending]; rfl) ?_
    split at h
    · exact congrArg (·.pending.begun) (repeatBounds_outline h)
    split at h
    · cases h
      rfl
    split at h
    · cases h
      rfl
    · cases h
      rfl
  · next unit hpending =>
    have hplain : (Pending.escape unit).begun = [] := by
      unfold Pending.begun
      split
      all_goals simp_all
    refine hover (by rw [hpending]; exact hplain) ?_
    split at h
    · next meaning hextend =>
      obtain ⟨value, hvalue, h⟩ := bind_eq_ok.mp h
      refine takeEscape_begun (fun next hnext => ?_) h
      rw [hvalue, hnext] at hextend
      exact extend_begun (fun text heq => hunit ⟨text, heq ▸ hpending⟩) hextend
    · cases h
      rw [hpending]
      exact hplain
  · next hpending =>
    refine hover (by rw [hpending]; rfl) ?_
    obtain ⟨outcome, _, h⟩ := bind_eq_ok.mp h
    cases outcome with
    | inl sub =>
        cases h
        rfl
    | inr test =>
        cases h
        rfl
  · next hpending =>
    rw [hpending] at hgoes hname ⊢
    exact acceptOpening_begun hpending hparen hescape hlone hgoes
      (fun text heq => hname text (congrArg _ heq)) h
  · next hpending =>
    refine hover (by rw [hpending]; rfl) ?_
    split at h
    · cases h
      rfl
    · cases h
      rw [hpending]
      rfl
  · next _ hescapes _ hopenings _ _ _ _ _ =>
    cases h
    have hbegun : reader.pending.begun = [] := by
      cases hpending : reader.pending with
      | escape unit => exact (hescapes unit hpending).elim
      | opening opening => exact (hopenings opening hpending).elim
      | _ => rfl
    exact hover hbegun hbegun

/-- Settling a reader leaves what it has read of an opening, unless that is an unnamed group. -/
theorem settle_begun {next : Option Piece}
    (hparen : reader.pending = .opening .paren → next = some (.plain '?'))
    (h : reader.settle next = .ok later) : later.pending.begun = reader.pending.begun := by
  obtain ⟨rfl, _⟩ | ⟨_, _, hpending, hlater⟩ | ⟨hlater, hends⟩ := settle_pending h
  · rfl
  · rw [hpending, hlater]
    rfl
  · cases hpending : reader.pending with
    | opening opening =>
        rw [hpending] at hends
        cases opening with
        | paren =>
            rw [settle, hpending] at h
            dsimp only at h
            rw [if_pos (hparen hpending)] at h
            cases h
            rw [hpending]
        | _ => exact hends.elim
    | escape unit =>
        rw [hpending] at hends
        obtain ⟨value, hvalue⟩ := hends
        rw [hlater]
        -- The name of a character cannot end without its closing brace.
        cases unit with
        | charName text opened =>
            cases opened with
            | false => rfl
            | true =>
                simp only [Escape.complete] at hvalue
                split at hvalue <;> cases hvalue
        | _ => rfl
    | nothing | set | remark =>
        rw [hpending] at hends
        exact hends.elim
    | repetition | bounds =>
        rw [hlater]
        rfl

/-- Settling a reader does not hide a parenthesis. -/
theorem settle_exposes {next : Option Piece} (hexposes : reader.pending.Exposes)
    (h : reader.settle next = .ok later) : later.pending.Exposes := by
  obtain ⟨rfl, _⟩ | ⟨_, _, hpending, _⟩ | ⟨hlater, _⟩ := settle_pending h
  · exact hexposes
  · rw [hpending] at hexposes
    exact absurd hexposes.1 (by simp [Pending.inSet])
  · rw [hlater]
    decide

end ExprReader

end RoutePattern
