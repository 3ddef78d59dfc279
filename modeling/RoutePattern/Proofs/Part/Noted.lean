import RoutePattern.Proofs.Part.Settling
import RoutePattern.Proofs.Text.Numeral

/-!
# The group that an error names

An error inside of a group tells where the group has been opened. A reader keeps the groups that are
open, and it keeps them also where a reading fails inside of one. `reads_notes` is the main result:
what an error tells is the innermost brace that its own reading has left open, and where there is
none, the one that the latest failure before it has left open.
-/

namespace RoutePattern

/-! ## The note of an error -/

/-- The note that a group has been opened at an offset. -/
def groupNote (opened : Int) : String :=
  "(group opened at " ++ toString opened ++ ")"

/-- The message of an error has the note in it that a group has been opened at an offset. -/
def GrammarError.Notes (error : GrammarError) (opened : Int) : Prop :=
  (groupNote opened).toList <:+: error.message.toList

/-- A note is an opening parenthesis, and there is no other one in it. -/
theorem groupNote_toList (opened : Int) :
    (groupNote opened).toList
      = '(' :: ("group opened at ".toList ++ (opened.repr.toList ++ [')'])) := by
  unfold groupNote
  simp

/-- What a message says in front of its note. -/
def GrammarError.summary (error : GrammarError) : String :=
  "unexpected " ++ error.actual.label ++ " at " ++ toString error.index ++ ", expected "
    ++ error.expected.label

/-- In front of its note a message has no parentheses. -/
theorem GrammarError.not_mem_summary (error : GrammarError) : '(' ∉ error.summary.toList := by
  have hlabel (kind : Kind) : '(' ∉ kind.label.toList := by cases kind <;> decide
  have hindex : '(' ∉ error.index.repr.toList := not_mem_numeral (by decide) (by decide) _
  unfold summary
  simp only [String.toList_append, List.mem_append, not_or, Int.toString_eq_repr]
  exact ⟨⟨⟨⟨⟨by decide, hlabel _⟩, by decide⟩, hindex⟩, by decide⟩, hlabel _⟩

/-- A message without a note. -/
theorem GrammarError.message_of_none {error : GrammarError} (h : error.group = none) :
    error.message = error.summary := by
  unfold message summary
  rw [h]
  exact String.append_empty

/-- A message with a note. -/
theorem GrammarError.message_of_some {error : GrammarError} {opened : Int}
    (h : error.group = some opened) :
    error.message = error.summary ++ " " ++ groupNote opened := by
  have hmark : " (group opened at " = " " ++ "(group opened at " := rfl
  unfold message summary groupNote
  rw [h]
  simp only [hmark, String.append_assoc]

/-- A message notes one group, if any. -/
theorem GrammarError.notes_iff {error : GrammarError} {opened : Int} :
    error.Notes opened ↔ error.group = some opened := by
  have hsummary := error.not_mem_summary
  constructor
  · rintro ⟨before, back, hnote⟩
    rw [groupNote_toList] at hnote
    cases hgroup : error.group with
    | none =>
        rw [message_of_none hgroup] at hnote
        exact absurd (hnote ▸ by simp) hsummary
    | some other =>
        rw [message_of_some hgroup, String.toList_append, String.toList_append, groupNote_toList]
          at hnote
        have hfront : '(' ∉ error.summary.toList ++ " ".toList := by simpa using hsummary
        have hnumber : '(' ∉ other.repr.toList := not_mem_numeral (by decide) (by decide) _
        have htail : '(' ∉ "group opened at ".toList ++ (other.repr.toList ++ [')']) := by
          simp [hnumber]
        -- Both notes begin at the only parenthesis of the message, so they begin at one place.
        have hsplit : before ++ '(' :: ("group opened at ".toList
            ++ (opened.repr.toList ++ ')' :: back))
              = error.summary.toList ++ " ".toList ++ '(' :: ("group opened at ".toList
                ++ (other.repr.toList ++ [')'])) := by
          rw [← hnote]
          simp
        have htails := ((List.append_cons_inj_of_notMem hfront htail).mp hsplit.symm).2.2
        rw [numeral_inj (by decide) (by decide) (List.append_cancel_left htails)]
  · intro hgroup
    refine ⟨(error.summary ++ " ").toList, [], ?_⟩
    simp only [message_of_some hgroup, List.append_nil, String.toList_append]

/-! ## Braces that are left open -/

/-- Whether a lexeme of a kind is a brace. -/
def Kind.isBrace : Kind → Bool
  | opening | closing => true
  | _ => false

/-- The offsets of the braces that are open behind a lexeme, innermost first, where those in
`opened` are open in front of it. -/
def Lexeme.braces (opened : List Int) (lexeme : Lexeme) : List Int :=
  match lexeme.kind with
  | .opening => lexeme.index :: opened
  | .closing => opened.tail
  | _ => opened

/-- The offsets of the braces that some lexemes leave open, innermost first. -/
def openBraces (lexemes : List Lexeme) : List Int :=
  lexemes.foldl Lexeme.braces []

/-- The lexemes in front of `rest` leave the braces `left` open, and close none that they have not
opened. -/
def Leaves (lexemes rest : List Lexeme) (left : List Int) : Prop :=
  ∃ taken, lexemes = taken ++ rest ∧ ∀ opened, taken.foldl Lexeme.braces opened = left ++ opened

section Leaves

variable {lexemes middle rest : List Lexeme} {lexeme : Lexeme} {left others : List Int}

theorem Leaves.refl (lexemes : List Lexeme) : Leaves lexemes lexemes [] :=
  ⟨[], rfl, fun _ => rfl⟩

theorem Leaves.trans (h : Leaves lexemes middle left) (hrest : Leaves middle rest others) :
    Leaves lexemes rest (others ++ left) := by
  obtain ⟨front, rfl, hfront⟩ := h
  obtain ⟨back, rfl, hback⟩ := hrest
  refine ⟨front ++ back, (List.append_assoc _ _ _).symm, fun opened => ?_⟩
  rw [List.foldl_append, hfront, hback, List.append_assoc]

/-- A lexeme that is no brace leaves none open. -/
theorem Leaves.plain (hkind : lexeme.kind.isBrace = false) : Leaves (lexeme :: rest) rest [] := by
  refine ⟨[lexeme], rfl, fun opened => ?_⟩
  cases h : lexeme.kind <;> simp [h, Kind.isBrace] at hkind <;> simp [Lexeme.braces, h]

/-- An opening brace is left open. -/
theorem Leaves.opening (hkind : lexeme.kind = .opening) :
    Leaves (lexeme :: rest) rest [lexeme.index] :=
  ⟨[lexeme], rfl, fun opened => by simp [Lexeme.braces, hkind]⟩

/-- A closing brace closes the one that has been left open. -/
theorem Leaves.close {opened : Int} (h : Leaves lexemes (lexeme :: rest) [opened])
    (hkind : lexeme.kind = .closing) : Leaves lexemes rest [] := by
  obtain ⟨taken, rfl, htaken⟩ := h
  refine ⟨taken ++ [lexeme], by simp, fun outer => ?_⟩
  rw [List.foldl_append, htaken]
  simp [Lexeme.braces, hkind]

theorem Taken.leaves {kind : Kind} {value : Option String} (h : Taken kind lexemes value rest)
    (hkind : kind.isBrace = false) : Leaves lexemes rest [] := by
  cases h with
  | absent _ => exact .refl _
  | present h => exact .plain (h ▸ hkind)

theorem TextTaken.leaves {text : String} (h : TextTaken lexemes text rest) :
    Leaves lexemes rest [] := by
  induction h with
  | nil => exact .refl _
  | @cons lexeme _ _ _ h _ ih =>
      have hkind : lexeme.kind.isBrace = false := by obtain h | h := h <;> rw [h] <;> rfl
      exact (Leaves.plain hkind).trans ih

end Leaves

namespace PartReader

variable {context : ReadContext} {reader later : PartReader}

/-! ## One reading -/

/-- A reader has moved on, by lexemes that leave the braces `left` open, and keeps these among its
open groups. -/
structure Moved (reader later : PartReader) (left : List Int) : Prop where
  leaves : Leaves reader.rest later.rest left
  groups : later.openGroups = left ++ reader.openGroups

theorem Moved.trans {final : PartReader} {left others : List Int} (h : Moved reader later left)
    (hrest : Moved later final others) : Moved reader final (others ++ left) :=
  ⟨h.leaves.trans hrest.leaves, by rw [hrest.groups, h.groups, List.append_assoc]⟩

/-- How far a reader moves for its answer: it leaves one brace open if it fails inside of a group,
where the group had to be closed, and none if it succeeds or fails outside. -/
inductive Moves {α : Type} (context : ReadContext) (reader : PartReader) :
    Except GrammarError α → PartReader → List Int → Prop where
  | done {value : α} {later : PartReader} (h : Moved reader later []) :
      Moves context reader (.ok value) later []
  | inside {opened : Int} {later : PartReader} (h : Moved reader later [opened]) :
      Moves context reader (.error (later.unexpected context .closing)) later [opened]
  | outside {later : PartReader} (h : Moved reader later []) :
      Moves context reader (.error (later.unexpected context .ending)) later []

/-- How a failure moves does not depend on what should have been read. -/
theorem Moves.failed {α β : Type} {error : GrammarError} {left : List Int}
    (h : Moves context reader (.error error : Except GrammarError α) later left) :
    Moves context reader (.error error : Except GrammarError β) later left := by
  cases h with
  | inside h => exact .inside h
  | outside h => exact .outside h

/-- What is read behind lexemes that leave no brace open moves as if it was read with them. -/
theorem Moves.behind {α β : Type} {answer : Except GrammarError α} {final : PartReader}
    {left : List Int} (h : Moves context later answer final left) (hmoved : Moved reader later [])
    (f : α → β) : Moves context reader (answer.map f) final left := by
  have hfinal {left : List Int} (hrest : Moved later final left) : Moved reader final left := by
    simpa using hmoved.trans hrest
  cases h with
  | done h => exact .done (hfinal h)
  | inside h => exact .inside (hfinal h)
  | outside h => exact .outside (hfinal h)

/-- A failure is at the lexeme behind those that have been taken, and a brace is left open just if
one had to be closed. -/
theorem Moves.unexpected {α : Type} {error : GrammarError} {left : List Int}
    (h : Moves context reader (.error error : Except GrammarError α) later left) :
    error = later.unexpected context error.expected ∧
      (error.expected = .closing ↔ left.head? ≠ none) := by
  cases h with
  | inside _ => exact ⟨rfl, by simp [PartReader.unexpected]⟩
  | outside _ => exact ⟨rfl, by simp [PartReader.unexpected]⟩

/-- A group leaves its brace open if it fails. -/
theorem GroupRead.moves {opening : Lexeme} {rest : List Lexeme} {answer : Except GrammarError Key}
    (h : GroupRead context { reader with rest } opening.index answer later)
    (hread : reader.rest = opening :: rest) (hkind : opening.kind = .opening) :
    ∃ left, Moves context reader answer later left := by
  -- Up to the text behind its expression there is no other brace.
  have hinside {afterBefore afterName afterPattern afterText : List Lexeme} {before after : String}
      {name pattern : Option String} (hbefore : TextTaken rest before afterBefore)
      (hname : Taken .name afterBefore name afterName)
      (hpattern : Taken .pattern afterName pattern afterPattern)
      (hafter : TextTaken afterPattern after afterText) :
      Leaves reader.rest afterText [opening.index] := by
    rw [hread]
    exact (((Leaves.opening hkind).trans hbefore.leaves).trans (hname.leaves rfl)).trans
      ((hpattern.leaves rfl).trans hafter.leaves)
  cases h with
  | closed hbefore hname hpattern hafter hclosing hmodifier =>
      have hclosed := (hinside hbefore hname hpattern hafter).close hclosing
      exact ⟨_, .done ⟨hclosed.trans (hmodifier.leaves rfl), rfl⟩⟩
  | unclosed hbefore hname hpattern hafter _ =>
      exact ⟨_, .inside ⟨hinside hbefore hname hpattern hafter, rfl⟩⟩

/-- A step leaves a brace open just if it fails inside of a group. -/
theorem Stepped.moves {text : String} {answer : Except GrammarError (List Part × String)}
    (h : Stepped context reader text answer later) :
    ∃ left, Moves context reader answer later left := by
  cases h with
  | key hchar hname hpattern _ hmodifier =>
      have hfront := ((hchar.leaves rfl).trans (hname.leaves rfl)).trans (hpattern.leaves rfl)
      exact ⟨_, .done ⟨hfront.trans (hmodifier.leaves rfl), rfl⟩⟩
  | char hread hkind | escaped hread hkind | ending hread hkind =>
      refine ⟨_, .done ⟨?_, rfl⟩⟩
      rw [hread]
      exact .plain (hkind ▸ rfl)
  | group hread hkind hgroup =>
      obtain ⟨left, hmoves⟩ := hgroup.moves hread hkind
      cases hmoves with
      | done h => exact ⟨_, .done h⟩
  | unclosed hread hkind hgroup =>
      obtain ⟨left, hmoves⟩ := hgroup.moves hread hkind
      exact ⟨left, hmoves.failed⟩
  | stuck _ => exact ⟨_, .outside ⟨.refl _, rfl⟩⟩

/-- A step that succeeds leaves no brace open. -/
theorem Stepped.moved {text : String} {result : List Part × String}
    (h : Stepped context reader text (.ok result) later) : Moved reader later [] := by
  obtain ⟨left, hmoves⟩ := h.moves
  cases hmoves with
  | done h => exact h

/-- A reading leaves a brace open just if it fails inside of a group. -/
theorem readFrom_moves (context : ReadContext) (reader : PartReader) (text : String) :
    ∃ left, Moves context reader (readFrom context reader text).1
      (readFrom context reader text).2 left := by
  fun_induction readFrom context reader text with
  | case1 reader text h => exact ⟨_, .done ⟨.refl _, rfl⟩⟩
  | case2 reader text h error later hstep =>
      have hstepped := stepped context reader text
      rw [hstep] at hstepped
      obtain ⟨left, hmoves⟩ := hstepped.moves
      exact ⟨left, hmoves.failed⟩
  | case3 reader text h parts rest later hstep answer final heq ih =>
      have hstepped := stepped context reader text
      rw [hstep] at hstepped
      rw [heq] at ih
      obtain ⟨left, hmoves⟩ := ih
      exact ⟨left, hmoves.behind hstepped.moved _⟩

/-! ## Readings in a row -/

/-- The lexemes that a reading takes which has `calls` others in front of it. -/
def takenIn (context : ReadContext) (reader : PartReader) (calls : Nat) : List Lexeme :=
  let front := (after context calls reader).rest
  front.take (front.length - (after context (calls + 1) reader).rest.length)

/-- The offset of the innermost brace that a reading leaves open which has `calls` others in front
of it. -/
def groupIn (context : ReadContext) (reader : PartReader) (calls : Nat) : Option Int :=
  (openBraces (takenIn context reader calls)).head?

/-- The group of the latest among `calls` readings that leaves one open. -/
def latestGroup (context : ReadContext) (reader : PartReader) : Nat → Option Int
  | 0 => none
  | calls + 1 => (groupIn context reader calls).or (latestGroup context reader calls)

/-- The answers of readings in a row, one by one. -/
theorem reads_eq_map (context : ReadContext) (count : Nat) (reader : PartReader) :
    reads context count reader
      = (List.range count).map fun calls => ((after context calls reader).read context).1 := by
  induction count generalizing reader with
  | zero => rfl
  | succ count ih =>
      rw [reads, List.range_succ_eq_map, List.map_cons, List.map_map, after_zero]
      exact congrArg _ (ih _)

/-- A reading that has others in front of it moves as its answer says. -/
theorem exists_moves (context : ReadContext) (reader : PartReader) (calls : Nat) :
    ∃ left, Moves context (after context calls reader)
      ((after context calls reader).read context).1 (after context (calls + 1) reader) left := by
  rw [after_succ']
  exact readFrom_moves context _ ""

theorem Moves.moved {α : Type} {answer : Except GrammarError α} {left : List Int}
    (h : Moves context reader answer later left) : Moved reader later left := by
  cases h <;> assumption

/-- What is taken stands in front of what is left, and leaves open what the reading leaves open. -/
theorem Moved.takenIn {calls : Nat} {left : List Int}
    (h : Moved (after context calls reader) (after context (calls + 1) reader) left) :
    (after context calls reader).rest
        = takenIn context reader calls ++ (after context (calls + 1) reader).rest ∧
      openBraces (takenIn context reader calls) = left := by
  obtain ⟨taken, hrest, htaken⟩ := h.leaves
  have htake : PartReader.takenIn context reader calls = taken := by
    rw [PartReader.takenIn, hrest]
    exact List.take_left' (by simp)
  rw [htake]
  exact ⟨hrest, by rw [openBraces, htaken, List.append_nil]⟩

/-- The innermost group that is open after some readings is that of the latest one that has left one
open. -/
theorem head?_openGroups_after (h : reader.openGroups = []) (calls : Nat) :
    (after context calls reader).openGroups.head? = latestGroup context reader calls := by
  induction calls with
  | zero => rw [after_zero, h]; rfl
  | succ calls ih =>
      obtain ⟨left, hmoves⟩ := exists_moves context reader calls
      rw [hmoves.moved.groups, List.head?_append, ih, latestGroup, groupIn,
        hmoves.moved.takenIn.2]

/-- No group is open as long as no reading has left one open. -/
theorem latestGroup_eq_none {calls : Nat}
    (h : ∀ earlier < calls, groupIn context reader earlier = none) :
    latestGroup context reader calls = none := by
  induction calls with
  | zero => rfl
  | succ calls ih =>
      rw [latestGroup, h calls (Nat.lt_succ_self _), Option.none_or]
      exact ih fun earlier hearlier => h earlier (hearlier.trans (Nat.lt_succ_self _))

end PartReader

open PartReader

/-- Whatever the lexemes are and however often a reader has been called: if a reading fails, it fails
at the lexeme behind those that it has taken, and it expects a closing brace just if these leave a
brace open. The message notes the group of the latest reading that has left one open. So it notes the
group that the lexeme stands in, unless the lexeme stands in none and an earlier reading has failed
inside of a group. -/
theorem reads_notes (options : Options) (lexemes : List Lexeme) {count calls : Nat}
    {error : GrammarError}
    (herror : (reads (.of options lexemes) count { rest := lexemes })[calls]?
      = some (.error error)) :
    let context := ReadContext.of options lexemes
    let start : PartReader := { rest := lexemes }
    let failed := after context (calls + 1) start
    (after context calls start).rest = takenIn context start calls ++ failed.rest ∧
      error.index = (failed.next context).index ∧ error.actual = (failed.next context).kind ∧
      (error.expected = .closing ↔ groupIn context start calls ≠ none) ∧
      (∀ opened, error.Notes opened ↔ latestGroup context start (calls + 1) = some opened) ∧
      ((groupIn context start calls ≠ none ∨
          ∀ earlier < calls, groupIn context start earlier = none) →
        ∀ opened, error.Notes opened ↔ groupIn context start calls = some opened) := by
  intro context start failed
  rw [reads_eq_map, List.getElem?_map, Option.map_eq_some_iff] at herror
  obtain ⟨place, hplace, hanswer⟩ := herror
  obtain rfl : calls = place := by simpa using (List.getElem?_eq_some_iff.mp hplace).2
  obtain ⟨left, hmoves⟩ := exists_moves context start calls
  obtain ⟨hrest, hopen⟩ := hmoves.moved.takenIn
  have hgroup : groupIn context start calls = left.head? := by rw [groupIn, hopen]
  rw [hanswer] at hmoves
  obtain ⟨herror, hexpected⟩ := hmoves.unexpected
  have hnotes (opened : Int) :
      error.Notes opened ↔ latestGroup context start (calls + 1) = some opened := by
    rw [GrammarError.notes_iff, herror, ← head?_openGroups_after rfl]
    rfl
  refine ⟨hrest, ?_, ?_, by rwa [hgroup], hnotes, fun hown opened => ?_⟩
  · rw [herror]
    rfl
  · rw [herror]
    rfl
  · rw [hnotes, latestGroup]
    obtain hsome | hnone := hown
    · obtain ⟨own, hown⟩ := Option.ne_none_iff_exists'.mp hsome
      rw [hown, Option.some_or]
    · rw [latestGroup_eq_none hnone, Option.or_none]

/-- The second one of two groups that are not closed. Its error notes it, and not the first one. -/
theorem reads_notes_unclosed :
    let lexemes : List Lexeme := [⟨.opening, 0, "\x7b"⟩, ⟨.char, 1, "a"⟩, ⟨.opening, 2, "\x7b"⟩,
      ⟨.char, 3, "b"⟩, ⟨.modifier, 4, "?"⟩, ⟨.ending, 5, ""⟩]
    let context := ReadContext.of {} lexemes
    let error : GrammarError := ⟨4, .closing, .modifier, some 2⟩
    (reads context 3 { rest := lexemes })[1]? = some (.error error) ∧
      groupIn context { rest := lexemes } 1 = some 2 ∧ error.Notes 2 ∧ ¬ error.Notes 0 := by
  intro lexemes context error
  have herror : (reads context 3 { rest := lexemes })[1]? = some (.error error) := by
    decide +kernel
  have hgroup : groupIn context { rest := lexemes } 1 = some 2 := by decide +kernel
  obtain ⟨_, _, _, _, _, hnotes⟩ := reads_notes {} lexemes herror
  have hown (opened : Int) : error.Notes opened ↔ some 2 = some opened := by
    rw [hnotes (.inl (hgroup.trans_ne (Option.some_ne_none 2))), hgroup]
  exact ⟨herror, hgroup, (hown 2).mpr rfl, fun h => by simpa using (hown 0).mp h⟩

/-- A modifier behind a group that is not closed. The reading that fails at it fails outside of any
group, and notes the group of the reading before it. -/
example : (scan "\x7b?").toOption.map (fun lexemes =>
    (reads (.of {} lexemes) 2 { rest := lexemes }).map fun answer =>
      match answer with
      | .ok _ => ""
      | .error error => error.message)
    = some ["unexpected MODIFIER at 1, expected CLOSE (group opened at 0)",
        "unexpected MODIFIER at 1, expected END (group opened at 0)"] := by
  decide +kernel

end RoutePattern
