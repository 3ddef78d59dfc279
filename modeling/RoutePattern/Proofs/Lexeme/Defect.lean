import RoutePattern.Proofs.Lexeme.Capture
import RoutePattern.Proofs.Lexeme.Joined

/-!
# What stops a scan

`Defect` lists the ways in which a text has no first lexeme, each with its message and the place
that the message points at. `scan_defects` is the main result: a scan fails exactly where it comes
to a text with a defect, for that defect, and no text has two of them.
-/

namespace RoutePattern

/-! ## Texts without a first lexeme -/

/-- A text without a first lexeme, the message about it, and how far from its beginning that points.
An expression begins with a parenthesis; what is wrong with it is looked for in this order: a
question mark right behind the parenthesis, a group inside it that captures, an empty expression,
and an expression that is not closed. -/
inductive Defect (text : List Char) : String → Nat → Prop where
  | missingName {rest : List Char} (htext : text = ':' :: rest) (hname : NoNameChar rest) :
      Defect text "missing parameter name" 0
  | danglingEscape (htext : text = ['\\']) :
      Defect text "unexpected end of pattern after '\\'" 0
  | leadingQuestion {rest : List Char} (htext : text = '(' :: '?' :: rest) :
      Defect text "pattern cannot start with '?'" 1
  | capturingGroup {rest : List Char} {place : Nat} (htext : text = '(' :: rest)
      (hhead : rest.head? ≠ some '?') (hfirst : FirstCapture 0 rest place) :
      Defect text "capturing groups are not allowed" (1 + place)
  | missingPattern {rest : List Char} (htext : text = '(' :: ')' :: rest) :
      Defect text "missing pattern" 0
  | unbalanced {rest : List Char} (htext : text = '(' :: rest) (hhead : rest.head? ≠ some '?')
      (hnone : ∀ place, ¬ CapturesAt 0 rest place)
      (hopen : StaysOpen 0 (blankEscapes rest) rest.length) :
      Defect text "unbalanced pattern" 0

/-- A defect points at a character of its text. -/
theorem Defect.lt_length {text : List Char} {message : String} {ahead : Nat}
    (h : Defect text message ahead) : ahead < text.length := by
  cases h with
  | missingName htext | missingPattern htext | unbalanced htext =>
      rw [htext]
      exact Nat.zero_lt_succ _
  | danglingEscape htext | leadingQuestion htext => simp [htext]
  | @capturingGroup rest place htext _ hfirst =>
      have hplace := (List.getElem?_eq_some_iff.mp hfirst.captures.opens).1
      rw [length_blankEscapes] at hplace
      rw [htext, List.length_cons, Nat.add_comm]
      exact Nat.succ_lt_succ hplace

/-- What stops the reading of an expression is a defect of its text. -/
theorem defect_of_groupHead {rest : List Char} {error : ScanError}
    (h : groupHead rest = .error error) :
    Defect ('(' :: rest) error.fault.message error.index := by
  unfold groupHead at h
  split at h
  · next hquestion =>
    cases h
    obtain ⟨later, rfl⟩ := List.head?_eq_some_iff.mp hquestion
    exact .leadingQuestion rfl
  next hquestion =>
  obtain h | ⟨body, hbody, h⟩ := bind_eq_error.mp h
  · have hread := bodyRead_groupBody 0 1 rest
    rw [h] at hread
    cases hread with
    | unclosed hnone hopen => exact .unbalanced rfl hquestion hnone hopen
    | captures hfirst => exact .capturingGroup rfl hquestion hfirst
  · split at h
    · next hempty =>
      cases h
      obtain rfl := List.isEmpty_iff.mp hempty
      obtain ⟨_, tail, rfl⟩ := groupBody_eq_ok_iff.mp hbody
      exact .missingPattern rfl
    · cases h

/-- Where no lexeme can be read the text has a defect. -/
theorem defect_of_read {c : Char} {rest : List Char} {error : ScanError}
    (h : Head.read c rest = .error error) : Defect (c :: rest) error.fault.message error.index := by
  unfold Head.read at h
  split at h
  · cases h
  split at h
  · next hescape =>
    split at h
    · cases h
      exact .danglingEscape (by rw [hescape])
    · cases h
  split at h
  · cases h
  split at h
  · cases h
  split at h
  · next hcolon =>
    dsimp only at h
    split at h
    · next hempty =>
      cases h
      refine .missingName (by rw [hcolon]) fun first hfirst hchar => ?_
      cases rest with
      | nil => simp at hfirst
      | cons second others => simp_all
    · cases h
  split at h
  · next hopening =>
    rw [hopening]
    exact defect_of_groupHead h
  · cases h

/-- An expression whose text stops it is not read. -/
theorem read_of_bodyRead {rest : List Char} {error : ScanError} (hhead : rest.head? ≠ some '?')
    (h : BodyRead 0 1 rest (.error error)) : Head.read '(' rest = .error error := by
  have hgroup : Head.read '(' rest = groupHead rest := by simp [Head.read, isModifierChar]
  rw [hgroup, groupHead, if_neg hhead, h.eq_error (bodyRead_groupBody 0 1 rest)]
  rfl

/-- Where the text has a defect no lexeme can be read. -/
theorem Defect.read {c : Char} {rest : List Char} {message : String} {ahead : Nat}
    (h : Defect (c :: rest) message ahead) :
    ∃ error, Head.read c rest = .error error ∧ error.fault.message = message ∧
      error.index = ahead := by
  cases h with
  | missingName htext hname =>
      obtain ⟨rfl, rfl⟩ := List.cons.inj htext
      have hnone : rest.takeWhile isNameChar = [] := by
        cases rest with
        | nil => rfl
        | cons first others => simpa using hname first rfl
      refine ⟨⟨.missingName, 0⟩, ?_, rfl, rfl⟩
      simp [Head.read, isModifierChar, hnone]
  | danglingEscape htext =>
      obtain ⟨rfl, rfl⟩ := List.cons.inj htext
      exact ⟨⟨.danglingEscape, 0⟩, rfl, rfl, rfl⟩
  | leadingQuestion htext =>
      obtain ⟨rfl, rfl⟩ := List.cons.inj htext
      exact ⟨⟨.leadingQuestion, 1⟩, rfl, rfl, rfl⟩
  | capturingGroup htext hhead hfirst =>
      obtain ⟨rfl, rfl⟩ := List.cons.inj htext
      exact ⟨_, read_of_bodyRead hhead (.captures hfirst), rfl, rfl⟩
  | missingPattern htext =>
      obtain ⟨rfl, rfl⟩ := List.cons.inj htext
      exact ⟨⟨.missingPattern, 0⟩, rfl, rfl, rfl⟩
  | unbalanced htext hhead hnone hopen =>
      obtain ⟨rfl, rfl⟩ := List.cons.inj htext
      exact ⟨_, read_of_bodyRead hhead (.unclosed hnone hopen), rfl, rfl⟩

/-- A text that has no first lexeme has a single defect. -/
theorem defect_iff {c : Char} {rest : List Char} {error : ScanError}
    (hread : Head.read c rest = .error error) (message : String) (ahead : Nat) :
    Defect (c :: rest) message ahead ↔ message = error.fault.message ∧ ahead = error.index := by
  constructor
  · intro h
    obtain ⟨other, hother, rfl, rfl⟩ := h.read
    obtain rfl := Except.error.inj (hother.symm.trans hread)
    exact ⟨rfl, rfl⟩
  · rintro ⟨rfl, rfl⟩
    exact defect_of_read hread

/-! ## Patterns that cannot be scanned -/

/-- The scan of a pattern gets to the offset `start`: the text in front of it can be scanned, and no
name at the end of that text goes on behind it. -/
def ScansTo (source : String) (start : Nat) : Prop :=
  ∃ lexemes, scan (String.ofList (source.toList.take start)) = .ok lexemes ∧
    ∀ last ∈ lexemes.dropLast.getLast?, last.kind = .name →
      NoNameChar (source.toList.drop start)

/-- Where a scan that fails halts: behind `front`, whose lexemes are `found`, there is the text
`c :: rest` without a first lexeme. -/
structure HaltsBefore (source : String) (front : List Char) (found : List Lexeme) (c : Char)
    (rest : List Char) (error : ScanError) : Prop where
  text : source.toList = front ++ c :: rest
  spelled : Spelled 0 found front
  uncut : ∀ last ∈ found.getLast?, last.kind = .name → NoNameChar (c :: rest)
  read : Head.read c rest = .error error

section Halting

variable {source : String} {front rest : List Char} {found : List Lexeme} {c : Char}
  {error : ScanError}

/-- A scan that halts before a text fails with what is wrong with that text. -/
theorem HaltsBefore.ofText (h : HaltsBefore source front found c rest error) :
    Progress.ofText 0 source.toList = ⟨found, c :: rest, some (error.moved front.length)⟩ := by
  have hbehind : Progress.ofText front.length (c :: rest)
      = ⟨[], c :: rest, some (error.moved front.length)⟩ := by
    rw [Progress.ofText, h.read, ScanError.moved, Nat.add_comm error.index]
  rw [h.text, h.spelled.ofText_append h.uncut, Nat.zero_add, hbehind, List.append_nil]

theorem HaltsBefore.scan_error (h : HaltsBefore source front found c rest error) :
    scan source = .error (error.moved front.length) := by
  rw [scan_eq, h.ofText]

/-- The text in front of where a scan halts can be scanned. -/
theorem HaltsBefore.scan_front (h : HaltsBefore source front found c rest error) :
    scan (String.ofList (source.toList.take front.length))
      = .ok (found ++ [⟨.ending, front.length, ""⟩]) := by
  have hspelled : Spelled 0 found (String.ofList front).toList := by
    rw [String.toList_ofList]
    exact h.spelled
  rw [h.text, List.take_left, ← String.length_ofList]
  exact scan_eq_ok_iff_spelled.mpr ⟨found, hspelled, rfl⟩

theorem HaltsBefore.drop_eq (h : HaltsBefore source front found c rest error) :
    source.toList.drop front.length = c :: rest := by
  rw [h.text, List.drop_left]

/-- The scan gets to where it halts. -/
theorem HaltsBefore.scansTo (h : HaltsBefore source front found c rest error) :
    ScansTo source front.length := by
  refine ⟨_, h.scan_front, ?_⟩
  rw [List.dropLast_concat, h.drop_eq]
  exact h.uncut

/-- A scan halts where it gets to a text without a first lexeme. -/
theorem ScansTo.haltsBefore {start : Nat} (h : ScansTo source start)
    (hdrop : source.toList.drop start = c :: rest) (hread : Head.read c rest = .error error) :
    ∃ found, HaltsBefore source (source.toList.take start) found c rest error := by
  obtain ⟨lexemes, hscan, huncut⟩ := h
  obtain ⟨found, hspelled, rfl⟩ := scan_eq_ok_iff_spelled.mp hscan
  rw [String.toList_ofList] at hspelled
  rw [List.dropLast_concat, hdrop] at huncut
  exact ⟨found, by rw [← hdrop, List.take_append_drop], hspelled, huncut, hread⟩

/-- A scan that fails halts somewhere. -/
theorem exists_haltsBefore (h : scan source = .error error) :
    ∃ front found c rest fault, HaltsBefore source front found c rest fault ∧
      error = fault.moved front.length := by
  obtain ⟨front, htext, hspelled, huncut, hhalted⟩ := haltsBehind_ofText 0 source.toList
  rw [scan_eq] at h
  cases herror : (Progress.ofText 0 source.toList).error with
  | none => simp [herror] at h
  | some found =>
      obtain rfl : found = error := by simpa [herror] using h
      rw [herror] at hhalted
      obtain ⟨c, rest, fault, hrest, hread, rfl⟩ := hhalted
      rw [hrest] at htext huncut
      refine ⟨front, _, c, rest, fault, ⟨htext, hspelled, huncut, hread⟩, ?_⟩
      rw [ScanError.moved, Nat.zero_add, Nat.add_comm]

end Halting

/-- A scan that fails has come to a text with a defect, which has no other defect; the error is
about that defect and points into the pattern. Where a scan comes to a text with a defect, it fails
for that. -/
theorem scan_defects (source : String) :
    (∀ error, scan source = .error error →
      error.index < source.length ∧
        ∃ start ahead, ScansTo source start ∧ error.index = start + ahead ∧
          ∀ message place, Defect (source.toList.drop start) message place ↔
            message = error.fault.message ∧ place = ahead) ∧
      ∀ start message ahead, ScansTo source start → Defect (source.toList.drop start) message ahead →
        ∃ error, scan source = .error error ∧ error.fault.message = message ∧
          error.index = start + ahead := by
  constructor
  · intro error h
    obtain ⟨front, found, c, rest, fault, hhalts, rfl⟩ := exists_haltsBefore h
    have hlt := (defect_of_read hhalts.read).lt_length
    refine ⟨?_, front.length, fault.index, hhalts.scansTo, Nat.add_comm _ _, fun message place => ?_⟩
    · rw [← String.length_toList, hhalts.text, List.length_append, ScanError.moved, Nat.add_comm]
      exact Nat.add_lt_add_left hlt _
    · rw [hhalts.drop_eq]
      exact defect_iff hhalts.read message place
  · intro start message ahead hscans hdefect
    have hlt := hdefect.lt_length
    cases hdrop : source.toList.drop start with
    | nil => simp [hdrop] at hlt
    | cons c rest =>
        rw [hdrop] at hdefect
        obtain ⟨error, hread, rfl, rfl⟩ := hdefect.read
        obtain ⟨found, hhalts⟩ := hscans.haltsBefore hdrop hread
        have hstart : (source.toList.take start).length = start := by
          rw [List.length_drop] at hlt
          rw [List.length_take]
          omega
        refine ⟨_, hhalts.scan_error, rfl, ?_⟩
        rw [hstart]
        exact Nat.add_comm _ _

/-- In an expression with an escaped parenthesis and a group that captures nothing, the group behind
them is at fault. -/
theorem scan_defects_nested :
    let source := "/:a(x\\((?:y)(z))"
    ScansTo source 3 ∧ Defect (source.toList.drop 3) "capturing groups are not allowed" 9 ∧
      scan source = .error ⟨.capturingGroup, 12⟩ ∧ 12 < source.length ∧
      ∃ start ahead, ScansTo source start ∧ 12 = start + ahead ∧
        ∀ message place, Defect (source.toList.drop start) message place ↔
          message = "capturing groups are not allowed" ∧ place = ahead := by
  intro source
  have hscans : ScansTo source 3 := by
    refine ⟨[⟨.char, 0, "/"⟩, ⟨.name, 1, "a"⟩, ⟨.ending, 3, ""⟩], by decide +kernel, ?_⟩
    intro last _ _ c hc
    obtain rfl : '(' = c := by simpa [source] using hc
    decide
  have hfirst : FirstCapture 0 "x\\((?:y)(z))".toList 8 := by
    have hplain : ∀ earlier < 8, (blankEscapes "x\\((?:y)(z))".toList)[earlier]? = some '(' →
        "x\\((?:y)(z))".toList[earlier + 1]? = some '?' := by decide +kernel
    refine ⟨⟨?_, by decide +kernel, by decide +kernel⟩, fun earlier hlt h => ?_⟩
    · intro place hplace
      revert place
      decide +kernel
    · exact h.captures (hplain earlier hlt h.opens)
  have htext : source.toList.drop 3 = '(' :: "x\\((?:y)(z))".toList := by decide +kernel
  have hdefect : Defect (source.toList.drop 3) "capturing groups are not allowed" 9 :=
    .capturingGroup htext (by simp) hfirst
  obtain ⟨⟨fault, index⟩, hscan, hmessage, hindex⟩ := (scan_defects source).2 3 _ 9 hscans hdefect
  obtain rfl : index = 12 := hindex
  obtain rfl : fault = .capturingGroup := by
    cases fault <;> simp [ScanFault.message] at hmessage ⊢
  exact ⟨hscans, hdefect, hscan, (scan_defects source).1 _ hscan⟩

end RoutePattern
