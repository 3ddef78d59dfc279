import RoutePattern.Proofs.Lexeme.Balanced

/-!
# Why an expression is not read

An expression is read up to the parenthesis that closes it, and no group inside it may capture.
`StaysOpen` says by counting parentheses that the closing one has not come yet, and `CapturesAt`
that a group captures before it comes. `bodyRead_groupBody` is the main result: these two decide
whether an expression is read, and what the error is about otherwise.
-/

namespace RoutePattern

/-! ## Counting parentheses -/

/-- A text with a blank for each character of its escapes. -/
def blankEscapes : List Char → List Char
  | [] => []
  | ['\\'] => [' ']
  | '\\' :: _ :: rest => ' ' :: ' ' :: blankEscapes rest
  | c :: rest => c :: blankEscapes rest

/-- An expression in which `depth` groups are open in front of `plain` stays open through the first
`count` characters: nowhere have more parentheses been closed than are open inside it. -/
def StaysOpen (depth : Nat) (plain : List Char) (count : Nat) : Prop :=
  ∀ place ≤ count, (plain.take place).count ')' ≤ depth + (plain.take place).count '('

/-- Before the expression is closed a parenthesis opens a group that captures: no question mark
follows it. -/
structure CapturesAt (depth : Nat) (text : List Char) (place : Nat) : Prop where
  inside : StaysOpen depth (blankEscapes text) place
  opens : (blankEscapes text)[place]? = some '('
  captures : text[place + 1]? ≠ some '?'

/-- The blanked text behind one character. -/
theorem blankEscapes_cons {c : Char} (hc : c ≠ '\\') (rest : List Char) :
    blankEscapes (c :: rest) = c :: blankEscapes rest := by
  rw [blankEscapes]
  all_goals simp [hc]

/-- Blanking a text keeps its length. -/
theorem length_blankEscapes (text : List Char) : (blankEscapes text).length = text.length := by
  fun_induction blankEscapes text <;> simp_all

/-- Behind one character an expression stays open as before, with the groups counted that the
character opens or closes. -/
theorem staysOpen_cons (depth : Nat) (c : Char) (plain : List Char) (count : Nat) :
    StaysOpen depth (c :: plain) (count + 1) ↔
      ∀ place ≤ count, (plain.take place).count ')' + (if c = ')' then 1 else 0)
        ≤ depth + (plain.take place).count '(' + (if c = '(' then 1 else 0) := by
  constructor
  · intro h place hplace
    have hnext := h (place + 1) (by omega)
    simpa [List.count_cons, Nat.add_assoc] using hnext
  · intro h place hplace
    cases place with
    | zero => simp
    | succ place =>
        have hnext := h place (by omega)
        simpa [List.count_cons, Nat.add_assoc] using hnext

/-- A character that is no parenthesis leaves every group open. -/
theorem staysOpen_plain {c : Char} (hopen : c ≠ '(') (hclose : c ≠ ')') (depth : Nat)
    (plain : List Char) (count : Nat) :
    StaysOpen depth (c :: plain) (count + 1) ↔ StaysOpen depth plain count := by
  rw [staysOpen_cons]
  simp [StaysOpen, hopen, hclose]

/-- Behind an opening parenthesis one more group is open. -/
theorem staysOpen_opening (depth : Nat) (plain : List Char) (count : Nat) :
    StaysOpen depth ('(' :: plain) (count + 1) ↔ StaysOpen (depth + 1) plain count := by
  rw [staysOpen_cons]
  simp [StaysOpen, Nat.add_right_comm]

/-- Behind a closing parenthesis one group less is open. -/
theorem staysOpen_closing (outer : Nat) (plain : List Char) (count : Nat) :
    StaysOpen (outer + 1) (')' :: plain) (count + 1) ↔ StaysOpen outer plain count := by
  rw [staysOpen_cons]
  simp [StaysOpen, Nat.add_right_comm]

/-- With no group open inside it an expression is closed by the next closing parenthesis. -/
theorem not_staysOpen_closing (plain : List Char) (count : Nat) :
    ¬ StaysOpen 0 (')' :: plain) (count + 1) := by
  intro h
  simpa using h 1 (by omega)

/-! ## Going on behind some characters -/

/-- The characters `front` lead from `depth` open groups to `later` ones: they do not close the
expression, and none of them opens a group that captures. What stays open and what captures in the
whole text is then what does so in the rest of it. -/
structure Carries (depth : Nat) (front rest : List Char) (later : Nat) : Prop where
  stays (count : Nat) :
    StaysOpen depth (blankEscapes (front ++ rest)) (front.length + count) ↔
      StaysOpen later (blankEscapes rest) count
  captures (place : Nat) :
    CapturesAt depth (front ++ rest) place ↔
      ∃ further, place = front.length + further ∧ CapturesAt later rest further

/-- How the characters `front` look with their escapes blanked tells what they carry on. -/
theorem carries_of_blank {depth later : Nat} {front rest : List Char} (blanked : List Char)
    (hblank : blankEscapes (front ++ rest) = blanked ++ blankEscapes rest)
    (hlength : blanked.length = front.length)
    (hstays : ∀ count, StaysOpen depth (blanked ++ blankEscapes rest) (blanked.length + count) ↔
      StaysOpen later (blankEscapes rest) count)
    (hfront : ∀ place < blanked.length, blanked[place]? = some '(' →
      (front ++ rest)[place + 1]? = some '?') : Carries depth front rest later := by
  have hbehind (further : Nat) :
      (blankEscapes (front ++ rest))[front.length + further]? = (blankEscapes rest)[further]? := by
    rw [hblank, ← hlength, List.getElem?_append_right (Nat.le_add_right _ _),
      Nat.add_sub_cancel_left]
  have hnext (further : Nat) :
      (front ++ rest)[front.length + further + 1]? = rest[further + 1]? := by
    rw [Nat.add_assoc, List.getElem?_append_right (Nat.le_add_right _ _), Nat.add_sub_cancel_left]
  have hopen (count : Nat) : StaysOpen depth (blankEscapes (front ++ rest)) (front.length + count) ↔
      StaysOpen later (blankEscapes rest) count := by
    rw [hblank, ← hlength, hstays]
  refine ⟨hopen, fun place => ⟨?_, ?_⟩⟩
  · rintro ⟨hinside, hopens, hnone⟩
    obtain hlt | hle := Nat.lt_or_ge place blanked.length
    · rw [hblank, List.getElem?_append_left hlt] at hopens
      exact absurd (hfront place hlt hopens) hnone
    · obtain ⟨further, rfl⟩ := Nat.exists_eq_add_of_le (hlength ▸ hle)
      rw [hbehind] at hopens
      rw [hnext] at hnone
      exact ⟨further, rfl, (hopen further).mp hinside, hopens, hnone⟩
  · rintro ⟨further, rfl, hinside, hopens, hnone⟩
    refine ⟨(hopen further).mpr hinside, ?_, ?_⟩
    · rw [hbehind, hopens]
    · rwa [hnext]

/-- A character that is no backslash carries on what it leaves open, unless it captures. -/
theorem carries_single {c : Char} (hc : c ≠ '\\') {depth later : Nat} {rest : List Char}
    (hstays : ∀ count, StaysOpen depth (c :: blankEscapes rest) (count + 1) ↔
      StaysOpen later (blankEscapes rest) count)
    (hcaptures : c = '(' → rest.head? = some '?') : Carries depth [c] rest later := by
  refine carries_of_blank [c] (blankEscapes_cons hc rest) rfl (fun count => ?_) fun place hplace => ?_
  · rw [List.length_singleton, Nat.add_comm]
    exact hstays count
  · obtain rfl : place = 0 := Nat.lt_one_iff.mp hplace
    intro hopens
    have hhead := hcaptures (by simpa using hopens)
    simpa [List.head?_eq_getElem?] using hhead

/-- An escape carries an expression on. -/
theorem carries_escape (depth : Nat) (c : Char) (rest : List Char) :
    Carries depth ['\\', c] rest depth := by
  refine carries_of_blank [' ', ' '] (by simp [blankEscapes]) rfl (fun count => ?_)
    fun place hplace hopens => ?_
  · rw [List.length_cons, List.length_singleton, Nat.add_comm, List.cons_append,
      List.singleton_append, staysOpen_plain (by decide) (by decide),
      staysOpen_plain (by decide) (by decide)]
  · match place with
    | 0 | 1 => simp at hopens

/-! ## Reading an expression -/

/-- The first group of an expression that captures. -/
structure FirstCapture (depth : Nat) (text : List Char) (place : Nat) : Prop where
  captures : CapturesAt depth text place
  first : ∀ earlier < place, ¬ CapturesAt depth text earlier

/-- Only one group is the first that captures. -/
theorem FirstCapture.unique {depth place other : Nat} {text : List Char}
    (h : FirstCapture depth text place) (h' : FirstCapture depth text other) : place = other := by
  obtain hlt | heq | hlt := Nat.lt_trichotomy place other
  · exact absurd h.captures (h'.first place hlt)
  · exact heq
  · exact absurd h'.captures (h.first other hlt)

/-- What is answered about the expression at the front of a text, and what the text is like. -/
inductive BodyRead (depth offset : Nat) (text : List Char) :
    Except ScanError (List Char) → Prop where
  | closed {body : List Char} (hnone : ∀ place, ¬ CapturesAt depth text place)
      (hcloses : ¬ StaysOpen depth (blankEscapes text) text.length) :
      BodyRead depth offset text (.ok body)
  | unclosed (hnone : ∀ place, ¬ CapturesAt depth text place)
      (hopen : StaysOpen depth (blankEscapes text) text.length) :
      BodyRead depth offset text (.error ⟨.unbalanced, 0⟩)
  | captures {place : Nat} (hfirst : FirstCapture depth text place) :
      BodyRead depth offset text (.error ⟨.capturingGroup, offset + place⟩)

/-- What is answered about an expression is answered with characters in front that carry it on. -/
theorem BodyRead.prepend {depth later offset : Nat} {front rest : List Char}
    {answer : Except ScanError (List Char)} (hcarries : Carries depth front rest later)
    (write : List Char → List Char) (h : BodyRead later (offset + front.length) rest answer) :
    BodyRead depth offset (front ++ rest) (answer.map write) := by
  have hnone (hnone : ∀ place, ¬ CapturesAt later rest place) (place : Nat) :
      ¬ CapturesAt depth (front ++ rest) place := by
    rw [hcarries.captures]
    rintro ⟨further, _, hcaptures⟩
    exact hnone further hcaptures
  cases h with
  | closed hno hcloses =>
      refine .closed (hnone hno) ?_
      rwa [List.length_append, hcarries.stays]
  | unclosed hno hopen =>
      refine .unclosed (hnone hno) ?_
      rwa [List.length_append, hcarries.stays]
  | @captures place hfirst =>
      rw [Nat.add_assoc]
      refine .captures ⟨(hcarries.captures _).mpr ⟨place, rfl, hfirst.captures⟩, ?_⟩
      intro earlier hlt hcaptures
      obtain ⟨further, rfl, hlater⟩ := (hcarries.captures earlier).mp hcaptures
      exact hfirst.first further (Nat.lt_of_add_lt_add_left hlt) hlater

/-- A text in which no parenthesis stands neither captures nor closes. -/
theorem bodyRead_of_blank {depth offset : Nat} {text : List Char}
    (hopen : '(' ∉ blankEscapes text) (hclose : ')' ∉ blankEscapes text) :
    BodyRead depth offset text (.error ⟨.unbalanced, 0⟩) := by
  refine .unclosed (fun place h => hopen (List.mem_of_getElem? h.opens)) fun place _ => ?_
  rw [List.count_eq_zero_of_not_mem fun h => hclose (List.mem_of_mem_take h)]
  exact Nat.zero_le _

/-- The expression at the front of a text is read as `BodyRead` says. -/
theorem bodyRead_groupBody (depth offset : Nat) (text : List Char) :
    BodyRead depth offset text (groupBody depth offset text) := by
  -- Where the reading goes on, the characters taken are one of the three kinds that carry it on;
  -- only the ends of the text, the closing parenthesis and the capturing group answer at once.
  induction depth, offset, text using groupBody.induct with
  | case1 depth offset =>
      rw [groupBody]
      exact bodyRead_of_blank (by simp [blankEscapes]) (by simp [blankEscapes])
  | case2 depth offset =>
      rw [groupBody]
      exact bodyRead_of_blank (by simp [blankEscapes]) (by simp [blankEscapes])
  | case3 depth offset c rest ih =>
      rw [groupBody_escape]
      exact ih.prepend (carries_escape depth c rest) _
  | case4 offset rest =>
      have hblank : blankEscapes (')' :: rest) = ')' :: blankEscapes rest :=
        blankEscapes_cons (by decide) rest
      rw [groupBody]
      refine .closed (fun place h => ?_) ?_
      · obtain ⟨hinside, hopens, _⟩ := h
        rw [hblank] at hinside hopens
        cases place with
        | zero => simp at hopens
        | succ place => exact not_staysOpen_closing _ _ hinside
      · rw [hblank]
        exact not_staysOpen_closing _ _
  | case5 offset rest outer ih =>
      rw [groupBody_closing]
      exact ih.prepend
        (carries_single (by decide) (staysOpen_closing outer _) fun h => absurd h (by decide)) _
  | case6 depth offset rest hquestion ih =>
      rw [groupBody_opening hquestion]
      exact ih.prepend (carries_single (by decide) (staysOpen_opening depth _) fun _ => hquestion) _
  | case7 depth offset rest hquestion =>
      have hfirst : FirstCapture depth ('(' :: rest) 0 := by
        refine ⟨⟨fun place hplace => ?_, ?_, ?_⟩, fun earlier hlt => absurd hlt (Nat.not_lt_zero _)⟩
        · simp [Nat.le_zero.mp hplace]
        · rw [blankEscapes_cons (by decide), List.getElem?_cons_zero]
        · simpa [List.head?_eq_getElem?] using hquestion
      rw [groupBody, if_neg hquestion]
      exact .captures hfirst
  | case8 depth offset c rest hlone hescape hclose hopen ih =>
      have hbackslash : c ≠ '\\' := by
        rintro rfl
        cases rest with
        | nil => exact hlone rfl rfl
        | cons first others => exact hescape first others rfl rfl
      rw [groupBody_plain ⟨hbackslash, hopen, hclose⟩]
      exact ih.prepend
        (carries_single hbackslash (staysOpen_plain hopen hclose depth _) fun h => absurd h hopen) _

/-- What an expression is like leaves no choice in the error about it. -/
theorem BodyRead.eq_error {depth offset : Nat} {text : List Char} {error : ScanError}
    {answer : Except ScanError (List Char)} (h : BodyRead depth offset text (.error error))
    (hanswer : BodyRead depth offset text answer) : answer = .error error := by
  cases h with
  | unclosed hnone hopen =>
      cases hanswer with
      | closed _ hcloses => exact absurd hopen hcloses
      | unclosed _ _ => rfl
      | captures hfirst => exact absurd hfirst.captures (hnone _)
  | captures hfirst =>
      cases hanswer with
      | closed hnone _ => exact absurd hfirst.captures (hnone _)
      | unclosed hnone _ => exact absurd hfirst.captures (hnone _)
      | captures hother => rw [hfirst.unique hother]

end RoutePattern
