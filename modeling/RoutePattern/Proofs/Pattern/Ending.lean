import RoutePattern.Proofs.Pattern.Division

/-!
# The end of a pattern

Behind its parts the expression of a pattern has a fixed end, which depends on the options alone.
`passes_closedItems` and `passes_openItems` say exactly where it passes: with a delimiter or without
one, up to a place where the text ends or one of the characters stands that count as an end. No group
and no final choice is part of it.
-/

namespace RoutePattern

open RoutePattern.Expr

variable {options : Options} {p q : Place} {M N : Marks}

/-! ## Alternatives for the end -/

/-- Tests on one character each, and the end of the text behind them. -/
def endingWith (tests : List CharTest) : List (List Expr) :=
  tests.map (fun test => [.char test]) ++ [[.anchor .textEnd]]

/-- The further tests that count as an end. -/
def Options.endTests (options : Options) : List CharTest :=
  if options.endsWith.isEmpty then [] else [options.endTest]

/-- What counts as the end are the further tests and the end of the text. -/
theorem endBranches_eq (options : Options) : options.endBranches = endingWith options.endTests := by
  unfold Options.endBranches Options.endTests
  split <;> rfl

/-- The end of the text is no character, so the alternatives do not become a set. -/
theorem allMembers?_endingWith (tests : List CharTest) :
    Alternation.allMembers? (endingWith tests) = none := by
  induction tests with
  | nil => rfl
  | cons test rest ih =>
      show (do return (← Alternation.members? [.char test]) ++
        (← Alternation.allMembers? (endingWith rest))) = none
      rw [ih]
      cases Alternation.members? [.char test] <;> rfl

/-- Alternatives that end in the end of the text are put together as they are. -/
theorem ofBranches_endingWith (fold : Fold) (tests : List CharTest) :
    tests = [] ∧ Alternation.ofBranches fold (endingWith tests) = [.anchor .textEnd] ∨
      Alternation.ofBranches fold (endingWith tests) = [Alternation.choice (endingWith tests)] := by
  cases tests with
  | nil => exact .inl ⟨rfl, rfl⟩
  | cons test rest =>
      refine .inr ?_
      have hnone := allMembers?_endingWith (test :: rest)
      have hne : endingWith rest ≠ [] := by simp [endingWith]
      have hlead : Alternation.splitLead [.char test] (endingWith rest) =
          ([], endingWith (test :: rest)) := by
        rw [Alternation.splitLead, if_neg]
        · rfl
        · simp [endingWith]
      show Alternation.ofBranches fold ([.char test] :: endingWith rest) = _
      cases hrest : endingWith rest with
      | nil => exact absurd hrest hne
      | cons branch others =>
          rw [Alternation.ofBranches]
          · rw [← hrest, hlead]
            dsimp only
            rw [hnone]
            rfl
          · simp

/-- A text ends at a place, or one of some tests accepts the next character. -/
def Place.EndsBy (tests : List CharTest) (p : Place) : Prop :=
  p.after = [] ∨ ∃ test ∈ tests, (p.step test).isSome = true

/-- The end of the text holds just there. -/
theorem passes_textEnd : (Expr.anchor .textEnd).Passes p M q N ↔ q = p ∧ N = M ∧ p.after = [] := by
  show Anchor.holds .textEnd p = true ∧ q = p ∧ N = M ↔ _
  rw [Anchor.holds, List.isEmpty_iff]
  tauto

/-- A choice of ends passes by one of the tests, or at the end of the text. -/
theorem passes_choice_endingWith {tests : List CharTest} :
    (Alternation.choice (endingWith tests)).Passes p M q N ↔
      N = M ∧ (q = p ∧ p.after = [] ∨ ∃ test ∈ tests, p.step test = some q) := by
  induction tests with
  | nil =>
      show (Expr.anchor .textEnd).Passes p M q N ∨ False ↔ _
      rw [passes_textEnd]
      simp only [or_false, List.not_mem_nil, false_and, exists_false]
      tauto
  | cons test rest ih =>
      show (p.step test = some q ∧ N = M) ∨ (Alternation.choice (endingWith rest)).Passes p M q N ↔ _
      rw [ih, List.exists_mem_cons_iff]
      tauto

/-- A look-ahead for an end passes where there is one. -/
theorem passes_lookFor {tests : List CharTest} :
    (options.lookFor (endingWith tests)).Passes p M q N ↔ q = p ∧ N = M ∧ p.EndsBy tests := by
  show (q = p ∧ if true = true then ∃ r, _ else _) ↔ _
  rw [if_pos rfl]
  refine and_congr_right fun _ => ?_
  rcases ofBranches_endingWith options.flags.fold tests with ⟨rfl, heq⟩ | heq
  · rw [heq]
    simp only [ofList, passes_textEnd, Place.EndsBy, List.not_mem_nil, false_and, exists_false,
      or_false, exists_eq_left]
  · rw [heq]
    simp only [ofList, passes_choice_endingWith, Place.EndsBy, Option.isSome_iff_exists]
    constructor
    · rintro ⟨r, rfl, ⟨_, hend⟩ | ⟨test, htest, hstep⟩⟩
      · exact ⟨rfl, .inl hend⟩
      · exact ⟨rfl, .inr ⟨test, htest, r, hstep⟩⟩
    · rintro ⟨rfl, hend | ⟨test, htest, r, hstep⟩⟩
      · exact ⟨p, rfl, .inl ⟨rfl, hend⟩⟩
      · exact ⟨r, rfl, .inr ⟨test, htest, hstep⟩⟩

/-! ## Behind the parts -/

/-- Where a match has to reach the end, a delimiter may stand in front of it unless that is
refused. -/
theorem passes_closedItems : (ofList options.closedItems).Passes p M q N ↔
    N = M ∧ (q = p ∨ options.strict = false ∧ p.step options.delimiterTest = some q) ∧
      q.EndsBy options.endTests := by
  have hdelimiter {r : Place} {L : Marks} : (ofList (if options.strict then [] else
      [.loop .greedy 0 (some 1) (.char options.delimiterTest)])).Passes p M r L ↔
        L = M ∧ (r = p ∨ options.strict = false ∧ p.step options.delimiterTest = some r) := by
    split
    · next hstrict =>
        show r = p ∧ L = M ↔ _
        simp [hstrict, and_comm]
    · next hstrict =>
        show (loop .greedy 0 (some 1) (.char options.delimiterTest)).Passes p M r L ↔ _
        rw [passes_optional]
        show r = p ∧ L = M ∨ p.step options.delimiterTest = some r ∧ L = M ↔ _
        simp only [hstrict, true_and]
        tauto
  have hend {r : Place} {L : Marks} : (ofList (if options.endsWith.isEmpty then [.anchor .textEnd]
      else [options.lookFor options.endBranches])).Passes r L q N ↔
        q = r ∧ N = L ∧ r.EndsBy options.endTests := by
    rw [endBranches_eq]
    split
    · next hempty =>
        show (Expr.anchor .textEnd).Passes r L q N ↔ _
        rw [passes_textEnd, Options.endTests, if_pos hempty]
        simp [Place.EndsBy]
    · exact passes_lookFor
  rw [Options.closedItems, passes_ofList_append]
  simp only [hdelimiter, hend]
  constructor
  · rintro ⟨r, L, ⟨rfl, hstep⟩, rfl, rfl, hends⟩
    exact ⟨rfl, hstep, hends⟩
  · rintro ⟨rfl, hstep, hends⟩
    exact ⟨q, _, ⟨rfl, hstep⟩, rfl, rfl, hends⟩

/-- Where a match may end at any delimiter, the last one may be read if an end stands behind it.
Unless the parts end in a delimiter, another one stands there, or an end does. -/
theorem passes_openItems {isDelimited : Bool} :
    (ofList (options.openItems isDelimited)).Passes p M q N ↔
      N = M ∧ (q = p ∨ options.strict = false ∧ p.step options.delimiterTest = some q ∧
        q.EndsBy options.endTests) ∧
      (isDelimited = true ∨ q.EndsBy (options.delimiterTest :: options.endTests)) := by
  have hdelimiter {r : Place} {L : Marks} : (ofList (if options.strict then [] else
      [.loop .greedy 0 (some 1) (.ofList [.char options.delimiterTest,
        options.lookFor options.endBranches])])).Passes p M r L ↔
      L = M ∧ (r = p ∨ options.strict = false ∧ p.step options.delimiterTest = some r ∧
        r.EndsBy options.endTests) := by
    split
    · next hstrict =>
        show r = p ∧ L = M ↔ _
        simp [hstrict, and_comm]
    · next hstrict =>
        show (loop .greedy 0 (some 1) (.seq (.char options.delimiterTest)
          (options.lookFor options.endBranches))).Passes p M r L ↔ _
        rw [passes_optional, endBranches_eq]
        show r = p ∧ L = M ∨ (∃ s K, (p.step options.delimiterTest = some s ∧ K = M) ∧
          (options.lookFor (endingWith options.endTests)).Passes s K r L) ↔ _
        simp only [passes_lookFor, hstrict, true_and]
        constructor
        · rintro (⟨rfl, rfl⟩ | ⟨s, K, ⟨hstep, rfl⟩, rfl, rfl, hends⟩)
          · exact ⟨rfl, .inl rfl⟩
          · exact ⟨rfl, .inr ⟨hstep, hends⟩⟩
        · rintro ⟨rfl, rfl | ⟨hstep, hends⟩⟩
          · exact .inl ⟨rfl, rfl⟩
          · exact .inr ⟨r, L, ⟨hstep, rfl⟩, rfl, rfl, hends⟩
  have hend {r : Place} {L : Marks} : (ofList (if isDelimited then [] else
      [options.lookFor ([.char options.delimiterTest] :: options.endBranches)])).Passes r L q N ↔
        q = r ∧ N = L ∧
          (isDelimited = true ∨ r.EndsBy (options.delimiterTest :: options.endTests)) := by
    rw [endBranches_eq]
    split
    · next hdelimited =>
        show q = r ∧ N = L ↔ _
        simp [hdelimited]
    · next hdelimited =>
        simp only [hdelimited, Bool.false_eq_true, false_or]
        exact @passes_lookFor _ _ _ _ _ (options.delimiterTest :: options.endTests)
  rw [Options.openItems, passes_ofList_append]
  simp only [hdelimiter, hend]
  constructor
  · rintro ⟨r, L, ⟨rfl, hstep⟩, rfl, rfl, hends⟩
    exact ⟨rfl, hstep, hends⟩
  · rintro ⟨rfl, hstep, hends⟩
    exact ⟨q, _, ⟨rfl, hstep⟩, rfl, rfl, hends⟩

/-- At the end of a text, what comes behind the parts passes without reading any more. -/
theorem passes_ending (options : Options) (parts : List Part) {p : Place} (hafter : p.after = [])
    (M : Marks) : (ofList (if options.anchorEnd then options.closedItems
      else options.openItems (endsDelimited options parts))).Passes p M p M := by
  split
  · exact passes_closedItems.mpr ⟨rfl, .inl rfl, .inl hafter⟩
  · exact passes_openItems.mpr ⟨rfl, .inl rfl, .inr (.inl hafter)⟩

/-- Being direct is kept. -/
theorem hereditary_direct : Hereditary Direct where
  row := direct_ofList.mpr
  char _ := trivial
  anchor _ := trivial
  group _ _ h := h
  loop _ _ _ h := ⟨by simp, h⟩
  ahead h := ⟨rfl, h⟩
  branches _ _ h := direct_ofBranches _ h

end RoutePattern
