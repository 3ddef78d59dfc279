import RoutePattern.Proofs.Expr.Alternatives
import RoutePattern.Proofs.Expr.Searching

/-!
# What comes behind a match

Running an expression finds what its continuation accepts and nothing else, whatever the expression
refers to or tries once and for all. So the last expressions of a row decide where its match ends
(`passes_of_run_append`), and a row with other last expressions matches wherever the first one does,
if they accept more (`Eases.succeeds`). For both, the continuations have to treat memories with the
same marks alike, as expressions without groups do (`Groupfree.same_run`).
-/

namespace RoutePattern

/-- Two attempts have been decided, or they have both failed with the same marks. -/
def Attempt.Same (decided : Attempt → Attempt → Prop) (attempt other : Attempt) : Prop :=
  decided attempt other ∨
    ∃ later later', attempt = .failed later ∧ other = .failed later' ∧ later'.marks = later.marks

/-- Searches in one text with the same marks. -/
def Pairing.sharing (text : List Char) : Pairing where
  count := 0
  holds _ := True
  within place := place.whole = text
  holds_take _ _ _ _ := trivial
  within_of_whole _ _ hplace hwhole := hwhole.trans hplace

/-- Searches that leave the marks as they are. -/
def Pairing.keeping (marks : Marks) : Pairing where
  count := 0
  holds other := other = marks
  within _ := True
  holds_take := by
    rintro later earlier rfl rfl
    exact List.take_length
  within_of_whole _ _ _ _ := trivial

namespace Expr

variable {e : Expr} {looped : Bool} {next : Option CharTest} {p q : Place} {memory memory' : Memory}
  {k k' : Continuation} {M N : Marks}

/-- Two searches with the same marks end alike if what comes behind them does. -/
theorem same_run (e : Expr) (looped : Bool) (next : Option CharTest) (p : Place)
    (k k' : Continuation) (decided : Attempt → Attempt → Prop) (hfinal : Attempt.Final decided)
    (hk : ∀ q later later', q.whole = p.whole → later'.marks = later.marks →
      (k q later).Same decided (k' q later'))
    (hmemory : memory'.marks = memory.marks) :
    (e.run looped next p memory k).Same decided (e.run looped next p memory' k') := by
  have hcoupled := run_coupled (P := .sharing p.whole) (e := e) (.inl rfl)
    (.inr fun _ _ _ _ => trivial) looped next false decided hfinal p memory memory' k k' rfl
    ⟨by rw [hmemory]; exact (shiftMarks_zero _).symm, trivial, by simp⟩ ?_
  · rw [show (Pairing.sharing p.whole).count = 0 from rfl, shift_zero] at hcoupled
    generalize e.run looped next p memory k = attempt at hcoupled
    generalize e.run looped next p memory' k' = other at hcoupled
    cases hcoupled with
    | decided h => exact .inl h
    | failed h => exact .inr ⟨_, _, rfl, rfl, h.marks.trans (shiftMarks_zero _)⟩
  · intro q later later' hq hlater
    obtain h | ⟨last, last', hfirst, hsecond, hmarks⟩ :=
      hk q later later' hq (hlater.marks.trans (shiftMarks_zero _))
    · exact .decided h
    · rw [hfirst, hsecond]
      exact .failed ⟨hmarks.trans (shiftMarks_zero _).symm, trivial, by simp⟩

/-- An expression without groups leaves the marks as they are, whether it matches or fails. -/
theorem once_keeps_marks (hcaptures : e.captures = []) :
    (e.run looped next p memory Matching.accept).Ends (fun later => later.marks = memory.marks)
      fun later => later.marks = memory.marks := by
  have hfinal : Attempt.Final fun attempt _ => ∃ later, attempt = .found later ∧
      later.marks = memory.marks := by
    rintro _ _ _ _ ⟨later, rfl, hmarks⟩
    exact ⟨later, rfl, hmarks⟩
  have hcoupled := run_coupled (P := .keeping memory.marks) (e := e) (.inl rfl) (.inl hcaptures)
    looped next false _ hfinal p memory memory Matching.accept Matching.accept trivial
    ⟨(shiftMarks_zero _).symm, rfl, by simp⟩
    (fun q later _ _ hlater => .decided ⟨later.moveTo q, rfl, hlater.holds⟩)
  rw [show (Pairing.keeping memory.marks).count = 0 from rfl, shift_zero] at hcoupled
  generalize e.run looped next p memory Matching.accept = attempt at hcoupled
  cases hcoupled with
  | decided h =>
      obtain ⟨later, rfl, hmarks⟩ := h
      exact hmarks
  | failed h => exact h.holds

/-- An expression without groups leaves the marks as they are where it fails. -/
theorem marks_of_run_failed (hcaptures : e.captures = []) {later : Memory}
    (h : e.run looped next p memory Matching.accept = .failed later) :
    later.marks = memory.marks := by
  have hkeeps := @once_keeps_marks e looped next p memory hcaptures
  rw [h] at hkeeps
  exact hkeeps

/-- An expression without groups matches by a passage. -/
theorem Groupfree.passes_of_run (h : e.Groupfree) {last : Memory}
    (hrun : e.run false next p memory Matching.accept = .found last) :
    e.Passes p memory.marks last.cursor last.marks := by
  -- The cursor of the memory may be anywhere, but the match does not depend on it.
  have hmirrors := run_mirrors h.2 0 false false next p memory (memory.moveTo p) _ _
    ⟨(shiftMarks_zero _).symm, by simp⟩ Matching.accept_mirrors
  have hfits := fits_of_captures h.1 false (Nat.le_refl memory.marks.length)
  have hends := run_follows hfits next p (memory.moveTo p) Matching.accept
    (fun later => e.Passes p memory.marks later.cursor later.marks) rfl rfl (fun _ => Nat.le_refl _)
    (fun q later hpasses _ _ => hpasses)
  rw [shift_zero, hrun] at hmirrors
  generalize e.run false next p (memory.moveTo p) Matching.accept = attempt at hmirrors hends
  cases attempt with
  | found later =>
      have hsame : later.Mirrors 0 true last := ⟨?_, fun _ => ?_⟩
      · rw [hsame.marks, shiftMarks_zero, hsame.cursor rfl]
        exact hends
      · rw [shiftMarks_zero, Memory.Mirrors.marks hmirrors, shiftMarks_zero]
      · exact (Memory.Mirrors.cursor hmirrors rfl).symm
  | failed later => exact hmirrors.elim

/-! ## The end of a row -/

/-- A row of expressions begins with the test that its first part leads to. -/
theorem lead_ofList_append (first second : List Expr) (next : Option CharTest) :
    (ofList (first ++ second)).lead next = (ofList first).lead ((ofList second).lead next) := by
  induction first with
  | nil => rfl
  | cons e rest ih =>
      have hcons (others : List Expr) (after : Option CharTest) :
          (ofList (e :: others)).lead after = e.lead ((ofList others).lead after) := by
        cases others <;> rfl
      rw [List.cons_append, hcons, hcons, ih]

/-- A row of expressions is run by running its first part and then its second. -/
theorem run_ofList_append (looped : Bool) (next : Option CharTest) (first second : List Expr)
    (p : Place) (memory : Memory) (k : Continuation) :
    (ofList (first ++ second)).run looped next p memory k =
      (ofList first).run looped ((ofList second).lead next) p memory fun later memory =>
        (ofList second).run looped next later memory k := by
  induction first generalizing p memory with
  | nil => rfl
  | cons e rest ih =>
      rw [List.cons_append, run_ofList_cons, run_ofList_cons, lead_ofList_append]
      congr 1
      funext later memory
      exact ih later memory

/-- Where a row of expressions has matched, its last expressions have passed to the end of the
match. -/
theorem passes_of_run_append {first second : List Expr} (hsecond : (ofList second).Groupfree)
    {last : Memory}
    (h : (ofList (first ++ second)).run false none p memory Matching.accept = .found last) :
    ∃ q M N, q.whole = p.whole ∧ (ofList second).Passes q M last.cursor N := by
  rw [run_ofList_append] at h
  -- It does not matter what the other search finds: it fails whenever it is asked.
  have hsame := same_run (ofList first) false ((ofList second).lead none) p
    (fun later memory => (ofList second).run false none later memory Matching.accept)
    (fun _ memory => .failed memory)
    (fun attempt _ => ∃ last, attempt = .found last ∧
      ∃ q M N, q.whole = p.whole ∧ (ofList second).Passes q M last.cursor N)
    ?_ ?_ (rfl : memory.marks = memory.marks)
  · rw [h] at hsame
    rcases hsame with ⟨last', hlast, hpasses⟩ | ⟨_, _, hfailed, _⟩
    · cases hlast
      exact hpasses
    · cases hfailed
  · rintro _ _ _ _ ⟨last, rfl, hpasses⟩
    exact ⟨last, rfl, hpasses⟩
  · intro q later later' hq hmarks
    cases hrun : (ofList second).run false none q later Matching.accept with
    | found last => exact .inl ⟨last, rfl, q, _, _, hq, hsecond.passes_of_run hrun⟩
    | failed last =>
        exact .inr ⟨last, later', rfl, rfl, hmarks.trans (marks_of_run_failed hsecond.1 hrun).symm⟩

/-- Expressions in a row accept wherever others do: both have no groups, they begin with the same
test, and the later ones are direct and lead on from where the others pass. -/
structure Eases (second other : List Expr) : Prop where
  groupfree : (ofList second).Groupfree
  groupfree_other : (ofList other).Groupfree
  direct : (ofList other).Direct
  lead : (ofList other).lead none = (ofList second).lead none
  leads : ∀ p M q N, (ofList second).Passes p M q N → ∃ r, (ofList other).Leads p r

/-- A row of expressions matches where one with a stricter end does. -/
theorem Eases.succeeds {second other : List Expr} (h : Eases second other) {first : List Expr}
    (hrun : ((ofList (first ++ second)).run false none p memory Matching.accept).Succeeds) :
    ((ofList (first ++ other)).run false none p memory Matching.accept).Succeeds := by
  rw [run_ofList_append] at hrun ⊢
  rw [h.lead]
  have hsame := same_run (ofList first) false ((ofList second).lead none) p
    (fun later memory => (ofList second).run false none later memory Matching.accept)
    (fun later memory => (ofList other).run false none later memory Matching.accept)
    (fun _ attempt => attempt.Succeeds) ?_ ?_ (rfl : memory.marks = memory.marks)
  · rcases hsame with hsucceeds | ⟨_, _, hfailed, _⟩
    · exact hsucceeds
    · rw [hfailed] at hrun
      exact hrun.elim
  · exact fun _ _ _ next hsucceeds => Attempt.Succeeds.orElse hsucceeds next
  · intro q later later' hq hmarks
    cases hother : (ofList other).run false none q later' Matching.accept with
    | found last => exact .inl trivial
    | failed last' =>
        cases hsecond : (ofList second).run false none q later Matching.accept with
        | found last =>
            -- The first row leads on from here, so the other one does, and running it finds that.
            obtain ⟨r, hleads⟩ := h.leads _ _ _ _ (h.groupfree.passes_of_run hsecond)
            have hfinds := run_finds h.direct false none q r Matching.accept
              ⟨hleads, r.admits_none⟩ (fun _ => trivial) later'
            rw [hother] at hfinds
            exact hfinds.elim
        | failed last =>
            refine .inr ⟨last, last', rfl, rfl, ?_⟩
            rw [marks_of_run_failed h.groupfree_other.1 hother,
              marks_of_run_failed h.groupfree.1 hsecond, hmarks]

end Expr

end RoutePattern
