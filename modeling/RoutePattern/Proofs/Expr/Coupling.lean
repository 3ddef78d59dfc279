import RoutePattern.Proofs.Expr.Following
import RoutePattern.Proofs.Expr.Renumbering

/-!
# Two searches side by side

Two searches with the same expression, or with one whose groups have been renumbered, treat their
memories alike as long as what comes behind the match treats them alike. A `Pairing` says what their
memories have in common. It leaves open what becomes of the two searches once the continuations have
decided: a relation between attempts that a further attempt cannot change (`Attempt.Final`). The
main result is `run_coupled`, an induction on the expression with one lemma for each way to repeat a
match; the relation is chosen anew where a match is tried once and for all.

`run_mirrors` is the case of an expression behind other groups: its match is the same, with the marks
at other places.
-/

namespace RoutePattern

/-- What the memories of two searches have in common, and in what text they search. The second
search has as many groups more in front of its own. -/
structure Pairing where
  count : Nat
  holds : Marks → Prop
  within : Place → Prop
  holds_take : ∀ marks earlier, holds marks → holds earlier → holds (marks.take earlier.length)
  within_of_whole : ∀ place other, within place → other.whole = place.whole → within other

/-- The memories of two searches side by side. If they are exactly so, the two cursors are at the
same place. -/
structure Memory.Coupled (P : Pairing) (exact : Bool) (memory other : Memory) : Prop where
  marks : other.marks = shiftMarks P.count memory.marks
  holds : P.holds memory.marks
  cursor : exact = true → other.cursor = memory.cursor ∧ P.within memory.cursor

/-- Two attempts that have been decided, or that have both failed with their memories side by
side. -/
inductive Attempt.Coupled (P : Pairing) (exact : Bool) (decided : Attempt → Attempt → Prop) :
    Attempt → Attempt → Prop
  | decided {attempt other : Attempt} (h : decided attempt other) :
      Coupled P exact decided attempt other
  | failed {memory other : Memory} (h : memory.Coupled P exact other) :
      Coupled P exact decided (.failed memory) (.failed other)

/-- What is decided about two attempts stays so if others are made after them. -/
def Attempt.Final (decided : Attempt → Attempt → Prop) : Prop :=
  ∀ attempt other next next', decided attempt other →
    decided (attempt.orElse next) (other.orElse next')

/-- Two continuations treat memories side by side alike. -/
def Continuation.Coupled (P : Pairing) (exact : Bool) (decided : Attempt → Attempt → Prop)
    (k other : Continuation) : Prop :=
  ∀ place memory memory', P.within place → memory.Coupled P exact memory' →
    (k place memory).Coupled P exact decided (other place memory')

/-- Two ways to match treat memories side by side alike if what comes behind them does. -/
def Matching.Coupled (P : Pairing) (body other : Matching) : Prop :=
  ∀ exact decided, Attempt.Final decided → ∀ place memory memory' k k', P.within place →
    memory.Coupled P exact memory' → Continuation.Coupled P exact decided k k' →
      (body place memory k).Coupled P exact decided (other place memory' k')

/-- Two attempts that have succeeded with their memories exactly side by side. -/
def Attempt.Joint (P : Pairing) : Attempt → Attempt → Prop
  | .found memory, .found other => memory.Coupled P true other
  | _, _ => False

section

variable {P : Pairing} {exact looped : Bool} {decided : Attempt → Attempt → Prop}
  {memory memory' earlier earlier' : Memory}

namespace Memory.Coupled

/-- Memories that are exactly side by side are so in any case. -/
theorem weaken (h : memory.Coupled P true memory') : memory.Coupled P exact memory' :=
  ⟨h.marks, h.holds, fun _ => h.cursor rfl⟩

/-- With both cursors moved to one place the memories are exactly side by side. -/
theorem moveTo (h : memory.Coupled P exact memory') {place : Place} (hplace : P.within place)
    {exact' : Bool} : (memory.moveTo place).Coupled P exact' (memory'.moveTo place) :=
  ⟨h.marks, h.holds, fun _ => ⟨rfl, hplace⟩⟩

/-- Undoing goes back to memories side by side. -/
theorem undoSince (h : memory.Coupled P exact memory') {exact' : Bool}
    (hearlier : earlier.Coupled P exact' earlier') :
    (memory.undoSince earlier looped).Coupled P exact (memory'.undoSince earlier' looped) where
  marks := by
    unfold Memory.undoSince
    cases looped with
    | true => exact hearlier.marks
    | false =>
        show memory'.marks.take earlier'.marks.length = _
        rw [h.marks, hearlier.marks, take_shiftMarks]
        rfl
  holds := by
    cases looped with
    | true => exact hearlier.holds
    | false => exact P.holds_take _ _ h.holds hearlier.holds
  cursor := h.cursor

/-- Noting a mark keeps memories side by side, if it keeps what they have in common. -/
theorem mark (h : memory.Coupled P exact memory') (number : Nat) (place : Place)
    (hholds : P.holds (putMark memory.marks number place)) :
    (memory.mark number place).Coupled P exact (memory'.mark (2 * P.count + number) place) where
  marks := by rw [marks_mark, marks_mark, h.marks, putMark_shiftMarks]
  holds := by rwa [marks_mark]
  cursor := h.cursor

/-- With no groups in front a reference has the same text. -/
theorem reference?_eq (h : memory.Coupled P exact memory') (hzero : P.count = 0) (number : Nat) :
    memory'.reference? number = memory.reference? number := by
  have hmarks := h.marks
  rw [hzero, shiftMarks_zero] at hmarks
  unfold Memory.reference? Memory.span?
  rw [hmarks]

end Memory.Coupled

namespace Attempt

/-- Matches found side by side stay what they are. -/
theorem final_joint (P : Pairing) : Final (Joint P) := by
  intro attempt other next next' h
  cases attempt <;> cases other <;> first | exact h | exact h.elim

/-- Attempts after failed ones are side by side if they are so for memories side by side. -/
theorem Coupled.orElse {attempt attempt' : Attempt} {next next' : Memory → Attempt}
    {exact' : Bool} (hfinal : Final decided) (h : attempt.Coupled P exact decided attempt')
    (hnext : ∀ later later', later.Coupled P exact later' →
      (next later).Coupled P exact' decided (next' later')) :
    (attempt.orElse next).Coupled P exact' decided (attempt'.orElse next') := by
  cases h with
  | decided h => exact .decided (hfinal _ _ _ _ h)
  | failed h => exact hnext _ _ h

/-- Attempts that are made once and for all both succeed or both fail. -/
theorem Coupled.cases_joint {attempt attempt' : Attempt}
    (h : attempt.Coupled P true (Joint P) attempt') :
    (∃ later later', attempt = .found later ∧ attempt' = .found later' ∧
        later.Coupled P true later') ∨
      ∃ later later', attempt = .failed later ∧ attempt' = .failed later' ∧
        later.Coupled P true later' := by
  cases h with
  | @decided attempt attempt' h =>
      cases attempt <;> cases attempt'
      · exact .inl ⟨_, _, rfl, rfl, h⟩
      all_goals exact h.elim
  | failed h => exact .inr ⟨_, _, rfl, rfl, h⟩

end Attempt

namespace Matching

variable {body body' : Matching} {k k' : Continuation} {place : Place}

/-- A match is accepted in the same way. -/
theorem accept_coupled : Continuation.Coupled P true (Attempt.Joint P) accept accept :=
  fun _ _ _ hplace h => .decided (h.moveTo hplace)

/-- The first match alone is exactly the same, wherever the cursors are. -/
theorem once_coupled (hbody : Coupled P body body') (h : memory.Coupled P exact memory')
    (hplace : P.within place) :
    (once body place memory).Coupled P true (Attempt.Joint P) (once body' place memory') :=
  hbody true _ (Attempt.final_joint P) place _ _ accept accept hplace (h.moveTo hplace)
    accept_coupled

/-! ## Repeating a single test -/

/-- Steps stay within the text. -/
theorem within_of_stepsTo {test : CharTest} {n : Nat} {other : Place} (hplace : P.within place)
    (h : Place.StepsTo test n place other) : P.within other :=
  P.within_of_whole place other hplace h.whole

/-- A single step stays within the text. -/
theorem within_of_step {test : CharTest} {other : Place} (hplace : P.within place)
    (h : place.step test = some other) : P.within other := by
  have hsteps : Place.StepsTo test 1 place other := ⟨other, h, rfl⟩
  exact within_of_stepsTo hplace hsteps

/-- Places are tried in turn in the same way. -/
theorem firstOf_coupled (hfinal : Attempt.Final decided) {next : Option CharTest}
    {undo undo' : Memory → Memory}
    (hundo : ∀ later later', later.Coupled P exact later' →
      (undo later).Coupled P exact (undo' later'))
    (hk : Continuation.Coupled P exact decided k k') {places : List Place}
    (hplaces : ∀ place ∈ places, P.within place) (h : memory.Coupled P exact memory') :
    (firstOf next undo k places memory).Coupled P exact decided
      (firstOf next undo' k' places memory') := by
  induction places generalizing memory memory' with
  | nil => exact .failed h
  | cons place rest ih =>
      obtain ⟨hplace, hrest⟩ := List.forall_mem_cons.mp hplaces
      rw [firstOf, firstOf]
      split
      · exact ih hrest h
      · refine (hk place _ _ hplace (h.moveTo hplace)).orElse hfinal fun later later' hlater => ?_
        exact ih hrest (hundo later later' hlater)

/-- A place and those behind it are tried in the same way. -/
theorem advancing_coupled (hfinal : Attempt.Final decided) {test : CharTest}
    {undo undo' : Memory → Memory}
    (hundo : ∀ later later', later.Coupled P exact later' →
      (undo later).Coupled P exact (undo' later'))
    (hk : Continuation.Coupled P exact decided k k') {room : Nat} (hplace : P.within place)
    (h : memory.Coupled P exact memory') :
    (advancing test undo k room place memory).Coupled P exact decided
      (advancing test undo' k' room place memory') := by
  induction room generalizing place memory memory' with
  | zero =>
      rw [advancing, advancing]
      refine (hk place _ _ hplace (h.moveTo hplace)).orElse hfinal fun later later' hlater => ?_
      have hundone : Memory.Coupled P exact _ _ := (hundo later later' hlater).moveTo hplace
      dsimp only
      cases hstep : place.step test with
      | none => exact .failed hundone
      | some next =>
          have hnext := within_of_step hplace hstep
          dsimp only
          split
          · exact .failed (hundone.moveTo hnext)
          · exact .failed hundone
  | succ room ih =>
      rw [advancing, advancing]
      refine (hk place _ _ hplace (h.moveTo hplace)).orElse hfinal fun later later' hlater => ?_
      have hundone : Memory.Coupled P exact _ _ := (hundo later later' hlater).moveTo hplace
      dsimp only
      cases hstep : place.step test with
      | none => exact .failed hundone
      | some next =>
          have hnext := within_of_step hplace hstep
          refine ih hnext ?_
          split
          · exact hundone.moveTo hnext
          · exact hundone

/-- A single test is repeated in the same way. -/
theorem testTimes_coupled (test : CharTest) (next : Option CharTest) (greed : Greed) (least : Nat)
    (most : Option Nat) : Coupled P (testTimes looped test next greed least most)
      (testTimes looped test next greed least most) := by
  intro exact decided hfinal place memory memory' k k' hplace h hk
  unfold testTimes
  split
  case isFalse => exact .failed h
  -- The cursors are moved to the same place first, so what is undone later is side by side.
  have hmoved {q : Place} (hq : P.within q) :
      Memory.Coupled P exact (memory.moveTo (if test.isFolded then q else place))
        (memory'.moveTo (if test.isFolded then q else place)) := by
    refine h.moveTo ?_
    split
    · exact hq
    · exact hplace
  cases greed with
  | greedy =>
      obtain ⟨_, _, _, hsteps⟩ := headD_steps test most place
      have hstart := hmoved (within_of_stepsTo hplace hsteps)
      dsimp only
      split
      · exact .failed hstart
      · refine firstOf_coupled hfinal (fun _ _ hlater => hlater.undoSince hstart) hk ?_ hstart
        intro q hq
        obtain ⟨_, _, _, hsteps⟩ := Place.mem_steps_take_iff.mp hq
        exact within_of_stepsTo hplace hsteps
  | lazy =>
      obtain ⟨_, _, _, hsteps⟩ := headD_leastSteps test least place
      dsimp only
      generalize (if least = 0 then [place] else place.steps test (some least)) = reach at *
      have hhead := within_of_stepsTo hplace hsteps
      have hstart := hmoved hhead
      split
      · exact .failed hstart
      · exact advancing_coupled hfinal (fun _ _ hlater => hlater.undoSince hstart) hk hhead hstart
  | possessive =>
      obtain ⟨_, _, _, hsteps⟩ := headD_steps test most place
      have hhead := within_of_stepsTo hplace hsteps
      dsimp only
      split
      · exact .failed (hmoved hhead)
      · exact hk _ _ _ hhead (hmoved hhead)

/-! ## Repeating any other expression -/

/-- Required iterations are matched in the same way. -/
theorem required_coupled {last last' : Matching} (hbody : Coupled P body body')
    (hlast : Coupled P last last') (iterations : Nat) :
    Coupled P (required body last iterations) (required body' last' iterations) := by
  induction iterations with
  | zero => exact hlast
  | succ iterations ih =>
      intro exact decided hfinal place memory memory' k k' hplace h hk
      rw [required, required]
      refine (hbody exact decided hfinal place _ _ _ _ hplace (h.moveTo hplace) ?_).orElse hfinal
        fun later later' hlater => .failed (hlater.moveTo hplace)
      exact fun next later later' hnext hlater =>
        ih exact decided hfinal next later later' k k' hnext hlater hk

/-- Further iterations, most first, are matched in the same way. -/
theorem greedily_coupled (hbody : Coupled P body body') (room : Nat) (start : Option Place) :
    Coupled P (greedily body room start) (greedily body' room start) := by
  induction room generalizing start with
  | zero =>
      intro exact decided hfinal place memory memory' k k' hplace h hk
      rw [greedily, greedily]
      exact (hk place _ _ hplace (h.moveTo hplace)).orElse hfinal
        fun later later' hlater => .failed (hlater.moveTo hplace)
  | succ room ih =>
      intro exact decided hfinal place memory memory' k k' hplace h hk
      have hfinish {later later' : Memory} (hlater : later.Coupled P exact later') :
          Attempt.Coupled P exact decided
            ((k place (later.moveTo place)).orElse fun last => .failed (last.moveTo place))
            ((k' place (later'.moveTo place)).orElse fun last => .failed (last.moveTo place)) :=
        (hk place _ _ hplace (hlater.moveTo hplace)).orElse hfinal
          fun last last' hlast => .failed (hlast.moveTo hplace)
      rw [greedily, greedily]
      dsimp only
      split
      · exact hfinish h
      · refine (hbody exact decided hfinal place _ _ _ _ hplace (h.moveTo hplace) ?_).orElse hfinal
          fun later later' hlater => hfinish (hlater.undoSince h)
        exact fun next later later' hnext hlater =>
          ih (some place) exact decided hfinal next later later' k k' hnext hlater hk

/-- Further iterations, least first, are matched in the same way. -/
theorem lazily_coupled (hbody : Coupled P body body') (room : Nat) (start : Option Place) :
    Coupled P (lazily looped body room start) (lazily looped body' room start) := by
  induction room generalizing start with
  | zero =>
      intro exact decided hfinal place memory memory' k k' hplace h hk
      rw [lazily, lazily]
      exact (hk place _ _ hplace (h.moveTo hplace)).orElse hfinal
        fun later later' hlater => .failed ((hlater.undoSince h).moveTo hplace)
  | succ room ih =>
      intro exact decided hfinal place memory memory' k k' hplace h hk
      rw [lazily, lazily]
      refine (hk place _ _ hplace (h.moveTo hplace)).orElse hfinal fun later later' hlater => ?_
      have hundone : Memory.Coupled P exact ((later.undoSince memory looped).moveTo place)
          ((later'.undoSince memory' looped).moveTo place) :=
        (hlater.undoSince h).moveTo hplace
      dsimp only
      split
      · exact .failed hundone
      · refine (hbody exact decided hfinal place _ _ _ _ hplace hundone ?_).orElse hfinal
          fun last last' hlast => .failed (hlast.moveTo hplace)
        exact fun next later later' hnext hlater =>
          ih (some place) exact decided hfinal next later later' k k' hnext hlater hk

/-- First matches in a row are exactly the same. -/
theorem onceTimes_coupled (hbody : Coupled P body body') {iterations : Nat}
    (h : memory.Coupled P true memory') :
    (onceTimes body iterations memory).Coupled P true (Attempt.Joint P)
      (onceTimes body' iterations memory') := by
  induction iterations generalizing memory memory' with
  | zero => exact .decided h
  | succ iterations ih =>
      obtain ⟨hcursor, hwithin⟩ := h.cursor rfl
      rw [onceTimes, onceTimes, hcursor]
      obtain ⟨_, _, hfirst, hsecond, hlater⟩ | ⟨_, _, hfirst, hsecond, hlater⟩ :=
        (once_coupled hbody h hwithin).cases_joint
      · rw [hfirst, hsecond]
        exact ih hlater
      · rw [hfirst, hsecond]
        exact .failed hlater

/-- As many first matches in a row as there are leave memories exactly side by side. -/
theorem onceMost_coupled (hbody : Coupled P body body') {room : Nat} {start : Option Place}
    (h : memory.Coupled P true memory') :
    (onceMost body room start memory).Coupled P true (onceMost body' room start memory') := by
  induction room generalizing start memory memory' with
  | zero => exact h
  | succ room ih =>
      obtain ⟨hcursor, hwithin⟩ := h.cursor rfl
      rw [onceMost, onceMost, hcursor]
      split
      · exact h
      · obtain ⟨_, _, hfirst, hsecond, hlater⟩ | ⟨_, _, hfirst, hsecond, hlater⟩ :=
          (once_coupled hbody h hwithin).cases_joint
        · rw [hfirst, hsecond]
          exact ih hlater
        · rw [hfirst, hsecond]
          exact hlater.undoSince h

/-- A repetition is matched in the same way. What a possessive one tries once and for all is exactly
the same. -/
theorem times_coupled (hbody : Coupled P body body') (greed : Greed) (least : Nat)
    (most : Option Nat) :
    Coupled P (times looped body greed least most) (times looped body' greed least most) := by
  intro exact decided hfinal place memory memory' k k' hplace h hk
  unfold times
  dsimp only
  generalize (most.map (· - least)).getD (iterationBound place) = room
  cases greed with
  | greedy =>
      exact required_coupled hbody (greedily_coupled hbody room none) least exact decided hfinal
        place memory memory' k k' hplace h hk
  | lazy =>
      exact required_coupled hbody (lazily_coupled hbody room none) least exact decided hfinal
        place memory memory' k k' hplace h hk
  | possessive =>
      obtain ⟨_, _, hfirst, hsecond, hlater⟩ | ⟨_, _, hfirst, hsecond, hlater⟩ :=
        (@onceTimes_coupled P _ _ _ _ hbody least (h.moveTo hplace)).cases_joint
      · have hlast := @onceMost_coupled P _ _ _ _ hbody room none hlater
        obtain ⟨hcursor, hwithin⟩ := hlast.cursor rfl
        rw [hfirst, hsecond]
        dsimp only
        rw [hcursor]
        exact hk _ _ _ hwithin hlast.weaken
      · rw [hfirst, hsecond]
        exact .failed (hlater.moveTo hplace)

/-- One way or else another is matched in the same way. -/
theorem orElse_coupled {second second' : Matching} (test : Option CharTest)
    (hfirst : Coupled P body body') (hsecond : Coupled P second second') :
    Coupled P (orElse looped test body second) (orElse looped test body' second') := by
  intro exact decided hfinal place memory memory' k k' hplace h hk
  have hway : Attempt.Coupled P exact decided
      (if test.any fun test => (place.step test).isNone then .failed memory
        else body place (memory.moveTo place) k)
      (if test.any fun test => (place.step test).isNone then .failed memory'
        else body' place (memory'.moveTo place) k') := by
    split
    · exact .failed h
    · exact hfirst exact decided hfinal place _ _ k k' hplace (h.moveTo hplace) hk
  have hother (later later' : Memory) (hlater : later.Coupled P exact later') :
      (second place (later.undoSince memory looped) k).Coupled P exact decided
        (second' place (later'.undoSince memory' looped) k') :=
    hsecond exact decided hfinal place _ _ k k' hplace (hlater.undoSince h) hk
  unfold orElse
  exact (hway.orElse hfinal hother).orElse hfinal
    fun later later' hlater => .failed (hlater.undoSince h)

/-- What looks for a match or for none goes on in the same way. -/
theorem looking_coupled {attempt attempt' : Attempt} (positive : Bool) (hplace : P.within place)
    (h : memory.Coupled P exact memory')
    (hattempt : attempt.Coupled P true (Attempt.Joint P) attempt')
    (hk : Continuation.Coupled P exact decided k k') :
    (if positive then asserting place k attempt
      else denying looped place memory k attempt).Coupled P exact decided
        (if positive then asserting place k' attempt'
          else denying looped place memory' k' attempt') := by
  obtain ⟨_, _, rfl, rfl, hlater⟩ | ⟨_, _, rfl, rfl, hlater⟩ := hattempt.cases_joint
  · cases positive with
    | true => exact hk place _ _ hplace hlater.weaken
    | false => exact .failed hlater.weaken
  · cases positive with
    | true => exact .failed hlater.weaken
    | false => exact hk place _ _ hplace (Memory.Coupled.undoSince hlater.weaken h)

end Matching

end

/-! ## Expressions -/

namespace Expr

section

variable {P : Pairing} {looped : Bool} {next : Option CharTest} {body body' : Expr}

/-- Two expressions in a row are matched in the same way if each of them is. -/
theorem seq_coupled {first first' second second' : Expr}
    (hlead : second'.lead next = second.lead next)
    (hfirst : Matching.Coupled P (first.run looped (second.lead next))
      (first'.run looped (second.lead next)))
    (hsecond : Matching.Coupled P (second.run looped next) (second'.run looped next)) :
    Matching.Coupled P ((seq first second).run looped next)
      ((seq first' second').run looped next) := by
  intro exact decided hfinal place memory memory' k k' hplace h hk
  rw [run, run, hlead]
  refine hfirst exact decided hfinal place _ _ _ _ hplace h ?_
  exact fun later memory memory' hlater hmemory =>
    hsecond exact decided hfinal later _ _ k k' hlater hmemory hk

/-- A group and the same one behind other groups are matched in the same way if their bodies are,
and if what the memories have in common outlives marks. With no groups in front the number stays,
whatever it is. -/
theorem group_coupled {number : Nat} (hnumber : P.count = 0 ∨ 0 < number)
    (hholds : ∀ marks number place, P.holds marks → P.holds (putMark marks number place))
    (hbody : Matching.Coupled P (body.run looped none) (body'.run looped none)) :
    Matching.Coupled P ((group number body).run looped next)
      ((group (P.count + number) body').run looped next) := by
  intro exact decided hfinal place memory memory' k k' hplace h hk
  have hindex : 2 * P.count + 2 * (number - 1) = 2 * (P.count + number - 1) := by
    rcases hnumber with hzero | hpos <;> omega
  have hbegin := h.mark (2 * (number - 1)) place (hholds _ _ _ h.holds)
  rw [hindex] at hbegin
  rw [run, run]
  refine hbody exact decided hfinal place _ _ _ _ hplace hbegin ?_
  intro later memory memory' hlater hmemory
  have hend := hmemory.mark (2 * (number - 1) + 1) later (hholds _ _ _ hmemory.holds)
  rw [← Nat.add_assoc, hindex] at hend
  exact hk later _ _ hlater hend

/-- What is matched once and for all is matched in the same way if the body is. -/
theorem atomic_coupled
    (hbody : Matching.Coupled P (body.run looped none) (body'.run looped none)) :
    Matching.Coupled P ((atomic body).run looped next) ((atomic body').run looped next) := by
  intro exact decided hfinal place memory memory' k k' hplace h hk
  rw [run, run]
  obtain ⟨_, _, hfirst, hsecond, hlater⟩ | ⟨_, _, hfirst, hsecond, hlater⟩ :=
    (Matching.once_coupled hbody h hplace).cases_joint
  · obtain ⟨hcursor, hwithin⟩ := hlater.cursor rfl
    rw [hfirst, hsecond]
    dsimp only
    rw [hcursor]
    exact hk _ _ _ hwithin hlater.weaken
  · rw [hfirst, hsecond]
    exact .failed (hlater.moveTo hplace)

/-- A look-behind is matched in the same way if its body is. -/
theorem behind_coupled {positive : Bool} {width : Width}
    (hbody : Matching.Coupled P (body.run looped none) (body'.run looped none)) :
    Matching.Coupled P ((behind positive width body).run looped next)
      ((behind positive width body').run looped next) := by
  intro exact decided hfinal place memory memory' k k' hplace h hk
  rw [run, run]
  cases hback : place.back width.least with
  | none =>
      dsimp only
      split
      · exact .failed h
      · exact hk place _ _ hplace h
  | some start =>
      have hstart := P.within_of_whole place start hplace (Place.whole_of_back hback)
      exact Matching.looking_coupled positive hplace h (Matching.once_coupled hbody h hstart) hk

end

/-- Running an expression, and the same one behind other groups, keeps memories side by side. If there
are other groups, none is referred to, and what the memories have in common outlives the marks that
the groups of the expression note. -/
theorem run_coupled {P : Pairing} {e : Expr} (hrefer : P.count = 0 ∨ e.Unreferring)
    (hnote : e.captures = [] ∨
      ∀ marks number place, P.holds marks → P.holds (putMark marks number place))
    (looped : Bool) (next : Option CharTest) :
    Matching.Coupled P (e.run looped next) ((e.shift P.count).run looped next) := by
  have hfront {first second : Expr} (h : first.captures ++ second.captures = []) :=
    (List.append_eq_nil_iff.mp h).1
  have hback {first second : Expr} (h : first.captures ++ second.captures = []) :=
    (List.append_eq_nil_iff.mp h).2
  induction e generalizing looped next with
  | empty =>
      intro exact decided hfinal place memory memory' k k' hplace h hk
      exact hk place _ _ hplace h
  | never =>
      intro exact decided hfinal place memory memory' k k' hplace h hk
      exact .failed h
  | char test =>
      intro exact decided hfinal place memory memory' k k' hplace h hk
      rw [shift, run, run]
      cases hstep : place.step test with
      | none => exact .failed h
      | some later => exact hk later _ _ (Matching.within_of_step hplace hstep) h
  | anchor condition =>
      intro exact decided hfinal place memory memory' k k' hplace h hk
      rw [shift, run, run]
      split
      · exact hk place _ _ hplace h
      · exact .failed h
  | seq first second ihfirst ihsecond =>
      exact seq_coupled (lead_shift _ _ _)
        (ihfirst (hrefer.imp_right And.left) (hnote.imp_left hfront) _ _)
        (ihsecond (hrefer.imp_right And.right) (hnote.imp_left hback) _ _)
  | either first second ihfirst ihsecond =>
      intro exact decided hfinal place memory memory' k k' hplace h hk
      rw [shift, run, run, lead_shift]
      exact Matching.orElse_coupled _
        (ihfirst (hrefer.imp_right And.left) (hnote.imp_left hfront) _ _)
        (ihsecond (hrefer.imp_right And.right) (hnote.imp_left hback) _ _)
        exact decided hfinal place _ _ k k' hplace h hk
  | group number body ih =>
      have hholds := hnote.resolve_left (by simp [captures])
      exact group_coupled (hrefer.imp_right And.left) hholds
        (ih (hrefer.imp_right And.right) (.inr hholds) _ _)
  | loop greed least most body ih =>
      intro exact decided hfinal place memory memory' k k' hplace h hk
      rw [shift, run, run, soleTest?_shift]
      cases body.soleTest? with
      | some test =>
          exact Matching.testTimes_coupled test next greed least most exact decided hfinal place _ _
            k k' hplace h hk
      | none =>
          exact Matching.times_coupled (ih hrefer hnote _ _) greed least most exact decided hfinal
            place _ _ k k' hplace h hk
  | atomic body ih => exact atomic_coupled (ih hrefer hnote looped none)
  | ahead positive body ih =>
      intro exact decided hfinal place memory memory' k k' hplace h hk
      exact Matching.looking_coupled positive hplace h
        (Matching.once_coupled (ih hrefer hnote looped none) h hplace) hk
  | behind positive width body ih => exact behind_coupled (ih hrefer hnote looped none)
  | backref number width fold =>
      intro exact decided hfinal place memory memory' k k' hplace h hk
      obtain hzero : P.count = 0 := hrefer.resolve_right id
      rw [hzero, shift_zero, run, run, h.reference?_eq hzero]
      cases hskip : (memory.reference? number).bind (place.skip fold) with
      | none => exact .failed h
      | some later =>
          obtain ⟨text, _, hlater⟩ := Option.bind_eq_some_iff.mp hskip
          exact hk later _ _ (P.within_of_whole place later hplace (Place.whole_of_skip hlater)) h
  | ifGroup number yes no ihyes ihno =>
      intro exact decided hfinal place memory memory' k k' hplace h hk
      obtain hzero : P.count = 0 := hrefer.resolve_right id
      have hyes := ihyes (.inl hzero) (hnote.imp_left hfront) looped
        (if no = empty then next else none)
      have hno := ihno (.inl hzero) (hnote.imp_left hback) looped next
      rw [hzero, shift_zero] at hyes hno ⊢
      rw [run, run, h.reference?_eq hzero]
      split
      · exact hyes exact decided hfinal place _ _ k k' hplace h hk
      · exact hno exact decided hfinal place _ _ k k' hplace h hk

end Expr

/-! ## Behind other groups -/

/-- The memory of a search in an expression, and of one in the same expression behind other groups.
If the relation is exact, the two cursors are at the same place. -/
structure Memory.Mirrors (count : Nat) (exact : Bool) (memory other : Memory) : Prop where
  marks : other.marks = shiftMarks count memory.marks
  cursor : exact = true → other.cursor = memory.cursor

/-- Two attempts end in the same way. Matches that are found end at the same place. -/
def Attempt.Mirrors (count : Nat) (exact : Bool) : Attempt → Attempt → Prop
  | .found memory, .found other => memory.Mirrors count true other
  | .failed memory, .failed other => memory.Mirrors count exact other
  | _, _ => False

/-- Two continuations treat memories side by side alike. -/
def Continuation.Mirrors (count : Nat) (exact : Bool) (k other : Continuation) : Prop :=
  ∀ place memory memory', memory.Mirrors count exact memory' →
    (k place memory).Mirrors count exact (other place memory')

/-- Two ways to match treat memories side by side alike. -/
def Matching.Mirrors (count : Nat) (exact : Bool) (body other : Matching) : Prop :=
  ∀ place memory memory' k k', memory.Mirrors count exact memory' →
    Continuation.Mirrors count exact k k' →
      (body place memory k).Mirrors count exact (other place memory' k')

/-- A match is accepted in the same way. -/
theorem Matching.accept_mirrors {count : Nat} {exact : Bool} :
    Continuation.Mirrors count exact accept accept :=
  fun _ _ _ h => ⟨h.marks, fun _ => rfl⟩

/-- Searches in an expression and in the same one behind other groups have nothing else in common. -/
def Pairing.behind (count : Nat) : Pairing where
  count
  holds _ := True
  within _ := True
  holds_take _ _ _ _ := trivial
  within_of_whole _ _ _ _ := trivial

section

variable {count : Nat} {exact : Bool}

/-- Memories are side by side behind other groups if the one mirrors the other. -/
theorem coupled_behind_iff {memory memory' : Memory} :
    memory.Coupled (.behind count) exact memory' ↔ memory.Mirrors count exact memory' :=
  ⟨fun h => ⟨h.marks, fun hexact => (h.cursor hexact).1⟩,
    fun h => ⟨h.marks, trivial, fun hexact => ⟨h.cursor hexact, trivial⟩⟩⟩

/-- Attempts are side by side behind other groups if the one mirrors the other. -/
theorem attempt_coupled_behind_iff {attempt attempt' : Attempt} :
    attempt.Coupled (.behind count) exact (Attempt.Joint (.behind count)) attempt' ↔
      attempt.Mirrors count exact attempt' := by
  constructor
  · intro h
    cases h with
    | @decided attempt attempt' h =>
        cases attempt <;> cases attempt'
        · exact coupled_behind_iff.mp h
        all_goals exact h.elim
    | failed h => exact coupled_behind_iff.mp h
  · intro h
    cases attempt <;> cases attempt'
    · exact .decided (coupled_behind_iff.mpr h)
    · exact h.elim
    · exact h.elim
    · exact .failed (coupled_behind_iff.mpr h)

/-- Running an expression and the same one behind other groups keeps memories side by side. -/
theorem Expr.run_mirrors {e : Expr} (h : e.Unreferring) (count : Nat) (exact looped : Bool)
    (next : Option CharTest) :
    Matching.Mirrors count exact (e.run looped next) ((e.shift count).run looped next) := by
  intro place memory memory' k k' hmemory hk
  have hcoupled := run_coupled (P := .behind count) (.inr h) (.inr fun _ _ _ _ => trivial) looped
    next exact _ (Attempt.final_joint _) place memory memory' k k' trivial
    (coupled_behind_iff.mpr hmemory) fun place memory memory' _ hmemory =>
      attempt_coupled_behind_iff.mpr (hk place memory memory' (coupled_behind_iff.mp hmemory))
  exact attempt_coupled_behind_iff.mp hcoupled

end

end RoutePattern
