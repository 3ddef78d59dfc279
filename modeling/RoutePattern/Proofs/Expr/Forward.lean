import RoutePattern.Proofs.Expr.Following
import RoutePattern.Proofs.Expr.Regular
import RoutePattern.Proofs.Expr.Renumbering

/-!
# Matches are as long as the width says

A search leaves out places with too few characters behind them (`Expr.roomNeeded`), and it may do so
because a match is at least as long as the least width of the expression. `run_advances` says so of
an expression whose possessive repetitions do not look back. Such a repetition goes on from where
its last attempt has left the cursor, even though that attempt has failed, and only a look-behind
leaves the cursor in front of the place where the attempt began.
-/

namespace RoutePattern

/-- A place of a text that is not in front of an offset. -/
structure Place.Beyond (text : List Char) (low : Nat) (place : Place) : Prop where
  whole : place.whole = text
  low : low ≤ place.offset

/-- A memory whose cursor is not in front of an offset. -/
def Memory.Beyond (text : List Char) (low : Nat) (memory : Memory) : Prop :=
  memory.cursor.Beyond text low

/-- An attempt that leaves the cursor behind an offset, whether it succeeds or not, and a match that
it finds behind another one. -/
abbrev Attempt.Beyond (text : List Char) (found low : Nat) (attempt : Attempt) : Prop :=
  attempt.Ends (Memory.Beyond text found) (Memory.Beyond text low)

/-- A way to match hands on only places that are at least a number of characters ahead, as long as
the cursor is not in front of an offset, and it keeps the cursor there. -/
def Matching.Advances (text : List Char) (low least : Nat) (body : Matching) : Prop :=
  ∀ (place : Place) (memory : Memory) (k : Continuation) (found : Nat), place.Beyond text low →
    memory.Beyond text low →
    (∀ q later, q.Beyond text (place.offset + least) → later.Beyond text low →
      (k q later).Beyond text found low) →
    (body place memory k).Beyond text found low

section

variable {text : List Char} {low least found : Nat} {p q : Place} {memory : Memory}

namespace Place

/-- What is behind an offset is behind an earlier one. -/
theorem Beyond.mono {high : Nat} (h : q.Beyond text high) (hle : low ≤ high) :
    q.Beyond text low :=
  ⟨h.whole, Nat.le_trans hle h.low⟩

/-- A place is behind its own offset. -/
theorem Beyond.here (h : p.Beyond text low) : p.Beyond text p.offset :=
  ⟨h.whole, Nat.le_refl _⟩

/-- What is ahead of a place is behind the same offsets. -/
theorem Beyond.ahead {n : Nat} (hp : p.Beyond text low) (hq : q.Beyond text (p.offset + n)) :
    q.Beyond text low :=
  hq.mono (Nat.le_trans hp.low (Nat.le_add_right ..))

/-- A cursor that is moved behind an offset is there. -/
theorem Beyond.moveTo (h : p.Beyond text low) (memory : Memory) :
    (memory.moveTo p).Beyond text low :=
  h

/-- A place is in front of what is left of its text. -/
theorem offset_add_left (p : Place) : p.offset + p.left = p.whole.length := by
  rw [p.offset_eq, p.left_eq, whole, List.length_append, List.length_reverse]

/-- Steps lead as many characters ahead. -/
theorem StepsTo.offset {test : CharTest} {n : Nat} (h : StepsTo test n p q) :
    q.offset = p.offset + n := by
  have hp := p.offset_add_left
  have hq := q.offset_add_left
  have hleft := h.left
  rw [h.whole] at hq
  omega

/-- Steps lead behind where they begin. -/
theorem Beyond.stepsTo {test : CharTest} {n : Nat} (hp : p.Beyond text low)
    (h : StepsTo test n p q) : q.Beyond text (p.offset + n) :=
  ⟨h.whole.trans hp.whole, Nat.le_of_eq h.offset.symm⟩

end Place

namespace Matching

variable {body : Matching} {k : Continuation}

/-- What hands on places farther ahead hands on places ahead. -/
theorem Advances.mono {more : Nat} (h : Advances text low more body) (hle : least ≤ more) :
    Advances text low least body := by
  intro place memory k found hplace hmemory hk
  refine h place memory k found hplace hmemory fun q later hq => hk q later (hq.mono ?_)
  exact Nat.add_le_add_left hle _

/-- The first match alone is ahead, and the cursor stays behind where it was. -/
theorem once_beyond (hbody : Advances text low least body) (hp : p.Beyond text low) :
    (once body p memory).Beyond text (p.offset + least) low := by
  refine hbody p (memory.moveTo p) accept _ hp hp fun q later hq _ => ?_
  exact hq

/-! ## Repeating a single test -/

/-- Trying places in turn keeps the cursor behind an offset. -/
theorem firstOf_beyond {next : Option CharTest} {undo : Memory → Memory} {places : List Place}
    (hundo : ∀ later, (undo later).cursor = later.cursor)
    (hk : ∀ q ∈ places, q.Beyond text low ∧ ∀ later, later.Beyond text low →
      (k q later).Beyond text found low)
    (hmemory : memory.Beyond text low) :
    (firstOf next undo k places memory).Beyond text found low := by
  induction places generalizing memory with
  | nil => exact hmemory
  | cons place rest ih =>
      obtain ⟨⟨hplace, hfirst⟩, hrest⟩ := List.forall_mem_cons.mp hk
      rw [firstOf]
      split
      · exact ih hrest hmemory
      · refine (hfirst _ (hplace.moveTo memory)).orElse fun later hlater => ih hrest ?_
        unfold Memory.Beyond
        rwa [hundo]

/-- Trying a place and those behind it keeps the cursor behind an offset. -/
theorem advancing_beyond {test : CharTest} {undo : Memory → Memory} {room : Nat}
    (hp : p.Beyond text low)
    (hk : ∀ q later, q.Beyond text p.offset → later.Beyond text low →
      (k q later).Beyond text found low) :
    (advancing test undo k room p memory).Beyond text found low := by
  have hahead {p next : Place} (hp : p.Beyond text low) (hstep : p.step test = some next) :
      next.Beyond text (p.offset + 1) :=
    hp.stepsTo (n := 1) ⟨next, hstep, rfl⟩
  have hreached {p next : Place} {later : Memory} (hp : p.Beyond text low)
      (hstep : p.step test = some next) : Memory.Beyond text low
        (if test.isFolded then ((undo later).moveTo p).moveTo next
          else (undo later).moveTo p) := by
    split
    · exact (hahead hp hstep).mono (Nat.le_succ_of_le hp.low)
    · exact hp
  induction room generalizing p memory with
  | zero =>
      rw [advancing]
      refine (hk p _ hp.here (hp.moveTo memory)).orElse fun later _ => ?_
      dsimp only
      cases hstep : p.step test with
      | none => exact hp
      | some next => exact hreached hp hstep
  | succ room ih =>
      rw [advancing]
      refine (hk p _ hp.here (hp.moveTo memory)).orElse fun later _ => ?_
      dsimp only
      cases hstep : p.step test with
      | none => exact hp
      | some next =>
          have hnext := hahead hp hstep
          refine ih (hnext.mono (Nat.le_succ_of_le hp.low)) fun q later hq => hk q later ?_
          exact hq.mono (Nat.le_trans (Nat.le_succ _) hnext.low)

/-- Repeating a single test takes a character for each of the least iterations. -/
theorem testTimes_advances (looped : Bool) (test : CharTest) (next : Option CharTest)
    (greed : Greed) (most : Option Nat) :
    Advances text low least (testTimes looped test next greed least most) := by
  intro place memory k found hplace hmemory hk
  have hstart {n : Nat} {q : Place} (hsteps : Place.StepsTo test n place q) :
      Memory.Beyond text low (memory.moveTo (if test.isFolded then q else place)) := by
    split
    · exact hplace.ahead (hplace.stepsTo hsteps)
    · exact hplace
  unfold testTimes
  split
  case isFalse => exact hmemory
  cases greed with
  | greedy =>
      dsimp only
      obtain ⟨n, _, _, hsteps⟩ := headD_steps test most place
      split
      · exact hstart hsteps
      · refine firstOf_beyond (fun _ => rfl) (fun q hq => ?_) (hstart hsteps)
        obtain ⟨m, hleast, _, hsteps⟩ := Place.mem_steps_take_iff.mp hq
        have hq := hplace.stepsTo hsteps
        refine ⟨hplace.ahead hq, fun later => hk q later ?_⟩
        exact hq.mono (Nat.add_le_add_left hleast _)
  | lazy =>
      dsimp only
      obtain ⟨n, hlong, hn, hsteps⟩ := headD_leastSteps test least place
      generalize (if least = 0 then [place] else place.steps test (some least)) = reach at *
      split
      · exact hstart hsteps
      · next hmany =>
        have hreached := hplace.stepsTo hsteps
        refine advancing_beyond (hplace.ahead hreached) fun q later hq => hk q later (hq.mono ?_)
        exact Nat.le_trans (Nat.add_le_add_left (by omega) _) hreached.low
  | possessive =>
      dsimp only
      obtain ⟨n, hlong, _, hsteps⟩ := headD_steps test most place
      split
      · exact hstart hsteps
      · next hmany =>
        refine hk _ _ ((hplace.stepsTo hsteps).mono ?_) (hstart hsteps)
        exact Nat.add_le_add_left (by omega) _

/-! ## Repeating any other expression -/

/-- Required iterations take as many characters as each of them. -/
theorem required_advances {last : Matching} (hbody : Advances text low least body)
    (hlast : Advances text low 0 last) (count : Nat) :
    Advances text low (least * count) (required body last count) := by
  induction count with
  | zero => exact hlast
  | succ count ih =>
      intro place memory k found hplace hmemory hk
      rw [required]
      refine (hbody place _ _ found hplace (hplace.moveTo _) ?_).orElse fun later _ => hplace
      intro later memory hlater hmemory
      refine ih later memory k found (hplace.ahead hlater) hmemory ?_
      refine fun q last hq => hk q last (hq.mono ?_)
      rw [Nat.mul_succ]
      have := hlater.low
      omega

/-- Further iterations, most first, do not lead back. -/
theorem greedily_advances (hbody : Advances text low least body) (room : Nat)
    (start : Option Place) : Advances text low 0 (greedily body room start) := by
  induction room generalizing start with
  | zero =>
      intro place memory k found hplace _ hk
      rw [greedily]
      exact (hk place _ hplace.here (hplace.moveTo _)).orElse fun later _ => hplace
  | succ room ih =>
      intro place memory k found hplace _ hk
      have hfinish (later : Memory) :
          ((k place (later.moveTo place)).orElse fun last => .failed (last.moveTo place)).Beyond
            text found low :=
        (hk place _ hplace.here (hplace.moveTo _)).orElse fun later _ => hplace
      rw [greedily]
      dsimp only
      split
      · exact hfinish memory
      · refine (hbody place _ _ found hplace (hplace.moveTo _) ?_).orElse fun later _ => hfinish _
        intro later memory hlater hmemory
        have hahead := Nat.le_trans (Nat.le_add_right ..) hlater.low
        refine ih (some place) later memory k found (hplace.ahead hlater) hmemory ?_
        exact fun q last hq => hk q last (hq.mono hahead)

/-- Further iterations, least first, do not lead back. -/
theorem lazily_advances (looped : Bool) (hbody : Advances text low least body) (room : Nat)
    (start : Option Place) : Advances text low 0 (lazily looped body room start) := by
  induction room generalizing start with
  | zero =>
      intro place memory k found hplace _ hk
      rw [lazily]
      exact (hk place _ hplace.here (hplace.moveTo _)).orElse fun later _ => hplace
  | succ room ih =>
      intro place memory k found hplace _ hk
      rw [lazily]
      refine (hk place _ hplace.here (hplace.moveTo memory)).orElse fun later _ => ?_
      dsimp only
      split
      · exact hplace
      · refine (hbody place _ _ found hplace (hplace.moveTo _) ?_).orElse fun later _ => hplace
        intro later memory hlater hmemory
        have hahead := Nat.le_trans (Nat.le_add_right ..) hlater.low
        refine ih (some place) later memory k found (hplace.ahead hlater) hmemory ?_
        exact fun q last hq => hk q last (hq.mono hahead)

/-- First matches in a row take as many characters as each of them. -/
theorem onceTimes_beyond (hbody : ∀ low, Advances text low least body) {count : Nat}
    (hwhole : memory.cursor.whole = text) :
    (onceTimes body count memory).Beyond text (memory.cursor.offset + least * count)
      memory.cursor.offset := by
  induction count generalizing memory with
  | zero => exact ⟨hwhole, Nat.le_refl _⟩
  | succ count ih =>
      have honce := @once_beyond text _ _ _ memory _ (hbody memory.cursor.offset)
        ⟨hwhole, Nat.le_refl _⟩
      rw [onceTimes]
      cases hattempt : once body memory.cursor memory with
      | failed later =>
          rw [hattempt] at honce
          exact honce
      | found later =>
          rw [hattempt] at honce
          have hlow : memory.cursor.offset + least ≤ later.cursor.offset := Place.Beyond.low honce
          have hrest := ih (Place.Beyond.whole honce)
          dsimp only
          cases hlast : onceTimes body count later with
          | failed last =>
              rw [hlast] at hrest
              exact Place.Beyond.mono hrest (by omega)
          | found last =>
              rw [hlast] at hrest
              refine Place.Beyond.mono hrest ?_
              rw [Nat.mul_succ]
              omega

/-- As many first matches in a row as there are do not lead back, and neither does the attempt that
fails. -/
theorem onceMost_beyond (hbody : ∀ low, Advances text low least body) {room : Nat}
    {start : Option Place} (hwhole : memory.cursor.whole = text) :
    (onceMost body room start memory).Beyond text memory.cursor.offset := by
  induction room generalizing start memory with
  | zero => exact ⟨hwhole, Nat.le_refl _⟩
  | succ room ih =>
      rw [onceMost]
      split
      · exact ⟨hwhole, Nat.le_refl _⟩
      · have honce := @once_beyond text _ _ _ memory _ (hbody memory.cursor.offset)
          ⟨hwhole, Nat.le_refl _⟩
        cases hattempt : once body memory.cursor memory with
        | failed later =>
            rw [hattempt] at honce
            exact honce
        | found later =>
            rw [hattempt] at honce
            have hlow : memory.cursor.offset + least ≤ later.cursor.offset :=
              Place.Beyond.low honce
            exact Place.Beyond.mono (ih (Place.Beyond.whole honce)) (by omega)

/-- A repetition takes as many characters as its least iterations. A possessive one does so if its
body keeps the cursor behind every place. -/
theorem times_advances (looped : Bool) {greed : Greed} (hbody : Advances text low least body)
    (hpossessive : greed = .possessive → ∀ low, Advances text low least body) (count : Nat)
    (most : Option Nat) :
    Advances text low (least * count) (times looped body greed count most) := by
  intro place memory k found hplace hmemory hk
  unfold times
  dsimp only
  generalize (most.map (· - count)).getD (iterationBound place) = room
  cases greed with
  | greedy =>
      exact required_advances hbody (greedily_advances hbody room none) count place memory k found
        hplace hmemory hk
  | lazy =>
      exact required_advances hbody (lazily_advances looped hbody room none) count place memory k
        found hplace hmemory hk
  | possessive =>
      have honce := @onceTimes_beyond text _ _ _ (hpossessive rfl) count
        (show (memory.moveTo place).cursor.whole = text from hplace.whole)
      cases hattempt : onceTimes body count (memory.moveTo place) with
      | failed later => exact hplace
      | found later =>
          rw [hattempt] at honce
          have hlow : place.offset + least * count ≤ later.cursor.offset := Place.Beyond.low honce
          have hlast := @onceMost_beyond text _ _ _ (hpossessive rfl) room none
            (Place.Beyond.whole honce)
          refine hk _ _ (Place.Beyond.mono hlast hlow) (Place.Beyond.mono hlast ?_)
          have := hplace.low
          omega

/-- One way or else another takes as many characters as either of them. -/
theorem orElse_advances (looped : Bool) (test : Option CharTest) {second : Matching}
    (hbody : Advances text low least body) (hsecond : Advances text low least second) :
    Advances text low least (orElse looped test body second) := by
  intro place memory k found hplace hmemory hk
  unfold orElse
  refine Attempt.Ends.orElse (Attempt.Ends.orElse ?_
    fun later (hlater : later.Beyond text low) => ?_) fun later hlater => hlater
  · split
    · exact hmemory
    · exact hbody place _ k found hplace hplace hk
  · exact hsecond place _ k found hplace hlater hk

/-- What looks for a match or for none stays where it is. -/
theorem looking_beyond {attempt : Attempt} {looped positive : Bool} {other : Nat}
    (hattempt : attempt.Beyond text other low) (hle : low ≤ other)
    (hk : ∀ later, later.Beyond text low → (k p later).Beyond text found low) :
    (if positive then asserting p k attempt else denying looped p memory k attempt).Beyond text
      found low := by
  cases positive <;> cases attempt
  · exact Place.Beyond.mono hattempt hle
  · exact hk _ hattempt
  · exact hk _ (Place.Beyond.mono hattempt hle)
  · exact hattempt

end Matching

end

/-! ## Expressions -/

namespace Expr

/-- Whether there is a look-behind in an expression. -/
def looksBack : Expr → Bool
  | empty | never | char _ | anchor _ | backref _ _ _ => false
  | seq first second | either first second | ifGroup _ first second =>
      first.looksBack || second.looksBack
  | group _ body | loop _ _ _ body | atomic body | ahead _ body => body.looksBack
  | behind _ _ _ => true

/-- There is no look-behind in a possessive repetition. -/
def Forward : Expr → Prop
  | empty | never | char _ | anchor _ | backref _ _ _ => True
  | seq first second | either first second | ifGroup _ first second =>
      first.Forward ∧ second.Forward
  | group _ body | atomic body | ahead _ body | behind _ _ body => body.Forward
  | loop greed _ _ body => (greed = .possessive → body.looksBack = false) ∧ body.Forward

/-- Expressions in a row have no look-behind in a possessive repetition if none of them has. -/
theorem forward_ofList {items : List Expr} : (ofList items).Forward ↔ ∀ e ∈ items, e.Forward :=
  forall_ofList trivial fun _ _ => Iff.rfl

/-- Alternatives put together have no look-behind in a possessive repetition if none of them has. -/
theorem forward_ofBranches (fold : Fold) {branches : List (List Expr)}
    (h : ∀ branch ∈ branches, ∀ e ∈ branch, e.Forward) :
    ∀ e ∈ Alternation.ofBranches fold branches, e.Forward := by
  refine Alternation.forall_mem_ofBranches fold (fun _ _ _ _ => trivial) (fun tails htails => ?_) h
  exact Alternation.choice_of_branches trivial (fun _ _ => And.intro) fun tail htail =>
    forward_ofList.mpr (htails tail htail)

/-- A test that is all there is to an expression takes one character. -/
theorem width_le_of_soleTest? {e : Expr} {test : CharTest} (h : e.soleTest? = some test) :
    e.width.least ≤ 1 := by
  fun_induction soleTest? e with
  | case1 => exact Nat.min_le_left ..
  | case2 e ih => exact Nat.le_trans (Nat.min_le_left ..) (ih h)
  | case3 => simp at h

section

variable {text : List Char} {low : Nat} {looped : Bool} {next : Option CharTest} {body : Expr}

/-- Two expressions in a row take as many characters as both of them. -/
theorem seq_advances {first second : Expr}
    (hfirst : Matching.Advances text low first.width.least (first.run looped (second.lead next)))
    (hsecond : Matching.Advances text low second.width.least (second.run looped next)) :
    Matching.Advances text low (seq first second).width.least
      ((seq first second).run looped next) := by
  intro place memory k found hplace hmemory hk
  have hwidth : (seq first second).width.least ≤ first.width.least + second.width.least :=
    Nat.min_le_left ..
  rw [run]
  refine hfirst place memory _ found hplace hmemory fun later memory hlater hmemory => ?_
  refine hsecond later memory k found (hplace.ahead hlater) hmemory fun q last hq => ?_
  have := hlater.low
  exact hk q last (hq.mono (by omega))

/-- A choice takes as many characters as each of its sides that can match at all. -/
theorem either_advances {first second : Expr}
    (hfirst : Matching.Advances text low first.width.least (first.run looped none))
    (hsecond : Matching.Advances text low second.width.least (second.run looped none)) :
    Matching.Advances text low (either first second).width.least
      ((either first second).run looped next) := by
  obtain ⟨hwidth, hwidth'⟩ := width_either_le first second
  refine Matching.orElse_advances looped _ (hfirst.mono hwidth) ?_
  by_cases hnever : second = never
  · subst hnever
    intro place memory k found _ hmemory _
    exact hmemory
  · exact hsecond.mono (hwidth' hnever)

/-- A repetition takes as many characters as its least iterations. A possessive one does so if its
body keeps the cursor behind every place. -/
theorem loop_advances {greed : Greed} {least : Nat} {most : Option Nat}
    (hbody : Matching.Advances text low body.width.least
      (body.run (looped || greed != .possessive) none))
    (hpossessive : greed = .possessive → ∀ low, Matching.Advances text low body.width.least
      (body.run (looped || greed != .possessive) none)) :
    Matching.Advances text low (loop greed least most body).width.least
      ((loop greed least most body).run looped next) := by
  intro place memory k found hplace hmemory hk
  have hwidth : (loop greed least most body).width.least ≤ body.width.least * least :=
    Nat.min_le_left ..
  rw [run]
  cases hsole : body.soleTest? with
  | some test =>
      refine (Matching.testTimes_advances looped test next greed most).mono
        (Nat.le_trans hwidth ?_) place memory k found hplace hmemory hk
      exact Nat.le_trans (Nat.mul_le_mul_right _ (width_le_of_soleTest? hsole))
        (Nat.le_of_eq (Nat.one_mul _))
  | none =>
      exact (Matching.times_advances looped hbody hpossessive least most).mono hwidth place memory k
        found hplace hmemory hk

/-- What is matched once and for all takes as many characters as its body. -/
theorem atomic_advances
    (hbody : Matching.Advances text low body.width.least (body.run looped none)) :
    Matching.Advances text low (atomic body).width.least ((atomic body).run looped next) := by
  intro place memory k found hplace hmemory hk
  have honce := @Matching.once_beyond text _ _ _ memory _ hbody hplace
  rw [run]
  cases hattempt : Matching.once (body.run looped none) place memory with
  | failed later => exact hplace
  | found later =>
      rw [hattempt] at honce
      exact hk _ _ honce (hplace.ahead honce)

/-- A look-behind stays where it is. It may move the cursor back, but not out of the text. -/
theorem behind_advances {positive : Bool} {width : Width}
    (hbody : Matching.Advances text 0 body.width.least (body.run looped none)) :
    Matching.Advances text 0 (behind positive width body).width.least
      ((behind positive width body).run looped next) := by
  intro place memory k found hplace hmemory hk
  have hstay := fun later => hk place later hplace.here
  rw [run]
  cases hback : place.back width.least with
  | none =>
      dsimp only
      split
      · exact hmemory
      · exact hstay memory hmemory
  | some start =>
      have hstart : start.Beyond text 0 :=
        ⟨(Place.whole_of_back hback).trans hplace.whole, Nat.zero_le _⟩
      exact Matching.looking_beyond (Matching.once_beyond hbody hstart) (Nat.zero_le _) hstay

end

/-- Running an expression takes at least as many characters as its width says. Without a look-behind
it does not move the cursor back in front of any place, either. -/
theorem run_advances {text : List Char} {e : Expr} (href : e.Unreferring) (h : e.Forward)
    (looped : Bool) (next : Option CharTest) {low : Nat}
    (hlow : low = 0 ∨ e.looksBack = false) :
    Matching.Advances text low e.width.least (e.run looped next) := by
  induction e generalizing looped next low with
  | empty =>
      intro place memory k found hplace hmemory hk
      exact hk place memory hplace.here hmemory
  | never =>
      intro place memory k found _ hmemory _
      exact hmemory
  | char test =>
      intro place memory k found hplace hmemory hk
      rw [run]
      cases hstep : place.step test with
      | none => exact hmemory
      | some later =>
          exact hk later memory (hplace.stepsTo (n := 1) ⟨later, hstep, rfl⟩) hmemory
  | anchor condition =>
      intro place memory k found hplace hmemory hk
      rw [run]
      split
      · exact hk place memory hplace.here hmemory
      · exact hmemory
  | seq first second ihfirst ihsecond =>
      simp only [looksBack, Bool.or_eq_false_iff] at hlow
      exact seq_advances (ihfirst href.1 h.1 looped _ (hlow.imp_right And.left))
        (ihsecond href.2 h.2 looped next (hlow.imp_right And.right))
  | either first second ihfirst ihsecond =>
      simp only [looksBack, Bool.or_eq_false_iff] at hlow
      exact either_advances (ihfirst href.1 h.1 looped none (hlow.imp_right And.left))
        (ihsecond href.2 h.2 looped none (hlow.imp_right And.right))
  | group number body ih =>
      intro place memory k found hplace hmemory hk
      rw [run]
      exact ih href.2 h looped none hlow place _ _ found hplace hmemory
        fun later memory hlater hmemory => hk later _ hlater hmemory
  | loop greed least most body ih =>
      refine loop_advances (ih href h.2 _ none hlow) fun hgreed low => ?_
      exact ih href h.2 _ none (.inr (h.1 hgreed))
  | atomic body ih => exact atomic_advances (ih href h looped none hlow)
  | ahead positive body ih =>
      intro place memory k found hplace hmemory hk
      rw [run]
      refine Matching.looking_beyond (Matching.once_beyond (ih href h looped none hlow) hplace)
        (Nat.le_trans hplace.low (Nat.le_add_right ..)) fun later => ?_
      exact hk place later hplace.here
  | behind positive width body ih =>
      obtain rfl : low = 0 := hlow.resolve_right (by simp [looksBack])
      exact behind_advances (ih href h looped none (.inl rfl))
  | backref | ifGroup => exact href.elim

end Expr

end RoutePattern
