import RoutePattern.Proofs.Expr.Coupling
import RoutePattern.Proofs.Expr.Opening
import RoutePattern.Proofs.Expr.Stretch

/-!
# The first alternative that matches

`Expr.hit?` is the match of an expression from a given place on. Alternatives that are put together
match as the first of them that does: `hit?_ofBranches` is the main result. What all of them begin
with is matched once instead of once for each, and single characters are matched by one set, which
accepts what they do as long as no upper-case letter beyond the basic plane is among them.
-/

namespace RoutePattern

/-- The memory of a successful attempt. -/
def Attempt.found? : Attempt → Option Memory
  | .found memory => some memory
  | .failed _ => none

/-- A memory with as many groups more in front of its own. -/
def Memory.shift (count : Nat) (memory : Memory) : Memory :=
  { memory with marks := shiftMarks count memory.marks }

namespace Memory

/-- The spans of the first groups. -/
def spans (memory : Memory) (groups : Nat) : List (Option (Place × Place)) :=
  (List.range groups).map fun index => memory.span? (index + 1)

/-- Further groups in front and behind have no spans. -/
theorem spans_shift {memory : Memory} {groups : Nat} (h : memory.marks.length ≤ 2 * groups)
    (front behind : Nat) : (memory.shift front).spans (front + groups + behind) =
      List.replicate front none ++ memory.spans groups ++ List.replicate behind none := by
  have hspan (number : Nat) : (memory.shift front).span? number =
      spanOf (shiftMarks front memory.marks) number :=
    span?_eq _ _
  have hfront : ∀ index ∈ List.range front, (memory.shift front).span? (index + 1) = none := by
    intro index hindex
    rw [List.mem_range] at hindex
    rw [hspan, spanOf, markAt_shiftMarks_of_lt (by omega)]
    rfl
  have hmiddle (index : Nat) : (memory.shift front).span? (front + index + 1) =
      memory.span? (index + 1) := by
    rw [hspan, span?_eq, spanOf, spanOf, ← markAt_shiftMarks front (2 * (index + 1 - 1)),
      ← markAt_shiftMarks front (2 * (index + 1 - 1) + 1)]
    simp only [Nat.add_sub_cancel, Nat.mul_add, ← Nat.add_assoc]
  have hbehind (index : Nat) : memory.span? (groups + index + 1) = none := by
    have hnone : memory.marks[2 * (groups + index) + 1]? = none :=
      List.getElem?_eq_none (by omega)
    rw [span?_eq, spanOf, markAt, Nat.add_sub_cancel, hnone]
    rfl
  unfold spans
  rw [List.range_add, List.range_add, List.map_append, List.map_append, List.map_map, List.map_map]
  congr 1
  · congr 1
    · rw [List.map_congr_left hfront]
      simp
    · exact List.map_congr_left fun index _ => hmiddle index
  · have hnone : ∀ index ∈ List.range behind,
        ((fun index => (memory.shift front).span? (index + 1)) ∘ (front + groups + ·)) index =
          none := by
      intro index _
      rw [Function.comp_apply, Nat.add_assoc front, hmiddle, hbehind]
    rw [List.map_congr_left hnone]
    simp

end Memory

/-- What is found behind other groups is what is found without them. -/
theorem Attempt.Mirrors.found? {count : Nat} {exact : Bool} {attempt other : Attempt}
    (h : attempt.Mirrors count exact other) :
    other.found? = attempt.found?.map (Memory.shift count) := by
  cases attempt <;> cases other
  · next memory memory' =>
    obtain ⟨cursor, marks⟩ := memory'
    obtain rfl : cursor = memory.cursor := Memory.Mirrors.cursor h rfl
    obtain rfl : marks = shiftMarks count memory.marks := Memory.Mirrors.marks h
    rfl
  · exact h.elim
  · exact h.elim
  · rfl

namespace Expr

/-- The match of an expression from a place on, if there is one: the memory that it leaves. -/
def hit? (e : Expr) (place : Place) : Option Memory :=
  (e.run false none place { cursor := place } Matching.accept).found?

variable {e : Expr} {place : Place} {memory : Memory} {fold : Fold}

/-- Behind other groups there is the same match. -/
theorem hit?_shift (h : e.Unreferring) (count : Nat) (place : Place) :
    (e.shift count).hit? place = (e.hit? place).map (Memory.shift count) :=
  (run_mirrors h count true false none place _ _ _ _ ⟨rfl, fun _ => rfl⟩
    Matching.accept_mirrors).found?

/-- The match does not depend on where the cursor has been. -/
theorem found?_run (h : e.Unreferring) (hmarks : memory.marks = []) :
    (e.run false none place memory Matching.accept).found? = e.hit? place := by
  have hmirrors := run_mirrors h 0 false false none place { cursor := place } memory _ _
    ⟨hmarks, by simp⟩ Matching.accept_mirrors
  rw [shift_zero] at hmirrors
  rw [hmirrors.found?, hit?]
  have hid : Memory.shift 0 = id := by
    funext memory
    simp [Memory.shift]
  rw [hid, Option.map_id_fun, id_eq]

/-! ## Expressions in a row -/

/-- The place behind an expression that is a single test or a condition. -/
def stepOver : Expr → Place → Option Place
  | char test, place => place.step test
  | anchor condition, place => if condition.holds place then some place else none
  | _, _ => none

/-- The place behind such expressions in a row. -/
def stepOverAll : List Expr → Place → Option Place
  | [], place => some place
  | e :: rest, place => (e.stepOver place).bind (stepOverAll rest)

/-- What begins with tests and conditions matches if the rest does behind them. -/
theorem hit?_lead {lead rest : List Expr}
    (hlead : ∀ e ∈ lead, Alternation.isSimple e = true ∧ e.Unreferring)
    (hrest : (ofList rest).Unreferring) (place : Place) :
    (ofList (lead ++ rest)).hit? place = (stepOverAll lead place).bind (ofList rest).hit? := by
  suffices hrun : ∀ memory : Memory, memory.marks = [] →
      ((ofList (lead ++ rest)).run false none place memory Matching.accept).found? =
        (stepOverAll lead place).bind (ofList rest).hit? from hrun _ rfl
  induction lead generalizing place with
  | nil => exact fun memory hmarks => found?_run hrest hmarks
  | cons e lead ih =>
      intro memory hmarks
      obtain ⟨⟨hsimple, href⟩, hmore⟩ := List.forall_mem_cons.mp hlead
      rw [List.cons_append, run_ofList_cons]
      cases e with
      | char test =>
          rw [run, stepOverAll, stepOver]
          cases hstep : place.step test with
          | none => rfl
          | some later => exact ih hmore later memory hmarks
      | anchor condition =>
          rw [run, stepOverAll, stepOver]
          split
          · exact ih hmore place memory hmarks
          · rfl
      | backref => exact href.elim
      | _ => simp [Alternation.isSimple] at hsimple

/-- The match of a single test is a step. -/
theorem hit?_char (test : CharTest) (place : Place) :
    (char test).hit? place = (place.step test).map fun later => { cursor := later } := by
  rw [hit?, run]
  cases place.step test <;> rfl

/-! ## Choices -/

/-- Where the test that an expression begins with does not hold, the expression does not match. It
may also be that there is nothing to the expression and the test comes behind it. -/
theorem run_of_lead {e : Expr} {after : Option CharTest} {test : CharTest}
    (hlead : e.lead after = some test) (hstep : place.step test = none) (looped : Bool)
    (next : Option CharTest) (memory : Memory) (k : Continuation) :
    (e.run looped next place memory k).found? = none ∨
      after = some test ∧ e.run looped next place memory k = k place memory := by
  induction e generalizing after next k with
  | empty => exact .inr ⟨hlead, rfl⟩
  | char other =>
      rw [lead, Option.ite_none_right_eq_some, Option.some.injEq] at hlead
      obtain ⟨_, rfl⟩ := hlead
      rw [run, hstep]
      exact .inl rfl
  | seq first second ihfirst ihsecond =>
      rw [lead] at hlead
      rw [run]
      rcases ihfirst hlead (second.lead next) _ with h | ⟨hsecond, h⟩
      · exact .inl h
      · rw [h]
        exact ihsecond hsecond next k
  | _ => simp [lead] at hlead

/-- Where the test that an expression begins with does not hold, there is no match. -/
theorem hit?_of_lead {test : CharTest} (hlead : e.lead none = some test)
    (hstep : place.step test = none) : e.hit? place = none := by
  rcases run_of_lead hlead hstep false none { cursor := place } Matching.accept with h | ⟨h, _⟩
  · exact h
  · simp at h

/-- A choice matches as its first branch that does. -/
theorem hit?_choice {branches : List (List Expr)}
    (h : ∀ branch ∈ branches, (ofList branch).Unreferring) (place : Place) :
    (Alternation.choice branches).hit? place =
      branches.findSome? fun branch => (ofList branch).hit? place := by
  suffices hrun : ∀ memory : Memory, memory.marks = [] →
      ((Alternation.choice branches).run false none place memory Matching.accept).found? =
        branches.findSome? fun branch => (ofList branch).hit? place from hrun _ rfl
  induction branches with
  | nil => exact fun memory _ => rfl
  | cons branch rest ih =>
      intro memory hmarks
      obtain ⟨hbranch, hrest⟩ := List.forall_mem_cons.mp h
      -- The attempt that is made with the test in front ends as the match of the branch.
      have hattempt : (if ((ofList branch).lead none).any fun test => (place.step test).isNone then
          .failed memory else (ofList branch).run false none place (memory.moveTo place)
            Matching.accept : Attempt).found? = (ofList branch).hit? place := by
        split
        · next htest =>
          obtain ⟨test, hlead, hnone⟩ := (Option.any_eq_true _ _).mp htest
          rw [hit?_of_lead hlead (Option.isNone_iff_eq_none.mp hnone)]
          rfl
        · exact found?_run hbranch hmarks
      rw [Alternation.choice, run, Matching.orElse, List.findSome?_cons, ← hattempt]
      generalize (if ((ofList branch).lead none).any fun test => (place.step test).isNone then
        .failed memory else (ofList branch).run false none place (memory.moveTo place)
          Matching.accept : Attempt) = attempt
      cases attempt with
      | found later => rfl
      | failed later =>
          have hundone : (later.undoSince memory false).marks = [] := by
            simp [Memory.undoSince, hmarks]
          rw [Attempt.orElse, ← ih hrest _ hundone]
          cases (Alternation.choice rest).run false none place (later.undoSince memory false)
            Matching.accept <;> rfl

end Expr

/-! ## Single characters as one set -/

namespace CharTest

/-- When case is ignored, a code point is not an upper-case letter beyond the basic plane. A set
holds no character for such a member. -/
def Settled (fold : Fold) (n : Nat) : Prop :=
  Member.firstSupplementary ≤ n → fold.lower n = n

/-- A test for one of some characters, put together under a fold, if it is not for all others. -/
def Merges (fold : Fold) : CharTest → Prop
  | literal code false fold' => fold' = fold ∧ Settled fold code
  | set members false fold' =>
      fold' = fold ∧ ∀ member ∈ members, ∃ n, member = .code n ∧ Settled fold n
  | _ => True

/-- Letters beyond the basic plane share their upper-case form with no others. -/
theorem sharing_eq_nil {n : Nat} (h : Member.firstSupplementary ≤ n) : sharing n = [] := by
  have hbasic : ∀ forms ∈ sharedForms, ∀ m ∈ forms, m < Member.firstSupplementary := by
    decide +kernel
  unfold sharing
  split
  · next forms hfind =>
    have hmem : n ∈ forms := by simpa using List.find?_some hfind
    exact absurd (hbasic forms (List.mem_of_find?_eq_some hfind) n hmem) (Nat.not_lt.mpr h)
  · rfl

/-- A member of a set that ignores case holds a settled code point where a test for it does. -/
theorem holdsFolded_code {n : Nat} (h : Settled .unicode n) (x : Nat) :
    (Member.code n).holdsFolded .unicode (lowerCode x) = sameCode .unicode n x := by
  unfold sameCode
  cases hcased : Fold.cased .unicode n with
  | false =>
      rw [Member.holdsFolded_lowerCode (by simp [Member.isPlain, hcased]) rfl, Member.holds]
      rfl
  | true =>
      rw [Member.holdsFolded]
      split
      · next hbeyond =>
        have hlower : lowerCode n = n := h hbeyond
        simp [Fold.lower, Fold.others, hlower, sharing_eq_nil hbeyond]
      · rfl

/-- A member that does not make its set ignore case holds what a test for its code point does. -/
theorem holds_code {fold : Fold} {n : Nat} (h : (Member.code n).folds fold = false) (x : Nat) :
    (Member.code n).holds x = sameCode fold n x := by
  have hcased : fold.cased n = false := by
    cases fold <;> simp_all [Member.folds, Fold.cased]
  simp [sameCode, hcased, Member.holds]

/-- Whether a code point equals that of a member. -/
def equalsMember (fold : Fold) (x : Nat) : Member → Bool
  | .code n => sameCode fold n x
  | _ => false

/-- A set of settled code points holds what equals one of them. -/
theorem amongMembers_codes {fold : Fold} (hfold : fold ≠ .ascii) {members : List Member}
    (h : ∀ member ∈ members, ∃ n, member = .code n ∧ Settled fold n) (x : Nat) :
    amongMembers fold members x = members.any (equalsMember fold x) := by
  unfold amongMembers
  split
  · next hfolds =>
    cases fold with
    | keep =>
        obtain ⟨member, _, hmember⟩ := List.any_eq_true.mp hfolds
        cases member <;> simp [Member.folds] at hmember
    | ascii => exact absurd rfl hfold
    | unicode =>
        rw [Bool.eq_iff_iff, List.any_eq_true, List.any_eq_true]
        refine exists_congr fun member => and_congr_right fun hmem => ?_
        obtain ⟨n, rfl, hsettled⟩ := h member hmem
        exact Bool.eq_iff_iff.mp (holdsFolded_code hsettled x)
  · next hfolds =>
    rw [Bool.eq_iff_iff, List.any_eq_true, List.any_eq_true]
    refine exists_congr fun member => and_congr_right fun hmem => ?_
    obtain ⟨n, rfl, _⟩ := h member hmem
    rw [foldsMembers, List.any_eq_true, not_exists] at hfolds
    exact Bool.eq_iff_iff.mp (holds_code (by simpa [hmem] using hfolds (.code n)) x)

end CharTest

namespace Alternation

open CharTest

variable {fold : Fold}

/-- A branch that is a single test accepts what equals one of its members. -/
theorem accepts_of_members? (hfold : fold ≠ .ascii) {branch : List Expr} {members : List Member}
    (h : members? branch = some members)
    (hmerges : ∀ test, branch.getLast? = some (.char test) → test.Merges fold) :
    (∀ member ∈ members, ∃ n, member = .code n ∧ Settled fold n) ∧
      ∃ test, branch = [.char test] ∧
        ∀ c : Char, test.accepts c = members.any (equalsMember fold c.toNat) := by
  unfold members? at h
  split at h
  · next code fold' =>
    cases h
    obtain ⟨rfl, hsettled⟩ := hmerges (.literal code false fold') rfl
    exact ⟨by simpa using hsettled, _, rfl, fun c => by simp [accepts, equalsMember]⟩
  · next members' fold' =>
    cases h
    obtain ⟨rfl, hsettled⟩ := hmerges (.set members false fold') (by simp)
    refine ⟨hsettled, _, rfl, fun c => ?_⟩
    simp [accepts, amongMembers_codes hfold hsettled]
  · simp at h

/-- Branches that are single tests match where the next character equals one of their members. -/
theorem findSome?_of_allMembers? (hfold : fold ≠ .ascii) {branches : List (List Expr)}
    {members : List Member} (h : allMembers? branches = some members)
    (hmerges : ∀ branch ∈ branches, ∀ test, branch.getLast? = some (.char test) →
      test.Merges fold) :
    (∀ member ∈ members, ∃ n, member = .code n ∧ Settled fold n) ∧
      ∀ place : Place, (branches.findSome? fun branch => (Expr.ofList branch).hit? place) =
        place.next?.bind fun (c, later) =>
          if members.any (equalsMember fold c.toNat) then some { cursor := later } else none := by
  induction branches generalizing members with
  | nil =>
      cases h
      refine ⟨by simp, fun place => ?_⟩
      cases place.next? <;> rfl
  | cons branch rest ih =>
      simp only [allMembers?, Option.pure_def, Option.bind_eq_bind, Option.bind_eq_some_iff,
        Option.some.injEq] at h
      obtain ⟨first, hfirst, second, hsecond, rfl⟩ := h
      obtain ⟨hbranch, hrest⟩ := List.forall_mem_cons.mp hmerges
      obtain ⟨hsettled, test, rfl, haccepts⟩ := accepts_of_members? hfold hfirst hbranch
      obtain ⟨hsettled', hothers⟩ := ih hsecond hrest
      refine ⟨List.forall_mem_append.mpr ⟨hsettled, hsettled'⟩, fun place => ?_⟩
      rw [List.findSome?_cons, hothers, Expr.ofList, Expr.hit?_char, Place.step]
      cases place.next? with
      | none => rfl
      | some next =>
          simp only [haccepts, List.any_append, Option.bind_some]
          cases first.any (equalsMember fold next.1.toNat) <;> rfl

/-- Alternatives that are single tests match as one set. -/
theorem hit?_set (hfold : fold ≠ .ascii) {branches : List (List Expr)} {members : List Member}
    (h : allMembers? branches = some members)
    (hmerges : ∀ branch ∈ branches, ∀ test, branch.getLast? = some (.char test) →
      test.Merges fold)
    (place : Place) : (Expr.char (.set members.eraseDups false fold)).hit? place =
      branches.findSome? fun branch => (Expr.ofList branch).hit? place := by
  obtain ⟨hsettled, hall⟩ := findSome?_of_allMembers? hfold h hmerges
  have hmem (member : Member) : member ∈ members.eraseDups ↔ member ∈ members :=
    List.mem_eraseDups
  have hany (x : Nat) : members.eraseDups.any (equalsMember fold x) =
      members.any (equalsMember fold x) := by
    rw [Bool.eq_iff_iff]
    simp only [List.any_eq_true, hmem]
  rw [hall, Expr.hit?_char, Place.step]
  cases place.next? with
  | none => rfl
  | some next =>
      have hsettled' : ∀ member ∈ members.eraseDups, ∃ n, member = .code n ∧ Settled fold n :=
        fun member h => hsettled member ((hmem member).mp h)
      simp only [accepts, amongMembers_codes hfold hsettled', hany, Option.bind_some]
      cases members.any (equalsMember fold next.1.toNat) <;> rfl

/-! ## Alternatives put together -/

/-- A branch that matches in a choice as it does by itself. It may be part of a set only if it ends
in a single test, and that test has to merge with others. -/
structure Joins (fold : Fold) (branch : List Expr) : Prop where
  unreferring : ∀ e ∈ branch, e.Unreferring
  merges : ∀ test, branch.getLast? = some (.char test) → test.Merges fold

/-- What is left of a branch joins if the branch does. -/
theorem Joins.tail {lead tail : List Expr} (h : Joins fold (lead ++ tail)) : Joins fold tail where
  unreferring e he := h.unreferring e (List.mem_append_right lead he)
  merges test htest := by
    refine h.merges test ?_
    rw [List.getLast?_append, htest]
    rfl

/-- A set of what joining alternatives are made of merges with others. -/
theorem merges_of_allMembers? (hfold : fold ≠ .ascii) {branches : List (List Expr)}
    {members : List Member} (hmembers : allMembers? branches = some members)
    (h : ∀ branch ∈ branches, Joins fold branch) :
    (CharTest.set members.eraseDups false fold).Merges fold := by
  obtain ⟨hsettled, _⟩ := findSome?_of_allMembers? hfold hmembers
    fun branch hbranch => (h branch hbranch).merges
  exact ⟨rfl, fun member hmem => hsettled member (List.mem_eraseDups.mp hmem)⟩

/-- Alternatives that join are put together to one that does. -/
theorem joins_ofBranches (hfold : fold ≠ .ascii) {branches : List (List Expr)}
    (h : ∀ branch ∈ branches, Joins fold branch) : Joins fold (ofBranches fold branches) where
  unreferring := forall_mem_ofBranches fold (fun _ _ _ _ => trivial) (fun _ => unreferring_choice)
    fun branch hbranch => (h branch hbranch).unreferring
  merges test htest := by
    unfold ofBranches at htest
    split at htest
    · simp at htest
    · exact (h _ (by simp)).merges test htest
    · next first others _ =>
      cases hsplit : splitLead first others with
      | mk lead tails =>
          rw [hsplit] at htest
          rw [(splitLead_eq hsplit).1] at h
          dsimp only at htest
          split at htest
          · next members hmembers =>
            obtain rfl : .set members.eraseDups false fold = test := by simpa using htest
            exact merges_of_allMembers? hfold hmembers
              fun tail htail => (h _ (List.mem_map_of_mem htail)).tail
          · cases tails <;> simp [choice] at htest

/-- Alternatives that begin alike match as the first of them does behind that beginning. -/
theorem findSome?_lead {lead : List Expr} {tails : List (List Expr)}
    (hlead : ∀ e ∈ lead, isSimple e = true ∧ e.Unreferring)
    (htails : ∀ tail ∈ tails, (Expr.ofList tail).Unreferring) (place : Place) :
    (tails.findSome? fun tail => (Expr.ofList (lead ++ tail)).hit? place) =
      (Expr.stepOverAll lead place).bind fun later =>
        tails.findSome? fun tail => (Expr.ofList tail).hit? later := by
  induction tails with
  | nil => simp
  | cons tail rest ih =>
      obtain ⟨htail, hrest⟩ := List.forall_mem_cons.mp htails
      rw [List.findSome?_cons, Expr.hit?_lead hlead htail, ih hrest]
      cases Expr.stepOverAll lead place <;> simp [List.findSome?_cons]

/-- Alternatives put together match as the first of them that does. -/
theorem hit?_ofBranches (hfold : fold ≠ .ascii) {branches : List (List Expr)}
    (hne : branches ≠ []) (h : ∀ branch ∈ branches, Joins fold branch) (place : Place) :
    (Expr.ofList (ofBranches fold branches)).hit? place =
      branches.findSome? fun branch => (Expr.ofList branch).hit? place := by
  unfold ofBranches
  split
  · exact absurd rfl hne
  · simp
  · next first others _ =>
    cases hsplit : splitLead first others with
    | mk lead tails =>
        obtain ⟨hbranches, hsimple⟩ := splitLead_eq hsplit
        rw [hbranches] at h ⊢
        have htails : ∀ tail ∈ tails, Joins fold tail :=
          fun tail htail => (h _ (List.mem_map_of_mem htail)).tail
        have hlead : ∀ e ∈ lead, isSimple e = true ∧ e.Unreferring := by
          obtain ⟨tail, htail⟩ := exists_mem_of_splitLead hsplit
          have hbranch := h _ (List.mem_map_of_mem htail)
          exact fun e he => ⟨hsimple e he, hbranch.unreferring e (List.mem_append_left tail he)⟩
        have hrest : ∀ tail ∈ tails, (Expr.ofList tail).Unreferring := fun tail htail =>
          Expr.unreferring_ofList.mpr (htails tail htail).unreferring
        rw [List.findSome?_map]
        have hall := findSome?_lead hlead hrest place
        dsimp only [Function.comp_def]
        rw [hall]
        split
        · next members hmembers =>
          have hmerges : ∀ tail ∈ tails, ∀ test, tail.getLast? = some (.char test) →
              test.Merges fold :=
            fun tail htail => (htails tail htail).merges
          have hset : (Expr.ofList [.char (.set members.eraseDups false fold)]).Unreferring :=
            trivial
          rw [Expr.hit?_lead hlead hset]
          exact congrArg _ (funext fun later => hit?_set hfold hmembers hmerges later)
        · have hchoice : (Expr.ofList [choice tails]).Unreferring :=
            unreferring_choice fun tail htail => Expr.unreferring_ofList.mp (hrest tail htail)
          rw [Expr.hit?_lead hlead hchoice]
          exact congrArg _ (funext fun later => Expr.hit?_choice hrest later)

end Alternation

end RoutePattern
