import Mathlib.Algebra.Order.BigOperators.Group.List
import Mathlib.Algebra.Order.Group.Nat
import RoutePattern.Proofs.Expr.Passage

/-!
# Expressions that only move on

Where a passage ends is left open only by possessive repetitions and by references. An expression
without them is `Onward`: its passages lie behind the places where they begin (`Onward.reaches`), and
so each group ends behind its beginning (`Onward.ordered`). `Direct` expressions have no final choices
at all and look neither back nor for what is absent. What they pass is as long as the width says
(`Direct.reaches`). `Regular` ones, moreover, have sets that are taken within all scripts.
-/

namespace RoutePattern

/-! ## The order of the marks -/

/-- Each group ends behind its beginning. -/
def Ordered (marks : Marks) : Prop :=
  ∀ number start stop, spanOf marks number = some (start, stop) → start.offset ≤ stop.offset

/-- Noting both marks of a group gives it a span and leaves all other spans alone. -/
theorem spanOf_putMark (marks : Marks) (number other : Nat) (start stop : Place) :
    spanOf (putMark (putMark marks (2 * (number - 1)) start) (2 * (number - 1) + 1) stop) other =
      if other - 1 = number - 1 then some (start, stop) else spanOf marks other := by
  unfold spanOf
  simp only [markAt_putMark]
  by_cases h : other - 1 = number - 1
  · simp [h]
  · simp only [show ¬2 * (other - 1) + 1 = 2 * (number - 1) by omega,
      show ¬2 * (other - 1) + 1 = 2 * (number - 1) + 1 by omega,
      show ¬2 * (other - 1) = 2 * (number - 1) by omega,
      show ¬2 * (other - 1) = 2 * (number - 1) + 1 by omega, h, if_false]

/-- There are no groups before anything is noted. -/
theorem ordered_nil : Ordered [] := by
  intro number start stop hspan
  simp [spanOf, markAt] at hspan

/-! ## Kinds of expressions -/

/-- Whether a test is not limited to ASCII, neither in how it compares nor in its classes. -/
def CharTest.isBroad : CharTest → Bool
  | any _ | literal _ _ _ => true
  | set members _ fold => fold != .ascii && members.all fun member => member.takeClass false == member

namespace Expr

/-- An expression without possessive repetitions and without references to groups. -/
def Onward : Expr → Prop
  | empty | never | char _ | anchor _ => True
  | seq first second | either first second | ifGroup _ first second =>
      first.Onward ∧ second.Onward
  | group _ body | atomic body | ahead _ body | behind _ _ body => body.Onward
  | loop greed _ _ body => greed ≠ .possessive ∧ body.Onward
  | backref _ _ _ => False

/-- An expression without final choices, without references to groups or to what stands in front of
a place, and without assertions that something is absent. -/
def Direct : Expr → Prop
  | empty | never | char _ | anchor _ => True
  | seq first second | either first second => first.Direct ∧ second.Direct
  | group _ body => body.Direct
  | loop greed _ _ body => greed ≠ .possessive ∧ body.Direct
  | ahead positive body => positive = true ∧ body.Direct
  | atomic _ | behind _ _ _ | backref _ _ _ | ifGroup _ _ _ => False

/-- An expression without final choices, without references to groups or to what stands in front of
a place, without assertions that something is absent, and without sets that are limited to ASCII. -/
def Regular : Expr → Prop
  | empty | never | anchor _ => True
  | char test => test.isBroad = true
  | seq first second | either first second => first.Regular ∧ second.Regular
  | group _ body => body.Regular
  | loop greed _ _ body => greed ≠ .possessive ∧ body.Regular
  | ahead positive body => positive = true ∧ body.Regular
  | atomic _ | behind _ _ _ | backref _ _ _ | ifGroup _ _ _ => False

/-- Direct expressions lead on. -/
theorem Direct.onward {e : Expr} (h : e.Direct) : e.Onward := by
  induction e with
  | empty | never | char | anchor => trivial
  | seq first second ihfirst ihsecond | either first second ihfirst ihsecond =>
      exact ⟨ihfirst h.1, ihsecond h.2⟩
  | group number body ih => exact ih h
  | loop greed least most body ih => exact ⟨h.1, ih h.2⟩
  | ahead positive body ih => exact ih h.2
  | atomic | behind | backref | ifGroup => exact h.elim

/-- Regular expressions are direct. -/
theorem Regular.direct {e : Expr} (h : e.Regular) : e.Direct := by
  induction e with
  | empty | never | char | anchor => trivial
  | seq first second ihfirst ihsecond | either first second ihfirst ihsecond =>
      exact ⟨ihfirst h.1, ihsecond h.2⟩
  | group number body ih => exact ih h
  | loop greed least most body ih => exact ⟨h.1, ih h.2⟩
  | ahead positive body ih => exact ⟨h.1, ih h.2⟩
  | atomic | behind | backref | ifGroup => exact h.elim

/-- A row is direct if its expressions are. -/
theorem direct_ofList {items : List Expr} : (ofList items).Direct ↔ ∀ e ∈ items, e.Direct :=
  forall_ofList trivial fun _ _ => Iff.rfl

/-- A row is regular if its expressions are. -/
theorem regular_ofList {items : List Expr} : (ofList items).Regular ↔ ∀ e ∈ items, e.Regular :=
  forall_ofList trivial fun _ _ => Iff.rfl

/-- The members of single tests that are not limited to ASCII are not, either. -/
theorem takeClass_of_allMembers? {branches : List (List Expr)} {members : List Member}
    (hmembers : Alternation.allMembers? branches = some members)
    (h : ∀ branch ∈ branches, ∀ e ∈ branch, e.Regular) :
    ∀ member ∈ members, member.takeClass false = member := by
  induction branches generalizing members with
  | nil =>
      cases hmembers
      simp
  | cons branch rest ih =>
      simp only [Alternation.allMembers?, Option.pure_def, Option.bind_eq_bind,
        Option.bind_eq_some_iff, Option.some.injEq] at hmembers
      obtain ⟨first, hfirst, second, hsecond, rfl⟩ := hmembers
      obtain ⟨hbranch, hrest⟩ := List.forall_mem_cons.mp h
      refine List.forall_mem_append.mpr ⟨?_, ih hsecond hrest⟩
      unfold Alternation.members? at hfirst
      split at hfirst
      · cases hfirst
        simp [Member.takeClass]
      · next fold =>
        cases hfirst
        have hbroad : (CharTest.set first false fold).isBroad = true :=
          hbranch (.char (.set first false fold)) (by simp)
        simp only [CharTest.isBroad, Bool.and_eq_true, List.all_eq_true, beq_iff_eq] at hbroad
        exact hbroad.2
      · simp at hfirst

/-- Alternatives put together are regular if each of them is. -/
theorem regular_ofBranches {fold : Fold} (hfold : fold ≠ .ascii) {branches : List (List Expr)}
    (h : ∀ branch ∈ branches, ∀ e ∈ branch, e.Regular) :
    ∀ e ∈ Alternation.ofBranches fold branches, e.Regular := by
  refine Alternation.forall_mem_ofBranches fold (fun tails members htails hmembers => ?_)
    (fun tails htails => ?_) h
  · have hall := takeClass_of_allMembers? hmembers htails
    simp only [Regular, CharTest.isBroad, Bool.and_eq_true, bne_iff_ne, ne_eq, hfold,
      not_false_eq_true, List.all_eq_true, beq_iff_eq, true_and]
    exact fun member hmem => hall member (List.mem_eraseDups.mp hmem)
  · exact Alternation.choice_of_branches trivial (fun _ _ => And.intro) fun tail htail =>
      regular_ofList.mpr (htails tail htail)

/-- Alternatives put together are direct if each of them is. -/
theorem direct_ofBranches (fold : Fold) {branches : List (List Expr)}
    (h : ∀ branch ∈ branches, ∀ e ∈ branch, e.Direct) :
    ∀ e ∈ Alternation.ofBranches fold branches, e.Direct := by
  refine Alternation.forall_mem_ofBranches fold (fun _ _ _ _ => trivial) (fun tails htails => ?_) h
  exact Alternation.choice_of_branches trivial (fun _ _ => And.intro) fun tail htail =>
    direct_ofList.mpr (htails tail htail)

variable {e : Expr} {p q : Place} {M N : Marks}

/-- A passage is one way to be led. -/
theorem Passes.leads (h : e.Passes p M q N) : e.Leads p q :=
  ⟨M, N, h⟩

/-- A choice is at least as wide as each of its sides that can match at all. -/
theorem width_either_le (first second : Expr) :
    (either first second).width.least ≤ first.width.least ∧
      (second ≠ never → (either first second).width.least ≤ second.width.least) := by
  cases second
  case never => exact ⟨Nat.le_refl _, fun h => absurd rfl h⟩
  all_goals exact ⟨Nat.min_le_left .., fun _ => Nat.min_le_right ..⟩

/-- A passage moves on by a text, which is at least as long as the width says. -/
theorem Direct.reaches (h : e.Direct) (hpasses : e.Passes p M q N) :
    ∃ text, p.Reaches q text ∧ e.width.least ≤ text.length := by
  induction e generalizing p M q N with
  | empty =>
      obtain ⟨rfl, _⟩ := hpasses
      exact ⟨[], Place.reaches_nil_iff.mpr rfl, Nat.min_le_left ..⟩
  | never => exact hpasses.elim
  | char test =>
      obtain ⟨c, _, hreaches⟩ := Place.step_eq_some_iff.mp hpasses.1
      exact ⟨[c], hreaches, Nat.min_le_left ..⟩
  | anchor condition =>
      obtain ⟨_, rfl, _⟩ := hpasses
      exact ⟨[], Place.reaches_nil_iff.mpr rfl, Nat.min_le_left ..⟩
  | seq first second ihfirst ihsecond =>
      obtain ⟨r, L, hfirst, hsecond⟩ := hpasses
      obtain ⟨text, hreaches, hleast⟩ := ihfirst h.1 hfirst
      obtain ⟨text', hreaches', hleast'⟩ := ihsecond h.2 hsecond
      refine ⟨text ++ text', hreaches.trans hreaches', ?_⟩
      rw [List.length_append]
      exact Nat.le_trans (Nat.min_le_left ..) (Nat.add_le_add hleast hleast')
  | either first second ihfirst ihsecond =>
      obtain ⟨hwidth, hwidth'⟩ := width_either_le first second
      rcases hpasses with hfirst | hsecond
      · obtain ⟨text, hreaches, hleast⟩ := ihfirst h.1 hfirst
        exact ⟨text, hreaches, Nat.le_trans hwidth hleast⟩
      · obtain ⟨text, hreaches, hleast⟩ := ihsecond h.2 hsecond
        refine ⟨text, hreaches, Nat.le_trans (hwidth' ?_) hleast⟩
        rintro rfl
        exact hsecond
  | group number body ih =>
      obtain ⟨L, hbody, _⟩ := hpasses
      exact ih h hbody
  | loop greed least most body ih =>
      obtain ⟨n, ⟨hleast, _⟩, hiterates⟩ := (passes_loop h.1).mp hpasses
      obtain ⟨pieces, rfl, hreaches, hlong⟩ := exists_pieces (fun _ _ => ih h.2) hiterates
      have hsum : pieces.length * body.width.least ≤ pieces.flatten.length := by
        rw [List.length_flatten, ← List.length_map List.length]
        exact List.card_nsmul_le_sum _ _ (by simpa using hlong)
      refine ⟨pieces.flatten, hreaches, Nat.le_trans (Nat.min_le_left ..) (Nat.le_trans ?_ hsum)⟩
      rw [Nat.mul_comm]
      exact Nat.mul_le_mul_right _ hleast
  | ahead positive body ih =>
      obtain ⟨rfl, _⟩ := hpasses
      exact ⟨[], Place.reaches_nil_iff.mpr rfl, Nat.min_le_left ..⟩
  | atomic | behind | backref | ifGroup => exact h.elim

/-- A passage leads on within the text. -/
theorem Onward.reaches (h : e.Onward) (hpasses : e.Passes p M q N) :
    ∃ text, p.Reaches q text := by
  induction e generalizing p M q N with
  | empty =>
      obtain ⟨rfl, _⟩ := hpasses
      exact ⟨[], Place.reaches_nil_iff.mpr rfl⟩
  | never => exact hpasses.elim
  | char test =>
      obtain ⟨c, _, hreaches⟩ := Place.step_eq_some_iff.mp hpasses.1
      exact ⟨[c], hreaches⟩
  | anchor condition =>
      obtain ⟨_, rfl, _⟩ := hpasses
      exact ⟨[], Place.reaches_nil_iff.mpr rfl⟩
  | seq first second ihfirst ihsecond =>
      obtain ⟨r, L, hfirst, hsecond⟩ := hpasses
      obtain ⟨text, hreaches⟩ := ihfirst h.1 hfirst
      obtain ⟨text', hreaches'⟩ := ihsecond h.2 hsecond
      exact ⟨text ++ text', hreaches.trans hreaches'⟩
  | either first second ihfirst ihsecond | ifGroup _ first second ihfirst ihsecond =>
      rcases hpasses with hfirst | hsecond
      · exact ihfirst h.1 hfirst
      · exact ihsecond h.2 hsecond
  | group number body ih =>
      obtain ⟨L, hbody, _⟩ := hpasses
      exact ih h hbody
  | loop greed least most body ih =>
      obtain ⟨n, _, hiterates⟩ := (passes_loop h.1).mp hpasses
      refine hiterates.keeps (fun s => ∃ text, p.Reaches s.1 text) ?_
        ⟨[], Place.reaches_nil_iff.mpr rfl⟩
      rintro a b hstep ⟨text, hreaches⟩
      obtain ⟨text', hreaches'⟩ := ih h.2 hstep
      exact ⟨text ++ text', hreaches.trans hreaches'⟩
  | atomic body ih => exact ih h hpasses
  | ahead positive body ih | behind positive width body ih =>
      obtain ⟨rfl, _⟩ := hpasses
      exact ⟨[], Place.reaches_nil_iff.mpr rfl⟩
  | backref => exact h.elim

/-- What is inside the groups of an expression leads on if the expression does. -/
theorem Onward.mem_captures (h : e.Onward) {number : Nat} {body : Expr}
    (hmem : (number, body) ∈ e.captures) : body.Onward := by
  induction e with
  | empty | never | char | anchor => simp [captures] at hmem
  | seq first second ihfirst ihsecond | either first second ihfirst ihsecond
  | ifGroup _ first second ihfirst ihsecond =>
      obtain hmem | hmem := List.mem_append.mp hmem
      · exact ihfirst h.1 hmem
      · exact ihsecond h.2 hmem
  | group own inner ih =>
      obtain heq | hmem := List.mem_cons.mp hmem
      · cases heq
        exact h
      · exact ih h hmem
  | loop greed least most inner ih => exact ih h.2 hmem
  | atomic inner ih | ahead _ inner ih | behind _ _ inner ih => exact ih h hmem
  | backref => exact h.elim

/-- A passage keeps the marks in order. -/
theorem Onward.ordered (h : e.Onward) {looped : Bool} {low high : Nat}
    (hfits : e.Fits looped low high) (hpasses : e.Passes p M q N) (hM : Ordered M) :
    Ordered N := by
  refine hpasses.keeps_spans hfits Ordered (fun number body hmem marks start stop hleads hmarks => ?_)
    hM
  obtain ⟨L, L', hbody⟩ := hleads
  obtain ⟨text, hreaches⟩ := (h.mem_captures hmem).reaches hbody
  intro other start' stop' hspan
  rw [spanOf_putMark] at hspan
  split at hspan
  · obtain ⟨rfl, rfl⟩ := Prod.mk.inj (Option.some.inj hspan)
    rw [hreaches.offset]
    exact Nat.le_add_right ..
  · exact hmarks other start' stop' hspan

end Expr

end RoutePattern
