import RoutePattern.Proofs.Expr.Easing
import RoutePattern.Proofs.Expr.Forward
import RoutePattern.Proofs.Expr.Numbering
import RoutePattern.Proofs.Expr.Searching

/-!
# Groups that end behind their beginnings

A search has no answer where a group of its match ends in front of its beginning. Only possessive
repetitions of groups, or with a look-behind in them, can lead there: `Expression.search_ok_of_orderly`
is the main result. `run_orders` says that running any other expression leaves the groups in order,
however they are nested. An attempt that fails need not leave the marks in front of it as they were,
but all that it may leave behind is the ends of groups around it, and these are noted again before
anyone looks at them.
-/

namespace RoutePattern

/-- What is known of a successful attempt may be weakened. -/
theorem Attempt.Ends.imp {found found' failed : Memory → Prop} {attempt : Attempt}
    (h : attempt.Ends found failed) (himp : ∀ memory, found memory → found' memory) :
    attempt.Ends found' failed := by
  cases attempt with
  | found memory => exact himp memory h
  | failed memory => exact h

/-- Whether an expression has a possessive repetition. -/
def Expr.hasPossessive : Expr → Bool
  | empty | never | char _ | anchor _ | backref _ _ _ => false
  | seq first second | either first second | ifGroup _ first second =>
      first.hasPossessive || second.hasPossessive
  | group _ body | atomic body | ahead _ body | behind _ _ body => body.hasPossessive
  | loop greed _ _ body => greed == .possessive || body.hasPossessive

namespace Expr

/-- What is repeated possessively has no groups, refers to none and does not look back. -/
def Orderly : Expr → Prop
  | empty | never | char _ | anchor _ | backref _ _ _ => True
  | seq first second | either first second | ifGroup _ first second =>
      first.Orderly ∧ second.Orderly
  | group _ body | atomic body | ahead _ body | behind _ _ body => body.Orderly
  | loop greed _ _ body =>
      (greed = .possessive → body.Groupfree ∧ body.Forward ∧ body.looksBack = false) ∧ body.Orderly

/-- An expression without possessive repetitions is orderly. -/
theorem orderly_of_hasPossessive {e : Expr} (h : e.hasPossessive = false) : e.Orderly := by
  induction e with
  | empty | never | char | anchor | backref => trivial
  | seq first second ihfirst ihsecond | either first second ihfirst ihsecond
  | ifGroup _ first second ihfirst ihsecond =>
      simp only [hasPossessive, Bool.or_eq_false_iff] at h
      exact ⟨ihfirst h.1, ihsecond h.2⟩
  | group _ body ih | atomic body ih | ahead _ body ih | behind _ _ body ih => exact ih h
  | loop greed _ _ body ih =>
      simp only [hasPossessive, Bool.or_eq_false_iff, beq_eq_false_iff_ne] at h
      exact ⟨fun hgreed => absurd hgreed h.1, ih h.2⟩

/-- Without groups an expression is orderly if no possessive repetition looks back. -/
theorem Groupfree.orderly {e : Expr} (h : e.Groupfree) (hforward : e.Forward) : e.Orderly := by
  obtain ⟨hcaptures, href⟩ := h
  induction e with
  | empty | never | char | anchor => trivial
  | seq first second ihfirst ihsecond | either first second ihfirst ihsecond =>
      obtain ⟨hfirst, hsecond⟩ := List.append_eq_nil_iff.mp hcaptures
      exact ⟨ihfirst hforward.1 hfirst href.1, ihsecond hforward.2 hsecond href.2⟩
  | group => simp [captures] at hcaptures
  | loop greed _ _ body ih =>
      exact ⟨fun hgreed => ⟨⟨hcaptures, href⟩, hforward.2, hforward.1 hgreed⟩,
        ih hforward.2 hcaptures href⟩
  | atomic body ih | ahead _ body ih | behind _ _ body ih => exact ih hforward hcaptures href
  | backref | ifGroup => exact href.elim

/-- Expressions in a row are orderly if each of them is. -/
theorem orderly_ofList {items : List Expr} : (ofList items).Orderly ↔ ∀ e ∈ items, e.Orderly :=
  forall_ofList trivial fun _ _ => Iff.rfl

/-- Alternatives put together are orderly if all of them are. -/
theorem orderly_ofBranches (fold : Fold) {branches : List (List Expr)}
    (h : ∀ branch ∈ branches, ∀ e ∈ branch, e.Orderly) :
    ∀ e ∈ Alternation.ofBranches fold branches, e.Orderly := by
  refine Alternation.forall_mem_ofBranches fold (fun _ _ _ _ => trivial) (fun tails htails => ?_) h
  exact Alternation.choice_of_branches trivial (fun _ _ => And.intro) fun tail htail =>
    orderly_ofList.mpr (htails tail htail)

end Expr

/-! ## Marks inside of open groups -/

/-- A mark is not the end of one of the groups that are open. -/
def Firm (around : List Nat) (index : Nat) : Prop :=
  ∀ number ∈ around, 0 < number → index ≠ 2 * (number - 1) + 1

/-- The first of some marks are still there, except for the ends of open groups. -/
def Kept (around : List Nat) (n : Nat) (M N : Marks) : Prop :=
  ∀ index < n, Firm around index → markAt N index = markAt M index

/-- All marks are still there, except for the ends of open groups, and there are no others. -/
structure Restored (around : List Nat) (M N : Marks) : Prop where
  marks : ∀ index, Firm around index → markAt N index = markAt M index
  length : N.length ≤ M.length

/-- Each group that is not open ends behind its beginning. -/
def OrderedBut (around : List Nat) (marks : Marks) : Prop :=
  ∀ number start stop, 0 < number → number ∉ around →
    spanOf marks number = some (start, stop) → start.offset ≤ stop.offset

section Marks

variable {around : List Nat} {n m : Nat} {L M N : Marks}

/-- The beginning of a group is not the end of one. -/
theorem firm_even (around : List Nat) (n : Nat) : Firm around (2 * n) := by
  intro number _ _
  omega

/-- The end of a group that is not open may not change. -/
theorem firm_end {number : Nat} (hpos : 0 < number) (h : number ∉ around) :
    Firm around (2 * (number - 1) + 1) := by
  intro other hother hotherPos heq
  have hsame : other = number := by omega
  exact h (hsame ▸ hother)

/-- The end of another group than the innermost one is firm if it is firm for the others. -/
theorem firm_cons {number index : Nat} (h : Firm around index)
    (hne : index ≠ 2 * (number - 1) + 1) : Firm (number :: around) index := by
  intro other hother hpos
  rcases List.mem_cons.mp hother with rfl | hother
  · exact hne
  · exact h other hother hpos

/-- Marks that are still there after two attempts. -/
theorem Kept.trans (hfirst : Kept around n M L) (hsecond : Kept around n L N) :
    Kept around n M N := fun index hindex hfirm =>
  (hsecond index hindex hfirm).trans (hfirst index hindex hfirm)

/-- Fewer marks are still there, too. -/
theorem Kept.mono (h : Kept around n M N) (hle : m ≤ n) : Kept around m M N :=
  fun index hindex => h index (Nat.lt_of_lt_of_le hindex hle)

/-- Marks are still there if nothing has happened. -/
theorem Restored.refl (around : List Nat) (M : Marks) : Restored around M M :=
  ⟨fun _ _ => rfl, Nat.le_refl _⟩

/-- Marks that are all still there are there up to any number. -/
theorem Restored.kept (h : Restored around M N) (n : Nat) : Kept around n M N :=
  fun index _ => h.marks index

/-- All marks are still there after two attempts. -/
theorem Restored.trans (hfirst : Restored around M L) (hsecond : Restored around L N) :
    Restored around M N :=
  ⟨fun index hfirm => (hsecond.marks index hfirm).trans (hfirst.marks index hfirm),
    Nat.le_trans hsecond.length hfirst.length⟩

/-- Groups that are not open have the same spans. -/
theorem Restored.ordered (h : Restored around M N) (hM : OrderedBut around M) :
    OrderedBut around N := by
  intro number start stop hpos hnumber hspan
  refine hM number start stop hpos hnumber ?_
  rw [spanOf, ← h.marks _ (firm_end hpos hnumber), ← h.marks _ (firm_even around _)]
  exact hspan

/-- Undoing a failed attempt brings the marks back that it has kept. -/
theorem Kept.undo {looped : Bool} {memory later : Memory}
    (h : Kept around n memory.marks later.marks)
    (hn : looped = false → memory.marks.length ≤ n) :
    Restored around memory.marks (later.undoSince memory looped).marks := by
  unfold Memory.undoSince
  cases looped with
  | true => exact .refl around memory.marks
  | false =>
      refine ⟨fun index hfirm => ?_, List.length_take_le _ _⟩
      show markAt (later.marks.take memory.marks.length) index = _
      by_cases hindex : index < memory.marks.length
      · rw [← h index (Nat.lt_of_lt_of_le hindex (hn rfl)) hfirm]
        simp [markAt, hindex]
      · rw [markAt, List.getElem?_take, if_neg hindex, markAt,
          List.getElem?_eq_none (Nat.le_of_not_lt hindex)]

end Marks

/-- Where a match is attempted: whether that is inside a repetition, how many groups are left alone
where it fails, the numbers of its own groups, and the groups around it that are open. -/
structure Site where
  looped : Bool
  low : Nat
  first : Nat
  high : Nat
  around : List Nat

namespace Site

/-- How many marks an attempt leaves alone that comes behind the match. -/
def kept (site : Site) : Nat :=
  if site.looped then 2 * site.low else 2 * site.high

/-- A place whose groups come behind those that are left alone and those that are open. -/
structure Sound (site : Site) : Prop where
  low : site.low ≤ site.first
  high : site.first ≤ site.high
  around : ∀ number ∈ site.around, number ≤ site.first

variable {site : Site}

/-- What comes behind a match leaves at least the marks in front of it alone. -/
theorem Sound.low_le_kept (h : site.Sound) : 2 * site.low ≤ site.kept := by
  have hlow := h.low
  have hhigh := h.high
  unfold kept
  split <;> omega

/-- What a match does to the marks: those in front of its own groups are still there, the groups are
in order, and there are not too many marks. -/
structure Goes (site : Site) (M N : Marks) : Prop where
  kept : Kept site.around (2 * site.first) M N
  ordered : OrderedBut site.around N
  length : M.length ≤ 2 * site.high → N.length ≤ 2 * site.high

variable {L M N : Marks}

/-- A match without groups leaves the marks as they are. -/
theorem Goes.of_restored (h : Restored site.around M N) (hM : OrderedBut site.around M) :
    site.Goes M N :=
  ⟨h.kept _, h.ordered hM, fun hlength => Nat.le_trans h.length hlength⟩

/-- An iteration does to the marks what its repetition may do. -/
theorem Goes.outside (h : Goes { site with looped := true } M N) : site.Goes M N :=
  ⟨h.kept, h.ordered, h.length⟩

/-- One match goes on behind another one. -/
theorem Goes.trans (hfirst : site.Goes M L) (hsecond : site.Goes L N) : site.Goes M N :=
  ⟨hfirst.kept.trans hsecond.kept, hsecond.ordered,
    fun hlength => hsecond.length (hfirst.length hlength)⟩

end Site

/-- A way to match keeps groups in order: it goes ahead and hands the continuation only marks with
groups in order, and if it fails, the marks in front of its groups are still there. -/
def Orders (site : Site) (body : Matching) : Prop :=
  ∀ (p : Place) (memory : Memory) (k : Continuation) (found : Memory → Prop),
    OrderedBut site.around memory.marks →
    (site.looped = false → memory.marks.length ≤ 2 * site.low) →
    (∀ q later, p.offset ≤ q.offset → site.Goes memory.marks later.marks →
      (k q later).Ends found fun last => Kept site.around site.kept later.marks last.marks) →
    (body p memory k).Ends found fun last =>
      Kept site.around (2 * site.low) memory.marks last.marks

namespace Matching

variable {site : Site} {found : Memory → Prop} {k : Continuation} {body : Matching} {p : Place}
  {memory : Memory}

/-! ## Ways to repeat -/

/-- Repeating a single test goes ahead. -/
theorem TestPasses.offset_le {test : CharTest} {greed : Greed} (hgreed : greed ≠ .possessive)
    {least : Nat} {most : Option Nat} {q : Place} {M N : Marks}
    (h : TestPasses test greed least most p M q N) : p.offset ≤ q.offset := by
  obtain ⟨_, hsteps⟩ := h
  rw [if_neg hgreed] at hsteps
  obtain ⟨n, _, _, hsteps⟩ := hsteps
  rw [hsteps.offset]
  exact Nat.le_add_right ..

/-- Repeating a single test keeps groups in order. -/
theorem testTimes_orders (hsite : site.Sound) (test : CharTest) (next : Option CharTest)
    {greed : Greed} (hgreed : greed ≠ .possessive) (least : Nat) (most : Option Nat) :
    Orders site (testTimes site.looped test next greed least most) := by
  intro p memory k found hordered hlength hk
  have hlow := hsite.low
  have hhigh := hsite.high
  refine (@testTimes_ends memory.marks found k
    (fun later => Restored site.around memory.marks later.marks)
    (fun later => Kept site.around site.kept memory.marks later.marks) _ _ _ _ _ _ p memory
    (fun _ _ _ hlater => hlater) ?_ ?_ (.refl _ _)).mono ?_
  · intro start later hstart hlater
    have hback : Kept site.around site.kept start.marks later.marks :=
      fun index hindex hfirm => (hlater index hindex hfirm).trans (hstart.marks index hfirm).symm
    refine hstart.trans (hback.undo fun hlooped => ?_)
    have hshort := hlength hlooped
    have hfewer := hstart.length
    rw [Site.kept, if_neg (by simp [hlooped])]
    omega
  · intro q hpasses later hlater
    refine (hk q later (hpasses.offset_le hgreed) (.of_restored hlater hordered)).mono ?_
    exact fun last hlast => (hlater.kept _).trans hlast
  · rintro later (hlater | hlater)
    · exact hlater.kept _
    · exact hlater.mono hsite.low_le_kept

/-- The required iterations keep groups in order. -/
theorem required_orders {last : Matching} (hbody : Orders { site with looped := true } body)
    {count : Nat} (hordered : OrderedBut site.around memory.marks)
    (hlast : ∀ q later, p.offset ≤ q.offset → site.Goes memory.marks later.marks →
      (last q later k).Ends found fun done =>
        Kept site.around (2 * site.low) later.marks done.marks) :
    (required body last count p memory k).Ends found fun done =>
      Kept site.around (2 * site.low) memory.marks done.marks := by
  induction count generalizing p memory with
  | zero => exact hlast p memory (Nat.le_refl _) (.of_restored (.refl _ _) hordered)
  | succ count ih =>
      rw [required]
      refine (hbody p (memory.moveTo p) _ found hordered (by simp) ?_).orElse fun _ hlater => hlater
      intro q later hle hgoes
      refine ih hgoes.ordered fun r done hle' hgoes' => ?_
      exact hlast r done (Nat.le_trans hle hle') (hgoes.outside.trans hgoes')

/-- Further iterations, most first, keep groups in order. -/
theorem greedily_orders (hbody : Orders { site with looped := true } body) {room : Nat}
    {start : Option Place} (hordered : OrderedBut site.around memory.marks)
    (hk : ∀ q later, p.offset ≤ q.offset → site.Goes memory.marks later.marks →
      (k q later).Ends found fun done => Kept site.around (2 * site.low) later.marks done.marks) :
    (greedily body room start p memory k).Ends found fun done =>
      Kept site.around (2 * site.low) memory.marks done.marks := by
  induction room generalizing start p memory with
  | zero =>
      rw [greedily]
      exact (hk p (memory.moveTo p) (Nat.le_refl _) (.of_restored (.refl _ _) hordered)).orElse
        fun _ hlater => hlater
  | succ room ih =>
      have hfinish (later : Memory) (hlater : Restored site.around memory.marks later.marks) :
          ((k p (later.moveTo p)).orElse fun last => .failed (last.moveTo p)).Ends found
            fun done => Kept site.around (2 * site.low) memory.marks done.marks := by
        have hgoes : site.Goes memory.marks later.marks := .of_restored hlater hordered
        exact (hk p (later.moveTo p) (Nat.le_refl _) hgoes).orElse
          fun last hlast => (hlater.kept _).trans hlast
      rw [greedily]
      dsimp only
      split
      · exact hfinish memory (.refl _ _)
      · refine (hbody p (memory.moveTo p) _ found hordered (by simp) ?_).orElse ?_
        · intro q later hle hgoes
          refine ih hgoes.ordered fun r done hle' hgoes' => ?_
          exact hk r done (Nat.le_trans hle hle') (hgoes.outside.trans hgoes')
        · exact fun later hlater => hfinish _ (Kept.undo hlater (by simp))

/-- Further iterations, least first, keep groups in order. -/
theorem lazily_orders (hbody : Orders { site with looped := true } body)
    {room : Nat} {start : Option Place} (hordered : OrderedBut site.around memory.marks)
    (hlength : site.looped = false → memory.marks.length ≤ 2 * site.high)
    (hk : ∀ q later, p.offset ≤ q.offset → site.Goes memory.marks later.marks →
      (k q later).Ends found fun done => Kept site.around site.kept later.marks done.marks) :
    (lazily site.looped body room start p memory k).Ends found fun done =>
      Kept site.around (2 * site.low) memory.marks done.marks := by
  have hundo (later : Memory) (hlater : Kept site.around site.kept memory.marks later.marks) :
      Restored site.around memory.marks (later.undoSince memory site.looped).marks := by
    refine hlater.undo fun hlooped => ?_
    rw [Site.kept, if_neg (by simp [hlooped])]
    exact hlength hlooped
  have hfirst := hk p (memory.moveTo p) (Nat.le_refl _) (.of_restored (.refl _ _) hordered)
  induction room generalizing start p memory with
  | zero =>
      rw [lazily]
      exact hfirst.orElse fun later hlater => (hundo later hlater).kept _
  | succ room ih =>
      rw [lazily]
      refine hfirst.orElse fun later hlater => ?_
      have hundone := hundo later hlater
      dsimp only
      split
      · exact hundone.kept _
      · refine (hbody p ((later.undoSince memory site.looped).moveTo p) _ found
          (hundone.ordered hordered) (by simp) ?_).orElse ?_
        · intro q next hle hgoes
          have hall : site.Goes memory.marks next.marks :=
            (Site.Goes.of_restored hundone hordered).trans hgoes.outside
          have hk' (r : Place) (done : Memory) (hle' : q.offset ≤ r.offset)
              (hgoes' : site.Goes next.marks done.marks) :=
            hk r done (Nat.le_trans hle hle') (hall.trans hgoes')
          have hlength' (hlooped : site.looped = false) := hall.length (hlength hlooped)
          refine ih hall.ordered hlength' hk' ?_ ?_
          · intro last hlast
            refine Kept.undo hlast fun hlooped => ?_
            rw [Site.kept, if_neg (by simp [hlooped])]
            exact hlength' hlooped
          · exact hk' q (next.moveTo q) (Nat.le_refl _) (.of_restored (.refl _ _) hall.ordered)
        · exact fun last hlast => (hundone.kept _).trans hlast

/-- Repetitions that try several counts keep groups in order. -/
theorem times_orders (hsite : site.Sound) (hbody : Orders { site with looped := true } body)
    {greed : Greed} (hgreed : greed ≠ .possessive) (least : Nat) (most : Option Nat) :
    Orders site (times site.looped body greed least most) := by
  intro p memory k found hordered hlength hk
  cases greed with
  | greedy =>
      refine required_orders hbody hordered fun q later hle hgoes => ?_
      refine greedily_orders hbody hgoes.ordered fun r last hle' hgoes' => ?_
      refine (hk r last (Nat.le_trans hle hle') (hgoes.trans hgoes')).mono ?_
      exact fun done hdone => hdone.mono hsite.low_le_kept
  | lazy =>
      refine required_orders hbody hordered fun q later hle hgoes => ?_
      refine lazily_orders hbody hgoes.ordered ?_ fun r last hle' hgoes' => ?_
      · intro hlooped
        refine hgoes.length (Nat.le_trans (hlength hlooped) ?_)
        exact Nat.mul_le_mul_left 2 (Nat.le_trans hsite.low hsite.high)
      · exact hk r last (Nat.le_trans hle hle') (hgoes.trans hgoes')
  | possessive => exact absurd rfl hgreed

/-- What goes on from a place ahead with the same marks keeps groups in order. -/
theorem ends_of_same (hsite : site.Sound) {q : Place} {later : Memory}
    (hordered : OrderedBut site.around memory.marks) (hle : p.offset ≤ q.offset)
    (hmarks : later.marks = memory.marks)
    (hk : ∀ q later, p.offset ≤ q.offset → site.Goes memory.marks later.marks →
      (k q later).Ends found fun last => Kept site.around site.kept later.marks last.marks) :
    (k q later).Ends found fun last => Kept site.around (2 * site.low) memory.marks last.marks := by
  have hgoes : site.Goes memory.marks later.marks := by
    rw [hmarks]
    exact .of_restored (.refl _ _) hordered
  refine (hk q later hle hgoes).mono fun last hlast => ?_
  rw [← hmarks]
  exact hlast.mono hsite.low_le_kept

/-- Repeating a single test as often as it goes keeps groups in order. -/
theorem testMost_orders (hsite : site.Sound) (test : CharTest) (next : Option CharTest)
    (least : Nat) (most : Option Nat) :
    Orders site (testTimes site.looped test next .possessive least most) := by
  intro p memory k found hordered hlength hk
  unfold testTimes
  split
  · dsimp only
    split
    · exact (Restored.refl site.around memory.marks).kept _
    · obtain ⟨n, _, _, hsteps⟩ := headD_steps test most p
      refine ends_of_same hsite hordered ?_ rfl hk
      rw [hsteps.offset]
      exact Nat.le_add_right ..
  · exact (Restored.refl site.around memory.marks).kept _

/-- First matches in a row keep the marks if each of them does. -/
theorem onceTimes_keeps_marks (hbody : ∀ p memory, (once body p memory).Ends
      (fun later => later.marks = memory.marks) fun later => later.marks = memory.marks)
    (count : Nat) (memory : Memory) : (onceTimes body count memory).Ends
      (fun later => later.marks = memory.marks) fun later => later.marks = memory.marks := by
  induction count generalizing memory with
  | zero => exact rfl
  | succ count ih =>
      have honce := hbody memory.cursor memory
      rw [onceTimes]
      cases hattempt : once body memory.cursor memory with
      | failed later =>
          rw [hattempt] at honce
          exact honce
      | found later =>
          rw [hattempt] at honce
          have hsame : later.marks = memory.marks := honce
          have hrest := ih later
          rwa [hsame] at hrest

/-- As many first matches in a row as there are keep the marks if each of them does. -/
theorem onceMost_keeps_marks (hbody : ∀ p memory, (once body p memory).Ends
      (fun later => later.marks = memory.marks) fun later => later.marks = memory.marks)
    (room : Nat) (start : Option Place) (memory : Memory) :
    (onceMost body room start memory).marks = memory.marks := by
  induction room generalizing start memory with
  | zero => rfl
  | succ room ih =>
      have honce := hbody memory.cursor memory
      rw [onceMost]
      split
      · rfl
      · cases hattempt : once body memory.cursor memory with
        | failed later => rfl
        | found later =>
            rw [hattempt] at honce
            exact (ih (some memory.cursor) later).trans honce

/-- Repeating an expression as often as it goes keeps groups in order if it keeps the marks and leaves
the cursor behind every place. -/
theorem timesMost_orders (hsite : site.Sound) (hbody : ∀ p memory, (once body p memory).Ends
      (fun later => later.marks = memory.marks) fun later => later.marks = memory.marks)
    (hadvances : ∀ text low, Advances text low 0 body) (least : Nat) (most : Option Nat) :
    Orders site (times site.looped body .possessive least most) := by
  intro p memory k found hordered hlength hk
  unfold times
  dsimp only
  have hmarks := onceTimes_keeps_marks hbody least (memory.moveTo p)
  have hbeyond := @onceTimes_beyond p.whole 0 (memory.moveTo p) body (hadvances p.whole) least rfl
  cases hattempt : onceTimes body least (memory.moveTo p) with
  | failed later =>
      rw [hattempt] at hmarks
      have hsame : later.marks = memory.marks := hmarks
      show Kept site.around (2 * site.low) memory.marks later.marks
      rw [hsame]
      exact (Restored.refl site.around memory.marks).kept _
  | found later =>
      rw [hattempt] at hmarks hbeyond
      have hlast := @onceMost_beyond p.whole 0 later body (hadvances p.whole)
        ((most.map (· - least)).getD (iterationBound p)) none (Place.Beyond.whole hbeyond)
      refine ends_of_same hsite hordered ?_ ?_ hk
      · exact Nat.le_trans (Nat.le_trans (Nat.le_add_right ..) (Place.Beyond.low hbeyond))
          (Place.Beyond.low hlast)
      · exact (onceMost_keeps_marks hbody _ none later).trans hmarks

/-- The first match alone goes ahead and leaves groups in order. -/
theorem once_orders (hbody : Orders site body) (hordered : OrderedBut site.around memory.marks)
    (hlength : site.looped = false → memory.marks.length ≤ 2 * site.low) :
    (once body p memory).Ends
      (fun later => p.offset ≤ later.cursor.offset ∧ site.Goes memory.marks later.marks)
      fun last => Kept site.around (2 * site.low) memory.marks last.marks :=
  hbody p (memory.moveTo p) accept _ hordered hlength fun _ _ hle hgoes => ⟨hle, hgoes⟩

/-- Two ways to match, one after the other has failed, keep groups in order. -/
theorem orElse_orders {test : Option CharTest} {other : Matching} (hbody : Orders site body)
    (hother : Orders site other) : Orders site (orElse site.looped test body other) := by
  intro p memory k found hordered hlength hk
  have hfirst : (if test.any fun test => (p.step test).isNone then
      .failed memory else body p (memory.moveTo p) k : Attempt).Ends found
        fun last => Kept site.around (2 * site.low) memory.marks last.marks := by
    split
    · exact (Restored.refl site.around memory.marks).kept _
    · exact hbody p _ k found hordered hlength hk
  have hsecond (later : Memory)
      (hlater : Kept site.around (2 * site.low) memory.marks later.marks) :
      (other p (later.undoSince memory site.looped) k).Ends found
        fun last => Kept site.around (2 * site.low) memory.marks last.marks := by
    have hundone := hlater.undo hlength
    refine (hother p _ k found (hundone.ordered hordered)
      (fun hlooped => Nat.le_trans hundone.length (hlength hlooped))
      fun q next hle hgoes => ?_).mono fun last hlast => (hundone.kept _).trans hlast
    exact hk q next hle ((Site.Goes.of_restored hundone hordered).trans hgoes)
  rw [orElse]
  exact (hfirst.orElse hsecond).orElse fun later hlater => (hlater.undo hlength).kept _

end Matching

/-! ## Running an expression -/

namespace Expr

variable {e : Expr}

/-- The end of an attempt that a look-around makes. -/
theorem look_orders {site : Site} (hsite : site.Sound) {positive : Bool} {p : Place}
    {memory : Memory} {k : Continuation} {found : Memory → Prop}
    (hordered : OrderedBut site.around memory.marks)
    (hlength : site.looped = false → memory.marks.length ≤ 2 * site.low) {attempt : Attempt}
    (hattempt : attempt.Ends (fun later => site.Goes memory.marks later.marks)
      fun last => Kept site.around (2 * site.low) memory.marks last.marks)
    (hk : ∀ later : Memory, site.Goes memory.marks later.marks → (k p later).Ends found
      fun last => Kept site.around site.kept later.marks last.marks) :
    (if positive then Matching.asserting p k attempt
      else Matching.denying site.looped p memory k attempt).Ends found
        fun last => Kept site.around (2 * site.low) memory.marks last.marks := by
  have hkept := hsite.low_le_kept
  have hfewer : 2 * site.low ≤ 2 * site.first := Nat.mul_le_mul_left 2 hsite.low
  cases positive with
  | true =>
      cases attempt with
      | found later =>
          refine (hk later hattempt).mono fun last hlast => ?_
          exact (hattempt.kept.mono hfewer).trans (hlast.mono hkept)
      | failed later => exact hattempt
  | false =>
      cases attempt with
      | found later => exact hattempt.kept.mono hfewer
      | failed later =>
          have hundone := Kept.undo hattempt hlength
          refine (hk _ (.of_restored hundone hordered)).mono fun last hlast => ?_
          exact (hundone.kept _).trans (hlast.mono hkept)

/-- A place after a text that is skipped lies behind. -/
theorem offset_le_of_skip {fold : Fold} {text : List Char} {p q : Place}
    (h : p.skip fold text = some q) : p.offset ≤ q.offset := by
  induction text generalizing p with
  | nil =>
      cases h
      exact Nat.le_refl _
  | cons expected rest ih =>
      rw [Place.skip] at h
      split at h
      · next c later hnext =>
        have hnear := (Place.next?_eq_some_iff.mp hnext).offset
        split at h
        · exact Nat.le_trans (by omega) (ih h)
        · simp at h
      · simp at h

/-- A group that is noted at its beginning and at its end is in order, and so are the others. -/
theorem goes_group {site : Site} {number : Nat} (hfirst : site.first < number)
    (hhigh : number ≤ site.high) {low : Nat} {p q : Place} {M L : Marks} (hle : p.offset ≤ q.offset)
    (h : Site.Goes { site with low, first := number, around := number :: site.around }
      (putMark M (2 * (number - 1)) p) L) :
    site.Goes M (putMark L (2 * (number - 1) + 1) q) := by
  refine ⟨?_, ?_, ?_⟩
  · intro index hindex hfirm
    have hkept := h.kept index (show index < 2 * number by omega)
      (firm_cons hfirm (by omega))
    rw [markAt_putMark, if_neg (by omega), hkept, markAt_putMark, if_neg (by omega)]
  · intro other start stop hpos hother hspan
    by_cases heq : other = number
    · subst heq
      have hbegin := h.kept (2 * (other - 1)) (show 2 * (other - 1) < 2 * other by omega)
        (firm_even _ _)
      rw [markAt_putMark, if_pos rfl] at hbegin
      rw [spanOf, markAt_putMark, if_pos rfl, markAt_putMark, if_neg (by omega), hbegin] at hspan
      obtain ⟨rfl, rfl⟩ := Prod.mk.inj (Option.some.inj hspan)
      exact hle
    · refine h.ordered other start stop hpos (by simp [heq, hother]) ?_
      rw [spanOf, markAt_putMark, if_neg (by omega), markAt_putMark, if_neg (by omega)] at hspan
      exact hspan
  · intro hlength
    have hinner := h.length (show (putMark M (2 * (number - 1)) p).length ≤ 2 * site.high by
      rw [length_putMark]
      omega)
    rw [length_putMark]
    have hsame : L.length ≤ 2 * site.high := hinner
    omega

/-- Running a group keeps groups in order if running its body does. -/
theorem group_orders {looped : Bool} {low first high number : Nat} {around : List Nat} {body : Expr}
    {next : Option CharTest} (hlow : low ≤ first) (hfirst : first < number) (hhigh : number ≤ high)
    (hbody : Orders ⟨looped, if looped then low else number, number, high, number :: around⟩
      (body.run looped none)) :
    Orders ⟨looped, low, first, high, around⟩ (run looped next (.group number body)) := by
  intro p memory k found hordered hlength hk
  have hless : low ≤ if looped then low else number := by split <;> omega
  rw [run]
  refine (hbody p (memory.beginGroup number p) _ found ?_ ?_ ?_).mono ?_
  · intro other start stop hpos hother hspan
    simp only [List.mem_cons, not_or] at hother
    rw [marks_beginGroup, spanOf, markAt_putMark, if_neg (by omega), markAt_putMark,
      if_neg (by omega)] at hspan
    exact hordered other start stop hpos hother.2 hspan
  · intro hlooped
    have hshort : memory.marks.length ≤ 2 * low := hlength hlooped
    have hlooped : looped = false := hlooped
    rw [marks_beginGroup, length_putMark]
    simp only [hlooped, Bool.false_eq_true, ↓reduceIte]
    omega
  · intro q later hle hgoes
    rw [marks_beginGroup] at hgoes
    have hall := @goes_group ⟨looped, low, first, high, around⟩ number hfirst hhigh _ p q _ _ hle
      hgoes
    refine (hk q (later.endGroup number q) hle (by rwa [marks_endGroup])).mono ?_
    intro last hlast index hindex hfirm
    have hne := hfirm number List.mem_cons_self (by omega)
    have hindex' : index < Site.kept ⟨looped, low, first, high, around⟩ := by
      cases looped <;> exact hindex
    rw [hlast index hindex' fun other hother => hfirm other (List.mem_cons_of_mem _ hother),
      marks_endGroup, markAt_putMark, if_neg hne]
  · intro last hlast index hindex hfirm
    have hindex : index < 2 * low := hindex
    have hbelow : index < 2 * if looped then low else number := by omega
    rw [hlast index hbelow (firm_cons hfirm (by omega)), marks_beginGroup, markAt_putMark,
      if_neg (by omega)]

/-- Inside a repetition, what keeps groups in order does so one after the other. -/
theorem seq_orders_looped {low first high : Nat} {around : List Nat} {a b : Expr}
    {next : Option CharTest}
    (ha : Orders ⟨true, low, first, high, around⟩ (a.run true (b.lead next)))
    (hb : Orders ⟨true, low, first, high, around⟩ (b.run true next)) :
    Orders ⟨true, low, first, high, around⟩ ((seq a b).run true next) := by
  intro p memory k found hordered hlength hk
  rw [run]
  refine ha p memory _ found hordered hlength fun q later hle hgoes => ?_
  refine hb q later k found hgoes.ordered (by simp) fun r last hle' hgoes' => ?_
  exact hk r last (Nat.le_trans hle hle') (hgoes.trans hgoes')

/-- Outside of repetitions the groups of the second part come behind those of the first one, and the
second part leaves these alone. -/
theorem seq_orders {low first middle high : Nat} {around : List Nat} {a b : Expr}
    {next : Option CharTest} (hlow : low ≤ first) (hfirst : first ≤ middle) (hhigh : middle ≤ high)
    (ha : Orders ⟨false, low, first, middle, around⟩ (a.run false (b.lead next)))
    (hb : Orders ⟨false, middle, middle, high, around⟩ (b.run false next)) :
    Orders ⟨false, low, first, high, around⟩ ((seq a b).run false next) := by
  intro p memory k found hordered hlength hk
  have hbelow : memory.marks.length ≤ 2 * middle :=
    Nat.le_trans (hlength rfl) (Nat.mul_le_mul_left 2 (Nat.le_trans hlow hfirst))
  rw [run]
  refine ha p memory _ found hordered hlength fun q later hle hgoes => ?_
  have hshort : later.marks.length ≤ 2 * middle := hgoes.length hbelow
  refine hb q later k found hgoes.ordered (fun _ => hshort) fun r last hle' hgoes' => ?_
  refine hk r last (Nat.le_trans hle hle') ⟨?_, hgoes'.ordered, fun _ => ?_⟩
  · exact hgoes.kept.trans (hgoes'.kept.mono (Nat.mul_le_mul_left 2 hfirst))
  · exact hgoes'.length (Nat.le_trans hshort (Nat.mul_le_mul_left 2 hhigh))

/-- What is matched once and for all keeps groups in order. -/
theorem atomic_orders {site : Site} (hsite : site.Sound) {body : Expr} {next : Option CharTest}
    (hbody : Orders site (body.run site.looped none)) :
    Orders site ((atomic body).run site.looped next) := by
  intro p memory k found hordered hlength hk
  have honce := Matching.once_orders (p := p) hbody hordered hlength
  rw [run]
  cases hattempt : Matching.once (body.run site.looped none) p memory with
  | found later =>
      rw [hattempt] at honce
      obtain ⟨hle, hgoes⟩ := honce
      refine (hk _ later hle hgoes).mono fun last hlast => ?_
      exact (hgoes.kept.mono (Nat.mul_le_mul_left 2 hsite.low)).trans
        (hlast.mono hsite.low_le_kept)
  | failed later =>
      rw [hattempt] at honce
      exact honce

/-- Repeating an expression keeps groups in order if running it inside of a repetition does. What is
repeated possessively leaves the marks alone and never leaves the cursor in front of its place. -/
theorem loop_orders {site : Site} (hsite : site.Sound) {greed : Greed} {least : Nat}
    {most : Option Nat} {body : Expr} {next : Option CharTest}
    (hpossessive : greed = .possessive →
      body.Groupfree ∧ body.Forward ∧ body.looksBack = false)
    (hbody : Orders { site with looped := true } (body.run true none)) :
    Orders site ((loop greed least most body).run site.looped next) := by
  intro p memory k found
  rw [run]
  by_cases hgreed : greed = .possessive
  · subst hgreed
    obtain ⟨hfree, hforward, hback⟩ := hpossessive rfl
    cases body.soleTest? with
    | some test => exact Matching.testMost_orders hsite test next least most p memory k found
    | none =>
        refine Matching.timesMost_orders hsite (fun p memory => once_keeps_marks hfree.1)
          (fun text low => ?_) least most p memory k found
        exact (run_advances hfree.2 hforward _ none (.inr hback)).mono (Nat.zero_le _)
  · cases body.soleTest? with
    | some test =>
        exact Matching.testTimes_orders hsite test next hgreed least most p memory k found
    | none =>
        have htrue : (site.looped || greed != .possessive) = true := by simp [hgreed]
        rw [htrue]
        exact Matching.times_orders hsite hbody hgreed least most p memory k found

/-- Looking ahead keeps groups in order if running what is looked for does. -/
theorem ahead_orders {site : Site} (hsite : site.Sound) {positive : Bool} {body : Expr}
    {next : Option CharTest} (hbody : Orders site (body.run site.looped none)) :
    Orders site ((ahead positive body).run site.looped next) := by
  intro p memory k found hordered hlength hk
  have honce := Matching.once_orders (p := p) hbody hordered hlength
  refine look_orders hsite hordered hlength ?_ fun later => hk p later (Nat.le_refl _)
  exact honce.imp fun later hlater => hlater.2

/-- Looking behind keeps groups in order if running what is looked for does. -/
theorem behind_orders {site : Site} (hsite : site.Sound) {positive : Bool} {width : Width}
    {body : Expr} {next : Option CharTest} (hbody : Orders site (body.run site.looped none)) :
    Orders site ((behind positive width body).run site.looped next) := by
  intro p memory k found hordered hlength hk
  rw [run]
  cases p.back width.least with
  | none =>
      dsimp only
      split
      · exact (Restored.refl site.around memory.marks).kept _
      · exact Matching.ends_of_same hsite hordered (Nat.le_refl _) rfl hk
  | some start =>
      have honce := Matching.once_orders (p := start) hbody hordered hlength
      refine look_orders hsite hordered hlength ?_ fun later => hk p later (Nat.le_refl _)
      exact honce.imp fun later hlater => hlater.2

/-- Running an orderly expression keeps groups in order. -/
theorem run_orders {looped : Bool} {low first high : Nat} {around : List Nat}
    (hnumbered : e.Numbered looped first high) (horderly : e.Orderly)
    (hlow : low ≤ first) (haround : ∀ number ∈ around, number ≤ first) (next : Option CharTest) :
    Orders ⟨looped, low, first, high, around⟩ (e.run looped next) := by
  have hsound {e : Expr} {looped : Bool} {low first high : Nat} {around : List Nat}
      (hnumbered : e.Numbered looped first high) (hlow : low ≤ first)
      (haround : ∀ number ∈ around, number ≤ first) :
      Site.Sound ⟨looped, low, first, high, around⟩ := ⟨hlow, hnumbered.le, haround⟩
  induction e generalizing looped low first high around next with
  | empty =>
      intro p memory k found hordered _ hk
      exact Matching.ends_of_same (hsound hnumbered hlow haround) hordered (Nat.le_refl _) rfl hk
  | never =>
      intro p memory k found _ _ _
      exact (Restored.refl around memory.marks).kept _
  | char test =>
      intro p memory k found hordered _ hk
      rw [run]
      cases hstep : p.step test with
      | none => exact (Restored.refl around memory.marks).kept _
      | some q =>
          obtain ⟨c, _, hreaches⟩ := Place.step_eq_some_iff.mp hstep
          refine Matching.ends_of_same (hsound hnumbered hlow haround) hordered ?_ rfl hk
          rw [hreaches.offset]
          exact Nat.le_add_right ..
  | anchor condition =>
      intro p memory k found hordered _ hk
      rw [run]
      split
      · exact Matching.ends_of_same (hsound hnumbered hlow haround) hordered (Nat.le_refl _) rfl hk
      · exact (Restored.refl around memory.marks).kept _
  | seq a b iha ihb =>
      rw [Numbered] at hnumbered
      cases looped with
      | true =>
          rw [if_pos rfl] at hnumbered
          exact seq_orders_looped (iha hnumbered.1 horderly.1 hlow haround _)
            (ihb hnumbered.2 horderly.2 hlow haround next)
      | false =>
          rw [if_neg (by simp)] at hnumbered
          obtain ⟨middle, hnumbered, hnumbered'⟩ := hnumbered
          refine seq_orders hlow hnumbered.le hnumbered'.le
            (iha hnumbered horderly.1 hlow haround _)
            (ihb hnumbered' horderly.2 (Nat.le_refl middle) ?_ next)
          exact fun number hnumber => Nat.le_trans (haround number hnumber) hnumbered.le
  | either a b iha ihb =>
      exact @Matching.orElse_orders ⟨looped, low, first, high, around⟩ _ _ _
        (iha hnumbered.1 horderly.1 hlow haround none)
        (ihb hnumbered.2 horderly.2 hlow haround none)
  | group number body ih =>
      obtain ⟨hfirst, hbody⟩ := hnumbered
      refine group_orders hlow hfirst hbody.le (ih hbody horderly ?_ ?_ none)
      · split
        · omega
        · exact Nat.le_refl number
      · intro other hother
        rcases List.mem_cons.mp hother with rfl | hother
        · exact Nat.le_refl other
        · exact Nat.le_trans (haround other hother) (Nat.le_of_lt hfirst)
  | loop greed least most body ih =>
      exact loop_orders (hsound (e := loop greed least most body) hnumbered hlow haround)
        horderly.1 (ih hnumbered horderly.2 hlow haround none)
  | atomic body ih =>
      exact atomic_orders (hsound (e := body) hnumbered hlow haround)
        (ih hnumbered horderly hlow haround none)
  | ahead positive body ih =>
      exact ahead_orders (hsound (e := body) hnumbered hlow haround)
        (ih hnumbered horderly hlow haround none)
  | behind positive width body ih =>
      exact behind_orders (hsound (e := body) hnumbered hlow haround)
        (ih hnumbered horderly hlow haround none)
  | backref number width fold =>
      intro p memory k found hordered _ hk
      rw [run]
      cases hskip : (memory.reference? number).bind (p.skip fold) with
      | none => exact (Restored.refl around memory.marks).kept _
      | some q =>
          obtain ⟨reference, _, hskip⟩ := Option.bind_eq_some_iff.mp hskip
          exact Matching.ends_of_same (hsound hnumbered hlow haround) hordered
            (offset_le_of_skip hskip) rfl hk
  | ifGroup number yes no ihyes ihno =>
      intro p memory k found hordered hlength hk
      rw [run]
      split
      · exact ihyes hnumbered.1 horderly.1 hlow haround _ p memory k found hordered hlength hk
      · exact ihno hnumbered.2 horderly.2 hlow haround _ p memory k found hordered hlength hk

/-- A match of an orderly expression has its groups in order, if what follows it leaves the marks as
they are. -/
theorem ordered_of_run {high : Nat} (hnumbered : e.Numbered false 0 high)
    (horderly : e.Orderly) {p : Place} {next : Option CharTest} {k : Continuation}
    (hk : ∀ q later, (k q later).Ends (fun last => last.marks = later.marks)
      fun last => last.marks = later.marks) {memory : Memory}
    (h : e.run false next p { cursor := p } k = .found memory) : Ordered memory.marks := by
  have hruns := @run_orders e false 0 0 high [] hnumbered horderly (Nat.le_refl 0) (by simp) next p
    { cursor := p } k (fun later => OrderedBut [] later.marks)
    (fun number start stop _ _ hspan => ordered_nil number start stop hspan)
    (fun _ => Nat.le_refl 0) fun q later _ hgoes => by
      have hmarks := hk q later
      cases hattempt : k q later with
      | found last =>
          rw [hattempt] at hmarks
          have hsame : last.marks = later.marks := hmarks
          show OrderedBut [] last.marks
          rw [hsame]
          exact hgoes.ordered
      | failed last =>
          rw [hattempt] at hmarks
          have hsame : last.marks = later.marks := hmarks
          show Kept [] _ later.marks last.marks
          rw [hsame]
          exact (Restored.refl [] later.marks).kept _
  rw [h] at hruns
  have hordered : OrderedBut [] memory.marks := hruns
  intro number start stop hspan
  cases number with
  | zero => exact hordered 1 start stop Nat.one_pos (by simp) hspan
  | succ number => exact hordered (number + 1) start stop (Nat.succ_pos _) (by simp) hspan

end Expr

namespace Expression

variable {expression : Expression} {high : Nat}

/-- A search for an orderly expression has an answer. -/
theorem search_ok_of_orderly (hnumbered : expression.expr.Numbered false 0 high)
    (horderly : expression.expr.Orderly) (text : String) :
    ∃ result, expression.search text = .ok result := by
  unfold search
  dsimp only
  split
  · split
    · exact ⟨none, rfl⟩
    · next found hfind =>
      obtain ⟨s, _, _, _, hrun⟩ := Expr.run_of_findFrom hfind
      rw [hasCrossedGroup_of_ordered (Expr.ordered_of_run (k := Matching.accept) hnumbered
        horderly (fun _ _ => rfl) hrun)]
      exact ⟨some found, rfl⟩
  · exact ⟨none, rfl⟩

/-- A search for an expression without possessive repetitions has an answer. -/
theorem search_ok_of_numbered (hnumbered : expression.expr.Numbered false 0 high)
    (hpossessive : expression.expr.hasPossessive = false) (text : String) :
    ∃ result, expression.search text = .ok result :=
  search_ok_of_orderly hnumbered (Expr.orderly_of_hasPossessive hpossessive) text

/-- Whether a whole text matches has an answer for an expression without possessive repetitions. -/
theorem fullMatch_ok_of_numbered (hnumbered : expression.expr.Numbered false 0 high)
    (hpossessive : expression.expr.hasPossessive = false) (text : String) :
    ∃ answer, expression.fullMatch text = .ok answer := by
  unfold fullMatch
  dsimp only
  split
  · split
    · next memory hrun =>
      have hordered := Expr.ordered_of_run hnumbered
        (Expr.orderly_of_hasPossessive hpossessive) (fun q later => by
        split <;> exact rfl) hrun
      rw [hasCrossedGroup_of_ordered hordered]
      exact ⟨true, rfl⟩
    · exact ⟨false, rfl⟩
  · exact ⟨false, rfl⟩

end Expression

end RoutePattern
