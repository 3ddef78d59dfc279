import RoutePattern.Proofs.Expr.Passage

/-!
# What a run finds

`run_follows` is the main result: running an expression hands only those places to the continuation
that the expression passes to, with the marks that the passage leaves, and an attempt that fails
leaves the marks in front of it as they were. `Follows` says this of any way to match; the lemmas
before the main result take the ways to repeat a match one by one.
-/

namespace RoutePattern

/-- A row of expressions is run from its first one on. -/
theorem Expr.run_ofList_cons (looped : Bool) (next : Option CharTest) (e : Expr) (rest : List Expr)
    (place : Place) (memory : Memory) (k : Continuation) :
    (ofList (e :: rest)).run looped next place memory k =
      e.run looped ((ofList rest).lead next) place memory fun later memory =>
        (ofList rest).run looped next later memory k := by
  cases rest with
  | nil => rfl
  | cons second rest =>
      have hrow : ofList (e :: second :: rest) = seq e (ofList (second :: rest)) := rfl
      rw [hrow, run]

/-- An attempt ends in a memory with one property if it succeeds and with another if it fails. -/
def Attempt.Ends (found failed : Memory → Prop) : Attempt → Prop
  | .found memory => found memory
  | .failed memory => failed memory

/-- An attempt that is made after a failed one ends as the later attempt does. -/
theorem Attempt.Ends.orElse {found failed failed' : Memory → Prop} {attempt : Attempt}
    {next : Memory → Attempt} (h : attempt.Ends found failed)
    (hnext : ∀ memory, failed memory → (next memory).Ends found failed') :
    (attempt.orElse next).Ends found failed' := by
  cases attempt with
  | found memory => exact h
  | failed memory => exact hnext memory h

/-- What is known of a failed attempt may be weakened. -/
theorem Attempt.Ends.mono {found failed failed' : Memory → Prop} {attempt : Attempt}
    (h : attempt.Ends found failed) (himp : ∀ memory, failed memory → failed' memory) :
    attempt.Ends found failed' := by
  cases attempt with
  | found memory => exact h
  | failed memory => exact himp memory h

/-- A memory of a search in a text that still has some marks. -/
structure Intact (text : List Char) (marks : Marks) (memory : Memory) : Prop where
  cursor : memory.cursor.whole = text
  marks : marks <+: memory.marks

/-- A memory of a search in a text with exactly some marks. -/
structure Steady (text : List Char) (marks : Marks) (memory : Memory) : Prop where
  cursor : memory.cursor.whole = text
  marks : memory.marks = marks

/-- What has more marks still has fewer. -/
theorem Intact.mono {text : List Char} {marks others : Marks} {memory : Memory}
    (h : Intact text marks memory) (hbelow : others <+: marks) : Intact text others memory :=
  ⟨h.cursor, hbelow.trans h.marks⟩

/-- An attempt that leaves some marks alone leaves the first of them alone. -/
theorem Attempt.Ends.fewer {found : Memory → Prop} {text : List Char} {marks : Marks} {n m : Nat}
    {attempt : Attempt} (h : attempt.Ends found (Intact text (marks.take m))) (hle : n ≤ m) :
    attempt.Ends found (Intact text (marks.take n)) :=
  h.mono fun _ hlater => hlater.mono (List.take_prefix_take_left hle)

/-- Moving the cursor within the text keeps the marks. -/
theorem Intact.moveTo {text : List Char} {marks : Marks} {memory : Memory}
    (h : Intact text marks memory) {place : Place} (hplace : place.whole = text) :
    Intact text marks (memory.moveTo place) :=
  ⟨hplace, h.marks⟩

/-- Moving the cursor within the text leaves exactly the same marks. -/
theorem Steady.moveTo {text : List Char} {marks : Marks} {memory : Memory}
    (h : Steady text marks memory) {place : Place} (hplace : place.whole = text) :
    Steady text marks (memory.moveTo place) :=
  ⟨hplace, h.marks⟩

/-- Exactly some marks are at least the first of them. -/
theorem Steady.intact {text : List Char} {marks : Marks} {memory : Memory}
    (h : Steady text marks memory) (n : Nat) : Intact text (marks.take n) memory :=
  ⟨h.cursor, by rw [h.marks]; exact List.take_prefix ..⟩

/-- Undoing an attempt brings back exactly the marks before it, if those that are still there were
all of them. -/
theorem Intact.undo {text : List Char} {n : Nat} {looped : Bool} {memory later : Memory}
    (h : Intact text (memory.marks.take n) later)
    (hn : looped = false → memory.marks.length ≤ n) :
    Steady text memory.marks (later.undoSince memory looped) := by
  refine ⟨h.cursor, ?_⟩
  unfold Memory.undoSince
  cases looped with
  | true => rfl
  | false =>
      have hbelow := h.marks
      rw [List.take_of_length_le (hn rfl)] at hbelow
      exact (List.prefix_iff_eq_take.mp hbelow).symm

/-- Where a match is attempted: the text, whether that is inside a repetition, and the share of the
marks. -/
structure Scope where
  text : List Char
  looped : Bool
  low : Nat
  high : Nat

/-- How many marks an attempt leaves alone that comes behind the match. Inside a repetition the marks
of the match itself may change again. -/
def Scope.kept (scope : Scope) : Nat :=
  if scope.looped then scope.low else scope.high

/-- What comes behind a match leaves at least the marks in front of it alone. -/
theorem Scope.low_le_kept {scope : Scope} (h : scope.low ≤ scope.high) :
    scope.low ≤ scope.kept := by
  unfold Scope.kept
  split
  · exact Nat.le_refl _
  · exact h

/-- A way to match follows a relation: it hands the continuation only places and marks to which the
relation leads, and if it fails, the marks in front of its share are still there. -/
def Follows (scope : Scope) (R : Place → Marks → Place → Marks → Prop) (body : Matching) : Prop :=
  ∀ (p : Place) (memory : Memory) (k : Continuation) (found : Memory → Prop),
    p.whole = scope.text → memory.cursor.whole = scope.text →
    (scope.looped = false → memory.marks.length ≤ scope.low) →
    (∀ q later, R p memory.marks q later.marks → q.whole = scope.text →
      later.cursor.whole = scope.text →
      (k q later).Ends found (Intact scope.text (later.marks.take scope.kept))) →
    (body p memory k).Ends found (Intact scope.text (memory.marks.take scope.low))

/-- What follows a relation follows any that it implies. -/
theorem Follows.mono {scope : Scope} {R S : Place → Marks → Place → Marks → Prop}
    {body : Matching} (h : Follows scope R body)
    (himp : ∀ p M q N, p.whole = scope.text → R p M q N → S p M q N) : Follows scope S body := by
  intro p memory k found hp hmemory hlength hk
  refine h p memory k found hp hmemory hlength ?_
  intro q later hR
  exact hk q later (himp _ _ _ _ hp hR)

namespace Matching

variable {text : List Char} {marks : Marks} {found : Memory → Prop} {n : Nat} {k : Continuation}

/-! ## Repeating a single test -/

section Testing

variable {steady intact : Memory → Prop}

/-- Trying places in turn, each with a steady memory. -/
theorem firstOf_ends {next : Option CharTest} {undo : Memory → Memory} {places : List Place}
    (hundo : ∀ later, intact later → steady (undo later))
    (hk : ∀ q ∈ places, (∀ later, steady later → steady (later.moveTo q)) ∧
      ∀ later, steady later → (k q later).Ends found intact)
    {memory : Memory} (hmemory : steady memory) :
    (firstOf next undo k places memory).Ends found steady := by
  induction places generalizing memory with
  | nil => exact hmemory
  | cons place rest ih =>
      obtain ⟨⟨hmove, hfirst⟩, hrest⟩ := List.forall_mem_cons.mp hk
      rw [firstOf]
      split
      · exact ih hrest hmemory
      · refine (hfirst _ (hmove _ hmemory)).orElse ?_
        exact fun later hlater => ih hrest (hundo later hlater)

/-- Trying a place and those behind it, each with a steady memory. -/
theorem advancing_ends {test : CharTest} {undo : Memory → Memory} {room : Nat} {p : Place}
    (hundo : ∀ later, intact later → steady (undo later))
    (hmove : ∀ q later, q.whole = p.whole → steady later → steady (later.moveTo q))
    (hk : ∀ steps q, steps ≤ room → Place.StepsTo test steps p q →
      ∀ later, steady later → (k q later).Ends found intact)
    {memory : Memory} (hmemory : steady memory) :
    (advancing test undo k room p memory).Ends found steady := by
  induction room generalizing p memory with
  | zero =>
      rw [advancing]
      refine (hk 0 p (Nat.le_refl 0) rfl _ (hmove p _ rfl hmemory)).orElse ?_
      intro later hlater
      have hundone := hmove p _ rfl (hundo later hlater)
      dsimp only
      split
      · exact hundone
      · next next hstep =>
        obtain ⟨c, _, hreaches⟩ := Place.step_eq_some_iff.mp hstep
        split
        · exact hmove next _ hreaches.whole hundone
        · exact hundone
  | succ room ih =>
      rw [advancing]
      refine (hk 0 p (Nat.zero_le _) rfl _ (hmove p _ rfl hmemory)).orElse ?_
      intro later hlater
      have hundone := hmove p _ rfl (hundo later hlater)
      dsimp only
      split
      · exact hundone
      · next next hstep =>
        obtain ⟨c, _, hreaches⟩ := Place.step_eq_some_iff.mp hstep
        refine ih (fun q later hq => hmove q later (hq.trans hreaches.whole)) ?_ ?_
        · exact fun steps q hle hsteps => hk (steps + 1) q (Nat.succ_le_succ hle)
            ⟨next, hstep, hsteps⟩
        · split
          · exact hmove next _ hreaches.whole hundone
          · exact hundone

/-- A number of steps within bounds leads from one place to another, and the marks stay. A possessive
repetition stops somewhere in the text. -/
def TestPasses (test : CharTest) (greed : Greed) (least : Nat) (most : Option Nat) (p : Place)
    (M : Marks) (q : Place) (N : Marks) : Prop :=
  N = M ∧ if greed = .possessive then q.whole = p.whole
    else ∃ n, least ≤ n ∧ (∀ m, most = some m → n ≤ m ∨ n = least ∧ greed ≠ .greedy) ∧
      Place.StepsTo test n p q

/-- Repeating a test stays in the text. -/
theorem TestPasses.whole {test : CharTest} {greed : Greed} {least : Nat} {most : Option Nat}
    {p q : Place} {M N : Marks} (h : TestPasses test greed least most p M q N) :
    q.whole = p.whole := by
  obtain ⟨_, hsteps⟩ := h
  split at hsteps
  · exact hsteps
  · obtain ⟨_, _, _, hsteps⟩ := hsteps
    exact hsteps.whole

/-- The first of the places that steps reach is as many steps away as there are others. -/
theorem headD_steps (test : CharTest) (most : Option Nat) (p : Place) :
    ∃ n, (p.steps test most).length = n + 1 ∧ n ≤ most.getD p.left ∧
      Place.StepsTo test n p ((p.steps test most).headD p) := by
  obtain ⟨n, q, rest, hchain, hlength, hle, hsteps⟩ :=
    Place.chain_head test (most.getD p.left) p
  refine ⟨n, ?_, hle, ?_⟩
  · simp [Place.steps_eq, hchain, hlength]
  · simpa [Place.steps_eq, hchain] using hsteps

/-- The first of the places that no more than the least steps reach is as many steps away as there
are others. -/
theorem headD_leastSteps (test : CharTest) (least : Nat) (p : Place) :
    let reach := if least = 0 then [p] else p.steps test (some least)
    ∃ n, reach.length = n + 1 ∧ n ≤ least ∧ Place.StepsTo test n p (reach.headD p) := by
  dsimp only
  split
  · exact ⟨0, rfl, Nat.zero_le _, rfl⟩
  · exact headD_steps test (some least) p

/-- Repeating a single test tries places within its bounds, each with a steady memory. -/
theorem testTimes_ends {looped : Bool} {test : CharTest} {next : Option CharTest} {greed : Greed}
    {least : Nat} {most : Option Nat} {p : Place} {memory : Memory}
    (hmove : ∀ q later, q.whole = p.whole → steady later → steady (later.moveTo q))
    (hundo : ∀ start later, steady start → intact later → steady (later.undoSince start looped))
    (hk : ∀ q, TestPasses test greed least most p marks q marks →
      ∀ later, steady later → (k q later).Ends found intact)
    (hmemory : steady memory) :
    (testTimes looped test next greed least most p memory k).Ends found
      (fun later => steady later ∨ intact later) := by
  unfold testTimes
  split
  case isFalse => exact .inl hmemory
  have hmoved {q : Place} (hq : q.whole = p.whole) :
      steady (memory.moveTo (if test.isFolded then q else p)) := by
    refine hmove _ _ ?_ hmemory
    split
    · exact hq
    · rfl
  cases greed with
  | greedy =>
      dsimp only
      obtain ⟨n, _, _, hsteps⟩ := headD_steps test most p
      have hstart := hmoved hsteps.whole
      split
      · exact .inl hstart
      · refine (firstOf_ends (fun later => hundo _ later hstart) ?_ hstart).mono fun _ => .inl
        intro q hq
        obtain ⟨m, hleast, hmost, hsteps⟩ := Place.mem_steps_take_iff.mp hq
        refine ⟨fun later => hmove q later hsteps.whole, hk q ⟨rfl, ?_⟩⟩
        exact ⟨m, hleast, fun _ h => .inl (by simpa [h] using hmost), hsteps⟩
  | lazy =>
      dsimp only
      obtain ⟨n, hlong, hn, hsteps⟩ := headD_leastSteps test least p
      generalize (if least = 0 then [p] else p.steps test (some least)) = reach at *
      have hwhole := hsteps.whole
      have hstart := hmoved hwhole
      split
      · exact .inl hstart
      · next hmany =>
        have heq : n = least := by omega
        subst heq
        refine (advancing_ends (fun later => hundo _ later hstart)
          (fun q later hq => hmove q later (hq.trans hwhole)) ?_ hstart).mono fun _ => .inl
        intro steps q hroom hsteps'
        have hall := Iterates.trans hsteps hsteps'
        refine hk q ⟨rfl, n + steps, Nat.le_add_right .., ?_, hall⟩
        rintro m rfl
        simp only [Option.map_some, Option.getD_some] at hroom
        simp only [reduceCtorEq, ne_eq, not_false_eq_true, and_true]
        omega
  | possessive =>
      dsimp only
      obtain ⟨n, _, _, hsteps⟩ := headD_steps test most p
      have hwhole := hsteps.whole
      have hstart := hmoved hwhole
      split
      · exact .inl hstart
      · exact (hk _ ⟨rfl, hwhole⟩ _ hstart).mono fun _ => .inr

end Testing

/-- Repeating a single test follows its steps. -/
theorem testTimes_follows {scope : Scope} (hle : scope.low ≤ scope.high) (test : CharTest)
    (next : Option CharTest) (greed : Greed) (least : Nat) (most : Option Nat) :
    Follows scope (TestPasses test greed least most)
      (testTimes scope.looped test next greed least most) := by
  intro p memory k found hp hmemory hlength hk
  have hkept := Scope.low_le_kept hle
  refine (@testTimes_ends memory.marks found k (Steady scope.text memory.marks)
    (Intact scope.text (memory.marks.take scope.kept)) _ _ _ _ _ _ p memory ?_ ?_ ?_
    ⟨hmemory, rfl⟩).mono ?_
  · exact fun q later hq hlater => hlater.moveTo (hq.trans hp)
  · -- What an attempt behind the match has added is undone as long as it leaves the marks alone.
    intro start later hstart hlater
    rw [← hstart.marks] at hlater ⊢
    refine hlater.undo fun hlooped => ?_
    rw [hstart.marks]
    exact Nat.le_trans (hlength hlooped) hkept
  · intro q hpasses later hlater
    have hq : q.whole = scope.text := hpasses.whole.trans hp
    have h := hk q later (by rw [hlater.marks]; exact hpasses) hq hlater.cursor
    rwa [hlater.marks] at h
  · rintro later (hlater | hlater)
    · exact hlater.intact _
    · exact hlater.mono (List.take_prefix_take_left hkept)

/-! ## Repeating any other expression -/

section Repeating

variable {body : Matching} {R : Place → Marks → Place → Marks → Prop} {low high : Nat}

/-- The required iterations lead to places from which the rest is matched. -/
theorem required_ends {last : Matching} (hbody : Follows ⟨text, true, low, high⟩ R body)
    {count : Nat} {p : Place} {memory : Memory} (hp : p.whole = text)
    (hmemory : memory.cursor.whole = text)
    (hlast : ∀ q later, Iterates (Paired R) count (p, memory.marks) (q, later.marks) →
      q.whole = text → later.cursor.whole = text →
      (last q later k).Ends found (Intact text (later.marks.take low))) :
    (required body last count p memory k).Ends found (Intact text (memory.marks.take low)) := by
  induction count generalizing p memory with
  | zero => exact hlast p memory rfl hp hmemory
  | succ count ih =>
      rw [required]
      refine (hbody p (memory.moveTo p) _ found hp hp (by simp) ?_).orElse ?_
      · intro q later hstep hq hlater
        refine ih hq hlater ?_
        exact fun r last hrest => hlast r last ⟨(q, later.marks), hstep, hrest⟩
      · exact fun later hlater => hlater.moveTo hp

/-- Further iterations, most first, lead to places that the continuation gets. -/
theorem greedily_ends (hbody : Follows ⟨text, true, low, high⟩ R body) {room : Nat}
    {start : Option Place} {p : Place} {memory : Memory} (hp : p.whole = text)
    (hmemory : memory.cursor.whole = text)
    (hk : ∀ n q later, n ≤ room → Iterates (Paired R) n (p, memory.marks) (q, later.marks) →
      q.whole = text → later.cursor.whole = text →
      (k q later).Ends found (Intact text (later.marks.take low))) :
    (greedily body room start p memory k).Ends found (Intact text (memory.marks.take low)) := by
  have hfinish (later : Memory) (hlater : Steady text memory.marks later) :
      ((k p (later.moveTo p)).orElse fun last => .failed (last.moveTo p)).Ends found
        (Intact text (memory.marks.take low)) := by
    have hfirst := hk 0 p (later.moveTo p) (Nat.zero_le _) (by
      show (p, memory.marks) = (p, later.marks)
      rw [hlater.marks]) hp hp
    rw [show (later.moveTo p).marks = memory.marks from hlater.marks] at hfirst
    exact hfirst.orElse fun last hlast => hlast.moveTo hp
  induction room generalizing start p memory with
  | zero =>
      rw [greedily]
      exact hfinish memory ⟨hmemory, rfl⟩
  | succ room ih =>
      rw [greedily]
      dsimp only
      split
      · exact hfinish memory ⟨hmemory, rfl⟩
      · refine (hbody p (memory.moveTo p) _ found hp hp (by simp) ?_).orElse ?_
        · intro q later hstep hq hlater
          have hk' (n : Nat) (r : Place) (last : Memory) (hle : n ≤ room)
              (hrest : Iterates (Paired R) n (q, later.marks) (r, last.marks)) :=
            hk (n + 1) r last (Nat.succ_le_succ hle) ⟨(q, later.marks), hstep, hrest⟩
          refine ih hq hlater hk' ?_
          intro next hnext
          have hfirst := hk' 0 q (next.moveTo q) (Nat.zero_le _) (by
            show (q, later.marks) = (q, next.marks)
            rw [hnext.marks]) hq hq
          rw [show (next.moveTo q).marks = later.marks from hnext.marks] at hfirst
          exact hfirst.orElse fun last hlast => hlast.moveTo hq
        · exact fun later hlater => hfinish _ (hlater.undo (by simp))

/-- Further iterations, least first, lead to places that the continuation gets. -/
theorem lazily_ends {scope : Scope} (hbody : Follows { scope with looped := true } R body)
    (hgrow : ∀ p M q N, R p M q N → M.length ≤ scope.high → N.length ≤ scope.high) {room : Nat}
    {start : Option Place} {p : Place} {memory : Memory} (hp : p.whole = scope.text)
    (hmemory : memory.cursor.whole = scope.text)
    (hlength : scope.looped = false → memory.marks.length ≤ scope.high)
    (hk : ∀ n q later, n ≤ room → Iterates (Paired R) n (p, memory.marks) (q, later.marks) →
      q.whole = scope.text → later.cursor.whole = scope.text →
      (k q later).Ends found (Intact scope.text (later.marks.take scope.kept))) :
    (lazily scope.looped body room start p memory k).Ends found
      (Intact scope.text (memory.marks.take scope.low)) := by
  have hundo (p : Place) (memory later : Memory) (hp : p.whole = scope.text)
      (hlength : scope.looped = false → memory.marks.length ≤ scope.high)
      (hlater : Intact scope.text (memory.marks.take scope.kept) later) :
      Steady scope.text memory.marks ((later.undoSince memory scope.looped).moveTo p) := by
    refine (hlater.undo fun hlooped => ?_).moveTo hp
    rw [Scope.kept, hlooped]
    exact hlength hlooped
  induction room generalizing start p memory with
  | zero =>
      rw [lazily]
      refine (hk 0 p (memory.moveTo p) (Nat.zero_le _) rfl hp hp).orElse ?_
      exact fun later hlater => (hundo p memory later hp hlength hlater).intact _
  | succ room ih =>
      rw [lazily]
      refine (hk 0 p (memory.moveTo p) (Nat.zero_le _) rfl hp hp).orElse ?_
      intro later hlater
      have hundone := hundo p memory later hp hlength hlater
      dsimp only
      split
      · exact hundone.intact _
      · have hsame := hundone.marks
        rw [← hsame]
        refine (hbody p _ _ found hp hp (by simp) ?_).orElse ?_
        · intro q next hstep hq hnext
          rw [hsame] at hstep
          refine ih hq hnext ?_ ?_
          · exact fun hlooped => hgrow _ _ _ _ hstep (hlength hlooped)
          · exact fun n r last hroom hrest =>
              hk (n + 1) r last (Nat.succ_le_succ hroom) ⟨(q, next.marks), hstep, hrest⟩
        · exact fun last hlast => hlast.moveTo hp

/-- A number of iterations within bounds leads from one place to another. Bounds out of order leave
the least number. -/
def TimesPasses (R : Place → Marks → Place → Marks → Prop) (least : Nat) (most : Option Nat)
    (p : Place) (M : Marks) (q : Place) (N : Marks) : Prop :=
  ∃ n, least ≤ n ∧ (∀ m, most = some m → n ≤ m ∨ n = least) ∧
    Iterates (Paired R) n (p, M) (q, N)

/-- Repetitions that try several counts follow the iterations of their bodies. -/
theorem times_follows {scope : Scope} (hle : scope.low ≤ scope.high)
    (hbody : Follows { scope with looped := true } R body)
    (hgrow : ∀ p M q N, R p M q N → M.length ≤ scope.high → N.length ≤ scope.high)
    {greed : Greed} (hgreed : greed ≠ .possessive) (least : Nat) (most : Option Nat) :
    Follows scope (TimesPasses R least most) (times scope.looped body greed least most) := by
  intro p memory k found hp hmemory hlength hk
  have hkept := Scope.low_le_kept hle
  -- The bounds of the counts after the required ones.
  have hcount (n m : Nat) (hroom : n ≤ (most.map (· - least)).getD (iterationBound p))
      (hmost : most = some m) : least + n ≤ m ∨ least + n = least := by
    subst hmost
    simp only [Option.map_some, Option.getD_some] at hroom
    omega
  cases greed with
  | greedy =>
      refine required_ends hbody hp hmemory ?_
      intro q later hfirst hq hlater
      refine greedily_ends hbody hq hlater ?_
      intro n r last hroom hsecond hr hlast
      refine (hk r last ⟨least + n, Nat.le_add_right .., ?_, hfirst.trans hsecond⟩ hr hlast).fewer
        hkept
      exact fun m hm => hcount n m hroom hm
  | lazy =>
      refine required_ends hbody hp hmemory ?_
      intro q later hfirst hq hlater
      refine lazily_ends hbody hgrow hq hlater ?_ ?_
      · intro hlooped
        refine hfirst.keeps (fun s => s.2.length ≤ scope.high) ?_
          (Nat.le_trans (hlength hlooped) hle)
        exact fun a b hstep ha => hgrow _ _ _ _ hstep ha
      · intro n r last hroom hsecond
        refine hk r last ⟨least + n, Nat.le_add_right .., ?_, hfirst.trans hsecond⟩
        exact fun m hm => hcount n m hroom hm
  | possessive => exact absurd rfl hgreed

/-- The first match alone ends in the place and marks that it leads to. -/
theorem once_ends {scope : Scope} (hbody : Follows scope R body) {p : Place} {memory : Memory}
    (hp : p.whole = scope.text)
    (hlength : scope.looped = false → memory.marks.length ≤ scope.low) :
    (once body p memory).Ends
      (fun later => later.cursor.whole = scope.text ∧ R p memory.marks later.cursor later.marks)
      (Intact scope.text (memory.marks.take scope.low)) :=
  hbody p (memory.moveTo p) accept _ hp hp hlength fun _ _ hstep hq _ => ⟨hq, hstep⟩

/-- Taking first matches that change no marks leaves the marks as they are. -/
theorem onceTimes_ends {scope : Scope} (hbody : Follows scope R body)
    (hsame : ∀ p M q N, R p M q N → N = M) (count : Nat) {memory : Memory}
    (hmemory : memory.cursor.whole = scope.text)
    (hlength : scope.looped = false → memory.marks.length ≤ scope.low) :
    (onceTimes body count memory).Ends (Steady scope.text memory.marks)
      (Intact scope.text (memory.marks.take scope.low)) := by
  induction count generalizing memory with
  | zero => exact ⟨hmemory, rfl⟩
  | succ count ih =>
      rw [onceTimes]
      have hfirst := once_ends hbody hmemory hlength
      cases honce : once body memory.cursor memory with
      | found later =>
          rw [honce] at hfirst
          have hmarks := hsame _ _ _ _ hfirst.2
          have hrest := ih hfirst.1 (by rwa [hmarks])
          rwa [hmarks] at hrest
      | failed later =>
          rw [honce] at hfirst
          exact hfirst

/-- Taking as many first matches as there are leaves the marks as they are. -/
theorem onceMost_steady {scope : Scope} (hbody : Follows scope R body)
    (hsame : ∀ p M q N, R p M q N → N = M) (room : Nat) (start : Option Place) {memory : Memory}
    (hmemory : memory.cursor.whole = scope.text)
    (hlength : scope.looped = false → memory.marks.length ≤ scope.low) :
    Steady scope.text memory.marks (onceMost body room start memory) := by
  induction room generalizing start memory with
  | zero => exact ⟨hmemory, rfl⟩
  | succ room ih =>
      rw [onceMost]
      split
      · exact ⟨hmemory, rfl⟩
      · have hfirst := once_ends hbody hmemory hlength
        cases honce : once body memory.cursor memory with
        | found later =>
            rw [honce] at hfirst
            have hmarks := hsame _ _ _ _ hfirst.2
            have hrest := ih (some memory.cursor) hfirst.1 (by rwa [hmarks])
            rwa [hmarks] at hrest
        | failed later =>
            rw [honce] at hfirst
            exact hfirst.undo (by simp)

/-- A possessive repetition without groups stops somewhere in the text. -/
theorem possessive_follows {scope : Scope} (hle : scope.low ≤ scope.high)
    (hbody : Follows scope R body) (hsame : ∀ p M q N, R p M q N → N = M) (least : Nat)
    (most : Option Nat) :
    Follows scope (fun p M q N => q.whole = p.whole ∧ N = M)
      (times scope.looped body .possessive least most) := by
  intro p memory k found hp hmemory hlength hk
  have hfirst := @onceTimes_ends _ _ _ hbody hsame least (memory.moveTo p) hp hlength
  unfold times
  dsimp only
  cases honce : onceTimes body least (memory.moveTo p) with
  | failed later =>
      rw [honce] at hfirst
      exact hfirst.moveTo hp
  | found later =>
      rw [honce] at hfirst
      have hmarks : later.marks = memory.marks := hfirst.marks
      have hlast := onceMost_steady hbody hsame ((most.map (· - least)).getD (iterationBound p))
        none hfirst.cursor (by rwa [hmarks])
      have hrest := hk _ _ ⟨hlast.cursor.trans hp.symm, hlast.marks.trans hmarks⟩ hlast.cursor
        hlast.cursor
      rw [hlast.marks, hmarks] at hrest
      exact hrest.fewer (Scope.low_le_kept hle)

end Repeating

/-- Two ways to match, one after the other has failed, follow what each of them follows. -/
theorem orElse_follows {scope : Scope} {R S : Place → Marks → Place → Marks → Prop}
    {test : Option CharTest} {body other : Matching} (hbody : Follows scope R body)
    (hother : Follows scope S other) :
    Follows scope (fun p M q N => R p M q N ∨ S p M q N)
      (orElse scope.looped test body other) := by
  intro p memory k found hp hmemory hlength hk
  have hsteady : Steady scope.text memory.marks memory := ⟨hmemory, rfl⟩
  have hfirst : (if test.any fun test => (p.step test).isNone then
      .failed memory else body p (memory.moveTo p) k : Attempt).Ends found
        (Intact scope.text (memory.marks.take scope.low)) := by
    split
    · exact hsteady.intact scope.low
    · exact hbody p _ k found hp hp hlength fun q later hpasses => hk q later (.inl hpasses)
  have hsecond (later : Memory)
      (hlater : Intact scope.text (memory.marks.take scope.low) later) :
      (other p (later.undoSince memory scope.looped) k).Ends found
        (Intact scope.text (memory.marks.take scope.low)) := by
    have hundone := hlater.undo hlength
    rw [← hundone.marks]
    refine hother p _ k found hp hundone.cursor (by rwa [hundone.marks]) ?_
    rw [hundone.marks]
    exact fun q later hpasses => hk q later (.inr hpasses)
  rw [orElse]
  exact (hfirst.orElse hsecond).orElse fun later hlater => (hlater.undo hlength).intact scope.low

end Matching

/-! ## Running an expression -/

namespace Expr

variable {text : List Char}

/-- A repetition follows its iterations. -/
theorem loop_follows {looped : Bool} {low high : Nat} {greed : Greed} {body : Expr} {least : Nat}
    {most : Option Nat} {next : Option CharTest} (hle : low ≤ high)
    (hcaptures : greed = .possessive → body.captures = [])
    (hfits : greed ≠ .possessive → body.Fits true low high)
    (hbody : Follows ⟨text, looped || greed != .possessive, low, high⟩ body.Passes
      (body.run (looped || greed != .possessive) none)) :
    Follows ⟨text, looped, low, high⟩ (Passes (.loop greed least most body))
      (run looped next (.loop greed least most body)) := by
  intro p memory k found hp hmemory hlength hk
  rw [run]
  cases hsole : body.soleTest? with
  | some test =>
      refine (Matching.testTimes_follows hle test next greed least most).mono ?_ p memory k found hp
        hmemory hlength hk
      rintro p M q N _ ⟨rfl, hsteps⟩
      by_cases hgreed : greed = .possessive
      · subst hgreed
        rw [if_pos rfl] at hsteps
        exact passes_possessive.mpr ⟨hsteps, rfl⟩
      · rw [if_neg hgreed] at hsteps
        obtain ⟨n, hleast, hmost, hsteps⟩ := hsteps
        refine (passes_loop hgreed).mpr ⟨n, ⟨hleast, fun m hm => ?_⟩,
          (iterates_of_soleTest? hsole).mpr ⟨hsteps, rfl⟩⟩
        rcases hmost m hm with h | ⟨h, hnot⟩
        · exact .inl h
        · exact .inr ⟨h, fun hboth => hnot hboth.1⟩
  | none =>
      by_cases hgreed : greed = .possessive
      · subst hgreed
        rw [show (looped || Greed.possessive != .possessive) = looped by simp] at hbody ⊢
        refine (Matching.possessive_follows hle hbody ?_ least most).mono ?_ p memory k found hp
          hmemory hlength hk
        · exact fun p M q N hstep => hstep.marks_eq (hcaptures rfl)
        · exact fun p M q N _ h => passes_possessive.mpr h
      · rw [show (looped || greed != .possessive) = true by simp [hgreed]] at hbody ⊢
        refine (Matching.times_follows hle hbody ?_ hgreed least most).mono ?_ p memory k found hp
          hmemory hlength hk
        · exact fun p M q N hstep hlong => hstep.length_le (hfits hgreed) hlong
        · rintro p M q N _ ⟨n, hleast, hmost, hiterates⟩
          refine (passes_loop hgreed).mpr ⟨n, ⟨hleast, fun m hm => ?_⟩, hiterates⟩
          rcases hmost m hm with h | h
          · exact .inl h
          · exact .inr ⟨h, by simp [hsole]⟩

/-- The end of an attempt that a look-around makes. -/
theorem look_ends (scope : Scope) (hle : scope.low ≤ scope.high) {positive : Bool} {body : Expr}
    (hfits : body.Fits scope.looped scope.low scope.high) {p start : Place} {memory : Memory}
    {k : Continuation} {found : Memory → Prop}
    (hlength : scope.looped = false → memory.marks.length ≤ scope.low) {attempt : Attempt}
    (hattempt : attempt.Ends (fun later => later.cursor.whole = scope.text ∧
        body.Passes start memory.marks later.cursor later.marks)
      (Intact scope.text (memory.marks.take scope.low)))
    (hk : ∀ later : Memory, later.cursor.whole = scope.text →
      (if positive then ∃ r, body.Passes start memory.marks r later.marks
        else later.marks = memory.marks) →
      (k p later).Ends found (Intact scope.text (later.marks.take scope.kept))) :
    (if positive then Matching.asserting p k attempt
      else Matching.denying scope.looped p memory k attempt).Ends found
        (Intact scope.text (memory.marks.take scope.low)) := by
  have hkept := Scope.low_le_kept hle
  cases positive with
  | true =>
      cases attempt with
      | found later =>
          obtain ⟨hcursor, hpasses⟩ := hattempt
          refine (hk later hcursor ⟨_, hpasses⟩).mono fun last hlast => hlast.mono ?_
          exact (hpasses.take_prefix hfits).trans (List.take_prefix_take_left hkept)
      | failed later => exact hattempt
  | false =>
      cases attempt with
      | found later =>
          obtain ⟨hcursor, hpasses⟩ := hattempt
          exact ⟨hcursor, (hpasses.take_prefix hfits).trans (List.take_prefix ..)⟩
      | failed later =>
          have hundone := Intact.undo hattempt hlength
          have hrest := hk _ hundone.cursor hundone.marks
          rw [hundone.marks] at hrest
          exact hrest.fewer hkept

/-- Inside a repetition a group follows its passages if its body does. -/
theorem group_follows_looped {number : Nat} {body : Expr} {low high : Nat}
    (hlow : low ≤ 2 * (number - 1)) {next : Option CharTest}
    (hbody : Follows ⟨text, true, low, high⟩ body.Passes (body.run true none)) :
    Follows ⟨text, true, low, high⟩ (group number body).Passes
      ((group number body).run true next) := by
  intro p memory k found hp hmemory hlength hk
  rw [run]
  refine (hbody p (memory.beginGroup number p) _ found hp hmemory (by simp) ?_).mono ?_
  · intro q later hpasses hq hlater
    refine (hk q (later.endGroup number q) ⟨later.marks, hpasses, rfl⟩ hq hlater).mono
      fun last h => h.mono ?_
    exact take_prefix_putMark _ (show low ≤ 2 * (number - 1) + 1 by omega) q
  · exact fun last h => h.mono (take_prefix_putMark _ hlow p)

/-- Outside of repetitions a group without groups inside follows its passages if its body does. In
front of the group there are no more marks than those of earlier groups. -/
theorem group_follows {number : Nat} {body : Expr} {low high : Nat} (hcaptures : body.captures = [])
    (hpos : 0 < number) (hlow : low ≤ 2 * (number - 1)) (hhigh : 2 * number ≤ high)
    {next : Option CharTest}
    (hbody : Follows ⟨text, false, 2 * (number - 1) + 1, 2 * (number - 1) + 1⟩ body.Passes
      (body.run false none)) :
    Follows ⟨text, false, low, high⟩ (group number body).Passes
      ((group number body).run false next) := by
  intro p memory k found hp hmemory hlength hk
  have hshort := Nat.le_trans (hlength rfl) hlow
  have hbegun := length_putMark memory.marks (2 * (number - 1)) p
  rw [Nat.max_eq_right (by omega)] at hbegun
  rw [run]
  refine (hbody p (memory.beginGroup number p) _ found hp hmemory
    (fun _ => Nat.le_of_eq hbegun) ?_).mono ?_
  · intro q later hpasses hq hlater
    have hsame := hpasses.marks_eq hcaptures
    have hlong : later.marks.length = 2 * (number - 1) + 1 := by rw [hsame]; exact hbegun
    refine (hk q (later.endGroup number q) ⟨later.marks, hpasses, rfl⟩ hq hlater).mono
      fun last h => h.mono ?_
    have hended := length_putMark later.marks (2 * (number - 1) + 1) q
    have hall : (putMark later.marks (2 * (number - 1) + 1) q).take high =
        putMark later.marks (2 * (number - 1) + 1) q := List.take_of_length_le (by omega)
    show _ <+: (putMark later.marks (2 * (number - 1) + 1) q).take high
    rw [hall]
    exact (List.take_prefix ..).trans (prefix_putMark (Nat.le_of_eq hlong) q)
  · intro last h
    refine h.mono ?_
    rw [List.take_of_length_le (hlength rfl), marks_beginGroup,
      List.take_of_length_le (Nat.le_of_eq hbegun)]
    exact prefix_putMark hshort p

/-- Inside a repetition two expressions in a row follow their passages if each of them does. -/
theorem seq_follows_looped {first second : Expr} {low high : Nat} {next : Option CharTest}
    (hfirst : Follows ⟨text, true, low, high⟩ first.Passes (first.run true (second.lead next)))
    (hsecond : Follows ⟨text, true, low, high⟩ second.Passes (second.run true next)) :
    Follows ⟨text, true, low, high⟩ (seq first second).Passes
      ((seq first second).run true next) := by
  intro p memory k found hp hmemory hlength hk
  rw [run]
  refine hfirst p memory _ found hp hmemory hlength fun q later hbefore hq hlater => ?_
  refine hsecond q later k found hq hlater (by simp) fun r last hbehind => ?_
  exact hk r last ⟨q, later.marks, hbefore, hbehind⟩

/-- Outside of repetitions two expressions in a row follow their passages if each of them does. The
marks of the first one come in front of those of the second, which leaves them alone. -/
theorem seq_follows {first second : Expr} {low middle high : Nat} {next : Option CharTest}
    (hfits : first.Fits false low middle)
    (hfirst : Follows ⟨text, false, low, middle⟩ first.Passes (first.run false (second.lead next)))
    (hsecond : Follows ⟨text, false, middle, high⟩ second.Passes (second.run false next)) :
    Follows ⟨text, false, low, high⟩ (seq first second).Passes
      ((seq first second).run false next) := by
  intro p memory k found hp hmemory hlength hk
  have hbelow : memory.marks.length ≤ middle := Nat.le_trans (hlength rfl) hfits.le
  rw [run]
  refine hfirst p memory _ found hp hmemory hlength fun q later hbefore hq hlater => ?_
  have hshort : later.marks.length ≤ middle := hbefore.length_le hfits hbelow
  refine hsecond q later k found hq hlater (fun _ => hshort) fun r last hbehind => ?_
  exact hk r last ⟨q, later.marks, hbefore, hbehind⟩

/-- What is matched once and for all follows its passages if the body does. -/
theorem atomic_follows {looped : Bool} {low high : Nat} {body : Expr} {next : Option CharTest}
    (hle : low ≤ high) (hfits : body.Fits looped low high)
    (hbody : Follows ⟨text, looped, low, high⟩ body.Passes (body.run looped none)) :
    Follows ⟨text, looped, low, high⟩ (atomic body).Passes ((atomic body).run looped next) := by
  intro p memory k found hp hmemory hlength hk
  have hkept := @Scope.low_le_kept ⟨text, looped, low, high⟩ hle
  have honce := Matching.once_ends hbody hp hlength
  rw [run]
  cases hattempt : Matching.once (body.run looped none) p memory with
  | found later =>
      rw [hattempt] at honce
      obtain ⟨hcursor, hpasses⟩ := honce
      refine (hk _ later hpasses hcursor hcursor).mono fun last h => h.mono ?_
      exact (hpasses.take_prefix hfits).trans (List.take_prefix_take_left hkept)
  | failed later =>
      rw [hattempt] at honce
      exact honce.moveTo hp

/-- A look-ahead follows its passages if its body does. -/
theorem ahead_follows {looped : Bool} {low high : Nat} {positive : Bool} {body : Expr}
    {next : Option CharTest} (hle : low ≤ high) (hfits : body.Fits looped low high)
    (hbody : Follows ⟨text, looped, low, high⟩ body.Passes (body.run looped none)) :
    Follows ⟨text, looped, low, high⟩ (ahead positive body).Passes
      ((ahead positive body).run looped next) := by
  intro p memory k found hp hmemory hlength hk
  have honce := Matching.once_ends hbody hp hlength
  exact look_ends ⟨text, looped, low, high⟩ hle hfits hlength honce
    fun later hcursor hpasses => hk p later ⟨rfl, hpasses⟩ hp hcursor

/-- A look-behind follows its passages if its body does. -/
theorem behind_follows {looped : Bool} {low high : Nat} {positive : Bool} {width : Width}
    {body : Expr} {next : Option CharTest} (hle : low ≤ high) (hfits : body.Fits looped low high)
    (hbody : Follows ⟨text, looped, low, high⟩ body.Passes (body.run looped none)) :
    Follows ⟨text, looped, low, high⟩ (behind positive width body).Passes
      ((behind positive width body).run looped next) := by
  intro p memory k found hp hmemory hlength hk
  rw [run]
  cases hback : p.back width.least with
  | none =>
      dsimp only
      split
      · exact Steady.intact ⟨hmemory, rfl⟩ low
      · next hpositive =>
        have hkept := @Scope.low_le_kept ⟨text, looped, low, high⟩ hle
        refine (hk p memory ⟨rfl, ?_⟩ hp hmemory).fewer hkept
        rw [if_neg hpositive]
  | some start =>
      have hstart := (Place.whole_of_back hback).trans hp
      have honce := Matching.once_ends hbody hstart hlength
      refine look_ends ⟨text, looped, low, high⟩ hle hfits hlength honce ?_
      intro later hcursor hpasses
      refine hk p later ⟨rfl, ?_⟩ hp hcursor
      split
      · next hpositive =>
        rw [if_pos hpositive] at hpasses
        obtain ⟨r, hpasses⟩ := hpasses
        exact ⟨start, r, hback, hpasses⟩
      · next hpositive => rwa [if_neg hpositive] at hpasses

/-- Running an expression follows its passages. -/
theorem run_follows {e : Expr} {looped : Bool} {low high : Nat} (hfits : e.Fits looped low high)
    (next : Option CharTest) :
    Follows ⟨text, looped, low, high⟩ e.Passes (e.run looped next) := by
  have hkept {looped : Bool} {low high : Nat} {e : Expr} (hfits : e.Fits looped low high) :
      low ≤ Scope.kept ⟨text, looped, low, high⟩ :=
    @Scope.low_le_kept ⟨text, looped, low, high⟩ hfits.le
  induction e generalizing looped low high next with
  | empty =>
      intro p memory k found hp hmemory _ hk
      exact (hk p memory ⟨rfl, rfl⟩ hp hmemory).fewer (hkept hfits)
  | never =>
      intro p memory k found _ hmemory _ _
      exact Steady.intact ⟨hmemory, rfl⟩ low
  | char test =>
      intro p memory k found hp hmemory _ hk
      rw [run]
      cases hstep : p.step test with
      | none => exact Steady.intact ⟨hmemory, rfl⟩ low
      | some q =>
          have hpasses : Passes (.char test) p memory.marks q memory.marks := ⟨hstep, rfl⟩
          exact (hk q memory hpasses (hpasses.whole.trans hp) hmemory).fewer (hkept hfits)
  | anchor condition =>
      intro p memory k found hp hmemory _ hk
      rw [run]
      split
      · next hholds => exact (hk p memory ⟨hholds, rfl, rfl⟩ hp hmemory).fewer (hkept hfits)
      · exact Steady.intact ⟨hmemory, rfl⟩ low
  | seq first second ihfirst ihsecond =>
      rw [fits_seq] at hfits
      cases looped with
      | true =>
          rw [if_pos rfl] at hfits
          exact seq_follows_looped (ihfirst hfits.1 _) (ihsecond hfits.2 next)
      | false =>
          rw [if_neg (by simp)] at hfits
          obtain ⟨middle, hfits, hfits'⟩ := hfits
          exact seq_follows hfits (ihfirst hfits _) (ihsecond hfits' next)
  | either first second ihfirst ihsecond =>
      exact @Matching.orElse_follows ⟨text, looped, low, high⟩ _ _ _ _ _
        (ihfirst hfits.1 none) (ihsecond hfits.2 none)
  | group number body ih =>
      have hle := hfits.le
      obtain ⟨hcaptures, hpos, hlow, hhigh⟩ := hfits
      cases looped with
      | true => exact group_follows_looped hlow (ih (fits_of_captures hcaptures true hle) none)
      | false =>
          refine group_follows hcaptures hpos hlow hhigh (ih ?_ none)
          exact fits_of_captures hcaptures false (Nat.le_refl _)
  | loop greed least most body ih =>
      have hle := hfits.le
      rw [fits_loop] at hfits
      by_cases hgreed : greed = .possessive
      · rw [if_pos hgreed] at hfits
        refine loop_follows hle (fun _ => hfits.1) (fun h => absurd hgreed h) (ih ?_ none)
        exact fits_of_captures hfits.1 _ hle
      · rw [if_neg hgreed] at hfits
        have htrue : (looped || greed != .possessive) = true := by simp [hgreed]
        refine loop_follows hle (fun h => absurd h hgreed) (fun _ => hfits) ?_
        rw [htrue]
        exact ih hfits none
  | atomic body ih => exact atomic_follows hfits.le hfits (ih hfits none)
  | ahead positive body ih => exact ahead_follows hfits.le hfits (ih hfits none)
  | behind positive width body ih => exact behind_follows hfits.le hfits (ih hfits none)
  | backref number width fold =>
      intro p memory k found hp hmemory _ hk
      rw [run]
      cases hskip : (memory.reference? number).bind (p.skip fold) with
      | none => exact Steady.intact ⟨hmemory, rfl⟩ low
      | some q =>
          obtain ⟨reference, _, hskip⟩ := Option.bind_eq_some_iff.mp hskip
          have hwhole := Place.whole_of_skip hskip
          exact (hk q memory ⟨hwhole, rfl⟩ (hwhole.trans hp) hmemory).fewer (hkept hfits)
  | ifGroup number yes no ihyes ihno =>
      intro p memory k found hp hmemory hlength hk
      rw [run]
      split
      · refine ihyes hfits.1 _ p memory k found hp hmemory hlength ?_
        exact fun q later hpasses => hk q later (.inl hpasses)
      · refine ihno hfits.2 _ p memory k found hp hmemory hlength ?_
        exact fun q later hpasses => hk q later (.inr hpasses)

end Expr

end RoutePattern
