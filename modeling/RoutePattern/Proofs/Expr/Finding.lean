import RoutePattern.Proofs.Expr.Regular

/-!
# What a run does not miss

`run_finds` is the main result: if a direct expression leads to some place and what comes behind
finds a match from there, whatever the memory, then so does running the expression. The exact tests
that leave out places in advance (`Expr.lead`) leave out only such from which nothing is found, and
a repetition may leave out the iterations that do not move (`Iterates.moves`).
-/

namespace RoutePattern

/-- An attempt that finds a match. -/
def Attempt.Succeeds : Attempt → Prop
  | .found _ => True
  | .failed _ => False

/-- A successful attempt needs no other one. -/
theorem Attempt.Succeeds.orElse {attempt : Attempt} (h : attempt.Succeeds)
    (next : Memory → Attempt) : (attempt.orElse next).Succeeds := by
  cases attempt with
  | found memory => trivial
  | failed memory => exact h.elim

/-- It is enough that the other attempt is successful. -/
theorem Attempt.succeeds_orElse (attempt : Attempt) {next : Memory → Attempt}
    (h : ∀ memory, (next memory).Succeeds) : (attempt.orElse next).Succeeds := by
  cases attempt with
  | found memory => trivial
  | failed memory => exact h memory

/-- A match is found from a place on, whatever the memory is. -/
def Continuation.Accepts (k : Continuation) (place : Place) : Prop :=
  ∀ memory, (k place memory).Succeeds

/-- The test that follows does not rule out a place. -/
def Place.Admits (place : Place) (next : Option CharTest) : Prop :=
  ∀ test, next = some test → (place.step test).isSome = true

/-- Without a test that follows, all places are admitted. -/
theorem Place.admits_none (place : Place) : place.Admits none := by
  intro test h
  simp at h

/-- A way to match misses no place to which a relation leads. -/
def Finds (R : Place → Place → Prop) (body : Matching) : Prop :=
  ∀ p q (k : Continuation), R p q → k.Accepts q → ∀ memory, (body p memory k).Succeeds

/-- Iterations may leave out those that do not move. There are no more of the others than there are
characters on the way. -/
theorem Iterates.moves {R : Place → Place → Prop} {n : Nat} {p q : Place}
    (h : Iterates R n p q) (hreaches : ∀ a b, R a b → ∃ text, a.Reaches b text) :
    ∃ m, m ≤ n ∧ p.offset + m ≤ q.offset ∧
      Iterates (fun a b => R a b ∧ a.offset < b.offset) m p q := by
  induction n generalizing p with
  | zero =>
      cases h
      exact ⟨0, Nat.le_refl 0, Nat.le_refl _, rfl⟩
  | succ n ih =>
      obtain ⟨r, hstep, hrest⟩ := h
      obtain ⟨m, hle, hoffset, hmoves⟩ := ih hrest
      obtain ⟨text, htext⟩ := hreaches p r hstep
      have hmoved := htext.offset
      cases text with
      | nil =>
          obtain rfl := Place.reaches_nil_iff.mp htext
          exact ⟨m, Nat.le_succ_of_le hle, hoffset, hmoves⟩
      | cons c text =>
          rw [List.length_cons] at hmoved
          exact ⟨m + 1, Nat.succ_le_succ hle, by omega, r, ⟨hstep, by omega⟩, hmoves⟩

namespace Matching

variable {k : Continuation} {p q : Place}

/-! ## Repeating a single test -/

/-- Trying places in turn does not miss one of them. -/
theorem firstOf_accepts {next : Option CharTest} {undo : Memory → Memory} {places : List Place}
    (hmem : q ∈ places) (hnext : q.Admits next) (hk : k.Accepts q) (memory : Memory) :
    (firstOf next undo k places memory).Succeeds := by
  induction places generalizing memory with
  | nil => simp at hmem
  | cons place rest ih =>
      rw [firstOf]
      rcases List.mem_cons.mp hmem with rfl | hrest
      · split
        · next hskip =>
          obtain ⟨test, htest, hboth⟩ := Option.any_eq_true _ _ |>.mp hskip
          have hstep := hnext test htest
          simp [Option.isNone_iff_eq_none, Option.isSome_iff_ne_none] at hboth hstep
          exact absurd hboth.2 hstep
        · exact (hk _).orElse _
      · split
        · exact ih hrest memory
        · exact Attempt.succeeds_orElse _ fun later => ih hrest _

/-- Trying a place and those behind it does not miss one of them. -/
theorem advancing_accepts {test : CharTest} {undo : Memory → Memory} {n room : Nat}
    (hsteps : Place.StepsTo test n p q) (hroom : n ≤ room) (hk : k.Accepts q) (memory : Memory) :
    (advancing test undo k room p memory).Succeeds := by
  induction n generalizing p room memory with
  | zero =>
      cases hsteps
      cases room with
      | zero =>
          rw [advancing]
          exact (hk _).orElse _
      | succ room =>
          rw [advancing]
          exact (hk _).orElse _
  | succ n ih =>
      obtain ⟨r, hstep, hrest⟩ := hsteps
      obtain ⟨room, rfl⟩ : ∃ less, room = less + 1 := ⟨room - 1, by omega⟩
      rw [advancing]
      refine Attempt.succeeds_orElse _ fun later => ?_
      simp only [hstep]
      exact ih hrest (Nat.le_of_succ_le_succ hroom) _

/-- Repeating a single test misses no number of steps within the bounds. -/
theorem testTimes_finds {looped : Bool} {test : CharTest} {next : Option CharTest} {greed : Greed}
    (hgreed : greed ≠ .possessive) {least : Nat} {most : Option Nat} :
    Finds (fun p q => (∃ n, least ≤ n ∧ (∀ m, most = some m → n ≤ m ∨ n = least ∧ greed ≠ .greedy) ∧
      Place.StepsTo test n p q) ∧ q.Admits next)
      (testTimes looped test next greed least most) := by
  rintro p q k ⟨⟨n, hleast, hmost, hsteps⟩, hnext⟩ hk memory
  have hleft := hsteps.left
  show (testTimes looped test next greed least most p memory k).Succeeds
  unfold testTimes
  rw [if_pos (by omega)]
  cases greed with
  | greedy =>
      have hn : n ≤ most.getD p.left := by
        cases most with
        | none => exact hleft ▸ Nat.le_add_right ..
        | some m => simpa using hmost m rfl
      have hmem := Place.mem_steps_take_iff.mpr ⟨n, hleast, hn, hsteps⟩
      have hlength := List.length_pos_of_mem hmem
      rw [List.length_take] at hlength
      dsimp only
      rw [if_neg (by omega)]
      exact firstOf_accepts hmem hnext hk _
  | lazy =>
      -- The required steps come first, and the place they reach is the farthest one.
      obtain ⟨extra, rfl⟩ := Nat.exists_eq_add_of_le hleast
      obtain ⟨r, hfirst, hrest⟩ := Iterates.split hsteps
      have hreach : ∃ later, (if least = 0 then [p] else p.steps test (some least)) = r :: later ∧
          later.length = least := by
        split
        · next hzero =>
          subst hzero
          cases hfirst
          exact ⟨[], rfl, rfl⟩
        · obtain ⟨m, s, later, hchain, hlength, hm, hsteps'⟩ := Place.chain_head test least p
          have hmem := Place.mem_chain_take_iff.mpr ⟨least, Nat.le_refl _, Nat.le_refl _, hfirst⟩
          have hpos := List.length_pos_of_mem hmem
          rw [List.length_take, hchain, List.length_cons] at hpos
          obtain rfl : m = least := by omega
          refine ⟨later, ?_, hlength⟩
          rw [Place.steps_eq, Option.getD_some, hchain, hsteps'.unique hfirst]
      obtain ⟨later, hreach, hlength⟩ := hreach
      dsimp only
      rw [hreach, if_neg (by simp [hlength])]
      refine advancing_accepts hrest ?_ hk _
      have hleft' := Place.StepsTo.left hrest
      cases most with
      | none => simp; omega
      | some m =>
          have := hmost m rfl
          simp
          omega
  | possessive => exact absurd rfl hgreed

/-! ## Repeating any other expression -/

section Repeating

variable {body : Matching} {R : Place → Place → Prop}

/-- The required iterations miss no place. -/
theorem required_accepts {last : Matching} (hbody : Finds R body) {count : Nat}
    (hiterates : Iterates R count p q) (hlast : ∀ memory, (last q memory k).Succeeds)
    (memory : Memory) : (required body last count p memory k).Succeeds := by
  induction count generalizing p memory with
  | zero =>
      cases hiterates
      exact hlast memory
  | succ count ih =>
      obtain ⟨r, hstep, hrest⟩ := hiterates
      rw [required]
      exact (hbody p r _ hstep (fun later => ih hrest later) _).orElse _

/-- An iteration that ends behind the place where it began has moved. -/
theorem hasStayed_of_lt {start : Option Place} (h : ∀ s, start = some s → s.offset < p.offset) :
    hasStayed start p = false := by
  cases start with
  | none => rfl
  | some s => simpa [hasStayed] using Nat.ne_of_lt (h s rfl)

/-- Further iterations that all move, most first, miss no place. -/
theorem greedily_accepts (hbody : Finds R body) {n room : Nat} {start : Option Place}
    (hmoves : Iterates (fun a b => R a b ∧ a.offset < b.offset) n p q) (hroom : n ≤ room)
    (hstart : ∀ s, start = some s → s.offset < p.offset) (hk : k.Accepts q) (memory : Memory) :
    (greedily body room start p memory k).Succeeds := by
  induction n generalizing room start p memory with
  | zero =>
      cases hmoves
      cases room with
      | zero =>
          rw [greedily]
          exact (hk _).orElse _
      | succ room =>
          rw [greedily]
          dsimp only
          split
          · exact (hk _).orElse _
          · exact Attempt.succeeds_orElse _ fun later => (hk _).orElse _
  | succ n ih =>
      obtain ⟨r, ⟨hstep, hlt⟩, hrest⟩ := hmoves
      obtain ⟨room, rfl⟩ : ∃ less, room = less + 1 := ⟨room - 1, by omega⟩
      have hrest' : Continuation.Accepts (greedily body room (some p) · · k) r := by
        refine fun later => ih hrest (Nat.le_of_succ_le_succ hroom) ?_ later
        rintro s ⟨⟩
        exact hlt
      rw [greedily]
      dsimp only
      rw [hasStayed_of_lt hstart, if_neg (by simp)]
      exact (hbody p r _ hstep hrest' _).orElse _

/-- Further iterations that all move, least first, miss no place. -/
theorem lazily_accepts {looped : Bool} (hbody : Finds R body) {n room : Nat}
    {start : Option Place} (hmoves : Iterates (fun a b => R a b ∧ a.offset < b.offset) n p q)
    (hroom : n ≤ room) (hstart : ∀ s, start = some s → s.offset < p.offset) (hk : k.Accepts q)
    (memory : Memory) : (lazily looped body room start p memory k).Succeeds := by
  induction n generalizing room start p memory with
  | zero =>
      cases hmoves
      rw [lazily]
      exact (hk _).orElse _
  | succ n ih =>
      obtain ⟨r, ⟨hstep, hlt⟩, hrest⟩ := hmoves
      obtain ⟨room, rfl⟩ : ∃ less, room = less + 1 := ⟨room - 1, by omega⟩
      have hrest' : Continuation.Accepts (lazily looped body room (some p) · · k) r := by
        refine fun later => ih hrest (Nat.le_of_succ_le_succ hroom) ?_ later
        rintro s ⟨⟩
        exact hlt
      rw [lazily]
      refine Attempt.succeeds_orElse _ fun later => ?_
      dsimp only
      rw [hasStayed_of_lt hstart, if_neg (by simp)]
      exact (hbody p r _ hstep hrest' _).orElse _

/-- Repeating an expression that moves on misses no number of iterations within the bounds. -/
theorem times_finds {looped : Bool} (hbody : Finds R body)
    (hreaches : ∀ p q, R p q → ∃ text, p.Reaches q text) {greed : Greed}
    (hgreed : greed ≠ .possessive) {least : Nat} {most : Option Nat} :
    Finds (fun p q => ∃ n, least ≤ n ∧ (∀ m, most = some m → n ≤ m ∨ n = least) ∧ Iterates R n p q)
      (times looped body greed least most) := by
  rintro p q k ⟨n, hleast, hmost, hiterates⟩ hk memory
  obtain ⟨extra, rfl⟩ := Nat.exists_eq_add_of_le hleast
  obtain ⟨r, hfirst, hrest⟩ := Iterates.split hiterates
  obtain ⟨m, hm, hoffset, hmoves⟩ := hrest.moves hreaches
  -- Iterations that move are bounded by the text, even if the repetition is not.
  have hroom : m ≤ (most.map (· - least)).getD (iterationBound p) := by
    cases most with
    | some limit =>
        have := hmost limit rfl
        simp only [Option.map_some, Option.getD_some]
        omega
    | none =>
        have hall : ∃ text, p.Reaches q text := by
          refine hiterates.keeps (fun s => ∃ text, p.Reaches s text) ?_
            ⟨[], Place.reaches_nil_iff.mpr rfl⟩
          rintro a b hstep ⟨text, htext⟩
          obtain ⟨more, hmore⟩ := hreaches a b hstep
          exact ⟨text ++ more, htext.trans hmore⟩
        obtain ⟨text, htext⟩ := hall
        have hfar := htext.offset
        have hlong := htext.left
        have hbound : m ≤ p.offset + p.left + 2 := by omega
        exact Nat.le_trans hbound (Nat.le_mul_of_pos_left _ (by omega))
  have hnone : ∀ s : Place, none = some s → s.offset < r.offset := by simp
  show (times looped body greed least most p memory k).Succeeds
  unfold times
  cases greed with
  | greedy => exact required_accepts hbody hfirst (greedily_accepts hbody hmoves hroom hnone hk) _
  | lazy => exact required_accepts hbody hfirst (lazily_accepts hbody hmoves hroom hnone hk) _
  | possessive => exact absurd rfl hgreed

end Repeating

end Matching

/-! ## Running an expression -/

namespace Expr

variable {e : Expr} {p q : Place} {M N : Marks} {next : Option CharTest}

/-- Where an expression leads on to a place that the test behind it admits, the test that leads it
admits its beginning. -/
theorem Passes.admits_lead (h : e.Passes p M q N) (hnext : q.Admits next) :
    p.Admits (e.lead next) := by
  induction e generalizing p M q N next with
  | empty =>
      obtain ⟨rfl, _⟩ := h
      exact hnext
  | char test =>
      intro first hfirst
      rw [lead] at hfirst
      split at hfirst
      · cases hfirst
        rw [h.1]
        rfl
      · simp at hfirst
  | seq first second ihfirst ihsecond =>
      obtain ⟨r, L, hfirst, hsecond⟩ := h
      exact ihfirst hfirst (ihsecond hsecond hnext)
  | never | anchor | either | group | loop | atomic | ahead | behind | backref | ifGroup =>
      exact p.admits_none

/-- A choice misses no place to which one of its sides leads. -/
theorem either_finds {first second : Expr} {looped : Bool}
    (hfirst : Finds (fun p q => first.Leads p q ∧ q.Admits none) (first.run looped none))
    (hsecond : Finds (fun p q => second.Leads p q ∧ q.Admits none) (second.run looped none)) :
    Finds (fun p q => (either first second).Leads p q) ((either first second).run looped next) := by
  rintro p q k ⟨M, N, hpasses⟩ hk memory
  rw [run, Matching.orElse]
  rcases hpasses with hpasses | hpasses
  · -- The first side is tried, since the test that it begins with accepts the next character.
    have hlead : ¬((first.lead none).any fun test => (p.step test).isNone) = true := by
      rw [Option.any_eq_true]
      rintro ⟨test, htest, hnone⟩
      have hstep := hpasses.admits_lead q.admits_none test htest
      simp [Option.isNone_iff_eq_none.mp hnone] at hstep
    rw [if_neg hlead]
    refine Attempt.Succeeds.orElse (Attempt.Succeeds.orElse ?_ _) _
    exact hfirst p q k ⟨hpasses.leads, q.admits_none⟩ hk _
  · refine Attempt.Succeeds.orElse (Attempt.succeeds_orElse _ fun later => ?_) _
    exact hsecond p q k ⟨hpasses.leads, q.admits_none⟩ hk _

/-- A repetition misses no place to which iterations lead. -/
theorem loop_finds {greed : Greed} {least : Nat} {most : Option Nat} {body : Expr} {looped : Bool}
    (hgreed : greed ≠ .possessive) (h : body.Direct)
    (hbody : Finds (fun p q => body.Leads p q ∧ q.Admits none)
      (body.run (looped || greed != .possessive) none)) :
    Finds (fun p q => (loop greed least most body).Leads p q ∧ q.Admits next)
      ((loop greed least most body).run looped next) := by
  rintro p q k ⟨⟨M, N, hpasses⟩, hnext⟩ hk memory
  obtain ⟨n, ⟨hleast, hmost⟩, hiterates⟩ := (passes_loop hgreed).mp hpasses
  rw [run]
  cases hsole : body.soleTest? with
  | some test =>
      refine Matching.testTimes_finds hgreed p q k ⟨⟨n, hleast, ?_, ?_⟩, hnext⟩ hk memory
      · intro m hm
        rcases hmost m hm with hle | ⟨heq, hnot⟩
        · exact .inl hle
        · exact .inr ⟨heq, fun hgreedy => hnot ⟨hgreedy, by rw [hsole]; rfl⟩⟩
      · exact ((iterates_of_soleTest? hsole).mp hiterates).1
  | none =>
      refine Matching.times_finds hbody ?_ hgreed p q k ⟨n, hleast, ?_, ?_⟩ hk memory
      · rintro a b ⟨⟨M', N', hstep⟩, _⟩
        obtain ⟨text, htext, _⟩ := h.reaches hstep
        exact ⟨text, htext⟩
      · intro m hm
        exact (hmost m hm).imp_right And.left
      · exact hiterates.forget fun a b hstep => ⟨hstep.leads, Place.admits_none _⟩

/-- A look-ahead finds what its body finds, and stays where it is. -/
theorem ahead_finds {body : Expr} {looped : Bool}
    (hbody : Finds (fun p q => body.Leads p q ∧ q.Admits none) (body.run looped none)) :
    Finds (fun p q => (ahead true body).Leads p q) ((ahead true body).run looped next) := by
  rintro p q k ⟨M, N, rfl, hlook⟩ hk memory
  rw [if_pos rfl] at hlook
  obtain ⟨r, hpasses⟩ := hlook
  have honce := hbody q r Matching.accept ⟨hpasses.leads, r.admits_none⟩ (fun _ => trivial)
    (memory.moveTo q)
  rw [run, if_pos rfl, Matching.once]
  cases hattempt : body.run looped none q (memory.moveTo q) Matching.accept with
  | found later => exact hk later
  | failed later =>
      rw [hattempt] at honce
      exact honce.elim

/-- Running a direct expression misses no place to which it leads. -/
theorem run_finds (h : e.Direct) (looped : Bool) (next : Option CharTest) :
    Finds (fun p q => e.Leads p q ∧ q.Admits next) (e.run looped next) := by
  induction e generalizing looped next with
  | empty =>
      rintro p q k ⟨⟨M, N, rfl, _⟩, _⟩ hk memory
      exact hk memory
  | never =>
      rintro p q k ⟨⟨M, N, hpasses⟩, _⟩ hk memory
      exact hpasses.elim
  | char test =>
      rintro p q k ⟨⟨M, N, hstep, _⟩, _⟩ hk memory
      rw [run, hstep]
      exact hk memory
  | anchor condition =>
      rintro p q k ⟨⟨M, N, hholds, rfl, _⟩, _⟩ hk memory
      rw [run, if_pos hholds]
      exact hk memory
  | seq first second ihfirst ihsecond =>
      rintro p q k ⟨⟨M, N, r, L, hfirst, hsecond⟩, hnext⟩ hk memory
      rw [run]
      refine ihfirst h.1 looped _ p r _ ⟨hfirst.leads, hsecond.admits_lead hnext⟩ ?_ memory
      exact ihsecond h.2 looped next r q k ⟨hsecond.leads, hnext⟩ hk
  | either first second ihfirst ihsecond =>
      intro p q k hleads
      exact either_finds (ihfirst h.1 looped none) (ihsecond h.2 looped none) p q k hleads.1
  | group number body ih =>
      rintro p q k ⟨⟨M, N, L, hbody, _⟩, _⟩ hk memory
      rw [run]
      refine ih h looped none p q (fun later memory => k later (memory.endGroup number later))
        ⟨hbody.leads, q.admits_none⟩ ?_ _
      exact fun later => hk _
  | loop greed least most body ih => exact loop_finds h.1 h.2 (ih h.2 _ none)
  | ahead positive body ih =>
      obtain ⟨rfl, hbody⟩ := h
      intro p q k hleads
      exact ahead_finds (ih hbody looped none) p q k hleads.1
  | atomic | behind | backref | ifGroup => exact h.elim

end Expr

end RoutePattern
