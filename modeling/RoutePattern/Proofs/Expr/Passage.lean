import RoutePattern.Expr.Search
import RoutePattern.Proofs.Expr.Captures
import RoutePattern.Proofs.Expr.Place

/-!
# Passages through a text

`Expr.Passes` is the relation that an expression stands for: from which place and marks it can lead
to which others, whatever is tried on the way. A passage does to the marks what noting the spans of
the groups does (`Passes.keeps_spans`). `Expr.Fits` gives these groups their share of the marks, so
all other marks are left alone (`Passes.keeps`).
-/

namespace RoutePattern

/-! ## Marks -/

/-- The marks of a memory. -/
abbrev Marks := List (Option Place)

/-- The place that a mark holds. -/
def markAt (marks : Marks) (number : Nat) : Option Place :=
  marks[number]?.join

/-- Some marks with a place noted as the mark of a number. -/
def putMark (marks : Marks) (number : Nat) (place : Place) : Marks :=
  (Memory.mark { cursor := place, marks } number place).marks

/-- Noting a mark changes the marks of a memory. -/
@[simp]
theorem marks_mark (memory : Memory) (number : Nat) (place : Place) :
    (memory.mark number place).marks = putMark memory.marks number place :=
  rfl

/-- Noting where a group begins changes its first mark. -/
@[simp]
theorem marks_beginGroup (memory : Memory) (number : Nat) (place : Place) :
    (memory.beginGroup number place).marks = putMark memory.marks (2 * (number - 1)) place :=
  rfl

/-- Noting where a group ends changes its second mark. -/
@[simp]
theorem marks_endGroup (memory : Memory) (number : Nat) (place : Place) :
    (memory.endGroup number place).marks = putMark memory.marks (2 * (number - 1) + 1) place :=
  rfl

/-- The span of a group, between its two marks. -/
def spanOf (marks : Marks) (number : Nat) : Option (Place × Place) :=
  (markAt marks (2 * (number - 1) + 1)).bind fun stop =>
    (markAt marks (2 * (number - 1))).map fun start => (start, stop)

/-- A memory has the spans of its marks. -/
theorem span?_eq (memory : Memory) (number : Nat) :
    memory.span? number = spanOf memory.marks number := by
  unfold Memory.span? spanOf markAt
  rcases memory.marks[2 * (number - 1) + 1]? with _ | _ | stop
  · rfl
  · rfl
  · rcases memory.marks[2 * (number - 1)]? with _ | _ | start <;> rfl

/-- A noted mark holds its place, and all others are as before. -/
theorem markAt_putMark (marks : Marks) (number : Nat) (place : Place) (other : Nat) :
    markAt (putMark marks number place) other =
      if other = number then some place else markAt marks other := by
  unfold markAt putMark Memory.mark
  dsimp only
  split
  · next hlt =>
    rw [List.getElem?_set]
    by_cases heq : number = other
    · subst heq
      simp [hlt]
    · simp [heq, Ne.symm heq]
  · next hle =>
    rw [Nat.not_lt] at hle
    by_cases heq : other = number
    · subst heq
      rw [List.getElem?_append_right (by simp; omega)]
      simp [show other - (marks.length + (other - marks.length)) = 0 by omega]
    · rw [if_neg heq]
      by_cases hlt : other < marks.length
      · rw [List.append_assoc, List.getElem?_append_left hlt]
      · rw [List.getElem?_eq_none (Nat.not_lt.mp hlt)]
        by_cases hlt' : other < number
        · rw [List.getElem?_append_left (by simp; omega),
            List.getElem?_append_right (Nat.not_lt.mp hlt), List.getElem?_replicate]
          split <;> rfl
        · rw [List.getElem?_eq_none (by simp; omega)]

/-- There are as many marks as before, or just enough. -/
theorem length_putMark (marks : Marks) (number : Nat) (place : Place) :
    (putMark marks number place).length = max marks.length (number + 1) := by
  unfold putMark Memory.mark
  dsimp only
  split
  · rw [List.length_set]
    omega
  · simp only [List.length_append, List.length_replicate, List.length_singleton]
    omega

/-- The marks below a noted one stay. -/
theorem take_prefix_putMark (marks : Marks) {low number : Nat} (h : low ≤ number) (place : Place) :
    marks.take low <+: (putMark marks number place).take low := by
  unfold putMark Memory.mark
  dsimp only
  split
  · exact (List.take_set_of_le h).symm ▸ List.prefix_refl _
  · rw [List.append_assoc, List.take_append]
    exact List.prefix_append ..

/-- Beyond the marks there are, a new one comes behind all of them. -/
theorem prefix_putMark {marks : Marks} {number : Nat} (h : marks.length ≤ number) (place : Place) :
    marks <+: putMark marks number place := by
  have htake := take_prefix_putMark marks h place
  rw [List.take_of_length_le (Nat.le_refl _)] at htake
  exact htake.trans (List.take_prefix ..)

/-! ## Passages -/

/-- A repetition may have a number of iterations. If the bounds are out of order, it has just the
least number, or none if it is a greedy one of a single test. -/
def Counts (greed : Greed) (body : Expr) (least : Nat) (most : Option Nat) (n : Nat) : Prop :=
  least ≤ n ∧ ∀ m, most = some m →
    n ≤ m ∨ n = least ∧ ¬(greed = .greedy ∧ body.soleTest?.isSome = true)

/-- A relation between places with marks as one between pairs of them. -/
abbrev Paired (R : Place → Marks → Place → Marks → Prop) (first second : Place × Marks) : Prop :=
  R first.1 first.2 second.1 second.2

namespace Expr

/-- An expression can lead from one place and its marks to others. Where a possessive repetition or
a reference to a group ends is left open. -/
def Passes : Expr → Place → Marks → Place → Marks → Prop
  | empty, p, M, q, N => q = p ∧ N = M
  | never, _, _, _, _ => False
  | char test, p, M, q, N => p.step test = some q ∧ N = M
  | anchor condition, p, M, q, N => condition.holds p = true ∧ q = p ∧ N = M
  | seq first second, p, M, q, N => ∃ r L, first.Passes p M r L ∧ second.Passes r L q N
  | either first second, p, M, q, N => first.Passes p M q N ∨ second.Passes p M q N
  | group number body, p, M, q, N => ∃ L,
      body.Passes p (putMark M (2 * (number - 1)) p) q L ∧
        N = putMark L (2 * (number - 1) + 1) q
  | loop greed least most body, p, M, q, N =>
      if greed = .possessive then q.whole = p.whole ∧ N = M
      else ∃ n, Counts greed body least most n ∧
        Iterates (Paired body.Passes) n (p, M) (q, N)
  | atomic body, p, M, q, N => body.Passes p M q N
  | ahead positive body, p, M, q, N =>
      q = p ∧ if positive then ∃ r, body.Passes p M r N else N = M
  | behind positive width body, p, M, q, N =>
      q = p ∧ if positive then ∃ start r, p.back width.least = some start ∧ body.Passes start M r N
        else N = M
  | backref _ _ _, p, M, q, N => q.whole = p.whole ∧ N = M
  | ifGroup _ yes no, p, M, q, N => yes.Passes p M q N ∨ no.Passes p M q N

/-- An expression can lead from one place to another, whatever the marks are. -/
def Leads (e : Expr) (p q : Place) : Prop :=
  ∃ M N, e.Passes p M q N

/-- A possessive repetition leads anywhere in the text. -/
theorem passes_possessive {least : Nat} {most : Option Nat} {body : Expr} {p q : Place}
    {M N : Marks} :
    (loop .possessive least most body).Passes p M q N ↔ q.whole = p.whole ∧ N = M :=
  Iff.rfl

/-- Any other repetition leads where as many iterations do as its bounds allow. -/
theorem passes_loop {greed : Greed} (hgreed : greed ≠ .possessive) {least : Nat}
    {most : Option Nat} {body : Expr} {p q : Place} {M N : Marks} :
    (loop greed least most body).Passes p M q N ↔
      ∃ n, Counts greed body least most n ∧ Iterates (Paired body.Passes) n (p, M) (q, N) := by
  rw [Passes, if_neg hgreed]

/-- A sole test passes as its step does. -/
theorem passes_of_soleTest? {e : Expr} {test : CharTest} (h : e.soleTest? = some test) {p q : Place}
    {M N : Marks} : e.Passes p M q N ↔ p.step test = some q ∧ N = M := by
  fun_induction soleTest? e with
  | case1 test' =>
      cases h
      rfl
  | case2 e ih =>
      constructor
      · rintro ⟨r, L, hfirst, rfl, rfl⟩
        exact (ih h).mp hfirst
      · intro hstep
        exact ⟨q, N, (ih h).mpr hstep, rfl, rfl⟩
  | case3 => simp at h

/-- Iterations that each move on by a text move on by these texts in a row. -/
theorem exists_pieces {R : Place × Marks → Place × Marks → Prop} {holds : List Char → Prop}
    (hstep : ∀ a b, R a b → ∃ piece, a.1.Reaches b.1 piece ∧ holds piece) {n : Nat}
    {a b : Place × Marks} (h : Iterates R n a b) : ∃ pieces : List (List Char),
      pieces.length = n ∧ a.1.Reaches b.1 pieces.flatten ∧ ∀ piece ∈ pieces, holds piece := by
  induction n generalizing a with
  | zero =>
      cases h
      exact ⟨[], rfl, Place.reaches_nil_iff.mpr rfl, by simp⟩
  | succ n ih =>
      obtain ⟨c, hfirst, hrest⟩ := h
      obtain ⟨piece, hreaches, hpiece⟩ := hstep a c hfirst
      obtain ⟨pieces, rfl, hreaches', hothers⟩ := ih hrest
      refine ⟨piece :: pieces, rfl, ?_, List.forall_mem_cons.mpr ⟨hpiece, hothers⟩⟩
      exact hreaches.trans hreaches'

/-- Iterations of a sole test are its steps. -/
theorem iterates_of_soleTest? {e : Expr} {test : CharTest} (h : e.soleTest? = some test) {n : Nat}
    {p q : Place} {M N : Marks} :
    Iterates (Paired e.Passes) n (p, M) (q, N) ↔ Place.StepsTo test n p q ∧ N = M := by
  induction n generalizing p with
  | zero =>
      show (p, M) = (q, N) ↔ p = q ∧ N = M
      rw [Prod.mk.injEq, eq_comm (a := M)]
  | succ n ih =>
      constructor
      · rintro ⟨⟨r, L⟩, hfirst, hrest⟩
        obtain ⟨hstep, rfl⟩ := (passes_of_soleTest? h).mp hfirst
        obtain ⟨hsteps, hmarks⟩ := ih.mp hrest
        exact ⟨⟨r, hstep, hsteps⟩, hmarks⟩
      · rintro ⟨⟨r, hstep, hsteps⟩, hmarks⟩
        exact ⟨(r, M), (passes_of_soleTest? h).mpr ⟨hstep, rfl⟩, ih.mpr ⟨hsteps, hmarks⟩⟩

variable {e : Expr} {p q : Place} {M N : Marks}

/-- A passage stays in its text. -/
theorem Passes.whole (h : e.Passes p M q N) : q.whole = p.whole := by
  induction e generalizing p M q N with
  | empty | ahead | behind => rw [h.1]
  | never => exact h.elim
  | anchor => rw [h.2.1]
  | char test =>
      obtain ⟨c, _, hreaches⟩ := Place.step_eq_some_iff.mp h.1
      exact hreaches.whole
  | seq first second ihfirst ihsecond =>
      obtain ⟨r, L, hfirst, hsecond⟩ := h
      rw [ihsecond hsecond, ihfirst hfirst]
  | either first second ihfirst ihsecond | ifGroup _ first second ihfirst ihsecond =>
      rcases h with h | h
      · exact ihfirst h
      · exact ihsecond h
  | group number body ih =>
      obtain ⟨L, hbody, _⟩ := h
      exact ih hbody
  | loop greed least most body ih =>
      by_cases hgreed : greed = .possessive
      · subst hgreed
        exact (passes_possessive.mp h).1
      · obtain ⟨n, _, hiterates⟩ := (passes_loop hgreed).mp h
        refine hiterates.keeps (fun s => s.1.whole = p.whole) ?_ rfl
        intro a b hstep ha
        rw [ih hstep, ha]
  | atomic body ih => exact ih h
  | backref => exact h.1

/-! ## Groups and their marks -/

/-- The groups of an expression use marks from `low` on and below `high`. Outside of repetitions
they use them in order. There is no group inside another one or inside a possessive repetition. -/
def Fits : Expr → Bool → Nat → Nat → Prop
  | seq first second, looped, low, high =>
      if looped then first.Fits true low high ∧ second.Fits true low high
      else ∃ middle, first.Fits false low middle ∧ second.Fits false middle high
  | either first second, looped, low, high => first.Fits looped low high ∧ second.Fits looped low high
  | group number body, _, low, high =>
      body.captures = [] ∧ 0 < number ∧ low ≤ 2 * (number - 1) ∧ 2 * number ≤ high
  | loop greed _ _ body, _, low, high =>
      if greed = .possessive then body.captures = [] ∧ low ≤ high else body.Fits true low high
  | atomic body, looped, low, high => body.Fits looped low high
  | ahead _ body, looped, low, high => body.Fits looped low high
  | behind _ _ body, looped, low, high => body.Fits looped low high
  | ifGroup _ yes no, looped, low, high => yes.Fits looped low high ∧ no.Fits looped low high
  | _, _, low, high => low ≤ high

/-- The parts of a sequence share the marks inside of a repetition, and divide them elsewhere. -/
theorem fits_seq {first second : Expr} {looped : Bool} {low high : Nat} :
    (seq first second).Fits looped low high ↔
      if looped then first.Fits true low high ∧ second.Fits true low high
      else ∃ middle, first.Fits false low middle ∧ second.Fits false middle high :=
  Iff.rfl

/-- What is repeated has the marks of the repetition, unless that is possessive. -/
theorem fits_loop {greed : Greed} {least : Nat} {most : Option Nat} {body : Expr} {looped : Bool}
    {low high : Nat} :
    (loop greed least most body).Fits looped low high ↔
      if greed = .possessive then body.captures = [] ∧ low ≤ high else body.Fits true low high :=
  Iff.rfl

/-- A share of marks ends where it begins or later. -/
theorem Fits.le {looped : Bool} {low high : Nat} (h : e.Fits looped low high) : low ≤ high := by
  induction e generalizing looped low high with
  | empty | never | char | anchor | backref => exact h
  | seq first second ihfirst ihsecond =>
      rw [fits_seq] at h
      split at h
      · exact ihfirst h.1
      · obtain ⟨middle, hfirst, hsecond⟩ := h
        exact Nat.le_trans (ihfirst hfirst) (ihsecond hsecond)
  | either first second ih _ | ifGroup _ first second ih _ => exact ih h.1
  | group number body => obtain ⟨_, _, hlow, hhigh⟩ := h; omega
  | loop greed least most body ih =>
      rw [fits_loop] at h
      split at h
      · exact h.2
      · exact ih h
  | atomic body ih | ahead _ body ih | behind _ _ body ih => exact ih h

/-- A larger share of the marks fits as well. -/
theorem Fits.widen {looped : Bool} {low high low' high' : Nat} (h : e.Fits looped low high)
    (hlow : low' ≤ low) (hhigh : high ≤ high') : e.Fits looped low' high' := by
  induction e generalizing looped low high low' high' with
  | empty | never | char | anchor | backref => exact Nat.le_trans hlow (Nat.le_trans h hhigh)
  | seq first second ihfirst ihsecond =>
      rw [fits_seq] at h ⊢
      split at h
      · next hlooped =>
        rw [if_pos hlooped]
        exact ⟨ihfirst h.1 hlow hhigh, ihsecond h.2 hlow hhigh⟩
      · next hlooped =>
        rw [if_neg hlooped]
        obtain ⟨middle, hfirst, hsecond⟩ := h
        exact ⟨middle, ihfirst hfirst hlow (Nat.le_refl middle),
          ihsecond hsecond (Nat.le_refl middle) hhigh⟩
  | either first second ihfirst ihsecond | ifGroup _ first second ihfirst ihsecond =>
      exact ⟨ihfirst h.1 hlow hhigh, ihsecond h.2 hlow hhigh⟩
  | group number body =>
      obtain ⟨hcaptures, hpos, hbegin, hend⟩ := h
      exact ⟨hcaptures, hpos, Nat.le_trans hlow hbegin, Nat.le_trans hend hhigh⟩
  | loop greed least most body ih =>
      rw [fits_loop] at h ⊢
      split at h
      · next hgreed =>
        rw [if_pos hgreed]
        exact ⟨h.1, Nat.le_trans hlow (Nat.le_trans h.2 hhigh)⟩
      · next hgreed =>
        rw [if_neg hgreed]
        exact ih h hlow hhigh
  | atomic body ih | ahead _ body ih | behind _ _ body ih => exact ih h hlow hhigh

/-- Without groups any share of the marks will do. -/
theorem fits_of_captures (h : e.captures = []) (looped : Bool) {low high : Nat}
    (hle : low ≤ high) : e.Fits looped low high := by
  induction e generalizing looped low high with
  | empty | never | char | anchor | backref => exact hle
  | seq first second ihfirst ihsecond =>
      obtain ⟨hfirst, hsecond⟩ := List.append_eq_nil_iff.mp h
      rw [fits_seq]
      split
      · exact ⟨ihfirst hfirst _ hle, ihsecond hsecond _ hle⟩
      · exact ⟨low, ihfirst hfirst _ (Nat.le_refl low), ihsecond hsecond _ hle⟩
  | either first second ihfirst ihsecond | ifGroup _ first second ihfirst ihsecond =>
      obtain ⟨hfirst, hsecond⟩ := List.append_eq_nil_iff.mp h
      exact ⟨ihfirst hfirst _ hle, ihsecond hsecond _ hle⟩
  | group number body => simp [captures] at h
  | loop greed least most body ih =>
      rw [fits_loop]
      split
      · exact ⟨h, hle⟩
      · exact ih h true hle
  | atomic body ih | ahead _ body ih | behind _ _ body ih => exact ih h looped hle

/-- The marks of a group lie in the share of the expression, and there is no other group inside. -/
theorem Fits.mem_captures {looped : Bool} {low high number : Nat} {body : Expr}
    (h : e.Fits looped low high) (hmem : (number, body) ∈ e.captures) :
    body.captures = [] ∧ 0 < number ∧ low ≤ 2 * (number - 1) ∧ 2 * number ≤ high := by
  induction e generalizing looped low high with
  | empty | never | char | anchor | backref => simp [captures] at hmem
  | seq first second ihfirst ihsecond =>
      rw [fits_seq] at h
      obtain hmem | hmem := List.mem_append.mp hmem
      · split at h
        · exact ihfirst h.1 hmem
        · obtain ⟨middle, hfirst, hsecond⟩ := h
          exact ihfirst (hfirst.widen (Nat.le_refl low) hsecond.le) hmem
      · split at h
        · exact ihsecond h.2 hmem
        · obtain ⟨middle, hfirst, hsecond⟩ := h
          exact ihsecond (hsecond.widen hfirst.le (Nat.le_refl high)) hmem
  | either first second ihfirst ihsecond | ifGroup _ first second ihfirst ihsecond =>
      obtain hmem | hmem := List.mem_append.mp hmem
      · exact ihfirst h.1 hmem
      · exact ihsecond h.2 hmem
  | group own inner ih =>
      have hinner : inner.captures = [] := h.1
      rw [captures, hinner, List.mem_singleton] at hmem
      cases hmem
      exact h
  | loop greed least most inner ih =>
      have hmem : (number, body) ∈ inner.captures := hmem
      rw [fits_loop] at h
      split at h
      · simp [h.1] at hmem
      · exact ih h hmem
  | atomic inner ih | ahead _ inner ih | behind _ _ inner ih => exact ih h hmem

/-- What noting the spans of the groups of an expression keeps is kept by a passage. -/
theorem Passes.keeps_spans (h : e.Passes p M q N) {looped : Bool} {low high : Nat}
    (hfits : e.Fits looped low high) (holds : Marks → Prop)
    (hspan : ∀ number body, (number, body) ∈ e.captures → ∀ marks start stop,
      body.Leads start stop → holds marks →
        holds (putMark (putMark marks (2 * (number - 1)) start) (2 * (number - 1) + 1) stop))
    (hM : holds M) : holds N := by
  induction e generalizing p M q N looped low high holds with
  | empty =>
      rw [h.2]
      exact hM
  | never => exact h.elim
  | char | backref =>
      rw [h.2]
      exact hM
  | anchor =>
      rw [h.2.2]
      exact hM
  | seq first second ihfirst ihsecond =>
      obtain ⟨r, L, hfirst, hsecond⟩ := h
      have hspan' := fun number body hmem => hspan number body (List.mem_append_left _ hmem)
      have hspan'' := fun number body hmem => hspan number body (List.mem_append_right _ hmem)
      rw [fits_seq] at hfits
      split at hfits
      · exact ihsecond hsecond hfits.2 holds hspan'' (ihfirst hfirst hfits.1 holds hspan' hM)
      · obtain ⟨middle, hfits, hfits'⟩ := hfits
        exact ihsecond hsecond hfits' holds hspan'' (ihfirst hfirst hfits holds hspan' hM)
  | either first second ihfirst ihsecond | ifGroup _ first second ihfirst ihsecond =>
      rcases h with h | h
      · exact ihfirst h hfits.1 holds (fun number body hmem =>
          hspan number body (List.mem_append_left _ hmem)) hM
      · exact ihsecond h hfits.2 holds (fun number body hmem =>
          hspan number body (List.mem_append_right _ hmem)) hM
  | group number body ih =>
      obtain ⟨L, hbody, rfl⟩ := h
      -- Inside of a group there is no other one, so only its own span is noted.
      obtain rfl : L = putMark M (2 * (number - 1)) p := ih hbody
        (fits_of_captures hfits.1 false (Nat.le_refl 0)) (· = putMark M (2 * (number - 1)) p)
        (by simp [hfits.1]) rfl
      exact hspan number body (List.mem_cons_self ..) M p q ⟨_, _, hbody⟩ hM
  | loop greed least most body ih =>
      by_cases hgreed : greed = .possessive
      · subst hgreed
        rw [(passes_possessive.mp h).2]
        exact hM
      · rw [fits_loop, if_neg hgreed] at hfits
        obtain ⟨n, _, hiterates⟩ := (passes_loop hgreed).mp h
        exact hiterates.keeps (fun s => holds s.2)
          (fun a b hstep ha => ih hstep hfits holds hspan ha) hM
  | atomic body ih => exact ih h hfits holds hspan hM
  | ahead positive body ih =>
      obtain ⟨_, h⟩ := h
      split at h
      · obtain ⟨r, hbody⟩ := h
        exact ih hbody hfits holds hspan hM
      · rw [h]
        exact hM
  | behind positive width body ih =>
      obtain ⟨_, h⟩ := h
      split at h
      · obtain ⟨start, r, _, hbody⟩ := h
        exact ih hbody hfits holds hspan hM
      · rw [h]
        exact hM

/-- What noting the marks of its share keeps is kept by a passage. -/
theorem Passes.keeps (h : e.Passes p M q N) {looped : Bool} {low high : Nat}
    (hfits : e.Fits looped low high) (holds : Marks → Prop)
    (hput : ∀ marks number place, low ≤ number → number < high → holds marks →
      holds (putMark marks number place)) (hM : holds M) : holds N := by
  refine h.keeps_spans hfits holds (fun number body hmem marks start stop _ hmarks => ?_) hM
  obtain ⟨_, hpos, hlow, hhigh⟩ := hfits.mem_captures hmem
  exact hput _ _ _ (by omega) (by omega) (hput _ _ _ hlow (by omega) hmarks)

/-- Without groups the marks stay as they are. -/
theorem Passes.marks_eq (h : e.Passes p M q N) (hcaptures : e.captures = []) : N = M := by
  refine h.keeps (fits_of_captures hcaptures false (Nat.le_refl 0))
    (fun marks => marks = M) ?_ rfl
  exact fun marks number place _ hlt => absurd hlt (Nat.not_lt_zero number)

section Share

variable {looped : Bool} {low high : Nat}

/-- Marks outside of the share of an expression stay as they are. -/
theorem Passes.markAt_eq (h : e.Passes p M q N) (hfits : e.Fits looped low high) {number : Nat}
    (hnumber : number < low ∨ high ≤ number) : markAt N number = markAt M number := by
  refine h.keeps hfits (fun marks => markAt marks number = markAt M number) ?_ rfl
  intro marks other place hlow hhigh hmarks
  rw [markAt_putMark, if_neg (by omega), hmarks]

/-- The marks below the share of an expression stay where they are. -/
theorem Passes.take_prefix (h : e.Passes p M q N) (hfits : e.Fits looped low high) :
    M.take low <+: N.take low := by
  refine h.keeps hfits (fun marks => M.take low <+: marks.take low) ?_
    (List.prefix_refl _)
  intro marks number place hlow _ hmarks
  exact hmarks.trans (take_prefix_putMark marks hlow place)

/-- There are no more marks than the share of an expression allows, if there were not before. -/
theorem Passes.length_le (h : e.Passes p M q N) (hfits : e.Fits looped low high)
    (hM : M.length ≤ high) : N.length ≤ high := by
  refine h.keeps hfits (fun marks => marks.length ≤ high) ?_ hM
  intro marks number place _ hhigh hmarks
  rw [length_putMark]
  omega

end Share

/-! ## Expressions in a row -/

/-- A row of expressions passes from one to the next. -/
theorem passes_ofList_cons {rest : List Expr} : (ofList (e :: rest)).Passes p M q N ↔
    ∃ r L, e.Passes p M r L ∧ (ofList rest).Passes r L q N := by
  cases rest with
  | nil =>
      constructor
      · exact fun h => ⟨q, N, h, rfl, rfl⟩
      · rintro ⟨r, L, h, rfl, rfl⟩
        exact h
  | cons next rest => rfl

/-- Two rows of expressions pass one after the other. -/
theorem passes_ofList_append {first second : List Expr} :
    (ofList (first ++ second)).Passes p M q N ↔
      ∃ r L, (ofList first).Passes p M r L ∧ (ofList second).Passes r L q N := by
  induction first generalizing p M with
  | nil =>
      constructor
      · exact fun h => ⟨p, M, ⟨rfl, rfl⟩, h⟩
      · rintro ⟨r, L, ⟨rfl, rfl⟩, h⟩
        exact h
  | cons e rest ih =>
      simp only [List.cons_append, passes_ofList_cons, ih]
      constructor
      · rintro ⟨s, K, hfirst, r, L, hrest, hsecond⟩
        exact ⟨r, L, ⟨s, K, hfirst, hrest⟩, hsecond⟩
      · rintro ⟨r, L, ⟨s, K, hfirst, hrest⟩, hsecond⟩
        exact ⟨s, K, hfirst, r, L, hrest, hsecond⟩

/-- In a row of expressions the share of the first one comes first. -/
theorem fits_ofList_cons {rest : List Expr} {low high : Nat} :
    (ofList (e :: rest)).Fits false low high ↔
      ∃ middle, e.Fits false low middle ∧ (ofList rest).Fits false middle high := by
  cases rest with
  | nil =>
      constructor
      · exact fun h => ⟨high, h, Nat.le_refl high⟩
      · rintro ⟨middle, h, hle⟩
        exact h.widen (Nat.le_refl low) hle
  | cons next rest => rfl

/-- Shares in a row fit two rows of expressions. -/
theorem fits_ofList_append {first second : List Expr} {low middle high : Nat}
    (hfirst : (ofList first).Fits false low middle)
    (hsecond : (ofList second).Fits false middle high) :
    (ofList (first ++ second)).Fits false low high := by
  induction first generalizing low with
  | nil => exact hsecond.widen hfirst (Nat.le_refl high)
  | cons e rest ih =>
      obtain ⟨share, he, hrest⟩ := fits_ofList_cons.mp hfirst
      exact fits_ofList_cons.mpr ⟨share, he, ih hrest⟩

end Expr

end RoutePattern
