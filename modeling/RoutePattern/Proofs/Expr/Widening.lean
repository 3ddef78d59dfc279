import Mathlib.Data.List.Forall2
import RoutePattern.Proofs.Expr.Passage

/-!
# Expressions that accept more

`Widens R` relates an expression to one of the same shape whose tests accept more: where the first
one accepts a character, the other one accepts all that this character is related to by `R`. Places
are alike if the texts on their sides are related character by character. `Widens.passes` is the main
result: along with every passage of the first expression there is one of the other, between places
that are alike.
-/

namespace RoutePattern

variable {R : Char → Char → Prop} {p q p' : Place} {text text' : List Char}

/-! ## Places -/

/-- Places in texts whose characters are related one by one, with as many in front of each. -/
structure Place.Alike (R : Char → Char → Prop) (p p' : Place) : Prop where
  before : List.Forall₂ R p.before p'.before
  after : List.Forall₂ R p.after p'.after

namespace Place

/-- A text whose characters are related to those around a place has a place that is alike. -/
theorem exists_alike (h : List.Forall₂ R p.whole text') : ∃ p', p'.whole = text' ∧ p.Alike R p' := by
  let front := text'.take p.before.reverse.length
  let rest := text'.drop p.before.reverse.length
  have hsplit : List.Forall₂ (flip R) text' (p.before.reverse ++ p.after) := List.Forall₂.flip h
  have hfront : List.Forall₂ R p.before.reverse front :=
    (List.forall₂_take_append _ _ _ hsplit).flip
  have hrest : List.Forall₂ R p.after rest := (List.forall₂_drop_append _ _ _ hsplit).flip
  refine ⟨{ before := front.reverse, after := rest }, ?_, ?_, hrest⟩
  · rw [whole, List.reverse_reverse, List.take_append_drop]
  · rwa [← List.forall₂_reverse_iff, List.reverse_reverse]

/-- Where a character stands behind a place, a related one stands behind a place that is alike. -/
theorem Alike.reaches {c : Char} (h : p.Alike R p') (hreaches : p.Reaches q [c]) :
    ∃ d q', R c d ∧ p'.Reaches q' [d] ∧ q.Alike R q' := by
  have hafter := h.after
  rw [hreaches.after] at hafter
  obtain ⟨d, rest, hchar, hrest, htext⟩ := List.forall₂_cons_left_iff.mp hafter
  obtain ⟨q', hreaches', rfl⟩ := exists_reaches (show p'.after = [d] ++ rest from htext)
  refine ⟨d, q', hchar, hreaches', ?_, hrest⟩
  rw [hreaches.before, hreaches'.before]
  exact .cons hchar h.before

/-- Steps go along with each other if the second test accepts whatever is related to what the first
one accepts. -/
theorem Alike.step {test other : CharTest} (h : p.Alike R p')
    (haccepts : ∀ c d, R c d → test.accepts c = true → other.accepts d = true)
    (hstep : p.step test = some q) : ∃ q', p'.step other = some q' ∧ q.Alike R q' := by
  obtain ⟨c, hc, hreaches⟩ := step_eq_some_iff.mp hstep
  obtain ⟨d, q', hchar, hreaches', halike⟩ := h.reaches hreaches
  exact ⟨q', step_eq_some_iff.mpr ⟨d, haccepts c d hchar hc, hreaches'⟩, halike⟩

end Place

namespace Expr

variable {e other : Expr} {M N : Marks}

/-! ## Repetitions -/

/-- Where the bounds of a repetition are in order, the number of iterations lies between them. -/
theorem counts_iff {greed : Greed} {least n : Nat} {most : Option Nat}
    (hbounds : ∀ m, most = some m → least ≤ m) :
    Counts greed e least most n ↔ least ≤ n ∧ ∀ m, most = some m → n ≤ m := by
  refine and_congr_right fun _ => forall₂_congr fun m hm => ⟨?_, .inl⟩
  rintro (hle | ⟨rfl, _⟩)
  · exact hle
  · exact hbounds m hm

/-- Along with every passage of the first expression there is one of the other, between places that
are alike and whatever the marks are. -/
def ShadowedBy (R : Char → Char → Prop) (e other : Expr) : Prop :=
  ∀ ⦃p q p' : Place⦄ ⦃M N : Marks⦄, e.Passes p M q N → p.Alike R p' →
    ∃ q', q.Alike R q' ∧ ∀ M', ∃ N', other.Passes p' M' q' N'

/-- What goes along once goes along any number of times in a row. -/
theorem ShadowedBy.iterates (h : e.ShadowedBy R other) {n : Nat}
    (hiterates : Iterates (Paired e.Passes) n (p, M) (q, N)) (hp : p.Alike R p') :
    ∃ q', q.Alike R q' ∧ ∀ M', ∃ N', Iterates (Paired other.Passes) n (p', M') (q', N') := by
  induction n generalizing p p' M with
  | zero =>
      cases hiterates
      exact ⟨p', hp, fun M' => ⟨M', rfl⟩⟩
  | succ n ih =>
      obtain ⟨⟨r, L⟩, hfirst, hrest⟩ := hiterates
      obtain ⟨r', hr, hfirst'⟩ := h hfirst hp
      obtain ⟨q', hq, hrest'⟩ := ih hrest hr
      refine ⟨q', hq, fun M' => ?_⟩
      obtain ⟨L', hpasses⟩ := hfirst' M'
      obtain ⟨N', hmore⟩ := hrest' L'
      exact ⟨N', (r', L'), hpasses, hmore⟩

/-! ## Expressions of the same shape -/

/-- An expression of the same shape as the first one accepts all that is related to what that one
accepts. Nothing but the characters that are read and the ends of the text may matter. -/
inductive Widens (R : Char → Char → Prop) : Expr → Expr → Prop where
  | empty : Widens R empty empty
  | never : Widens R never never
  | char {test other : CharTest} :
      (∀ c d, R c d → test.accepts c = true → other.accepts d = true) →
      Widens R (char test) (char other)
  | textStart : Widens R (anchor .textStart) (anchor .textStart)
  | textEnd : Widens R (anchor .textEnd) (anchor .textEnd)
  | seq {first first' second second' : Expr} :
      Widens R first first' → Widens R second second' →
      Widens R (seq first second) (seq first' second')
  | either {first first' second second' : Expr} :
      Widens R first first' → Widens R second second' →
      Widens R (either first second) (either first' second')
  | group (number : Nat) {body body' : Expr} :
      Widens R body body' → Widens R (group number body) (group number body')
  | loop {greed : Greed} {least : Nat} {most : Option Nat} {body body' : Expr} :
      greed ≠ .possessive → (∀ m, most = some m → least ≤ m) → Widens R body body' →
      Widens R (loop greed least most body) (loop greed least most body')
  | ahead {body body' : Expr} :
      Widens R body body' → Widens R (ahead true body) (ahead true body')

/-- Expressions in a row accept more if each of them does. -/
theorem widens_ofList {items others : List Expr} (h : List.Forall₂ (Widens R) items others) :
    Widens R (ofList items) (ofList others) := by
  induction h with
  | nil => exact .empty
  | cons hfirst hrest ih =>
      cases hrest with
      | nil => exact hfirst
      | cons => exact .seq hfirst ih

/-- An expression that accepts more passes wherever the other one does, in texts whose characters are
related. -/
theorem Widens.passes (h : Widens R e other) : e.ShadowedBy R other := by
  induction h with
  | empty =>
      rintro p _ p' M _ ⟨rfl, rfl⟩ hp
      exact ⟨p', hp, fun M' => ⟨M', rfl, rfl⟩⟩
  | never => exact fun p q p' M N hpasses => hpasses.elim
  | char haccepts =>
      rintro p q p' M _ ⟨hstep, rfl⟩ hp
      obtain ⟨q', hstep', hq⟩ := hp.step haccepts hstep
      exact ⟨q', hq, fun M' => ⟨M', hstep', rfl⟩⟩
  | textStart =>
      rintro p _ p' M _ ⟨hholds, rfl, rfl⟩ hp
      have hbefore := hp.before
      rw [List.isEmpty_iff.mp hholds, List.forall₂_nil_left_iff] at hbefore
      exact ⟨p', hp, fun M' => ⟨M', List.isEmpty_iff.mpr hbefore, rfl, rfl⟩⟩
  | textEnd =>
      rintro p _ p' M _ ⟨hholds, rfl, rfl⟩ hp
      have hafter := hp.after
      rw [List.isEmpty_iff.mp hholds, List.forall₂_nil_left_iff] at hafter
      exact ⟨p', hp, fun M' => ⟨M', List.isEmpty_iff.mpr hafter, rfl, rfl⟩⟩
  | seq _ _ ihfirst ihsecond =>
      rintro p q p' M N ⟨r, L, hfirst, hsecond⟩ hp
      obtain ⟨r', hr, hfirst'⟩ := ihfirst hfirst hp
      obtain ⟨q', hq, hsecond'⟩ := ihsecond hsecond hr
      refine ⟨q', hq, fun M' => ?_⟩
      obtain ⟨L', hpasses⟩ := hfirst' M'
      obtain ⟨N', hpasses'⟩ := hsecond' L'
      exact ⟨N', r', L', hpasses, hpasses'⟩
  | either _ _ ihfirst ihsecond =>
      rintro p q p' M N (hfirst | hsecond) hp
      · obtain ⟨q', hq, hfirst'⟩ := ihfirst hfirst hp
        refine ⟨q', hq, fun M' => ?_⟩
        obtain ⟨N', hpasses⟩ := hfirst' M'
        exact ⟨N', .inl hpasses⟩
      · obtain ⟨q', hq, hsecond'⟩ := ihsecond hsecond hp
        refine ⟨q', hq, fun M' => ?_⟩
        obtain ⟨N', hpasses⟩ := hsecond' M'
        exact ⟨N', .inr hpasses⟩
  | group number _ ih =>
      rintro p q p' M N ⟨L, hbody, rfl⟩ hp
      obtain ⟨q', hq, hbody'⟩ := ih hbody hp
      refine ⟨q', hq, fun M' => ?_⟩
      obtain ⟨L', hpasses⟩ := hbody' (putMark M' (2 * (number - 1)) p')
      exact ⟨_, L', hpasses, rfl⟩
  | loop hgreed hbounds _ ih =>
      intro p q p' M N hpasses hp
      obtain ⟨n, hcounts, hiterates⟩ := (passes_loop hgreed).mp hpasses
      obtain ⟨q', hq, hiterates'⟩ := ShadowedBy.iterates ih hiterates hp
      refine ⟨q', hq, fun M' => ?_⟩
      obtain ⟨N', hmore⟩ := hiterates' M'
      refine ⟨N', (passes_loop hgreed).mpr ⟨n, ?_, hmore⟩⟩
      exact (counts_iff hbounds).mpr ((counts_iff hbounds).mp hcounts)
  | ahead _ ih =>
      rintro p _ p' M N ⟨rfl, hahead⟩ hp
      obtain ⟨r, hbody⟩ := hahead
      obtain ⟨r', _, hbody'⟩ := ih hbody hp
      refine ⟨p', hp, fun M' => ?_⟩
      obtain ⟨N', hpasses⟩ := hbody' M'
      exact ⟨N', rfl, r', hpasses⟩

/-- An expression that accepts more leads somewhere in a text whose characters are related to those
of a text in which the other one does. -/
theorem Widens.leads (h : Widens R e other) (htext : List.Forall₂ R text text')
    (hleads : ∃ p q, p.whole = text ∧ e.Leads p q) :
    ∃ p q, p.whole = text' ∧ other.Leads p q := by
  obtain ⟨p, q, rfl, M, N, hpasses⟩ := hleads
  obtain ⟨p', hwhole, hp⟩ := Place.exists_alike htext
  obtain ⟨q', _, hpasses'⟩ := h.passes hpasses hp
  obtain ⟨N', hleads⟩ := hpasses' []
  exact ⟨p', q', hwhole, [], N', hleads⟩

end Expr

end RoutePattern
