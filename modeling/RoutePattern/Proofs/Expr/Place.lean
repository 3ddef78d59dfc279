import RoutePattern.Expr.Place

/-!
# Moving between places

`Place.Reaches` says that a text stands between two places: the first place is in front of it and
the second behind it. `step_eq_some_iff` puts single steps in these terms, and
`mem_steps_take_iff` runs of steps: the places that a test reaches in at least `least` steps are
the ends of the accepted texts of at least that length.
-/

namespace RoutePattern

/-- A relation holds `n` times in a row. -/
def Iterates {α : Type} (R : α → α → Prop) : Nat → α → α → Prop
  | 0, a, b => a = b
  | n + 1, a, c => ∃ b, R a b ∧ Iterates R n b c

/-- What every iteration keeps is kept by all of them in a row. -/
theorem Iterates.keeps {α : Type} {R : α → α → Prop} {n : Nat} {a b : α} (holds : α → Prop)
    (h : Iterates R n a b) (hstep : ∀ a b, R a b → holds a → holds b) (ha : holds a) :
    holds b := by
  induction n generalizing a with
  | zero =>
      cases h
      exact ha
  | succ n ih =>
      obtain ⟨c, hfirst, hrest⟩ := h
      exact ih hrest (hstep _ _ hfirst ha)

/-- Iterations in a row add up. -/
theorem Iterates.trans {α : Type} {R : α → α → Prop} {m n : Nat} {a b c : α}
    (hfirst : Iterates R m a b) (hsecond : Iterates R n b c) : Iterates R (m + n) a c := by
  induction m generalizing a with
  | zero =>
      cases hfirst
      rwa [Nat.zero_add]
  | succ m ih =>
      obtain ⟨d, hstep, hrest⟩ := hfirst
      rw [Nat.succ_add]
      exact ⟨d, hstep, ih hrest⟩

/-- Iterations of pairs are iterations of their first parts. -/
theorem Iterates.forget {α β : Type} {R : α × β → α × β → Prop} {S : α → α → Prop} {n : Nat}
    {a b : α × β} (h : Iterates R n a b) (hstep : ∀ a b, R a b → S a.1 b.1) :
    Iterates S n a.1 b.1 := by
  induction n generalizing a with
  | zero =>
      cases h
      rfl
  | succ n ih =>
      obtain ⟨c, hfirst, hrest⟩ := h
      exact ⟨c.1, hstep _ _ hfirst, ih hrest⟩

/-- Iterations can be taken in two goes. -/
theorem Iterates.split {α : Type} {R : α → α → Prop} {m n : Nat} {a c : α}
    (h : Iterates R (m + n) a c) : ∃ b, Iterates R m a b ∧ Iterates R n b c := by
  induction m generalizing a with
  | zero => exact ⟨a, rfl, by rwa [Nat.zero_add] at h⟩
  | succ m ih =>
      rw [Nat.succ_add] at h
      obtain ⟨d, hstep, hrest⟩ := h
      obtain ⟨b, hfirst, hsecond⟩ := ih hrest
      exact ⟨b, ⟨d, hstep, hfirst⟩, hsecond⟩

namespace Place

/-- The text in which a place lies. -/
def whole (place : Place) : List Char :=
  place.before.reverse ++ place.after

/-- A text stands between two places. -/
structure Reaches (first second : Place) (text : List Char) : Prop where
  before : second.before = text.reverse ++ first.before
  after : first.after = text ++ second.after

variable {p q r : Place} {text first second : List Char}

/-- Only a place itself is the empty text away. -/
theorem reaches_nil_iff : p.Reaches q [] ↔ p = q := by
  constructor
  · intro h
    exact ext_sides h.before.symm h.after
  · rintro rfl
    exact ⟨rfl, rfl⟩

/-- Texts in a row stand between the outermost places. -/
theorem Reaches.trans (hfirst : p.Reaches q first) (hsecond : q.Reaches r second) :
    p.Reaches r (first ++ second) where
  before := by rw [hsecond.before, hfirst.before, List.reverse_append, List.append_assoc]
  after := by rw [hfirst.after, hsecond.after, List.append_assoc]

/-- Places between which a text stands lie in the same text. -/
theorem Reaches.whole (h : p.Reaches q text) : q.whole = p.whole := by
  rw [Place.whole, Place.whole, h.before, h.after]
  simp

/-- The second place is as many characters on as the text has. -/
theorem Reaches.offset (h : p.Reaches q text) : q.offset = p.offset + text.length := by
  rw [q.offset_eq, p.offset_eq, h.before, List.length_append, List.length_reverse, Nat.add_comm]

/-- The first place has the text in front of it, besides what the second place has. -/
theorem Reaches.left (h : p.Reaches q text) : p.left = text.length + q.left := by
  rw [q.left_eq, p.left_eq, h.after, List.length_append]

/-- The text between two places is what there is since the first. -/
theorem Reaches.textSince (h : p.Reaches q text) : q.textSince p = text := by
  rw [Place.textSince, h.offset, h.after]
  simp

/-- Where a place is followed by a text, there is a place behind that text. -/
theorem exists_reaches {rest : List Char} (h : p.after = text ++ rest) :
    ∃ q, p.Reaches q text ∧ q.after = rest :=
  ⟨{ before := text.reverse ++ p.before, after := rest }, ⟨rfl, h⟩, rfl⟩

/-- A text leads to one place only. -/
theorem Reaches.unique (hq : p.Reaches q text) (hr : p.Reaches r text) : q = r := by
  refine ext_sides (hq.before.trans hr.before.symm) ?_
  have h := hq.after.symm.trans hr.after
  rwa [List.append_cancel_left_eq] at h

/-- A text that is put together has a place where its parts meet. -/
theorem Reaches.split (h : p.Reaches r (first ++ second)) :
    ∃ q, p.Reaches q first ∧ q.Reaches r second := by
  obtain ⟨q, hfirst, hafter⟩ := exists_reaches (h.after.trans (List.append_assoc ..))
  refine ⟨q, hfirst, ?_, hafter⟩
  rw [h.before, hfirst.before, List.reverse_append, List.append_assoc]

/-- Of two places in a text, the one that is not earlier is behind the text since the other. -/
theorem reaches_textSince (hwhole : q.whole = p.whole) (hle : p.offset ≤ q.offset) :
    p.Reaches q (q.textSince p) := by
  have hlength : p.before.reverse.length ≤ q.before.reverse.length := by
    rw [List.length_reverse, List.length_reverse, ← p.offset_eq, ← q.offset_eq]
    exact hle
  obtain ⟨text, htext⟩ : ∃ text, q.before.reverse = p.before.reverse ++ text := by
    obtain ⟨text, htext⟩ := List.prefix_of_prefix_length_le
      (List.prefix_append p.before.reverse p.after)
      (show q.before.reverse <+: p.before.reverse ++ p.after from ⟨q.after, hwhole⟩) hlength
    exact ⟨text, htext.symm⟩
  have hreaches : p.Reaches q text := by
    refine ⟨?_, ?_⟩
    · rw [← List.reverse_inj, htext]
      simp
    · rw [Place.whole, Place.whole, htext, List.append_assoc, List.append_cancel_left_eq] at hwhole
      exact hwhole.symm
  rwa [hreaches.textSince]

/-- A place at the same offset of the same text is the same place. -/
theorem ext_offset (hwhole : q.whole = p.whole) (hoffset : q.offset = p.offset) : q = p := by
  have h := reaches_textSince hwhole (Nat.le_of_eq hoffset.symm)
  have hlength : (q.textSince p).length = 0 := by
    have := h.offset
    omega
  rw [List.length_eq_zero_iff] at hlength
  rw [hlength, reaches_nil_iff] at h
  exact h.symm

/-- The place in front of a text lies in that text. -/
@[simp]
theorem whole_start (text : List Char) : (start text).whole = text :=
  rfl

/-! ## Single steps -/

/-- The next character leads to the next place. -/
theorem next?_eq_some_iff {c : Char} : p.next? = some (c, q) ↔ p.Reaches q [c] := by
  unfold next?
  constructor
  · intro h
    split at h
    · simp at h
    · next c' after hafter =>
      simp only [Option.some.injEq, Prod.mk.injEq] at h
      obtain ⟨rfl, rfl⟩ := h
      exact ⟨rfl, hafter⟩
  · intro h
    have hafter : p.after = c :: q.after := h.after
    split
    · next hnil => simp [hnil] at hafter
    · next c' after hcons =>
      obtain ⟨rfl, rfl⟩ := List.cons.inj (hcons.symm.trans hafter)
      simp only [Option.some.injEq, Prod.mk.injEq, true_and]
      exact ext_sides h.before.symm rfl

/-- A step leads past a character that the test accepts. -/
theorem step_eq_some_iff {test : CharTest} :
    p.step test = some q ↔ ∃ c, test.accepts c = true ∧ p.Reaches q [c] := by
  unfold step
  constructor
  · intro h
    split at h
    · next c later hnext =>
      split at h
      · next haccepts =>
        cases h
        exact ⟨c, haccepts, next?_eq_some_iff.mp hnext⟩
      · simp at h
    · simp at h
  · rintro ⟨c, haccepts, hreaches⟩
    simp [next?_eq_some_iff.mpr hreaches, haccepts]

/-- The place one character back lies in the same text. -/
theorem whole_of_previous? (h : p.previous? = some q) : q.whole = p.whole := by
  unfold previous? at h
  split at h
  · simp at h
  · next c before hbefore =>
    cases h
    simp [Place.whole, hbefore]

/-- A place some characters back lies in the same text. -/
theorem whole_of_back {count : Nat} (h : p.back count = some q) : q.whole = p.whole := by
  induction count generalizing p with
  | zero =>
      cases h
      rfl
  | succ count ih =>
      rw [back, Option.bind_eq_some_iff] at h
      obtain ⟨middle, hmiddle, hrest⟩ := h
      rw [ih hrest, whole_of_previous? hmiddle]

/-- The place after a text that is skipped lies in the same text. -/
theorem whole_of_skip {fold : Fold} (h : p.skip fold text = some q) : q.whole = p.whole := by
  induction text generalizing p with
  | nil =>
      cases h
      rfl
  | cons expected rest ih =>
      rw [skip] at h
      split at h
      · next c later hnext =>
        split at h
        · rw [ih h, (next?_eq_some_iff.mp hnext).whole]
        · simp at h
      · simp at h

/-! ## Runs of steps -/

/-- A number of steps of a test lead from one place to another. -/
abbrev StepsTo (test : CharTest) : Nat → Place → Place → Prop :=
  Iterates fun p q => p.step test = some q

variable {test : CharTest}

/-- Steps stay in the same text. -/
theorem StepsTo.whole {n : Nat} (h : StepsTo test n p q) : q.whole = p.whole := by
  refine Iterates.keeps (fun r => r.whole = p.whole) h ?_ rfl
  intro a b hstep ha
  obtain ⟨c, _, hreaches⟩ := step_eq_some_iff.mp hstep
  rw [hreaches.whole, ha]

/-- Each step takes one character. -/
theorem StepsTo.left {n : Nat} (h : StepsTo test n p q) : p.left = n + q.left := by
  induction n generalizing p with
  | zero =>
      cases h
      rw [Nat.zero_add]
  | succ n ih =>
      obtain ⟨middle, hstep, hrest⟩ := h
      obtain ⟨c, _, hreaches⟩ := step_eq_some_iff.mp hstep
      rw [hreaches.left, ih hrest, List.length_singleton]
      omega

/-- As many steps lead to the same place. -/
theorem StepsTo.unique {n : Nat} (hq : StepsTo test n p q) (hr : StepsTo test n p r) : q = r := by
  induction n generalizing p with
  | zero => exact Eq.trans (Eq.symm hq) hr
  | succ n ih =>
      obtain ⟨a, hfirst, hrest⟩ := hq
      obtain ⟨b, hfirst', hrest'⟩ := hr
      obtain rfl := Option.some.inj (hfirst.symm.trans hfirst')
      exact ih hrest hrest'

/-- The places that a test reaches in up to `room` steps, the farthest first. -/
def chain (test : CharTest) : Nat → Place → List Place
  | 0, place => [place]
  | room + 1, place =>
      match place.step test with
      | some later => chain test room later ++ [place]
      | none => [place]

/-- The places that steps reach come in front of the earlier ones. -/
theorem stepsFrom_eq (test : CharTest) (earlier : List Place) (room : Nat) (p : Place) :
    stepsFrom test earlier room p = chain test room p ++ earlier := by
  induction room generalizing p earlier with
  | zero => rfl
  | succ room ih =>
      rw [stepsFrom, chain]
      cases p.step test with
      | none => rfl
      | some later => simp [ih]

/-- Without earlier places there are those that the steps reach. -/
theorem steps_eq (test : CharTest) (most : Option Nat) (p : Place) :
    p.steps test most = chain test (most.getD p.left) p := by
  rw [steps, stepsFrom_eq, List.append_nil]

/-- The farthest place is as many steps away as there are other places. -/
theorem chain_head (test : CharTest) (room : Nat) (p : Place) :
    ∃ n q rest, chain test room p = q :: rest ∧ rest.length = n ∧ n ≤ room ∧
      StepsTo test n p q := by
  induction room generalizing p with
  | zero => exact ⟨0, p, [], rfl, rfl, Nat.le_refl 0, rfl⟩
  | succ room ih =>
      rw [chain]
      cases hstep : p.step test with
      | none => exact ⟨0, p, [], rfl, rfl, Nat.zero_le _, rfl⟩
      | some later =>
          obtain ⟨n, q, rest, hchain, hlength, hle, hsteps⟩ := ih later
          refine ⟨n + 1, q, rest ++ [p], ?_, ?_, Nat.succ_le_succ hle, later, hstep, hsteps⟩
          · simp [hchain]
          · simp [hlength]

/-- Where no step leads on, there is only the place itself. -/
theorem mem_single_take_iff {room least : Nat}
    (hnone : ∀ n, n ≤ room → StepsTo test n p q → n = 0) :
    q ∈ [p].take ([p].length - least) ↔ ∃ n, least ≤ n ∧ n ≤ room ∧ StepsTo test n p q := by
  have hfew : (∃ n, least ≤ n ∧ n ≤ room ∧ StepsTo test n p q) ↔ least = 0 ∧ p = q := by
    constructor
    · rintro ⟨n, hleast, hle, hsteps⟩
      cases hnone n hle hsteps
      exact ⟨Nat.le_zero.mp hleast, hsteps⟩
    · rintro ⟨rfl, rfl⟩
      exact ⟨0, Nat.le_refl 0, Nat.zero_le _, rfl⟩
  rw [hfew]
  cases least with
  | zero => simp [eq_comm]
  | succ least => simp

/-- All but the last `least` of the places are those that at least `least` steps reach. -/
theorem mem_chain_take_iff {room least : Nat} :
    q ∈ (chain test room p).take ((chain test room p).length - least) ↔
      ∃ n, least ≤ n ∧ n ≤ room ∧ StepsTo test n p q := by
  induction room generalizing p least with
  | zero => exact mem_single_take_iff fun n hle _ => Nat.le_zero.mp hle
  | succ room ih =>
      rw [chain]
      cases hstep : p.step test with
      | none =>
          refine mem_single_take_iff ?_
          rintro (_ | n) _ hsteps
          · rfl
          · obtain ⟨middle, hmiddle, _⟩ := hsteps
            simp [hstep] at hmiddle
      | some later =>
          have hrest (k : Nat) : StepsTo test (k + 1) p q ↔ StepsTo test k later q := by
            constructor
            · rintro ⟨middle, hmiddle, hsteps⟩
              rw [hstep, Option.some.injEq] at hmiddle
              rwa [hmiddle]
            · exact fun hsteps => ⟨later, hstep, hsteps⟩
          -- One step on, one step fewer is asked for.
          cases least with
          | zero =>
              have hall := @ih later 0
              rw [Nat.sub_zero, List.take_length] at hall
              simp only [Nat.sub_zero, List.take_length, List.mem_append, hall,
                List.mem_singleton, Nat.zero_le, true_and]
              constructor
              · rintro (⟨n, hle, hsteps⟩ | rfl)
                · exact ⟨n + 1, Nat.succ_le_succ hle, (hrest n).mpr hsteps⟩
                · exact ⟨0, Nat.zero_le _, rfl⟩
              · rintro ⟨n, hle, hsteps⟩
                cases n with
                | zero => exact .inr hsteps.symm
                | succ n => exact .inl ⟨n, Nat.le_of_succ_le_succ hle, (hrest n).mp hsteps⟩
          | succ least =>
              have hlength : (chain test room later ++ [p]).length - (least + 1) =
                  (chain test room later).length - least := by
                rw [List.length_append, List.length_singleton, Nat.add_sub_add_right]
              rw [hlength, List.take_append_of_le_length (Nat.sub_le ..), ih]
              constructor
              · rintro ⟨n, hleast, hle, hsteps⟩
                exact ⟨n + 1, Nat.succ_le_succ hleast, Nat.succ_le_succ hle, (hrest n).mpr hsteps⟩
              · rintro ⟨n, hleast, hle, hsteps⟩
                obtain ⟨k, rfl⟩ : ∃ k, n = k + 1 := ⟨n - 1, by omega⟩
                exact ⟨k, Nat.le_of_succ_le_succ hleast, Nat.le_of_succ_le_succ hle,
                  (hrest k).mp hsteps⟩

/-- All but the last `least` places of the steps are those that at least `least` steps reach. -/
theorem mem_steps_take_iff {most : Option Nat} {least : Nat} :
    q ∈ (p.steps test most).take ((p.steps test most).length - least) ↔
      ∃ n, least ≤ n ∧ n ≤ most.getD p.left ∧ StepsTo test n p q := by
  rw [steps_eq, mem_chain_take_iff]

end Place

end RoutePattern
