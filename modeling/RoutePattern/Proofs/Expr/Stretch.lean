import RoutePattern.Proofs.Expr.Embedding
import RoutePattern.Proofs.Expr.Set

/-!
# From stretches of text to whole expressions

`Stretch` is a stretch of expression text that stands for expressions in a row, whatever terms they
come as. `Stretch.read` is the main result: a stretch is a whole expression, provided that what its
expressions ask for can be met, which `Expr.Granted` says.
-/

namespace RoutePattern

open ExprReader

/-! ## What expressions ask for -/

/-- What an expression asks for can be met: its look-behinds look back a fixed number of characters
that is not too large, and a template repeats nothing. -/
structure Expr.Granted (template : Bool) (e : Expr) : Prop where
  demand : e.demandFault? template = none
  near : e.looksTooFar = false

/-- What expressions in a row ask for can be met if that holds for each of them. -/
theorem granted_ofList {template : Bool} {items : List Expr} :
    (Expr.ofList items).Granted template ↔ ∀ e ∈ items, e.Granted template := by
  refine Expr.forall_ofList ⟨rfl, rfl⟩ fun first second => ?_
  constructor
  · rintro ⟨hdemand, hnear⟩
    simp only [Expr.demandFault?, Option.or_eq_none_iff] at hdemand
    simp only [Expr.looksTooFar, Bool.or_eq_false_iff] at hnear
    exact ⟨⟨hdemand.1, hnear.1⟩, hdemand.2, hnear.2⟩
  · rintro ⟨⟨hdemand, hnear⟩, hdemand', hnear'⟩
    exact ⟨by simp [Expr.demandFault?, hdemand, hdemand'],
      by simp [Expr.looksTooFar, hnear, hnear']⟩

/-- What a test asks for is met. -/
theorem Expr.Granted.char (template : Bool) (test : CharTest) :
    (Expr.char test).Granted template :=
  ⟨rfl, rfl⟩

/-- What a condition on the place asks for is met. -/
theorem Expr.Granted.anchor (template : Bool) (place : Anchor) :
    (Expr.anchor place).Granted template :=
  ⟨rfl, rfl⟩

/-- A capture group asks for what is inside it. -/
theorem Expr.Granted.group {template : Bool} {body : Expr} (number : Nat)
    (h : body.Granted template) : (Expr.group number body).Granted template :=
  ⟨h.demand, h.near⟩

/-- A look-ahead asks for what is inside it. -/
theorem Expr.Granted.ahead {template : Bool} {body : Expr} (positive : Bool)
    (h : body.Granted template) : (Expr.ahead positive body).Granted template :=
  ⟨h.demand, h.near⟩

/-- Outside of templates a repetition asks for what is inside it. -/
theorem Expr.Granted.loop {body : Expr} (greed : Greed) (least : Nat) (most : Option Nat)
    (h : body.Granted false) : (Expr.loop greed least most body).Granted false :=
  ⟨h.demand, h.near⟩

/-- What is inside a capture group asks for no more than the group. -/
theorem Expr.Granted.of_group {template : Bool} {number : Nat} {body : Expr}
    (h : (Expr.group number body).Granted template) : body.Granted template :=
  ⟨h.demand, h.near⟩

/-- What is inside a repetition asks for no more than the repetition. -/
theorem Expr.Granted.of_loop {greed : Greed} {least : Nat} {most : Option Nat} {body : Expr}
    (h : (Expr.loop greed least most body).Granted false) : body.Granted false :=
  ⟨h.demand, h.near⟩

namespace Alternation

/-- What a choice asks for can be met if that holds for every branch. -/
theorem granted_choice {template : Bool} {branches : List (List Expr)}
    (h : ∀ branch ∈ branches, ∀ e ∈ branch, e.Granted template) :
    (choice branches).Granted template := by
  refine choice_of_branches ⟨rfl, rfl⟩ (fun first second hfirst hsecond => ?_) fun branch hbranch =>
    granted_ofList.mpr (h branch hbranch)
  exact ⟨by simp [Expr.demandFault?, hfirst.demand, hsecond.demand],
    by simp [Expr.looksTooFar, hfirst.near, hsecond.near]⟩

/-- What alternatives put together ask for can be met if that holds for each of them. -/
theorem granted_ofBranches {template : Bool} (fold : Fold) {branches : List (List Expr)}
    (h : ∀ branch ∈ branches, ∀ e ∈ branch, e.Granted template) :
    ∀ e ∈ ofBranches fold branches, e.Granted template :=
  forall_mem_ofBranches fold (fun _ _ _ _ => .char template _) (fun _ => granted_choice) h

end Alternation

/-! ## Stretches -/

/-- A stretch of expression text that stands for expressions in a row. They depend on the number of
capture groups in front. -/
def Stretch (flags : Flags) (text : List Char) (count : Nat) (items : Nat → List Expr) : Prop :=
  ∃ terms, Segment flags text count terms ∧
    ∀ opened, (terms opened).flatMap Term.items = items opened

/-- What a mark makes of expressions in a row. -/
def markItems (modifier : String) (items : List Expr) : List Expr :=
  if modifier = "?" then [.loop .greedy 0 (some 1) (.ofList items)]
  else if modifier = "*" then [.loop .greedy 0 none (.ofList items)]
  else if modifier = "+" then [.loop .greedy 1 none (.ofList items)]
  else items

/-- A mark behind a term is a mark behind its expressions. -/
theorem Term.items_marked (modifier : String) (term : Term) :
    (term.marked modifier).items = markItems modifier term.items := by
  have hbody : term.body = .ofList term.items := by cases term <;> rfl
  unfold Term.marked markItems
  rw [hbody]
  split
  · rfl
  split
  · rfl
  split
  · rfl
  · rfl

variable {flags : Flags}

/-- A segment is a stretch. -/
theorem Segment.stretch {text : List Char} {count : Nat} {terms : Nat → List Term}
    (h : Segment flags text count terms) :
    Stretch flags text count fun opened => (terms opened).flatMap Term.items :=
  ⟨terms, h, fun _ => rfl⟩

/-- An atom is a stretch. -/
theorem Atom.stretch {text : List Char} {count : Nat} {term : Nat → Term}
    (h : Atom flags text count term) :
    Stretch flags text count fun opened => (term opened).items :=
  ⟨_, h.segment, fun opened => by simp⟩

namespace Stretch

variable {text : List Char} {count : Nat} {items : Nat → List Expr}

/-- The empty stretch. -/
theorem nil : Stretch flags [] 0 fun _ => [] :=
  ⟨_, .nil, fun _ => rfl⟩

/-- Literal text is a stretch. -/
theorem literal (hverbose : flags.verbose = false) (text : List Char) :
    Stretch flags (escapeChars text) 0 fun _ => literalItems flags.fold text :=
  ⟨_, .literal hverbose text, fun _ => by simp [List.flatMap_map, Term.items]⟩

/-- Stretches in a row stand for their expressions in a row. -/
theorem append {first second : List Char} {m n : Nat} {items others : Nat → List Expr}
    (hfirst : Stretch flags first m items) (hsecond : Stretch flags second n others) :
    Stretch flags (first ++ second) (m + n) fun opened => items opened ++ others (opened + m) := by
  obtain ⟨terms, hterms, hitems⟩ := hfirst
  obtain ⟨terms', hterms', hitems'⟩ := hsecond
  exact ⟨_, hterms.append hterms', fun opened => by simp [hitems, hitems']⟩

/-- A stretch is a single alternative. -/
theorem choice (h : Stretch flags text count items) :
    Choice flags text count fun opened => [items opened] := by
  obtain ⟨terms, hterms, hitems⟩ := h
  simpa [hitems] using hterms.choice

/-- A stretch, a bar and further alternatives are alternatives. -/
theorem orElse (hverbose : flags.verbose = false) (hfirst : Stretch flags text count items)
    {second : List Char} {n : Nat} {branches : Nat → List (List Expr)}
    (hsecond : Choice flags second n branches) :
    Choice flags (text ++ '|' :: second) (count + n) fun opened =>
      items opened :: branches (opened + count) := by
  obtain ⟨terms, hterms, hitems⟩ := hfirst
  simpa [hitems] using hterms.orElse hverbose hsecond

/-- A stretch fills a group. -/
theorem content (hverbose : flags.verbose = false) (h : Stretch flags text count items) :
    Content flags text count items :=
  h.choice.content hverbose

end Stretch

/-- An atom with a modifier behind it is a stretch. -/
theorem Atom.markedStretch (hverbose : flags.verbose = false) {text : List Char} {count : Nat}
    {term : Nat → Term} (h : Atom flags text count term)
    (hterm : ∀ opened, (term opened).repeatable = true) {modifier : String}
    (hmodifier : IsModifier modifier) :
    Stretch flags (text ++ modifier.toList) count fun opened =>
      markItems modifier (term opened).items :=
  ⟨_, h.marked hverbose hterm hmodifier, fun opened => by simp [Term.items_marked]⟩

/-! ## Whole expressions -/

/-- A reader that has read a stretch from the start stands at the end of a whole expression. -/
theorem finish_of_extends {later : ExprReader} {terms : List Term} {count : Nat}
    (h : (start flags).Extends later terms count) :
    later.finish = .ok later.rested ∧ later.rested.frame.items = terms.flatMap Term.items := by
  have hbeside := h.beside
  constructor
  · rw [finish_eq_ok]
    refine ⟨settle_rested_end h.rested, rfl, hbeside.outer, ?_, ?_⟩
    · simp [rested, hbeside.wide, start]
    · simp [rested, hbeside.conditions, start]
  · simp [rested, h.frame, start, Frame.items, Frame.allBranches, Frame.branch,
      Alternation.ofBranches]

/-- A stretch is a whole expression if what it asks for can be met, and only then. -/
theorem Stretch.read_eq_ok {source : String} {count : Nat} {items : Nat → List Expr}
    (h : Stretch flags source.toList count items) {expression : Expression} :
    Expression.read source flags = .ok expression ↔
      (∀ e ∈ items 0, e.Granted flags.template) ∧
        expression = ⟨source, flags, .ofList (items 0), count⟩ := by
  obtain ⟨terms, hterms, hitems⟩ := h
  obtain ⟨later, hrun, hlater⟩ := hterms.reads (start flags) (.inl rfl) rfl
  obtain ⟨hfinish, hbody⟩ := finish_of_extends hlater
  have hexpr : later.rested.frame.body = .ofList (items 0) := by
    rw [Frame.body, hbody, ← hitems 0]
    rfl
  have hflags : later.rested.flags = flags := hlater.beside.flags
  have hopened : later.rested.opened = count := by
    rw [show later.rested.opened = later.opened from rfl, hlater.beside.opened]
    exact Nat.zero_add count
  rw [Expression.read_eq_ok, ← granted_ofList]
  constructor
  · rintro ⟨reading, done, hreading, hdone, hdemand, hnear, rfl⟩
    cases hrun.symm.trans hreading
    cases hfinish.symm.trans hdone
    rw [hexpr, hflags] at hdemand
    rw [hexpr] at hnear
    exact ⟨⟨hdemand, hnear⟩, by rw [hexpr, hflags, hopened]⟩
  · rintro ⟨hall, rfl⟩
    refine ⟨later, later.rested, hrun, hfinish, ?_, ?_, ?_⟩
    · rw [hexpr, hflags]
      exact hall.demand
    · rw [hexpr]
      exact hall.near
    · rw [hexpr, hflags, hopened]

/-- A stretch is a whole expression if what it asks for can be met. -/
theorem Stretch.read {source : String} {count : Nat} {items : Nat → List Expr}
    (h : Stretch flags source.toList count items)
    (hgranted : ∀ e ∈ items 0, e.Granted flags.template) :
    Expression.read source flags = .ok ⟨source, flags, .ofList (items 0), count⟩ :=
  h.read_eq_ok.mpr ⟨hgranted, rfl⟩

/-- A nestable expression may stand inside of groups if what it asks for can be met, and only
then. -/
theorem Nestable.embeddable_iff {source : String} (h : Nestable flags source) :
    Embeddable flags source ↔ ∀ e ∈ readItems flags source, e.Granted flags.template := by
  obtain ⟨reading, done, hrun, hfinish, hungrouped, _, hdone, hitems⟩ := h.exists_done
  have hbody : done.frame.body = .ofList (readItems flags source) := by
    rw [Frame.body, hitems]
  rw [← granted_ofList]
  constructor
  · intro hembeddable
    obtain ⟨reading', done', hrun', hfinish', hdemand, hnear, _⟩ :=
      Expression.read_eq_ok.mp hembeddable.read_eq
    cases hrun.symm.trans hrun'
    cases hfinish.symm.trans hfinish'
    rw [hbody, hdone.global] at hdemand
    rw [hbody] at hnear
    exact ⟨hdemand, hnear⟩
  · intro hall
    refine ⟨⟨_, Expression.read_eq_ok.mpr ⟨reading, done, hrun, hfinish, ?_, ?_, rfl⟩,
      hungrouped.opened⟩, h.free⟩
    · rw [hbody, hdone.global]
      exact hall.demand
    · rw [hbody]
      exact hall.near

/-- What an expression that can be read asks for can be met. -/
theorem Embeddable.granted {source : String} (h : Embeddable flags source) :
    ∀ e ∈ readItems flags source, e.Granted flags.template :=
  h.nestable.embeddable_iff.mp h

end RoutePattern
