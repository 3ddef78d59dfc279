import RoutePattern.Proofs.Expr.Regular

/-!
# Expressions that read the same text everywhere

`Expr.Spells` says that an expression reads a text wherever that stands. Expressions in a row, groups
and repetitions spell what is put together from the texts of their parts. A local expression, one
without conditions on the text around it, spells every text that it ever leads over
(`spells_of_passes`). Plain expressions are local ones without groups.
-/

namespace RoutePattern

namespace Expr

/-- Whether an expression is put together from tests on characters by sequence, choice and
repetition alone. -/
def isPlain : Expr → Bool
  | empty | never => true
  | char test => test.isBroad
  | seq first second | either first second => first.isPlain && second.isPlain
  | loop greed _ _ body => greed != .possessive && body.isPlain
  | _ => false

/-- An expression that looks at nothing but the characters it reads, and has no final choices. -/
def Local : Expr → Prop
  | empty | never | char _ => True
  | seq first second | either first second => first.Local ∧ second.Local
  | group _ body => body.Local
  | loop greed _ _ body => greed ≠ .possessive ∧ body.Local
  | anchor _ | atomic _ | ahead _ _ | behind _ _ _ | backref _ _ _ | ifGroup _ _ _ => False

/-- Whether an expression is local is seen from its parts. -/
instance decidableLocal : DecidablePred Local
  | empty | never | char _ => isTrue trivial
  | seq first second | either first second =>
      @instDecidableAnd _ _ (decidableLocal first) (decidableLocal second)
  | group _ body => decidableLocal body
  | loop _ _ _ body => @instDecidableAnd _ _ inferInstance (decidableLocal body)
  | anchor _ | atomic _ | ahead _ _ | behind _ _ _ | backref _ _ _ | ifGroup _ _ _ => isFalse id

/-- A row is local if its expressions are. -/
theorem local_ofList {items : List Expr} : (ofList items).Local ↔ ∀ e ∈ items, e.Local :=
  forall_ofList trivial fun _ _ => Iff.rfl

variable {e : Expr} {p q : Place} {M N : Marks} {text : List Char}

/-- Local expressions are direct. -/
theorem Local.direct (h : e.Local) : e.Direct := by
  induction e with
  | empty | never | char => trivial
  | seq first second ihfirst ihsecond | either first second ihfirst ihsecond =>
      exact ⟨ihfirst h.1, ihsecond h.2⟩
  | group number body ih => exact ih h
  | loop greed least most body ih => exact ⟨h.1, ih h.2⟩
  | anchor | atomic | ahead | behind | backref | ifGroup => exact h.elim

/-- Plain expressions are local. -/
theorem local_of_isPlain (h : e.isPlain = true) : e.Local := by
  induction e with
  | empty | never | char => trivial
  | seq first second ihfirst ihsecond | either first second ihfirst ihsecond =>
      rw [isPlain, Bool.and_eq_true] at h
      exact ⟨ihfirst h.1, ihsecond h.2⟩
  | loop greed least most body ih =>
      rw [isPlain, Bool.and_eq_true, bne_iff_ne] at h
      exact ⟨h.1, ih h.2⟩
  | anchor | group | atomic | ahead | behind | backref | ifGroup => simp [isPlain] at h

/-- Plain expressions are regular. -/
theorem regular_of_isPlain (h : e.isPlain = true) : e.Regular := by
  induction e with
  | empty | never => trivial
  | char test => exact h
  | seq first second ihfirst ihsecond | either first second ihfirst ihsecond =>
      rw [isPlain, Bool.and_eq_true] at h
      exact ⟨ihfirst h.1, ihsecond h.2⟩
  | loop greed least most body ih =>
      rw [isPlain, Bool.and_eq_true, bne_iff_ne] at h
      exact ⟨h.1, ih h.2⟩
  | anchor | group | atomic | ahead | behind | backref | ifGroup => simp [isPlain] at h

/-- Plain expressions have no groups. -/
theorem captures_of_isPlain (h : e.isPlain = true) : e.captures = [] := by
  induction e with
  | empty | never | char => rfl
  | seq first second ihfirst ihsecond | either first second ihfirst ihsecond =>
      rw [isPlain, Bool.and_eq_true] at h
      rw [captures, ihfirst h.1, ihsecond h.2, List.append_nil]
  | loop greed least most body ih =>
      rw [isPlain, Bool.and_eq_true] at h
      exact ih h.2
  | anchor | group | atomic | ahead | behind | backref | ifGroup => simp [isPlain] at h

/-- An expression can read a text wherever it stands. -/
def Spells (e : Expr) (text : List Char) : Prop :=
  ∀ p q, p.Reaches q text → ∀ M, ∃ N, e.Passes p M q N

/-- Between the places around a text, an expression that spells it leads from one to the other. -/
theorem Spells.leads (h : e.Spells text) (hreaches : p.Reaches q text) : e.Leads p q := by
  obtain ⟨N, hpasses⟩ := h p q hreaches []
  exact hpasses.leads

/-! ## Putting texts together -/

/-- No expressions spell no text. -/
theorem spells_nil : (ofList []).Spells [] := by
  intro p q hreaches M
  exact ⟨M, (Place.reaches_nil_iff.mp hreaches).symm, rfl⟩

/-- A test spells each character that it accepts. -/
theorem spells_char {test : CharTest} {c : Char} (h : test.accepts c = true) :
    (char test).Spells [c] := by
  intro p q hreaches M
  exact ⟨M, Place.step_eq_some_iff.mpr ⟨c, h, hreaches⟩, rfl⟩

/-- Rows of expressions spell their texts one after the other. -/
theorem spells_append {first second : List Expr} {text' : List Char}
    (hfirst : (ofList first).Spells text) (hsecond : (ofList second).Spells text') :
    (ofList (first ++ second)).Spells (text ++ text') := by
  intro p q hreaches M
  obtain ⟨r, hreaches, hreaches'⟩ := hreaches.split
  obtain ⟨L, hpasses⟩ := hfirst p r hreaches M
  obtain ⟨N, hpasses'⟩ := hsecond r q hreaches' L
  exact ⟨N, passes_ofList_append.mpr ⟨r, L, hpasses, hpasses'⟩⟩

/-- Two expressions spell their texts one after the other. -/
theorem Spells.seq {first second : Expr} {text' : List Char} (hfirst : first.Spells text)
    (hsecond : second.Spells text') : (Expr.seq first second).Spells (text ++ text') := by
  intro p q hreaches M
  obtain ⟨r, hreaches, hreaches'⟩ := hreaches.split
  obtain ⟨L, hpasses⟩ := hfirst p r hreaches M
  obtain ⟨N, hpasses'⟩ := hsecond r q hreaches' L
  exact ⟨N, r, L, hpasses, hpasses'⟩

/-- A choice spells what its first side does. -/
theorem Spells.inl {first : Expr} (h : first.Spells text) (second : Expr) :
    (either first second).Spells text := fun p q hreaches M =>
  (h p q hreaches M).imp fun _ => .inl

/-- A choice spells what its second side does. -/
theorem Spells.inr {second : Expr} (h : second.Spells text) (first : Expr) :
    (either first second).Spells text := fun p q hreaches M =>
  (h p q hreaches M).imp fun _ => .inr

/-- A group spells what its body does. -/
theorem Spells.group (h : e.Spells text) (number : Nat) : (Expr.group number e).Spells text := by
  intro p q hreaches M
  obtain ⟨L, hpasses⟩ := h p q hreaches (putMark M (2 * (number - 1)) p)
  exact ⟨_, L, hpasses, rfl⟩

/-- Iterations spell texts one after the other. -/
theorem iterates_of_spells {pieces : List (List Char)} (h : ∀ piece ∈ pieces, e.Spells piece)
    (hreaches : p.Reaches q pieces.flatten) (M : Marks) :
    ∃ N, Iterates (Paired e.Passes) pieces.length (p, M) (q, N) := by
  induction pieces generalizing p M with
  | nil =>
      obtain rfl := Place.reaches_nil_iff.mp hreaches
      exact ⟨M, rfl⟩
  | cons piece rest ih =>
      obtain ⟨hpiece, hrest⟩ := List.forall_mem_cons.mp h
      rw [List.flatten_cons] at hreaches
      obtain ⟨r, hfirst, hsecond⟩ := hreaches.split
      obtain ⟨L, hpasses⟩ := hpiece p r hfirst M
      obtain ⟨N, hiterates⟩ := ih hrest hsecond L
      exact ⟨N, (r, L), hpasses, hiterates⟩

/-- A repetition spells as many texts in a row as its bounds allow. -/
theorem spells_loop {greed : Greed} {least : Nat} {most : Option Nat} {pieces : List (List Char)}
    (hgreed : greed ≠ .possessive) (hcounts : Counts greed e least most pieces.length)
    (h : ∀ piece ∈ pieces, e.Spells piece) : (loop greed least most e).Spells pieces.flatten := by
  intro p q hreaches M
  obtain ⟨N, hiterates⟩ := iterates_of_spells h hreaches M
  exact ⟨N, (passes_loop hgreed).mpr ⟨pieces.length, hcounts, hiterates⟩⟩

/-! ## Local expressions -/

/-- A local expression spells what it leads over. -/
theorem spells_of_passes (h : e.Local) (hpasses : e.Passes p M q N) :
    ∃ text, p.Reaches q text ∧ e.Spells text := by
  induction e generalizing p M q N with
  | empty =>
      obtain ⟨rfl, _⟩ := hpasses
      exact ⟨[], Place.reaches_nil_iff.mpr rfl, spells_nil⟩
  | never => exact hpasses.elim
  | char test =>
      obtain ⟨c, haccepts, hreaches⟩ := Place.step_eq_some_iff.mp hpasses.1
      exact ⟨[c], hreaches, spells_char haccepts⟩
  | seq first second ihfirst ihsecond =>
      obtain ⟨r, L, hfirst, hsecond⟩ := hpasses
      obtain ⟨text, hreaches, hspells⟩ := ihfirst h.1 hfirst
      obtain ⟨text', hreaches', hspells'⟩ := ihsecond h.2 hsecond
      exact ⟨text ++ text', hreaches.trans hreaches', hspells.seq hspells'⟩
  | either first second ihfirst ihsecond =>
      rcases hpasses with hfirst | hsecond
      · obtain ⟨text, hreaches, hspells⟩ := ihfirst h.1 hfirst
        exact ⟨text, hreaches, hspells.inl second⟩
      · obtain ⟨text, hreaches, hspells⟩ := ihsecond h.2 hsecond
        exact ⟨text, hreaches, hspells.inr first⟩
  | group number body ih =>
      obtain ⟨L, hbody, _⟩ := hpasses
      obtain ⟨text, hreaches, hspells⟩ := ih h hbody
      exact ⟨text, hreaches, hspells.group number⟩
  | loop greed least most body ih =>
      obtain ⟨n, hcounts, hiterates⟩ := (passes_loop h.1).mp hpasses
      -- Each iteration spells a piece of the text.
      obtain ⟨pieces, rfl, hreaches, hspells⟩ := exists_pieces (fun _ _ => ih h.2) hiterates
      exact ⟨pieces.flatten, hreaches, spells_loop h.1 hcounts hspells⟩
  | anchor | atomic | ahead | behind | backref | ifGroup => exact h.elim

end Expr

end RoutePattern
