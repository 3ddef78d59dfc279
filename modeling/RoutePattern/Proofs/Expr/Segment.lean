import RoutePattern.Escape
import RoutePattern.Proofs.Expr.Running

/-!
# Stretches of expression text

The text of a pattern's expression is put together from stretches that read the same wherever they
stand between two terms. `Segment` is such a stretch with the terms that it adds, `Atom` one that
adds a single term which a mark may repeat, and `Content` what fills a group up to its closing
parenthesis. The lemmas say how segments follow each other, how contents become groups, and how
marks are put behind atoms.
-/

namespace RoutePattern

/-- A term as a single expression. -/
def Term.body : Term → Expr
  | item e => e
  | bare items => .ofList items

/-- Whether a term may be repeated: it is neither a condition on the place nor a repetition. -/
def Term.repeatable : Term → Bool
  | item (.anchor _) | item (.loop _ _ _ _) => false
  | _ => true

/-- The kinds of group that patterns are put together with. -/
def GroupKind.isSimple : GroupKind → Bool
  | bare | capture _ | ahead _ => true
  | _ => false

/-- The term that a group of a simple kind stands for. -/
def GroupKind.term (items : List Expr) : GroupKind → Term
  | capture number => .item (.group number (.ofList items))
  | ahead positive => .item (.ahead positive (.ofList items))
  | _ => .bare items

/-- A finished group of a simple kind stands for the term of its kind. -/
theorem Frame.term_of_simple {frame : Frame} (h : frame.kind.isSimple = true) :
    frame.term = frame.kind.term frame.items := by
  obtain ⟨kind, branches, terms, flags⟩ := frame
  cases kind <;> first | rfl | simp [GroupKind.isSimple] at h

/-- What a mark behind a term makes of it: an optional term, a repeated one, or both. -/
def Term.marked (modifier : String) (term : Term) : Term :=
  if modifier = "?" then .item (.loop .greedy 0 (some 1) term.body)
  else if modifier = "*" then .item (.loop .greedy 0 none term.body)
  else if modifier = "+" then .item (.loop .greedy 1 none term.body)
  else term

/-- The modifiers that a key may carry. -/
def IsModifier (modifier : String) : Prop :=
  modifier = "" ∨ modifier = "?" ∨ modifier = "*" ∨ modifier = "+"

instance (modifier : String) : Decidable (IsModifier modifier) :=
  inferInstanceAs (Decidable (_ ∨ _))

namespace ExprReader

/-- Two readers in the same surroundings, the later one after `count` more capture groups. -/
structure Beside (reader later : ExprReader) (count : Nat) : Prop where
  outer : later.outer = reader.outer
  opened : later.opened = reader.opened + count
  conditions : later.conditions = reader.conditions
  flags : later.flags = reader.flags
  wide : later.wide = reader.wide

/-- A reader is in its own surroundings. -/
theorem Beside.refl (reader : ExprReader) : reader.Beside reader 0 :=
  ⟨rfl, rfl, rfl, rfl, rfl⟩

/-- Surroundings that stay the same twice stay the same. -/
theorem Beside.trans {reader middle later : ExprReader} {first second : Nat}
    (hfirst : reader.Beside middle first) (hsecond : middle.Beside later second) :
    reader.Beside later (first + second) where
  outer := hsecond.outer.trans hfirst.outer
  opened := by rw [hsecond.opened, hfirst.opened, Nat.add_assoc]
  conditions := hsecond.conditions.trans hfirst.conditions
  flags := hsecond.flags.trans hfirst.flags
  wide := hsecond.wide.trans hfirst.wide

/-- The later reader is at rest, with more terms in the same group. -/
structure Extends (reader later : ExprReader) (terms : List Term) (count : Nat) : Prop where
  rested : later.Rested
  frame : later.frame = { reader.frame with terms := terms.reverse ++ reader.frame.terms }
  beside : reader.Beside later count

/-- A reader at rest extends itself by nothing. -/
theorem Extends.refl {reader : ExprReader} (h : reader.Rested) : reader.Extends reader [] 0 :=
  ⟨h, rfl, .refl reader⟩

/-- Extensions in a row add their terms in a row. -/
theorem Extends.trans {reader middle later : ExprReader} {first second : List Term} {m n : Nat}
    (hfirst : reader.Extends middle first m) (hsecond : middle.Extends later second n) :
    reader.Extends later (first ++ second) (m + n) where
  rested := hsecond.rested
  frame := by rw [hsecond.frame, hfirst.frame]; simp
  beside := hfirst.beside.trans hsecond.beside

/-- Extending a group keeps its flags. -/
theorem Extends.frame_flags {reader later : ExprReader} {terms : List Term} {n : Nat}
    (h : reader.Extends later terms n) : later.frame.flags = reader.frame.flags := by
  rw [h.frame]

/-- Pushing a term extends a reader by it. -/
theorem extends_push (reader : ExprReader) (term : Term) :
    reader.rested.Extends (reader.rested.push term) [term] 0 :=
  ⟨.inl rfl, rfl, ⟨rfl, rfl, rfl, rfl, rfl⟩⟩

/-- What extends a reader without its pending mark extends the reader. -/
theorem Extends.of_rested {reader later : ExprReader} {terms : List Term} {n : Nat}
    (h : reader.rested.Extends later terms n) : reader.Extends later terms n :=
  ⟨h.rested, h.frame, ⟨h.beside.outer, h.beside.opened, h.beside.conditions, h.beside.flags,
    h.beside.wide⟩⟩

end ExprReader

open ExprReader

/-- A stretch of expression text that adds terms to the group it stands in. The terms depend on the
number of capture groups in front. -/
structure Segment (flags : Flags) (text : List Char) (count : Nat) (terms : Nat → List Term) :
    Prop where
  whole : Piece.Whole text
  reads : ∀ reader : ExprReader, reader.Rested → reader.frame.flags = flags →
    ∃ later, reader.run (Piece.ofText text) = .ok later ∧
      reader.Extends later (terms reader.opened) count

/-- A stretch of expression text that adds one term, after which nothing is pending. -/
structure Atom (flags : Flags) (text : List Char) (count : Nat) (term : Nat → Term) : Prop where
  whole : Piece.Whole text
  reads : ∀ reader : ExprReader, reader.Rested → reader.frame.flags = flags →
    ∃ later, reader.run (Piece.ofText text) = .ok later ∧ later.pending = .nothing ∧
      reader.Extends later [term reader.opened] count

/-- Text that fills a group, up to the parenthesis that closes it. -/
structure Content (flags : Flags) (text : List Char) (count : Nat) (items : Nat → List Expr) :
    Prop where
  whole : Piece.Whole text
  reads : ∀ (reader : ExprReader) (parent : Frame) (rest : List Frame) (kind : GroupKind),
    reader.pending = .nothing → reader.frame = { kind, flags } → kind.isSimple = true →
    reader.outer = parent :: rest →
    ∃ later, reader.run (Piece.ofText text ++ [.plain ')']) = .ok later ∧
      later.pending = .nothing ∧
      { reader with frame := parent, outer := rest }.Extends later
        [kind.term (items reader.opened)] count

/-- Alternatives that fill a group, with the expressions of each. -/
structure Choice (flags : Flags) (text : List Char) (count : Nat)
    (branches : Nat → List (List Expr)) : Prop where
  whole : Piece.Whole text
  reads : ∀ reader : ExprReader, reader.Rested → reader.frame.flags = flags →
    reader.frame.terms = [] → reader.frame.kind.isSimple = true →
    ∃ later, reader.run (Piece.ofText text) = .ok later ∧ later.Rested ∧
      later.frame.kind = reader.frame.kind ∧ later.frame.flags = flags ∧
      later.frame.allBranches = reader.frame.branches.reverse ++ branches reader.opened ∧
      reader.Beside later count

variable {flags : Flags}

namespace Segment

/-- The empty stretch adds nothing. -/
theorem nil : Segment flags [] 0 fun _ => [] where
  whole := .nil
  reads reader hrested _ := ⟨reader, by rw [Piece.ofText, run_nil], .refl hrested⟩

/-- Two stretches in a row add their terms in a row. -/
theorem append {first second : List Char} {m n : Nat} {terms others : Nat → List Term}
    (hfirst : Segment flags first m terms) (hsecond : Segment flags second n others) :
    Segment flags (first ++ second) (m + n) fun opened => terms opened ++ others (opened + m) where
  whole := hfirst.whole.append hsecond.whole
  reads reader hrested hflags := by
    obtain ⟨middle, hrun, hmiddle⟩ := hfirst.reads reader hrested hflags
    obtain ⟨later, hrun', hlater⟩ :=
      hsecond.reads middle hmiddle.rested (hmiddle.frame_flags.trans hflags)
    refine ⟨later, ?_, ?_⟩
    · rw [Piece.ofText_append hfirst.whole, run_append]
      exact ⟨middle, hrun, hrun'⟩
    · rw [hmiddle.beside.opened] at hlater
      exact hmiddle.trans hlater

end Segment

/-- An atom is a segment of one term. -/
theorem Atom.segment {text : List Char} {count : Nat} {term : Nat → Term}
    (h : Atom flags text count term) : Segment flags text count fun opened => [term opened] where
  whole := h.whole
  reads reader hrested hflags := by
    obtain ⟨later, hrun, _, hlater⟩ := h.reads reader hrested hflags
    exact ⟨later, hrun, hlater⟩

/-- A single piece that pushes a term is an atom. -/
theorem Atom.of_piece {text : List Char} {piece : Piece} {term : Term}
    (hwhole : Piece.Whole text) (hpieces : Piece.ofText text = [piece])
    (hmark : isOrderMark piece = false)
    (haccept : ∀ reader : ExprReader, reader.pending = .nothing → reader.frame.flags = flags →
      reader.accept piece = .ok (reader.push term)) :
    Atom flags text 0 fun _ => term where
  whole := hwhole
  reads reader hrested hflags := by
    have hlone : piece ≠ .lone := by
      intro h
      rw [Piece.Whole, hpieces, h] at hwhole
      simp at hwhole
    refine ⟨reader.rested.push term, ?_, rfl, (extends_push reader term).of_rested⟩
    rw [hpieces, run_cons]
    refine ⟨hlone, reader.rested.push term, ?_, run_nil _⟩
    rw [step_rested hrested hmark]
    exact haccept reader.rested rfl hflags

/-! ## Literal text -/

/-- The expressions of literal text. -/
def literalItems (fold : Fold) (text : List Char) : List Expr :=
  text.map fun c => .char (.literal c.toNat false fold)

/-- The special characters, one by one. -/
theorem specialChars_eq : specialChars =
    ['.', '+', '*', '?', '=', '^', '!', ':', '$', '\x7b', '\x7d', '(', ')', '[', ']', '|', '/',
      '\\'] := by
  decide

/-- A special character behind a backslash stands for itself. -/
theorem begin_special {c : Char} (h : c ∈ specialChars) : Escape.begin c = .code c.toNat := by
  rw [specialChars_eq] at h
  simp only [List.mem_cons, List.not_mem_nil, or_false] at h
  rcases h with rfl | rfl | rfl | rfl | rfl | rfl | rfl | rfl | rfl | rfl | rfl | rfl | rfl | rfl |
    rfl | rfl | rfl | rfl <;> rfl

/-- A character that is not special stands for itself. -/
theorem acceptPlain_literal {reader : ExprReader} {c : Char} (hc : c ∉ specialChars)
    (hverbose : reader.frame.flags.verbose = false) :
    reader.acceptPlain c = .ok (reader.pushCode c.toNat) := by
  rw [specialChars_eq] at hc
  simp only [List.mem_cons, List.not_mem_nil, or_false, not_or] at hc
  unfold acceptPlain
  simp only [hverbose, Bool.false_and, Bool.false_eq_true, ↓reduceIte]
  split <;> first | rfl | simp_all

/-- A literal character is a piece that pushes its test. -/
theorem exists_literal_piece (hverbose : flags.verbose = false) (c : Char) :
    ∃ piece, Piece.Whole (escapeChars [c]) ∧ Piece.ofText (escapeChars [c]) = [piece] ∧
      isOrderMark piece = false ∧
      ∀ reader : ExprReader, reader.pending = .nothing → reader.frame.flags = flags →
        reader.accept piece =
          .ok (reader.push (.item (.char (.literal c.toNat false flags.fold)))) := by
  by_cases hc : c ∈ specialChars
  · have htext : escapeChars [c] = ['\\', c] := by simp [escapeChars, hc]
    rw [htext]
    refine ⟨.escaped c, .escaped c .nil, by rw [Piece.ofText_escaped, Piece.ofText], rfl, ?_⟩
    intro reader hpending hflags
    simp only [accept_escaped hpending, begin_special hc, takeEscape, pushCode, pushTest, hflags]
  · have htext : escapeChars [c] = [c] := by simp [escapeChars, hc]
    have hslash : c ≠ '\\' := by
      rintro rfl
      exact hc (by rw [specialChars_eq]; simp)
    have hmark : isOrderMark (.plain c) = false := by
      rw [specialChars_eq] at hc
      simp only [List.mem_cons, not_or] at hc
      simp [isOrderMark, hc]
    rw [htext]
    refine ⟨.plain c, .plain hslash .nil, by rw [Piece.ofText_plain hslash, Piece.ofText], hmark, ?_⟩
    intro reader hpending hflags
    have hquiet : reader.frame.flags.verbose = false := by rw [hflags, hverbose]
    simp only [accept_plain hpending, acceptPlain_literal hc hquiet, pushCode, pushTest, hflags]

/-- One literal character is an atom. -/
theorem Atom.literal (hverbose : flags.verbose = false) (c : Char) :
    Atom flags (escapeChars [c]) 0 fun _ => .item (.char (.literal c.toNat false flags.fold)) := by
  obtain ⟨piece, hwhole, hpieces, hmark, haccept⟩ := exists_literal_piece hverbose c
  exact .of_piece hwhole hpieces hmark haccept

/-- Escaped text adds a test for each of its characters. -/
theorem Segment.literal (hverbose : flags.verbose = false) (text : List Char) :
    Segment flags (escapeChars text) 0 fun _ => (literalItems flags.fold text).map .item := by
  induction text with
  | nil => exact .nil
  | cons c rest ih =>
      have h := (Atom.literal hverbose c).segment.append ih
      simpa [escapeChars, literalItems] using h

/-- The start of the text is an atom. -/
theorem Atom.textStart (hverbose : flags.verbose = false) (hlines : flags.multiLine = false) :
    Atom flags ['^'] 0 fun _ => .item (.anchor .textStart) := by
  refine .of_piece (.plain (by decide) .nil)
    (by rw [Piece.ofText_plain (by decide), Piece.ofText]) rfl ?_
  intro reader hpending hflags
  rw [accept_plain hpending]
  unfold acceptPlain
  simp [hflags, hverbose, hlines]

/-- The end of the text is an atom. -/
theorem Atom.textEnd : Atom flags ['\\', 'Z'] 0 fun _ => .item (.anchor .textEnd) := by
  refine .of_piece (.escaped 'Z' .nil) (by rw [Piece.ofText_escaped, Piece.ofText]) rfl ?_
  intro reader hpending _
  rw [accept_escaped hpending]
  rfl

/-! ## Groups -/

/-- Closing a group adds its term to the group around it. -/
theorem extends_close (reader : ExprReader) (parent : Frame) (rest : List Frame)
    (hkind : reader.frame.kind.isSimple = true) :
    { reader with frame := parent, outer := rest }.Extends (reader.close parent rest)
      [reader.frame.kind.term reader.frame.items] 0 := by
  have hterm := Frame.term_of_simple hkind
  obtain ⟨pending, ⟨kind, branches, terms, flags⟩, outer, names, opened, closed, bound, conditions,
    global, wide⟩ := reader
  cases kind with
  | bare | capture | ahead =>
      refine ⟨.inl rfl, ?_, ⟨rfl, rfl, rfl, rfl, rfl⟩⟩
      show { parent with terms := _ :: parent.terms } = { parent with terms := _ :: parent.terms }
      rw [hterm]
  | _ => simp [GroupKind.isSimple] at hkind

/-- Nothing is pending after a group. -/
theorem close_pending (reader : ExprReader) (parent : Frame) (rest : List Frame) :
    (reader.close parent rest).pending = .nothing := by
  unfold close push
  dsimp only
  split <;> rfl

/-- A closing parenthesis closes the group that is open. -/
theorem acceptPlain_close {reader : ExprReader} {parent : Frame} {rest : List Frame}
    (hverbose : reader.frame.flags.verbose = false) (houter : reader.outer = parent :: rest) :
    reader.acceptPlain ')' = .ok (reader.close parent rest) := by
  unfold acceptPlain
  simp [hverbose, houter]

/-- A bar begins the next alternative. -/
theorem acceptPlain_bar {reader : ExprReader} (hverbose : reader.frame.flags.verbose = false) :
    reader.acceptPlain '|' = reader.nextBranch := by
  unfold acceptPlain
  simp [hverbose]

/-- A closing parenthesis closes the group of a reader at rest. -/
theorem step_close {reader : ExprReader} {parent : Frame} {rest : List Frame}
    (hrested : reader.Rested) (hverbose : reader.frame.flags.verbose = false)
    (houter : reader.outer = parent :: rest) :
    reader.step (.plain ')') = .ok (reader.rested.close parent rest) := by
  rw [step_plain hrested rfl]
  exact acceptPlain_close hverbose houter

/-- After its last alternative a group may be closed. -/
theorem Choice.content (hverbose : flags.verbose = false) {text : List Char} {count : Nat}
    {branches : Nat → List (List Expr)} (h : Choice flags text count branches) :
    Content flags text count fun opened => Alternation.ofBranches flags.fold (branches opened) where
  whole := h.whole
  reads reader parent rest kind hpending hframe hkind houter := by
    have hflags : reader.frame.flags = flags := by rw [hframe]
    obtain ⟨later, hrun, hrested, hkind', hflags', hbranches, hbeside⟩ :=
      h.reads reader (.inl hpending) hflags (by rw [hframe]) (by rw [hframe]; exact hkind)
    have hlaterKind : later.frame.kind = kind := by rw [hkind', hframe]
    have houter' : later.outer = parent :: rest := hbeside.outer.trans houter
    have hquiet : later.frame.flags.verbose = false := by rw [hflags', hverbose]
    have hclose := extends_close later.rested parent rest
      (by simp only [rested, hlaterKind]; exact hkind)
    have hitems : later.frame.items =
        Alternation.ofBranches flags.fold (branches reader.opened) := by
      rw [Frame.items, hflags', hbranches, hframe]
      rfl
    refine ⟨later.rested.close parent rest, ?_, ?_, ?_⟩
    · rw [run_append]
      refine ⟨later, hrun, run_cons.mpr ⟨by simp, _, step_close hrested hquiet houter', run_nil _⟩⟩
    · exact close_pending _ _ _
    · refine ⟨hclose.rested, ?_, ?_⟩
      · rw [hclose.frame]
        simp only [rested, hlaterKind, hitems]
      · have hbeside' := hclose.beside
        exact ⟨hbeside'.outer, hbeside'.opened.trans hbeside.opened,
          hbeside'.conditions.trans hbeside.conditions, hbeside'.flags.trans hbeside.flags,
          hbeside'.wide.trans hbeside.wide⟩

/-- A segment is a single alternative. -/
theorem Segment.choice {text : List Char} {count : Nat} {terms : Nat → List Term}
    (h : Segment flags text count terms) :
    Choice flags text count fun opened => [(terms opened).flatMap Term.items] where
  whole := h.whole
  reads reader hrested hflags hterms _ := by
    obtain ⟨later, hrun, hlater⟩ := h.reads reader hrested hflags
    refine ⟨later, hrun, hlater.rested, by rw [hlater.frame], by rw [hlater.frame, hflags], ?_,
      hlater.beside⟩
    simp [Frame.allBranches, Frame.branch, hlater.frame, hterms]

/-- A segment, a bar and further alternatives are alternatives. -/
theorem Segment.orElse (hverbose : flags.verbose = false) {first second : List Char} {m n : Nat}
    {terms : Nat → List Term} {branches : Nat → List (List Expr)}
    (hfirst : Segment flags first m terms) (hsecond : Choice flags second n branches) :
    Choice flags (first ++ '|' :: second) (m + n) fun opened =>
      (terms opened).flatMap Term.items :: branches (opened + m) where
  whole := hfirst.whole.append (.plain (by decide) hsecond.whole)
  reads reader hrested hflags hterms hkind := by
    obtain ⟨middle, hrun, hmiddle⟩ := hfirst.reads reader hrested hflags
    have hquiet : middle.rested.frame.flags.verbose = false := by
      rw [show middle.rested.frame = middle.frame from rfl, hmiddle.frame_flags, hflags, hverbose]
    have hframe : middle.frame.kind = reader.frame.kind := by rw [hmiddle.frame]
    let next : ExprReader := { middle.rested with
      frame.branches := middle.frame.branch :: middle.frame.branches, frame.terms := [] }
    have hstep : middle.step (.plain '|') = .ok next := by
      rw [step_plain hmiddle.rested rfl, acceptPlain_bar hquiet]
      simp only [nextBranch, rested]
      split
      · next hcondition _ =>
          rw [hframe] at hcondition
          simp [hcondition, GroupKind.isSimple] at hkind
      · rfl
    obtain ⟨later, hrun', hrested', hkind', hflags', hbranches, hbeside⟩ :=
      hsecond.reads next (.inl rfl) (hmiddle.frame_flags.trans hflags) rfl (by
        show middle.frame.kind.isSimple = true
        rw [hframe]
        exact hkind)
    refine ⟨later, ?_, hrested', hkind'.trans hframe, hflags', ?_, ?_⟩
    · rw [Piece.ofText_append hfirst.whole, Piece.ofText_plain (by decide), run_append]
      exact ⟨middle, hrun, run_cons.mpr ⟨by simp, next, hstep, hrun'⟩⟩
    · rw [hbranches, show next.opened = middle.opened from rfl, hmiddle.beside.opened]
      simp [next, Frame.branch, hmiddle.frame, hterms]
    · have hnext : middle.Beside next 0 := ⟨rfl, rfl, rfl, rfl, rfl⟩
      simpa using (hmiddle.beside.trans hnext).trans hbeside

/-- The reader after an opening parenthesis. -/
theorem step_open {reader : ExprReader} (hrested : reader.Rested)
    (hverbose : reader.frame.flags.verbose = false) :
    reader.step (.plain '(') = .ok { reader with pending := .opening .paren } := by
  rw [step_plain hrested rfl]
  unfold acceptPlain
  simp [rested, hverbose]

/-- The reader after an opening parenthesis, a question mark and the character that says what a
group of a simple kind is for. -/
theorem run_open_question {reader : ExprReader} (hrested : reader.Rested)
    (hverbose : reader.frame.flags.verbose = false) {c : Char} {kind : GroupKind}
    (hkind : (c, kind) = (':', .bare) ∨ (c, kind) = ('=', .ahead true)) :
    reader.run [.plain '(', .plain '?', .plain c] =
      .ok (reader.openGroup kind reader.frame.flags) := by
  let opening : ExprReader := { reader with pending := .opening .paren }
  let question : ExprReader := { reader with pending := .opening .question }
  have hquestion : opening.step (.plain '?') = .ok question := rfl
  have hlast : question.step (.plain c) = .ok (reader.openGroup kind reader.frame.flags) := by
    rcases hkind with h | h <;>
      · cases h
        rfl
  exact run_cons.mpr ⟨by simp, opening, step_open hrested hverbose, run_cons.mpr
    ⟨by simp, question, hquestion, run_cons.mpr ⟨by simp, _, hlast, run_nil _⟩⟩⟩

/-- After an opening parenthesis, text that does not begin with a question mark is read inside a new
capture group. -/
theorem run_capture {reader last : ExprReader} {pieces : List Piece}
    (hpieces : pieces ≠ []) (hhead : pieces.head? ≠ some (.plain '?')) :
    ExprReader.run { reader with pending := .opening .paren } pieces = .ok last ↔
      ExprReader.run { reader.openGroup (.capture (reader.opened + 1)) reader.frame.flags with
        opened := reader.opened + 1 } pieces = .ok last := by
  cases pieces with
  | nil => exact absurd rfl hpieces
  | cons piece rest =>
      have hpiece : some piece ≠ some (.plain '?') := hhead
      simp only [run_cons, step_eq_ok]
      simp only [settle, if_neg hpiece, openCapture, openGroup]

/-- The empty list of pieces in front of a closing parenthesis does not begin with a question mark
unless the text does. -/
theorem head?_content_ne {text : List Char} (h : text.head? ≠ some '?') :
    (Piece.ofText text ++ [Piece.plain ')']).head? ≠ some (.plain '?') := by
  fun_cases Piece.ofText text with
  | case1 => simp
  | case2 => simp
  | case3 => simp
  | case4 c rest => simpa using h

/-- The pieces of a text between parentheses. -/
theorem ofText_parenthesized {text : List Char} (h : Piece.Whole text) :
    Piece.ofText ('(' :: text ++ [')']) = .plain '(' :: (Piece.ofText text ++ [.plain ')']) := by
  rw [List.cons_append, Piece.ofText_plain (by decide), Piece.ofText_append h,
    Piece.ofText_plain (by decide), Piece.ofText]

/-- The pieces of a text between parentheses that begin with a question mark. -/
theorem ofText_question {c : Char} (hc : c ≠ '\\') {text : List Char} (h : Piece.Whole text) :
    Piece.ofText ('(' :: '?' :: c :: text ++ [')']) =
      [.plain '(', .plain '?', .plain c] ++ (Piece.ofText text ++ [.plain ')']) := by
  simp only [List.cons_append]
  rw [Piece.ofText_plain (by decide), Piece.ofText_plain (by decide), Piece.ofText_plain hc,
    Piece.ofText_append h, Piece.ofText_plain (by decide), Piece.ofText]
  rfl

namespace Content

variable {text : List Char} {count : Nat} {items : Nat → List Expr}

/-- Content between parentheses that begin with a question mark is an atom. -/
theorem question (hverbose : flags.verbose = false) (h : Content flags text count items) {c : Char}
    {kind : GroupKind} (hkind : (c, kind) = (':', .bare) ∨ (c, kind) = ('=', .ahead true)) :
    Atom flags ('(' :: '?' :: c :: text ++ [')']) count fun opened => kind.term (items opened) where
  whole := by
    have hc : c ≠ '\\' := by rcases hkind with h | h <;> cases h <;> decide
    exact .plain (by decide) (.plain (by decide) (.plain hc
      (h.whole.append (.plain (by decide) .nil))))
  reads reader hrested hflags := by
    have hc : c ≠ '\\' := by rcases hkind with h | h <;> cases h <;> decide
    have hsimple : kind.isSimple = true := by rcases hkind with h | h <;> cases h <;> rfl
    have hopen := run_open_question hrested (by rw [hflags, hverbose]) hkind
    obtain ⟨later, hrun, hpending, hlater⟩ :=
      h.reads (reader.openGroup kind reader.frame.flags) reader.frame reader.outer kind rfl
        (by rw [hflags]; rfl) hsimple rfl
    refine ⟨later, ?_, hpending, .of_rested hlater⟩
    rw [ofText_question hc h.whole, run_append]
    exact ⟨_, hopen, hrun⟩

/-- Content of a group that captures nothing is an atom. -/
theorem bare (hverbose : flags.verbose = false) (h : Content flags text count items) :
    Atom flags ("(?:".toList ++ text ++ [')']) count fun opened => .bare (items opened) :=
  h.question hverbose (.inl rfl)

/-- Content of a look-ahead is an atom. -/
theorem ahead (hverbose : flags.verbose = false) (h : Content flags text count items) :
    Atom flags ("(?=".toList ++ text ++ [')']) count fun opened =>
      .item (.ahead true (.ofList (items opened))) :=
  h.question hverbose (.inr rfl)

/-- Content of a capture group is an atom with one more group. -/
theorem capture (hverbose : flags.verbose = false) (h : Content flags text count items)
    (hhead : text.head? ≠ some '?') :
    Atom flags ('(' :: text ++ [')']) (1 + count) fun opened =>
      .item (.group (opened + 1) (.ofList (items (opened + 1)))) where
  whole := .plain (by decide) (h.whole.append (.plain (by decide) .nil))
  reads reader hrested hflags := by
    let inside : ExprReader := { reader.openGroup (.capture (reader.opened + 1)) reader.frame.flags
      with opened := reader.opened + 1 }
    obtain ⟨later, hrun, hpending, hlater⟩ :=
      h.reads inside reader.frame reader.outer (.capture (reader.opened + 1)) rfl
        (by rw [← hflags]; rfl) rfl rfl
    have hbeside := hlater.beside
    refine ⟨later, ?_, hpending, hlater.rested, hlater.frame, hbeside.outer, ?_,
      hbeside.conditions, hbeside.flags, hbeside.wide⟩
    · rw [ofText_parenthesized h.whole]
      refine run_cons.mpr ⟨by simp, _, step_open hrested (by rw [hflags, hverbose]), ?_⟩
      exact (run_capture (by simp) (head?_content_ne hhead)).mpr hrun
    · rw [hbeside.opened, show inside.opened = reader.opened + 1 from rfl, Nat.add_assoc]

end Content

/-! ## Marks -/

/-- Repeating the last term of a reader, if the term may be repeated. -/
theorem repeatLast_eq {reader : ExprReader} {term : Term} {earlier : List Term}
    (hterms : reader.frame.terms = term :: earlier) (hterm : term.repeatable = true) (least : Nat)
    (most : Option Nat) :
    reader.repeatLast least most = .ok { reader with
      pending := .repetition
      frame.terms := .item (.loop .greedy least most term.body) :: earlier } := by
  unfold repeatLast
  rw [hterms]
  cases term with
  | bare items => rfl
  | item e => cases e <;> first | rfl | simp [Term.repeatable] at hterm

/-- A mark for a repetition repeats the last term of a reader with nothing pending. -/
theorem step_repetition {reader : ExprReader} (hpending : reader.pending = .nothing)
    (hverbose : reader.frame.flags.verbose = false) {mark : Char} {least : Nat} {most : Option Nat}
    (hmark : (mark, least, most) = ('?', 0, some 1) ∨ (mark, least, most) = ('*', 0, none) ∨
      (mark, least, most) = ('+', 1, none)) :
    reader.step (.plain mark) = reader.repeatLast least most := by
  rw [step_plain_of_nothing hpending]
  unfold acceptPlain
  rcases hmark with h | h | h <;>
    · cases h
      simp [hverbose]

/-- An atom with marks behind it, which put another term in its place. -/
theorem Atom.followed (hverbose : flags.verbose = false) {text marks : List Char} {count : Nat}
    {term other : Nat → Term} (h : Atom flags text count term) (hwhole : Piece.Whole marks)
    {pending : Pending} (hpending : pending = .nothing ∨ pending = .repetition)
    (hmarks : ∀ (opened : Nat) (middle : ExprReader) (earlier : List Term),
      middle.pending = .nothing → middle.frame.flags.verbose = false →
      middle.frame.terms = term opened :: earlier →
      middle.run (Piece.ofText marks) =
        .ok { middle with pending, frame.terms := other opened :: earlier }) :
    Segment flags (text ++ marks) count fun opened => [other opened] where
  whole := h.whole.append hwhole
  reads reader hrested hflags := by
    obtain ⟨middle, hrun, hnothing, hmiddle⟩ := h.reads reader hrested hflags
    have hquiet : middle.frame.flags.verbose = false := by
      rw [hmiddle.frame_flags, hflags, hverbose]
    have hterms : middle.frame.terms = term reader.opened :: reader.frame.terms := by
      rw [hmiddle.frame]
      rfl
    let later : ExprReader := { middle with
      pending, frame.terms := other reader.opened :: reader.frame.terms }
    have hlater : middle.Beside later 0 := ⟨rfl, rfl, rfl, rfl, rfl⟩
    refine ⟨later, ?_, hpending, ?_, hmiddle.beside.trans hlater⟩
    · rw [Piece.ofText_append h.whole, run_append]
      exact ⟨middle, hrun, hmarks reader.opened middle _ hnothing hquiet hterms⟩
    · show ({ middle.frame with terms := _ } : Frame) = _
      rw [hmiddle.frame]
      rfl

/-- The pieces of a modifier and the repetition that it stands for. -/
theorem Atom.repeated (hverbose : flags.verbose = false) {text : List Char} {count : Nat}
    {term : Nat → Term} (h : Atom flags text count term)
    (hterm : ∀ opened, (term opened).repeatable = true) {mark : Char} {least : Nat}
    {most : Option Nat}
    (hmark : (mark, least, most) = ('?', 0, some 1) ∨ (mark, least, most) = ('*', 0, none) ∨
      (mark, least, most) = ('+', 1, none)) :
    Segment flags (text ++ [mark]) count fun opened =>
      [.item (.loop .greedy least most (term opened).body)] := by
  have hplain : mark ≠ '\\' := by
    rcases hmark with h | h | h <;> cases h <;> decide
  refine h.followed hverbose (.plain hplain .nil) (.inr rfl) fun opened middle earlier hpending
    hquiet hterms => ?_
  have hstep := (step_repetition hpending hquiet hmark).trans
    (repeatLast_eq hterms (hterm opened) least most)
  rw [Piece.ofText_plain hplain, Piece.ofText]
  exact run_cons.mpr ⟨by simp, _, hstep, run_nil _⟩

/-- An atom that is repeated at least once, as few times as possible. -/
theorem Atom.lazy (hverbose : flags.verbose = false) {text : List Char} {count : Nat}
    {term : Nat → Term} (h : Atom flags text count term)
    (hterm : ∀ opened, (term opened).repeatable = true) :
    Segment flags (text ++ ['+', '?']) count fun opened =>
      [.item (.loop .lazy 1 none (term opened).body)] := by
  refine h.followed hverbose (.plain (by decide) (.plain (by decide) .nil)) (.inl rfl)
    fun opened middle earlier hpending hquiet hterms => ?_
  let repeated : ExprReader := { middle with
    pending := .repetition
    frame.terms := .item (.loop .greedy 1 none (term opened).body) :: earlier }
  let later : ExprReader := { middle with
    pending := .nothing
    frame.terms := .item (.loop .lazy 1 none (term opened).body) :: earlier }
  have hplus : middle.step (.plain '+') = .ok repeated :=
    (step_repetition hpending hquiet (.inr (.inr rfl))).trans
      (repeatLast_eq hterms (hterm opened) 1 none)
  have hquestion : repeated.step (.plain '?') = .ok later := rfl
  rw [Piece.ofText_plain (by decide), Piece.ofText_plain (by decide), Piece.ofText]
  exact run_cons.mpr ⟨by simp, _, hplus, run_cons.mpr ⟨by simp, _, hquestion, run_nil _⟩⟩

/-- An atom with a modifier behind it. -/
theorem Atom.marked (hverbose : flags.verbose = false) {text : List Char} {count : Nat}
    {term : Nat → Term} (h : Atom flags text count term)
    (hterm : ∀ opened, (term opened).repeatable = true) {modifier : String}
    (hmodifier : IsModifier modifier) :
    Segment flags (text ++ modifier.toList) count fun opened =>
      [(term opened).marked modifier] := by
  rcases hmodifier with rfl | rfl | rfl | rfl
  · simpa [Term.marked] using h.segment
  · exact h.repeated hverbose hterm (.inl rfl)
  · exact h.repeated hverbose hterm (.inr (.inl rfl))
  · exact h.repeated hverbose hterm (.inr (.inr rfl))

end RoutePattern
