import RoutePattern.Proofs.Expr.Regular
import RoutePattern.Proofs.Expr.Segment

/-!
# Reading sets of given characters

A set is put together from characters that are given beforehand, each written so that it stands for
itself. Only a dash keeps its meaning, so such a set may hold ranges, and a range may be the wrong
way round. `readSet` is the outcome, and `run_set` says that the reader agrees with it.
-/

namespace RoutePattern

namespace SetReader

/-- The state after one more character of the given ones. -/
def add (reader : SetReader) (c : Char) : Except ExprFault SetReader :=
  let reading := { reader with fresh := false }
  if !reader.dash && reader.low.isSome && c == '-' then .ok { reading with dash := true }
  else (if reader.dash then reading else reading.settleLow).take (.code c.toNat) (escapeChars [c])

/-- At least one character has been read, and no escape is pending. -/
structure Begun (reader : SetReader) : Prop where
  fresh : reader.fresh = false
  escape : reader.escape = none
  member : reader.low.isSome = true ∨ reader.members ≠ []

/-- The members found so far, latest first, if the set ends here. -/
def allMembers (reader : SetReader) : List Member :=
  if reader.dash then .code 45 :: reader.settleLow.members else reader.settleLow.members

/-- Putting the last member with the others keeps everything else. -/
theorem settleLow_eq (reader : SetReader) : reader.settleLow = { reader with
    members := reader.settleLow.members, low := none } := by
  unfold settleLow
  obtain ⟨fresh, negated, members, low, dash, escape⟩ := reader
  cases low <;> rfl

/-- Taking a member keeps the reader begun and without a pending escape. -/
theorem take_ok {reader later : SetReader} {member : Member} {text : List Char}
    (h : reader.take member text = .ok later) :
    later.fresh = reader.fresh ∧ later.negated = reader.negated ∧ later.escape = none ∧
      later.dash = false ∧ (later.low.isSome = true ∨ later.members ≠ []) := by
  unfold take at h
  split at h
  · split at h
    · split at h
      · simp at h
      · cases h
        simp
    · simp at h
  · cases h
    simp

/-- Adding a character begins the set. -/
theorem add_begun {reader later : SetReader} {c : Char} (hescape : reader.escape = none)
    (h : reader.add c = .ok later) : later.Begun ∧ later.negated = reader.negated := by
  unfold add at h
  split at h
  · next hdash =>
      simp only [Bool.and_eq_true] at hdash
      cases h
      exact ⟨⟨rfl, hescape, .inl hdash.1.2⟩, rfl⟩
  · obtain ⟨hfresh, hnegated, hnone, _, hmember⟩ := take_ok h
    refine ⟨⟨?_, hnone, hmember⟩, ?_⟩
    · rw [hfresh]
      split
      · rfl
      · rw [settleLow_eq]
    · rw [hnegated]
      split
      · rfl
      · rw [settleLow_eq]

/-- The reader takes the pieces of a given character as that character. -/
theorem accept_escapeChars (reader : SetReader) (c : Char) (flags : Flags)
    (hescape : reader.escape = none) :
    ∃ piece, Piece.ofText (escapeChars [c]) = [piece] ∧ piece ≠ .lone ∧
      reader.accept flags piece = (reader.add c).map .inl := by
  by_cases hc : c ∈ specialChars
  · have htext : escapeChars [c] = ['\\', c] := by simp [escapeChars, hc]
    have hset : Escape.beginInSet c = .code c.toNat := by
      rw [specialChars_eq] at hc
      simp only [List.mem_cons, List.not_mem_nil, or_false] at hc
      rcases hc with rfl | rfl | rfl | rfl | rfl | rfl | rfl | rfl | rfl | rfl | rfl | rfl | rfl |
        rfl | rfl | rfl | rfl | rfl <;> rfl
    have hdash : (c == '-') = false := by
      rw [beq_eq_false_iff_ne]
      rintro rfl
      exact absurd hc (by decide)
    refine ⟨.escaped c, by rw [htext, Piece.ofText_escaped, Piece.ofText], by simp, ?_⟩
    simp only [accept, hescape, hset, takeEscape, add, hdash, Bool.and_false, Bool.false_eq_true,
      ↓reduceIte, htext]
    rfl
  · have htext : escapeChars [c] = [c] := by simp [escapeChars, hc]
    have hslash : c ≠ '\\' := by
      rintro rfl
      exact hc (by decide)
    have hcaret : (c == '^') = false := by
      rw [beq_eq_false_iff_ne]
      rintro rfl
      exact hc (by decide)
    have hclose : (c == ']') = false := by
      rw [beq_eq_false_iff_ne]
      rintro rfl
      exact hc (by decide)
    refine ⟨.plain c, by rw [htext, Piece.ofText_plain hslash, Piece.ofText], by simp, ?_⟩
    simp only [accept, hescape, hcaret, hclose, Bool.and_false, Bool.false_eq_true, ↓reduceIte,
      Bool.false_and, add, htext]
    cases hd : reader.dash <;> simp only [Bool.not_true, Bool.not_false, Bool.true_and,
      Bool.false_and, Bool.false_eq_true, ↓reduceIte]
    · split <;> rfl
    · rfl

/-- Adding the characters of a text, one after the other. -/
def addAll (reader : SetReader) (chars : List Char) : Except ExprFault SetReader :=
  chars.foldlM add reader

/-- Adding characters succeeds when the first of them and the rest can be added. -/
theorem addAll_cons {reader last : SetReader} {c : Char} {rest : List Char} :
    reader.addAll (c :: rest) = .ok last ↔
      ∃ later, reader.add c = .ok later ∧ later.addAll rest = .ok last := by
  simp only [addAll, List.foldlM_cons]
  cases reader.add c with
  | error fault => simp [bind, Except.bind]
  | ok later => simp [bind, Except.bind]

/-- A set to which at least one character has been added is begun. -/
theorem addAll_begun {reader last : SetReader} {chars : List Char} (hescape : reader.escape = none)
    (hchars : chars ≠ []) (h : reader.addAll chars = .ok last) :
    last.Begun ∧ last.negated = reader.negated := by
  induction chars generalizing reader with
  | nil => exact absurd rfl hchars
  | cons c rest ih =>
      obtain ⟨later, hadd, hrest⟩ := addAll_cons.mp h
      obtain ⟨hbegun, hnegated⟩ := add_begun hescape hadd
      cases rest with
      | nil =>
          cases hrest
          exact ⟨hbegun, hnegated⟩
      | cons d others =>
          obtain ⟨hlast, hlastNegated⟩ := ih hbegun.escape (by simp) hrest
          exact ⟨hlast, hlastNegated.trans hnegated⟩

/-- A closing bracket ends a set that is begun. -/
theorem accept_close {reader : SetReader} (flags : Flags) (h : reader.Begun) :
    reader.accept flags (.plain ']') =
      .ok (.inr (test flags.fold reader.negated reader.allMembers.reverse)) := by
  obtain ⟨fresh, negated, members, low, dash, escape⟩ := reader
  obtain ⟨rfl, rfl, hmember⟩ := h
  dsimp only at hmember
  cases dash with
  | true => cases low <;> rfl
  | false =>
      cases low with
      | some member => rfl
      | none =>
          cases members with
          | nil => simp at hmember
          | cons member rest => rfl

end SetReader

open SetReader ExprReader

/-- The test for one of some characters, or for any other if `negated` holds. -/
def readSet (fold : Fold) (negated : Bool) (chars : List Char) : Except ExprFault CharTest :=
  (addAll { fresh := !negated, negated } chars).map fun reader =>
    SetReader.test fold negated reader.allMembers.reverse

/-- A set as text: one of some characters, or any other if `negated` holds. -/
def setText (negated : Bool) (chars : List Char) : List Char :=
  '[' :: (if negated then ['^'] else []) ++ escapeChars chars ++ [']']

/-- Escaped text has no lone backslash. -/
theorem whole_escapeChars (text : List Char) : Piece.Whole (escapeChars text) := by
  induction text with
  | nil => exact .nil
  | cons c rest ih =>
      have happend : escapeChars (c :: rest) = escapeChars [c] ++ escapeChars rest := by
        simp [escapeChars]
      obtain ⟨piece, hpiece, hlone, _⟩ := accept_escapeChars {} c {} rfl
      rw [happend]
      refine Piece.Whole.append ?_ ih
      rw [Piece.Whole, hpiece]
      simpa using fun h => hlone h.symm

/-- The text of a set has no lone backslash. -/
theorem whole_setText (negated : Bool) (chars : List Char) :
    Piece.Whole (setText negated chars) := by
  refine .plain (by decide) ((Piece.Whole.append ?_ (whole_escapeChars chars)).append
    (.plain (by decide) .nil))
  cases negated
  · exact .nil
  · exact .plain (by decide) .nil

/-- Reading the characters of a set adds them one after the other. -/
theorem run_escapeChars {reader last : ExprReader} {sub : SetReader} {chars : List Char}
    (hpending : reader.pending = .set sub) (hescape : sub.escape = none) :
    reader.run (Piece.ofText (escapeChars chars)) = .ok last ↔
      ∃ later, sub.addAll chars = .ok later ∧ last = { reader with pending := .set later } := by
  induction chars generalizing reader sub with
  | nil =>
      have hset : { reader with pending := .set sub } = reader := by
        obtain ⟨pending, _⟩ := reader
        simp only at hpending
        rw [hpending]
      simp only [escapeChars, List.flatMap_nil, Piece.ofText, run_nil, addAll, List.foldlM_nil,
        pure, Except.pure, Except.ok.injEq, exists_eq_left', hset]
      exact eq_comm
  | cons c rest ih =>
      have happend : escapeChars (c :: rest) = escapeChars [c] ++ escapeChars rest := by
        simp [escapeChars]
      obtain ⟨piece, hpiece, hlone, haccept⟩ :=
        accept_escapeChars sub c reader.frame.flags hescape
      have hstep : ∀ next, reader.step piece = .ok next ↔
          ∃ later, sub.add c = .ok later ∧ next = { reader with pending := .set later } := by
        intro next
        simp only [step, settle, hpending, hescape, Option.map_none, Option.getD_none, ↓reduceIte,
          ExprReader.accept, haccept]
        cases sub.add c with
        | error fault => simp [Except.map, bind, Except.bind]
        | ok later => simp [Except.map, bind, Except.bind, pure, Except.pure, eq_comm]
      rw [happend, Piece.ofText_append (whole_escapeChars [c]), hpiece, List.singleton_append,
        run_cons]
      constructor
      · rintro ⟨_, next, hnext, hrun⟩
        obtain ⟨later, hadd, rfl⟩ := (hstep next).mp hnext
        obtain ⟨final, hrest, rfl⟩ := (ih rfl (add_begun hescape hadd).1.escape).mp hrun
        exact ⟨final, addAll_cons.mpr ⟨later, hadd, hrest⟩, rfl⟩
      · rintro ⟨final, hall, rfl⟩
        obtain ⟨later, hadd, hrest⟩ := addAll_cons.mp hall
        exact ⟨hlone, _, (hstep _).mpr ⟨later, hadd, rfl⟩,
          (ih rfl (add_begun hescape hadd).1.escape).mpr ⟨final, hrest, rfl⟩⟩

/-- The pieces of a set: the bracket that opens it, the sign of a negation, the escaped characters, and
the bracket that closes it. -/
theorem ofText_setText (negated : Bool) (chars : List Char) :
    Piece.ofText (setText negated chars) =
      .plain '[' :: (Piece.ofText (if negated then ['^'] else []) ++
        (Piece.ofText (escapeChars chars) ++ [.plain ']'])) := by
  have hcaret : Piece.Whole (if negated then ['^'] else []) := by
    cases negated
    · exact .nil
    · exact .plain (by decide) .nil
  rw [setText, List.cons_append, List.cons_append, Piece.ofText_plain (by decide),
    List.append_assoc, Piece.ofText_append hcaret, Piece.ofText_append (whole_escapeChars chars),
    Piece.ofText_plain (by decide), Piece.ofText]

/-- A bracket opens a set. -/
theorem step_openSet {reader : ExprReader} (hrested : reader.Rested)
    (hverbose : reader.frame.flags.verbose = false) :
    reader.step (.plain '[') = .ok { reader with pending := .set {} } := by
  rw [step_plain hrested rfl]
  unfold acceptPlain
  simp [rested, hverbose]

/-- The sign of a negation at the front of a set is noted. -/
theorem run_negation {reader last : ExprReader} (negated : Bool) (pieces : List Piece) :
    ExprReader.run { reader with pending := .set {} }
        (Piece.ofText (if negated then ['^'] else []) ++ pieces) = .ok last ↔
      ExprReader.run { reader with pending := .set { fresh := !negated, negated } } pieces
        = .ok last := by
  cases negated with
  | false =>
      rw [if_neg (by simp), Piece.ofText, List.nil_append]
      rfl
  | true =>
      have hcaret : ExprReader.step { reader with pending := .set {} } (.plain '^') =
          .ok { reader with pending := .set { fresh := false, negated := true } } :=
        rfl
      rw [if_pos rfl, Piece.ofText_plain (by decide), Piece.ofText, List.singleton_append, run_cons,
        hcaret]
      simp

/-- A bracket closes a set behind a member, and the test of the set is pushed. -/
theorem step_closeSet (reader : ExprReader) {sub : SetReader} (h : sub.Begun) :
    ExprReader.step { reader with pending := .set sub } (.plain ']') =
      .ok (reader.rested.pushTest
        (SetReader.test reader.frame.flags.fold sub.negated sub.allMembers.reverse)) := by
  simp only [step, settle, h.escape, Option.map_none, Option.getD_none, ↓reduceIte,
    ExprReader.accept, accept_close reader.frame.flags h]
  rfl

/-- Reading a set of given characters pushes its test. -/
theorem run_set {reader last : ExprReader} {negated : Bool} {chars : List Char}
    (hrested : reader.Rested) (hverbose : reader.frame.flags.verbose = false)
    (hchars : chars ≠ []) :
    reader.run (Piece.ofText (setText negated chars)) = .ok last ↔
      ∃ test, readSet reader.frame.flags.fold negated chars = .ok test ∧
        last = reader.rested.pushTest test := by
  rw [ofText_setText, run_cons, step_openSet hrested hverbose]
  simp only [ne_eq, reduceCtorEq, not_false_eq_true, Except.ok.injEq, exists_eq_left', true_and]
  rw [run_negation, run_append]
  constructor
  · rintro ⟨middle, hmiddle, hlast⟩
    obtain ⟨sub, hadd, rfl⟩ := (run_escapeChars rfl rfl).mp hmiddle
    obtain ⟨hsub, hnegated⟩ := addAll_begun rfl hchars hadd
    obtain ⟨_, final, hstep, hfinal⟩ := run_cons.mp hlast
    cases (step_closeSet reader hsub).symm.trans hstep
    rw [run_nil] at hfinal
    cases hfinal
    exact ⟨_, by rw [readSet, hadd]; rfl, by rw [hnegated]⟩
  · rintro ⟨test, htest, rfl⟩
    rw [readSet] at htest
    cases hadd : addAll { fresh := !negated, negated } chars with
    | error fault => simp [hadd, Except.map] at htest
    | ok sub =>
        obtain ⟨hsub, hnegated⟩ := addAll_begun rfl hchars hadd
        rw [hadd] at htest
        cases htest
        refine ⟨_, (run_escapeChars rfl rfl).mpr ⟨sub, hadd, rfl⟩, run_cons.mpr
          ⟨by simp, _, step_closeSet reader hsub, ?_⟩⟩
        rw [run_nil, hnegated]

/-- A set that can be read is an atom. -/
theorem Atom.set {flags : Flags} (hverbose : flags.verbose = false) {negated : Bool}
    {chars : List Char} (hchars : chars ≠ []) {test : CharTest}
    (htest : readSet flags.fold negated chars = .ok test) :
    Atom flags (setText negated chars) 0 fun _ => .item (.char test) where
  whole := whole_setText negated chars
  reads reader hrested hflags := by
    refine ⟨reader.rested.pushTest test, ?_, rfl, (extends_push reader _).of_rested⟩
    exact (run_set hrested (by rw [hflags, hverbose]) hchars).mpr ⟨test, by rw [hflags, htest], rfl⟩

/-! ## Sets without ranges -/

/-- A dash stands among some characters only in front of all others or behind them, where it makes no
range. -/
def DashAtEnds (chars : List Char) : Prop :=
  '-' ∉ chars.tail.dropLast

instance (chars : List Char) : Decidable (DashAtEnds chars) :=
  inferInstanceAs (Decidable (¬_))

/-- Where there is no dash, none stands inside. -/
theorem dashAtEnds_of_notMem {chars : List Char} (h : '-' ∉ chars) : DashAtEnds chars :=
  fun hdash => h (List.mem_of_mem_tail ((List.dropLast_sublist _).subset hdash))

/-- Unless a range is being read, a further character is a further member. A dash waits for the end of
a range if there is a member in front of it. -/
theorem add_allMembers (reader : SetReader) (hdash : reader.dash = false) (c : Char) :
    ∃ next, reader.add c = .ok next ∧ next.allMembers = .code c.toNat :: reader.allMembers ∧
      (c ≠ '-' ∨ reader.low = none → next.dash = false) := by
  obtain ⟨fresh, negated, members, low, dash, escape⟩ := reader
  dsimp only at hdash
  subst hdash
  by_cases hc : c = '-'
  · subst hc
    cases low <;> simp [add, take, settleLow, allMembers]
  · have hplain : (c == '-') = false := by simpa using hc
    cases low <;> simp [add, hplain, take, settleLow, allMembers]

/-- Adding characters puts them all into the set, if only the last of them may be a dash. -/
theorem addAll_plain (reader : SetReader) {chars : List Char} (hdash : reader.dash = false)
    (hchars : '-' ∉ chars.dropLast) :
    ∃ later, reader.addAll chars = .ok later ∧
      later.allMembers = (chars.map fun c => Member.code c.toNat).reverse ++ reader.allMembers := by
  induction chars generalizing reader with
  | nil => exact ⟨reader, rfl, by simp⟩
  | cons c rest ih =>
      obtain ⟨next, hadd, hmembers, hnext⟩ := add_allMembers reader hdash c
      cases rest with
      | nil => exact ⟨next, addAll_cons.mpr ⟨next, hadd, rfl⟩, by simp [hmembers]⟩
      | cons d others =>
          rw [List.dropLast_cons_cons, List.mem_cons, not_or] at hchars
          obtain ⟨later, hrest, hlater⟩ := ih next (hnext (.inl (Ne.symm hchars.1))) hchars.2
          refine ⟨later, addAll_cons.mpr ⟨next, hadd, hrest⟩, ?_⟩
          rw [hlater, hmembers]
          simp

/-- A set of given characters with dashes only at the ends holds just these characters. -/
theorem readSet_plain (fold : Fold) (negated : Bool) {chars : List Char}
    (hchars : DashAtEnds chars) : readSet fold negated chars =
      .ok (SetReader.test fold negated (chars.map fun c => .code c.toNat)) := by
  suffices hall : ∃ later, addAll { fresh := !negated, negated } chars = .ok later ∧
      later.allMembers = (chars.map fun c => Member.code c.toNat).reverse by
    obtain ⟨later, hadd, hmembers⟩ := hall
    rw [readSet, hadd, Except.map, hmembers, List.reverse_reverse]
  cases chars with
  | nil => exact ⟨_, rfl, by simp [allMembers, settleLow]⟩
  | cons c rest =>
      -- There is no member in front of the first character, so that may be a dash, too.
      obtain ⟨next, hadd, hmembers, hnext⟩ :=
        add_allMembers { fresh := !negated, negated } rfl c
      obtain ⟨later, hrest, hlater⟩ := addAll_plain next (hnext (.inr rfl)) hchars
      refine ⟨later, addAll_cons.mpr ⟨next, hadd, hrest⟩, ?_⟩
      rw [hlater, hmembers]
      simp [allMembers, settleLow]

/-- A set of characters with dashes only at the ends is read as the set that lists them. -/
theorem getD_readSet {chars : List Char} (hchars : DashAtEnds chars) (fold : Fold)
    (other : CharTest) : (readSet fold false chars).toOption.getD other =
      SetReader.test fold false (chars.map fun c => .code c.toNat) := by
  rw [readSet_plain _ _ hchars]
  rfl

/-- Where case matters, a set that lists characters accepts them, or all others. -/
theorem accepts_codes (negated : Bool) (chars : List Char) (c : Char) :
    (SetReader.test .keep negated (chars.map fun c => .code c.toNat)).accepts c =
      (negated != decide (c ∈ chars)) := by
  have hcodes : ∀ member ∈ (chars.map fun c => Member.code c.toNat).eraseDups,
      ∃ n, member = .code n := by
    intro member hmember
    rw [List.mem_eraseDups, List.mem_map] at hmember
    obtain ⟨d, _, rfl⟩ := hmember
    exact ⟨_, rfl⟩
  have hmem : c ∈ chars ↔ .code c.toNat ∈ (chars.map fun c => Member.code c.toNat).eraseDups := by
    rw [List.mem_eraseDups]
    simp [Char.toNat_inj]
  unfold SetReader.test
  split
  · next n heq =>
    rw [heq, List.mem_singleton, Member.code.injEq] at hmem
    simp only [CharTest.accepts, CharTest.sameCode, Fold.cased, hmem]
    rfl
  · next unique =>
    have hplain : CharTest.foldsMembers .keep
        (chars.map fun c => Member.code c.toNat).eraseDups = false := by
      rw [CharTest.foldsMembers, List.any_eq_false]
      intro member hmember
      obtain ⟨n, rfl⟩ := hcodes member hmember
      simp [Member.folds]
    simp only [CharTest.accepts, CharTest.amongMembers, hplain, Bool.false_eq_true, ↓reduceIte]
    congr 1
    rw [Bool.eq_iff_iff, List.any_eq_true, decide_eq_true_iff, hmem]
    constructor
    · rintro ⟨member, hmember, hholds⟩
      obtain ⟨n, rfl⟩ := hcodes member hmember
      rw [Member.holds, beq_iff_eq] at hholds
      rwa [hholds]
    · exact fun hmember => ⟨_, hmember, by simp [Member.holds]⟩

/-! ## Sets within all scripts -/

/-- The members of a set that is being read are not limited to ASCII. -/
structure SetReader.Broad (reader : SetReader) : Prop where
  members : ∀ member ∈ reader.members, member.takeClass false = member
  low : ∀ member text, reader.low = some (member, text) → member.takeClass false = member

/-- Taking a code point keeps the members from being limited. -/
theorem SetReader.Broad.take {reader later : SetReader} (h : reader.Broad) {n : Nat}
    {text : List Char} (htake : reader.take (.code n) text = .ok later) : later.Broad := by
  unfold SetReader.take at htake
  split at htake
  · split at htake
    · split at htake
      · simp at htake
      · cases htake
        exact ⟨List.forall_mem_cons.mpr ⟨rfl, h.members⟩, by simp⟩
    · simp at htake
  · cases htake
    refine ⟨h.members, ?_⟩
    rintro member text ⟨⟩
    rfl

/-- Putting the last member with the others keeps them from being limited. -/
theorem SetReader.Broad.settleLow {reader : SetReader} (h : reader.Broad) :
    reader.settleLow.Broad := by
  unfold SetReader.settleLow
  split
  · next member text hlow =>
    exact ⟨List.forall_mem_cons.mpr ⟨h.low member text hlow, h.members⟩, by simp⟩
  · exact h

/-- Adding characters keeps the members from being limited. -/
theorem SetReader.Broad.addAll {reader later : SetReader} (h : reader.Broad) {chars : List Char}
    (hadd : reader.addAll chars = .ok later) : later.Broad := by
  induction chars generalizing reader with
  | nil =>
      cases hadd
      exact h
  | cons c rest ih =>
      obtain ⟨next, hfirst, hrest⟩ := addAll_cons.mp hadd
      refine ih ?_ hrest
      unfold SetReader.add at hfirst
      dsimp only at hfirst
      split at hfirst
      · cases hfirst
        exact ⟨h.members, h.low⟩
      · have hreading : Broad { reader with fresh := false } := ⟨h.members, h.low⟩
        refine Broad.take ?_ hfirst
        split
        · exact hreading
        · exact hreading.settleLow

/-- A set of given characters is not limited to ASCII. -/
theorem isBroad_of_readSet {fold : Fold} (hfold : fold ≠ .ascii) {negated : Bool}
    {chars : List Char} {test : CharTest} (h : readSet fold negated chars = .ok test) :
    test.isBroad = true := by
  unfold readSet at h
  cases hadd : addAll { fresh := !negated, negated } chars with
  | error fault =>
      rw [hadd] at h
      simp [Except.map] at h
  | ok reader =>
      rw [hadd] at h
      cases h
      have hstart : Broad { fresh := !negated, negated } := ⟨by simp, by simp⟩
      have hbroad := (hstart.addAll hadd).settleLow
      have hall : ∀ member ∈ reader.allMembers, member.takeClass false = member := by
        unfold allMembers
        split
        · exact List.forall_mem_cons.mpr ⟨rfl, hbroad.members⟩
        · exact hbroad.members
      show (SetReader.test fold negated reader.allMembers.reverse).isBroad = true
      unfold SetReader.test
      split
      · rfl
      · simp only [CharTest.isBroad, Bool.and_eq_true, bne_iff_ne, ne_eq, hfold, not_false_eq_true,
          List.all_eq_true, beq_iff_eq, true_and]
        intro member hmem
        exact hall member (by simpa [List.mem_eraseDups] using hmem)

end RoutePattern
