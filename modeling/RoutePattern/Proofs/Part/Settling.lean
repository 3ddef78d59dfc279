import Mathlib.Data.List.Infix
import Mathlib.Logic.Function.Iterate
import RoutePattern.Proofs.Part.Stepping

/-!
# Reading on after a failure

A reader that has failed may be called again and goes on with the lexemes that are left.
`reads_settle` is the main result: a group that is not closed makes one reading fail, and there are
no more such readings than opening braces; after them either one reading comes to the end and all
later ones have nothing left to read, or every reading fails at the same lexeme.
-/

namespace RoutePattern

/-- How many opening braces there are among some lexemes. -/
def countOpenings (lexemes : List Lexeme) : Nat :=
  lexemes.countP fun lexeme => lexeme.kind = .opening

/-- Lexemes that are left hold no more opening braces than there were. -/
theorem countOpenings_le {rest lexemes : List Lexeme} (h : rest <:+ lexemes) :
    countOpenings rest ≤ countOpenings lexemes :=
  h.sublist.countP_le

/-- Where fewer opening braces are left, lexemes have been taken. -/
theorem length_lt_of_countOpenings {rest lexemes : List Lexeme} (h : rest <:+ lexemes)
    (hfewer : countOpenings rest < countOpenings lexemes) : rest.length < lexemes.length := by
  refine Nat.lt_of_le_of_ne h.length_le fun hlength => ?_
  rw [h.eq_of_length hlength] at hfewer
  exact Nat.lt_irrefl _ hfewer

theorem Taken.suffix {kind : Kind} {lexemes rest : List Lexeme} {value : Option String}
    (h : Taken kind lexemes value rest) : rest <:+ lexemes := by
  obtain ⟨front, rfl, _⟩ := h.front
  exact List.suffix_append front rest

theorem TextTaken.suffix {lexemes rest : List Lexeme} {text : String}
    (h : TextTaken lexemes text rest) : rest <:+ lexemes := by
  obtain ⟨front, rfl⟩ := h.front
  exact List.suffix_append front rest

namespace PartReader

variable {context : ReadContext} {reader later : PartReader}

/-- Reading a group takes lexemes from the front. -/
theorem GroupRead.suffix {opened : Int} {answer : Except GrammarError Key}
    (h : GroupRead context reader opened answer later) : later.rest <:+ reader.rest := by
  cases h with
  | closed hbefore hname hpattern hafter _ hmodifier =>
      have hclosing := (List.suffix_cons _ _).trans hafter.suffix
      exact hmodifier.suffix.trans
        (hclosing.trans (hpattern.suffix.trans (hname.suffix.trans hbefore.suffix)))
  | unclosed hbefore hname hpattern hafter _ =>
      exact hafter.suffix.trans (hpattern.suffix.trans (hname.suffix.trans hbefore.suffix))

/-- A step takes lexemes from the front. -/
theorem Stepped.suffix {text : String} {answer : Except GrammarError (List Part × String)}
    (h : Stepped context reader text answer later) : later.rest <:+ reader.rest := by
  cases h with
  | key hchar hname hpattern _ hmodifier =>
      exact hmodifier.suffix.trans (hpattern.suffix.trans (hname.suffix.trans hchar.suffix))
  | char hread | escaped hread | ending hread =>
      rw [hread]
      exact List.suffix_cons _ _
  | group hread _ hgroup | unclosed hread _ hgroup =>
      rw [hread]
      exact hgroup.suffix.trans (List.suffix_cons _ _)
  | stuck _ => exact List.suffix_refl _

/-- How a reading ends: with no lexemes left, in a group that is not closed, or in front of a lexeme
that no item begins with. -/
inductive ReadEnd (context : ReadContext) (reader : PartReader) :
    Except GrammarError (List Part) → PartReader → Prop where
  | complete {parts : List Part} {later : PartReader} (h : later.rest = []) :
      ReadEnd context reader (.ok parts) later
  | unclosed {error : GrammarError} {later : PartReader} (hexpected : error.expected = .closing)
      (hfewer : countOpenings later.rest < countOpenings reader.rest) :
      ReadEnd context reader (.error error) later
  | stuck {later : PartReader} {lexeme : Lexeme} {rest : List Lexeme}
      (hread : later.rest = lexeme :: rest)
      (hkind : lexeme.kind = .closing ∨ lexeme.kind = .modifier) :
      ReadEnd context reader (.error (later.unexpected context .ending)) later

/-- A reading that goes on after a step ends as it does from there. -/
theorem ReadEnd.of_suffix {final : PartReader} {answer : Except GrammarError (List Part)}
    (h : ReadEnd context later answer final) (hsuffix : later.rest <:+ reader.rest)
    (parts : List Part) : ReadEnd context reader (answer.map (parts ++ ·)) final := by
  cases h with
  | complete h => exact .complete h
  | unclosed hexpected hfewer =>
      exact .unclosed hexpected (hfewer.trans_le (countOpenings_le hsuffix))
  | stuck hread hkind => exact .stuck hread hkind

/-- A step that fails ends a reading. -/
theorem Stepped.readEnd {text : String} {error : GrammarError} (hne : reader.rest ≠ [])
    (h : Stepped context reader text (.error error) later) :
    ReadEnd context reader (.error error) later := by
  cases h with
  | @unclosed opening rest _ _ hread hkind hgroup =>
      have hfewer : countOpenings rest < countOpenings reader.rest := by
        rw [hread, countOpenings, countOpenings, List.countP_cons_of_pos (by simpa using hkind)]
        exact Nat.lt_succ_self _
      have hsuffix := hgroup.suffix
      cases hgroup with
      | unclosed => exact .unclosed rfl ((countOpenings_le hsuffix).trans_lt hfewer)
  | stuck hstuck =>
      cases hread : reader.rest with
      | nil => exact absurd hread hne
      | cons lexeme rest => exact .stuck hread (hstuck lexeme (by simp [hread]))

/-- A reading takes lexemes from the front and ends as `ReadEnd` says. -/
theorem readEnd (context : ReadContext) (reader : PartReader) (text : String) :
    (readFrom context reader text).2.rest <:+ reader.rest ∧
      ReadEnd context reader (readFrom context reader text).1 (readFrom context reader text).2 := by
  fun_induction readFrom context reader text with
  | case1 reader text h => exact ⟨List.suffix_refl _, .complete (by simpa using h)⟩
  | case2 reader text h error later hstep =>
      have hstepped := stepped context reader text
      rw [hstep] at hstepped
      exact ⟨hstepped.suffix, hstepped.readEnd (by simpa using h)⟩
  | case3 reader text h parts rest later hstep answer final heq ih =>
      have hstepped := stepped context reader text
      rw [hstep] at hstepped
      rw [heq] at ih
      obtain ⟨hsuffix, hend⟩ := ih
      exact ⟨hsuffix.trans hstepped.suffix, hend.of_suffix hstepped.suffix parts⟩

/-- In front of a lexeme that no item begins with a reader stays where it is. -/
theorem read_stuck {lexeme : Lexeme} {rest : List Lexeme} (hread : reader.rest = lexeme :: rest)
    (hkind : lexeme.kind = .closing ∨ lexeme.kind = .modifier) :
    reader.read context = (.error (reader.unexpected context .ending), reader) := by
  have hstep : step context reader "" = (.error (reader.unexpected context .ending), reader) := by
    obtain h | h := hkind <;> simp [step, takeCapture, take, hread, h]
  rw [read, readFrom, if_neg (by simp [hread])]
  split
  · next heq =>
    rw [hstep, Prod.mk.injEq, Except.error.injEq] at heq
    rw [heq.1, heq.2]
  · next heq => simp [hstep] at heq

/-! ## Readings in a row -/

/-- A reader after a number of readings. -/
def after (context : ReadContext) (calls : Nat) (reader : PartReader) : PartReader :=
  (fun reader => (reader.read context).2)^[calls] reader

theorem after_zero (context : ReadContext) (reader : PartReader) : after context 0 reader = reader :=
  rfl

theorem after_succ (context : ReadContext) (calls : Nat) (reader : PartReader) :
    after context (calls + 1) reader = after context calls (reader.read context).2 :=
  Function.iterate_succ_apply _ _ _

/-- One more reading begins where the others have ended. -/
theorem after_succ' (context : ReadContext) (calls : Nat) (reader : PartReader) :
    after context (calls + 1) reader = ((after context calls reader).read context).2 :=
  Function.iterate_succ_apply' _ _ _

/-- One more reading takes lexemes from the front. -/
theorem after_succ_suffix (context : ReadContext) (calls : Nat) (reader : PartReader) :
    (after context (calls + 1) reader).rest <:+ (after context calls reader).rest := by
  rw [after_succ']
  exact (readEnd context (after context calls reader) "").1

/-- Readings only take lexemes from the front. -/
theorem after_suffix (context : ReadContext) (calls : Nat) (reader : PartReader) :
    (after context calls reader).rest <:+ reader.rest := by
  induction calls with
  | zero => exact List.suffix_refl _
  | succ calls ih => exact (after_succ_suffix context calls reader).trans ih

/-- Readings in a row are some readings and then others. -/
theorem reads_add (context : ReadContext) (calls more : Nat) (reader : PartReader) :
    reads context (calls + more) reader
      = reads context calls reader ++ reads context more (after context calls reader) := by
  induction calls generalizing reader with
  | zero => rw [Nat.zero_add]; rfl
  | succ calls ih =>
      rw [Nat.succ_add, reads, reads, after_succ]
      dsimp only
      rw [ih, List.cons_append]

/-- A reader that stays as it is gives the same answer however often it is called. -/
theorem reads_of_fixed {answer : Except GrammarError (List Part)}
    (h : reader.read context = (answer, reader)) (calls : Nat) :
    reads context calls reader = List.replicate calls answer := by
  induction calls with
  | zero => rfl
  | succ calls ih =>
      rw [reads, h, List.replicate_succ]
      dsimp only
      rw [ih]

/-- With no lexemes left a reader reads nothing. -/
theorem reads_complete (h : reader.rest = []) (calls : Nat) :
    reads context calls reader = List.replicate calls (.ok []) := by
  refine reads_of_fixed ?_ calls
  rw [read, readFrom, if_pos (by simp [h])]

/-- In front of a lexeme that no item begins with every reading fails alike. -/
theorem reads_stuck {lexeme : Lexeme} {rest : List Lexeme} (hread : reader.rest = lexeme :: rest)
    (hkind : lexeme.kind = .closing ∨ lexeme.kind = .modifier) (calls : Nat) :
    reads context calls reader
      = List.replicate calls (.error (reader.unexpected context .ending)) :=
  reads_of_fixed (read_stuck hread hkind) calls

/-- The answers of a reader that fails at no group any more: one that succeeds and then nothing, or
one and the same error. -/
inductive Settled (context : ReadContext) (reader : PartReader) : Prop where
  | complete (parts : List Part)
      (h : ∀ further, reads context (1 + further) reader = .ok parts :: List.replicate further (.ok []))
  | stuck {error : GrammarError} (hexpected : error.expected = .ending)
      (h : ∀ further, reads context further reader = List.replicate further (.error error))

/-- What the readings of a reader fail for before they settle. -/
structure Settles (context : ReadContext) (reader : PartReader) (failures : List GrammarError) :
    Prop where
  length_le : failures.length ≤ countOpenings reader.rest
  expected : ∀ error ∈ failures, error.expected = .closing
  reads_eq : reads context failures.length reader = failures.map .error
  advances : ∀ calls < failures.length,
    (after context (calls + 1) reader).rest.length < (after context calls reader).rest.length
  settled : Settled context (after context failures.length reader)

/-- A reading that fails at a group comes before the failures of the reader it leaves. -/
theorem Settles.cons {error : GrammarError} {failures : List GrammarError}
    (hread : reader.read context = (.error error, later)) (hexpected : error.expected = .closing)
    (hsuffix : later.rest <:+ reader.rest)
    (hfewer : countOpenings later.rest < countOpenings reader.rest)
    (h : Settles context later failures) : Settles context reader (error :: failures) := by
  have hafter (calls : Nat) : after context (calls + 1) reader = after context calls later := by
    rw [after_succ, hread]
  refine ⟨h.length_le.trans_lt hfewer, List.forall_mem_cons.mpr ⟨hexpected, h.expected⟩, ?_, ?_, ?_⟩
  · rw [List.length_cons, reads, hread, List.map_cons]
    dsimp only
    rw [h.reads_eq]
  · intro calls hcalls
    cases calls with
    | zero =>
        rw [hafter]
        exact length_lt_of_countOpenings hsuffix hfewer
    | succ calls =>
        rw [hafter, hafter]
        exact h.advances calls (Nat.lt_of_succ_lt_succ hcalls)
  · rw [List.length_cons, hafter]
    exact h.settled

/-- A reader with settled answers fails at no group. -/
theorem Settled.settles (h : Settled context reader) : Settles context reader [] :=
  ⟨Nat.zero_le _, by simp, rfl, by simp, h⟩

/-- A reading that leaves nothing settles the answers. -/
theorem settled_of_complete {parts : List Part} (hread : reader.read context = (.ok parts, later))
    (hdone : later.rest = []) : Settled context reader := by
  refine .complete parts fun further => ?_
  rw [Nat.add_comm, reads, hread]
  dsimp only
  rw [reads_complete hdone]

/-- A reading that stays in front of a lexeme that no item begins with settles the answers. -/
theorem settled_of_stuck {lexeme : Lexeme} {rest : List Lexeme}
    (hread : reader.read context = (.error (later.unexpected context .ending), later))
    (hnext : later.rest = lexeme :: rest)
    (hkind : lexeme.kind = .closing ∨ lexeme.kind = .modifier) : Settled context reader := by
  refine @Settled.stuck _ _ (later.unexpected context .ending) rfl fun further => ?_
  cases further with
  | zero => rfl
  | succ further =>
      rw [reads, hread, List.replicate_succ]
      dsimp only
      rw [reads_stuck hnext hkind]

/-- The readings of every reader settle. -/
theorem exists_settles (context : ReadContext) (reader : PartReader) :
    ∃ failures, Settles context reader failures := by
  -- The lexemes left may stay the same in a reading, but a reading that fails at a group has taken
  -- the brace that opens it: the induction is on the opening braces left.
  induction hcount : countOpenings reader.rest using Nat.strongRecOn generalizing reader with
  | ind count ih =>
      obtain ⟨hsuffix, hend⟩ := readEnd context reader ""
      cases hread : reader.read context with
      | mk answer later =>
          have hfrom : readFrom context reader "" = (answer, later) := hread
          rw [hfrom] at hsuffix hend
          dsimp only at hsuffix hend
          cases hend with
          | complete hdone => exact ⟨[], (settled_of_complete hread hdone).settles⟩
          | stuck hnext hkind => exact ⟨[], (settled_of_stuck hread hnext hkind).settles⟩
          | unclosed hexpected hfewer =>
              obtain ⟨failures, h⟩ := ih _ (hcount ▸ hfewer) later rfl
              exact ⟨_, h.cons hread hexpected hsuffix hfewer⟩

/-- The place of a reader in the lexemes that it was given. -/
def cursor (lexemes : List Lexeme) (reader : PartReader) : Nat :=
  lexemes.length - reader.rest.length

end PartReader

open PartReader

/-- Whatever the lexemes are, readings in a row only move on through them. At first some may fail
at groups that are not closed, no more than there are opening braces and each further on than the
one before. Then either one reading gives parts and all later ones give none, or all readings fail
with one and the same error, where the end was expected. -/
theorem reads_settle (options : Options) (lexemes : List Lexeme) :
    let context := ReadContext.of options lexemes
    let start : PartReader := { rest := lexemes }
    let place (calls : Nat) : Nat := cursor lexemes (after context calls start)
    (∀ calls, (after context calls start).rest = lexemes.drop (place calls) ∧
        place calls ≤ place (calls + 1) ∧ place calls ≤ lexemes.length) ∧
      ∃ failures : List GrammarError,
        failures.length ≤ lexemes.countP (fun lexeme => lexeme.kind = .opening) ∧
        (∀ error ∈ failures, error.expected = .closing) ∧
        (∀ calls < failures.length, place calls < place (calls + 1)) ∧
        ((∃ parts, ∀ further, reads context (failures.length + (1 + further)) start
            = failures.map .error ++ .ok parts :: List.replicate further (.ok [])) ∨
          ∃ error, error.expected = .ending ∧
            ∀ further, reads context (failures.length + further) start
              = failures.map .error ++ List.replicate further (.error error)) := by
  intro context start place
  have hsuffix (calls : Nat) : (after context calls start).rest <:+ lexemes :=
    after_suffix context calls start
  obtain ⟨failures, hlength, hexpected, hreads, hadvances, hsettled⟩ := exists_settles context start
  refine ⟨fun calls => ⟨List.suffix_iff_eq_drop.mp (hsuffix calls), ?_, Nat.sub_le _ _⟩,
    failures, hlength, hexpected, fun calls hcalls => ?_, ?_⟩
  · exact Nat.sub_le_sub_left (after_succ_suffix context calls start).length_le _
  · have hlt := hadvances calls hcalls
    have hle := (hsuffix calls).length_le
    simp only [place, cursor]
    omega
  · cases hsettled with
    | complete parts h =>
        refine .inl ⟨parts, fun further => ?_⟩
        rw [reads_add, hreads, h]
    | stuck hending h =>
        refine .inr ⟨_, hending, fun further => ?_⟩
        rw [reads_add, hreads, h]

/-- Two groups that are not closed, and the end behind them. -/
example : (scan "\x7ba\x7b").toOption.map (fun lexemes =>
    (reads (.of {} lexemes) 4 { rest := lexemes }).map Except.toOption)
      = some [none, none, some [], some []] := by
  decide +kernel

end RoutePattern
