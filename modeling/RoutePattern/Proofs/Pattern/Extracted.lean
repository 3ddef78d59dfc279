import RoutePattern.Proofs.Expr.Shown

/-!
# Keys of an expression that has been read already

The keys of an expression come from a scan of its text. While the text is read, the groups that have
been met and those that the scan finds ahead stay the same in total (`run_outlook`), as long as every
opening parenthesis is read as the opening of a group. So the keys are those of the groups, one for
each and in order (`Path.compileInto_exposed`). In a remark of a verbose part a parenthesis counts as
a group that is not there (`Path.compileInto_remark`).
-/

namespace RoutePattern

open ExprReader

namespace ExprReader

variable {reader later : ExprReader} {piece : Piece} {rest : List Piece}

/-! ## Steps -/

/-- The groups there are, and those that the text ahead shows together with what has been read of an
opening. -/
def outlook (reader : ExprReader) (rest : List Piece) : List (Option String) :=
  reader.groupNames ++
    (captureNames false (reader.pending.begun ++ rest.flatMap Piece.text)).map
      (Option.map String.ofList)

/-- Where what is next is no question mark, neither is the first character of the text. -/
theorem head?_text_ne (h : rest.head? ≠ some (.plain '?')) :
    (rest.flatMap Piece.text).head? ≠ some '?' := by
  cases rest with
  | nil => simp
  | cons piece rest =>
      cases piece with
      | plain c => simpa [Piece.text] using h
      | _ => simp [Piece.text]

/-- Settling a reader does not change its outlook. -/
theorem settle_outlook (hreader : reader.Registered)
    (h : reader.settle (some piece) = .ok later) :
    later.Registered ∧ later.outlook (piece :: rest) = reader.outlook (piece :: rest) := by
  obtain ⟨hparen, hkeeps⟩ | ⟨hpending, hnext, hopen⟩ := settle_enlists h
  · refine ⟨hkeeps.registered hreader, ?_⟩
    rw [outlook, outlook, hkeeps.groupNames, settle_begun hparen h]
  · obtain ⟨hregistered, hnames⟩ := openCapture_groupNames hreader hopen
    have hlater : later.pending.begun = [] := congrArg (·.pending.begun) (openCapture_outline hopen)
    have htext : ((piece :: rest).flatMap Piece.text).head? ≠ some '?' := head?_text_ne hnext
    refine ⟨hregistered, ?_⟩
    rw [outlook, outlook, hnames, hlater, hpending, List.nil_append,
      show (Pending.opening .paren).begun = ['('] from rfl, List.singleton_append,
      captureNames_unnamed htext, List.map_cons, List.append_assoc]
    rfl

/-- Nothing can be repeated at the start of a group. -/
theorem head?_ne_of_nameGroup {text : List Char} {last : ExprReader}
    (h : reader.nameGroup text = .ok later) (hrest : later.run rest = .ok last) :
    rest.head? ≠ some (.plain '?') := by
  intro hhead
  obtain ⟨others, rfl⟩ := List.head?_eq_some_iff.mp hhead
  obtain ⟨_, middle, hstep, _⟩ := run_cons.mp hrest
  have hpending : later.pending = .nothing := congrArg (·.pending) (nameGroup_outline h)
  have hterms : later.frame.terms = [] := by
    obtain ⟨_, h⟩ := nameGroup_eq h
    unfold openCapture at h
    dsimp only at h
    split at h <;> cases h
    rfl
  have hblank : CharClass.blank.holds true '?'.toNat = false := by decide
  rw [step_plain_of_nothing hpending] at hstep
  unfold acceptPlain at hstep
  simp only [hblank, repeatLast, hterms, Bool.and_false, Bool.false_eq_true, ↓reduceIte] at hstep
  simp at hstep

/-- Taking a piece does not change the outlook. -/
theorem accept_outlook {last : ExprReader} (hreader : reader.Registered)
    (hescape : piece ≠ .plain '\\') (hlone : piece ≠ .lone)
    (hgoes : reader.pending.GoesOn (some piece))
    (hopen : piece = .plain '(' → reader.pending.Exposes)
    (hwords : ∀ name, some name ∈ later.groupNames → ∀ c ∈ name.toList, isGroupNameChar c = true)
    (h : reader.accept piece = .ok later) (hrest : later.run rest = .ok last) :
    later.outlook rest = reader.outlook (piece :: rest) := by
  have hparen (hpending : reader.pending = .opening .paren) : piece = .plain '?' := by
    rw [hpending] at hgoes
    exact Option.some.inj hgoes
  obtain hkeeps | ⟨text, hpending, rfl, hname⟩ := accept_enlists hparen h
  · have hbegun : ShowAlike (reader.pending.begun ++ piece.text) later.pending.begun := by
      by_cases hpiece : piece = .plain '('
      · subst hpiece
        rw [accept_opening hgoes (hopen rfl) h]
        exact fun _ => rfl
      · refine accept_begun hpiece hescape hlone hgoes (fun text hpending hend => ?_) h
        subst hend
        simp only [accept, hpending] at h
        have hopened := (openCapture_eq (nameGroup_eq h).2).1
        rw [hkeeps.opened] at hopened
        exact absurd hopened (Nat.succ_ne_self _).symm
    rw [outlook, outlook, hkeeps.groupNames, List.flatMap_cons, ← List.append_assoc,
      hbegun (rest.flatMap Piece.text)]
  · obtain ⟨hempty, hcapture⟩ := nameGroup_eq hname
    obtain ⟨_, hnames⟩ := openCapture_groupNames hreader hcapture
    have hlater : later.pending.begun = [] := congrArg (·.pending.begun) (nameGroup_outline hname)
    have hchars : ∀ c ∈ text, isGroupNameChar c = true := by
      have hword := hwords (String.ofList text) (by simp [hnames])
      simpa using hword
    have htext : (rest.flatMap Piece.text).head? ≠ some '?' :=
      head?_text_ne (head?_ne_of_nameGroup hname hrest)
    have hnamed := captureNames_named hempty hchars htext
    rw [outlook, outlook, hnames, hlater, hpending]
    simp [Pending.begun, Piece.text, hnamed]

/-- What is pending in front of each opening parenthesis of a text, as far as the text can be read.
-/
def openings (reader : ExprReader) : List Piece → List Pending
  | [] => []
  | piece :: rest =>
      let ahead :=
        match reader.step piece with
        | .ok later => later.openings rest
        | .error _ => []
      if piece = .plain '(' then reader.pending :: ahead else ahead

/-- Reading a text in which every opening parenthesis is read as one does not change the outlook. -/
theorem run_outlook {pieces : List Piece} (hreader : reader.Registered)
    (hescape : .plain '\\' ∉ pieces) (hopen : ∀ pending ∈ reader.openings pieces, pending.Exposes)
    (hwords : ∀ name, some name ∈ later.groupNames → ∀ c ∈ name.toList, isGroupNameChar c = true)
    (h : reader.run pieces = .ok later) : later.outlook [] = reader.outlook pieces := by
  induction pieces generalizing reader with
  | nil =>
      cases (run_nil reader).symm.trans h
      rfl
  | cons piece rest ih =>
      obtain ⟨hlone, middle, hstep, hrest⟩ := run_cons.mp h
      obtain ⟨settled, hsettle, haccept⟩ := step_eq_ok.mp hstep
      obtain ⟨hsettled, hsame⟩ := @settle_outlook _ _ piece rest hreader hsettle
      obtain ⟨hmiddle, _⟩ := step_groupNames hreader hstep
      obtain ⟨_, hstart⟩ := run_groupNames hmiddle hrest
      have hescape := not_or.mp (mt List.mem_cons.mpr hescape)
      simp only [openings, hstep] at hopen
      have hahead : ∀ pending ∈ middle.openings rest, pending.Exposes := by
        intro pending hpending
        apply hopen
        split
        · exact List.mem_cons_of_mem _ hpending
        · exact hpending
      have hhere (hpiece : piece = .plain '(') : settled.pending.Exposes := by
        rw [if_pos hpiece] at hopen
        exact settle_exposes (hopen _ List.mem_cons_self) hsettle
      rw [ih hmiddle hescape.2 hahead hrest, ← hsame]
      exact accept_outlook hsettled (Ne.symm hescape.1) hlone (settle_goesOn hsettle) hhere
        (fun name hname => hwords name (hstart.subset hname)) haccept hrest

/-- An expression that ends has no opening in progress. -/
theorem finish_begun {done : ExprReader} (h : reader.finish = .ok done) :
    done.opened = reader.opened ∧ reader.pending.begun = [] := by
  obtain ⟨hsettle, hfault, houter, _⟩ := finish_eq_ok.mp h
  obtain ⟨hparen, hkeeps⟩ | ⟨_, _, hopen⟩ := settle_enlists hsettle
  · refine ⟨hkeeps.opened, ?_⟩
    have hgoes := settle_goesOn hsettle
    rw [← settle_begun hparen hsettle]
    cases hpending : done.pending with
    | opening opening =>
        rw [hpending] at hfault hgoes
        cases opening with
        | paren => cases hgoes
        | question | extension | groupName | groupReference => cases hfault
        | _ => rfl
    | escape unit =>
        rw [hpending] at hgoes
        cases hgoes
    | _ => rfl
  · have hdone := congrArg (·.outer) (openCapture_outline hopen)
    simp [outline, Outline.enter, houter] at hdone

end ExprReader

/-! ## Keys of an expression -/

namespace Expression

/-- The names of the groups of an expression, in the order of their numbers. -/
def groupNames (source : String) (flags : Flags) : List (Option String) :=
  match (start flags).run (Piece.ofText source.toList) with
  | .ok reader => reader.groupNames
  | .error _ => []

/-- What is pending in front of each opening parenthesis of an expression. -/
def openings (source : String) (flags : Flags) : List Pending :=
  (start flags).openings (Piece.ofText source.toList)

end Expression

/-- The pieces of a text have no backslash of their own. -/
theorem Piece.backslash_notMem_ofText (text : List Char) : .plain '\\' ∉ ofText text := by
  fun_induction ofText text with
  | case1 => simp
  | case2 => simp
  | case3 c rest ih => simpa using ih
  | case4 c rest hlone hescaped ih =>
      have hc : c ≠ '\\' := by
        rintro rfl
        cases rest with
        | nil => exact hlone rfl rfl
        | cons next rest => exact hescaped next rest rfl rfl
      simpa using ⟨Ne.symm hc, ih⟩

variable {source : String} {flags : Flags} {expression : Expression}

/-- There are as many names as groups. -/
theorem Expression.length_groupNames (h : Expression.read source flags = .ok expression) :
    (groupNames source flags).length = expression.groups := by
  obtain ⟨reading, done, hrun, hfinish, _, _, rfl⟩ := Expression.read_eq_ok.mp h
  simp [groupNames, hrun, ExprReader.groupNames, (finish_begun hfinish).1]

/-- The text of an expression shows its groups by name and in order. -/
theorem Expression.captureNames_eq (hread : Expression.read source flags = .ok expression)
    (hopen : ∀ pending ∈ openings source flags, pending.Exposes)
    (hwords : ∀ name, some name ∈ groupNames source flags →
      ∀ c ∈ name.toList, isGroupNameChar c = true) :
    (captureNames false source.toList).map (Option.map String.ofList) =
      groupNames source flags := by
  obtain ⟨reading, done, hrun, hfinish, _⟩ := Expression.read_eq_ok.mp hread
  have hnames : groupNames source flags = reading.groupNames := by
    simp only [groupNames, hrun]
  rw [hnames] at hwords ⊢
  have houtlook := run_outlook (by simp [start, Registered])
    (Piece.backslash_notMem_ofText source.toList) hopen hwords hrun
  rw [outlook, outlook, (finish_begun hfinish).2, Piece.text_ofText] at houtlook
  simpa [captureNames, start, ExprReader.groupNames, Pending.begun] using houtlook.symm

/-- The key of a group: it has the name of the group, or the number of groups without a name in front
of it, and nothing more. -/
def Key.ofGroup (unnamed : Nat) (name : Option String) : Key where
  name :=
    match name with
    | some name => .named name
    | none => .positional unnamed
  before := ""
  after := ""
  pattern := ""
  modifier := ""

/-- The keys of groups in a row. -/
def Key.ofGroups (names : List (Option String)) : List Key :=
  names.mapIdx fun index name => .ofGroup ((names.take index).count none) name

/-- Keys are counted along the names. -/
theorem groupKeys_eq (unnamed : Nat) (shown : List (Option (List Char))) :
    groupKeys unnamed shown = (shown.map (Option.map String.ofList)).mapIdx fun index name =>
      .ofGroup (unnamed + ((shown.map (Option.map String.ofList)).take index).count none) name := by
  induction shown generalizing unnamed with
  | nil => rfl
  | cons name rest ih =>
      rw [List.map_cons, List.mapIdx_cons]
      cases name with
      | none =>
          rw [groupKeys, ih]
          simp [Key.ofGroup, Nat.add_assoc, Nat.add_comm 1]
      | some name =>
          rw [groupKeys, ih]
          simp [Key.ofGroup]

/-- The name is made of letters, digits and underscores of ASCII. -/
def IsAsciiWord (name : String) : Prop :=
  ∀ c ∈ name.toList, c.isAlphanum = true ∨ c = '_'

instance (name : String) : Decidable (IsAsciiWord name) :=
  List.decidableBAll (fun c : Char => c.isAlphanum = true ∨ c = '_') name.toList

/-- A letter, digit or underscore of ASCII may stand in the name of a group. -/
theorem isGroupNameChar_of_ascii {c : Char} (h : c.isAlphanum = true ∨ c = '_') :
    isGroupNameChar c = true := by
  obtain h | rfl := h
  · have h : (decide (c.val ≥ 'A'.val ∧ c.val ≤ 'Z'.val) ||
        (decide (c.val ≥ 'a'.val) && decide (c.val ≤ 'z'.val)) ||
        (decide (c.val ≥ '0'.val) && decide (c.val ≤ '9'.val))) = true := h
    simp only [Bool.or_eq_true, Bool.and_eq_true, decide_eq_true_eq, ge_iff_le,
      UInt32.le_iff_toNat_le] at h
    have hrange : ((65 ≤ c.toNat ∧ c.toNat ≤ 90) ∨ (97 ≤ c.toNat ∧ c.toNat ≤ 122)) ∨
      (48 ≤ c.toNat ∧ c.toNat ≤ 57) := h
    have hsmall : c.toNat < 128 := by omega
    simp only [isGroupNameChar, isWord, isLetter, isNumeral, if_pos hsmall, Bool.or_eq_true,
      Bool.and_eq_true, decide_eq_true_eq, beq_iff_eq]
    omega
  · decide

namespace Path

/-- Compiling an expression leaves it as it is. If every unescaped opening parenthesis in its text is
read as the opening of a group, and the names of its groups are words of ASCII, then its keys are
those of its groups. -/
theorem compileInto_exposed {options : Options} {keys : List Key}
    (hread : Expression.read source flags = .ok expression)
    (hopen : ∀ pending ∈ Expression.openings source flags, pending.Exposes)
    (hwords : ∀ name, some name ∈ Expression.groupNames source flags → IsAsciiWord name) :
    (Path.expression expression).compileInto options (some keys) =
        (.ok expression,
          some (keys ++ Key.ofGroups (Expression.groupNames source flags))) ∧
      (Expression.groupNames source flags).length = expression.groups := by
  have hnames := Expression.captureNames_eq hread hopen fun name hname c hc =>
    isGroupNameChar_of_ascii (hwords name hname c hc)
  have hkeys : expression.keys = Key.ofGroups (Expression.groupNames source flags) := by
    obtain ⟨_, _, _, _, _, _, rfl⟩ := Expression.read_eq_ok.mp hread
    rw [Expression.keys, groupKeys_eq, hnames]
    simp [Key.ofGroups]
  refine ⟨?_, Expression.length_groupNames hread⟩
  rw [compileInto, hkeys]
  rfl

/-- A named group and an unnamed one behind an escaped parenthesis give a key each. -/
theorem compileInto_exposed_escaped :
    ∃ expression, Expression.read "(?P<y>a)\\((b)" {} = .ok expression ∧ expression.groups = 2 ∧
      (Path.expression expression).compileInto {} (some []) =
        (.ok expression, some [{ name := .named "y" }, { name := .positional 0 }]) := by
  obtain ⟨expression, hread⟩ : ∃ expression,
      Expression.read "(?P<y>a)\\((b)" {} = .ok expression :=
    (Option.isSome_iff_exists.mp (by decide +kernel)).imp fun _ => toOption_eq_some.mp
  have hnames : Expression.groupNames "(?P<y>a)\\((b)" {} = [some "y", none] := by
    decide +kernel
  obtain ⟨hcompile, hcount⟩ := @compileInto_exposed _ _ _ {} [] hread (by decide +kernel) (by
    rw [hnames]
    intro name hname
    obtain rfl : name = "y" := by simpa using hname
    decide +kernel)
  rw [hnames] at hcompile hcount
  exact ⟨expression, hread, hcount.symm, hcompile⟩

/-- In a verbose part of an expression that is not verbose as a whole, a parenthesis in a remark opens
no group, but there is a key for it. -/
theorem compileInto_remark :
    (∀ pending ∈ Expression.openings "(?x:#(\n)" {}, pending.inSet = false ∧
      pending.inComment = false ∧ pending.inCondition = false) ∧
    Expression.groupNames "(?x:#(\n)" {} = [] ∧
    ∃ expression, Expression.read "(?x:#(\n)" {} = .ok expression ∧
      expression.flags.verbose = false ∧ expression.groups = 0 ∧
      (Path.expression expression).compileInto {} (some []) =
        (.ok expression, some [{ name := .positional 0 }]) := by
  refine ⟨by decide +kernel, by decide +kernel, ⟨"(?x:#(\n)", {}, .seq .empty .empty, 0⟩,
    toOption_eq_some.mp (by decide +kernel), rfl, rfl, ?_⟩
  have hkeys : (⟨"(?x:#(\n)", {}, .seq .empty .empty, 0⟩ : Expression).keys =
      [{ name := .positional 0 }] := by
    decide +kernel
  rw [compileInto, hkeys]
  rfl

end Path

end RoutePattern
