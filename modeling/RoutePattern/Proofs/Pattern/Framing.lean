import RoutePattern.Proofs.Expr.Restating
import RoutePattern.Proofs.Pattern.Readable

/-!
# What stands around the parts

The expression of a pattern has a beginning and an end, which depend on the options, and what the
parts say in between. `Restates.framed` is the main result: of two patterns whose parts say the same,
both expressions have the same middle, whatever the keys say by themselves. `Key.restates_source` says
that the text of a key with a valid expression says the same wherever it stands.
-/

namespace RoutePattern

open ExprReader

variable {flags : Flags} {options options' : Options}

/-! ## The beginning -/

/-- The text in front of the parts. -/
def Options.headText (options : Options) : List Char :=
  (if options.anchorStart then "^" else "").toList

/-- The expressions in front of the parts. -/
def Options.headItems (options : Options) : List Expr :=
  if options.anchorStart then [.anchor .textStart] else []

/-- Reading the text in front of the parts adds its expressions and records nothing. -/
theorem run_headText (options : Options) : Piece.Whole options.headText ∧ ∃ reader terms,
    (start options.flags).run (Piece.ofText options.headText) = .ok reader ∧
      (start options.flags).Adds reader terms ∧ terms.flatMap Term.items = options.headItems ∧
        reader.record = (start options.flags).record := by
  unfold Options.headText Options.headItems
  cases options.anchorStart with
  | true =>
      refine ⟨.plain (by decide) .nil, (start options.flags).push (.item (.anchor .textStart)),
        [.item (.anchor .textStart)], rfl, ?_, rfl, rfl⟩
      exact (extends_push (start options.flags) (.item (.anchor .textStart))).adds
  | false => exact ⟨.nil, start options.flags, [], rfl, .refl (.inl rfl), rfl, rfl⟩

/-! ## The end -/

/-- A text stands for expressions wherever it has been read. -/
def Trails (flags : Flags) (text : List Char) (items : List Expr) : Prop :=
  Demands flags text (Stretch flags text 0 fun _ => items)

/-- A stretch stands for its expressions. -/
theorem Stretch.trails {text : List Char} {items : List Expr}
    (h : Stretch flags text 0 fun _ => items) : Trails flags text items :=
  .of_true h

/-- Two such texts in a row stand for their expressions in a row. -/
theorem Trails.append {first second : List Char} {items others : List Expr}
    (hfirst : Trails flags first items) (hsecond : Trails flags second others) :
    Trails flags (first ++ second) (items ++ others) := by
  intro reader last rest hrested hflags hrun
  obtain ⟨hstretch, hstretch'⟩ := Demands.append hfirst (fun h => h) hsecond reader last rest
    hrested hflags hrun
  exact hstretch.append hstretch'

/-- The text behind the parts. -/
def Options.tailText (options : Options) (parts : List Part) : List Char :=
  (if options.anchorEnd then options.closedEnd
    else options.openEnd (endsDelimited options parts)).toList

/-- The expressions behind the parts. -/
def Options.tailItems (options : Options) (parts : List Part) : List Expr :=
  if options.anchorEnd then options.closedItems else options.openItems (endsDelimited options parts)

/-- The text behind the parts stands for its expressions. -/
theorem trails_tailText (options : Options) (parts : List Part) :
    Trails options.flags (options.tailText parts) (options.tailItems parts) := by
  unfold Options.tailText Options.tailItems
  intro reader last rest hrested hflags hrun
  cases hend : options.anchorEnd with
  | true =>
      rw [hend] at hrun
      obtain ⟨hdelimiter, hends⟩ := closedEnd_demands reader last rest hrested hflags hrun
      exact closedEnd_reads hdelimiter hends
  | false =>
      rw [hend] at hrun
      have hboth := openEnd_demands _ reader last rest hrested hflags hrun
      exact openEnd_reads (fun h => (hboth h).1) (fun h => (hboth h).2)

/-! ## The whole -/

/-- The expressions of the parts, as a text. -/
def Options.middleText (options : Options) (parts : List Part) : List Char :=
  (String.join (parts.map (Part.source options))).toList

/-- The text of a pattern is put together from its three parts. -/
theorem toList_partsSource (options : Options) (parts : List Part) :
    (partsSource options parts).toList =
      options.headText ++ options.middleText parts ++ options.tailText parts := by
  simp [partsSource, Options.headText, Options.middleText, Options.tailText]

/-- What has been read from the start and what stands behind it make an expression. -/
theorem read_behind {front tail : List Char} {reader : ExprReader} {terms : List Term}
    {items : List Expr} {source : String} {expression : Expression} (hwhole : Piece.Whole front)
    (hfront : (start flags).run (Piece.ofText front) = .ok reader)
    (hadds : (start flags).Adds reader terms) (htail : Trails flags tail items)
    (hsource : source.toList = front ++ tail)
    (h : Expression.read source flags = .ok expression) :
    expression.expr = .ofList (terms.flatMap Term.items ++ items) ∧ expression.flags = flags ∧
      expression.groups = reader.opened := by
  obtain ⟨reading, done, hrun, hfinish, _, _, rfl⟩ := Expression.read_eq_ok.mp h
  rw [hsource, Piece.ofText_append hwhole, run_append] at hrun
  obtain ⟨middle, hmiddle, hrun⟩ := hrun
  cases hfront.symm.trans hmiddle
  -- The tail has been read, so it is a stretch and adds its expressions.
  obtain ⟨others, hsegment, hitems⟩ := htail reader reading [] hadds.rested hadds.frame_flags
    (by rwa [List.append_nil])
  obtain ⟨later, hlater, hextends⟩ := hsegment.reads reader hadds.rested hadds.frame_flags
  cases hlater.symm.trans hrun
  have hall := hadds.trans hextends.adds
  obtain ⟨hsettle, _⟩ := finish_eq_ok.mp hfinish
  cases (settle_rested_end hall.rested).symm.trans hsettle
  refine ⟨?_, hall.flags, hextends.beside.opened⟩
  have hbetween : (others reader.opened).flatMap Term.items = items := hitems reader.opened
  rw [← hbetween, ← List.flatMap_append]
  show Expr.ofList reading.rested.frame.items = _
  simp [rested, hall.frame, start, Frame.items, Frame.allBranches, Frame.branch,
    Alternation.ofBranches]

/-- Between their beginnings and ends, texts that say the same make the same expressions. -/
theorem Restates.framed {middle middle' tail tail' : List Char} {items items' : List Expr}
    {source source' : String} {expression expression' : Expression}
    (hmiddle : Restates options.flags middle middle') (hflags : options'.flags = options.flags)
    (htail : Trails options.flags tail items) (htail' : Trails options.flags tail' items')
    (hsource : source.toList = options.headText ++ middle ++ tail)
    (hsource' : source'.toList = options'.headText ++ middle' ++ tail')
    (h : Expression.read source options.flags = .ok expression)
    (h' : Expression.read source' options'.flags = .ok expression') :
    ∃ between, expression.expr = .ofList (options.headItems ++ between ++ items) ∧
      expression'.expr = .ofList (options'.headItems ++ between ++ items') ∧
      expression.flags = options.flags ∧ expression'.flags = options.flags ∧
        expression'.groups = expression.groups := by
  obtain ⟨hwhole, head, headTerms, hhead, hadds, hitems, hrecord⟩ := run_headText options
  obtain ⟨hwhole', head', headTerms', hhead', hadds', hitems', hrecord'⟩ := run_headText options'
  rw [hflags] at hhead' hadds' hrecord' h'
  have htwin : head.Twin options.flags head' :=
    ⟨hadds.rested, hadds'.rested, hadds.frame_flags, hrecord'.trans hrecord.symm⟩
  -- The middle of the first pattern has been read, and so that of the other one can be.
  have hread : ∃ inner, head.run (Piece.ofText middle) = .ok inner := by
    obtain ⟨reading, _, hrun, _⟩ := Expression.read_eq_ok.mp h
    rw [hsource, List.append_assoc, Piece.ofText_append hwhole, run_append] at hrun
    obtain ⟨_, hfront, hrun⟩ := hrun
    cases hhead.symm.trans hfront
    rw [Piece.ofText_append hmiddle.whole, run_append] at hrun
    obtain ⟨inner, hinner, _⟩ := hrun
    exact ⟨inner, hinner⟩
  obtain ⟨inner, hinner⟩ := hread
  obtain ⟨inner', terms, terms', hinner', hboth⟩ := hmiddle.reads htwin hinner
  have hfront : (start options.flags).run (Piece.ofText (options.headText ++ middle)) =
      .ok inner := by
    rw [Piece.ofText_append hwhole, run_append]
    exact ⟨head, hhead, hinner⟩
  have hfront' : (start options.flags).run (Piece.ofText (options'.headText ++ middle')) =
      .ok inner' := by
    rw [Piece.ofText_append hwhole', run_append]
    exact ⟨head', hhead', hinner'⟩
  obtain ⟨hexpr, hflags, hgroups⟩ := read_behind (hwhole.append hmiddle.whole) hfront
    (hadds.trans hboth.adds) htail hsource h
  obtain ⟨hexpr', hflags', hgroups'⟩ := read_behind (hwhole'.append hmiddle.whole') hfront'
    (hadds'.trans hboth.adds') htail' hsource' h'
  rw [List.flatMap_append, hitems] at hexpr
  rw [List.flatMap_append, hitems', hboth.items] at hexpr'
  refine ⟨terms.flatMap Term.items, hexpr, hexpr', hflags, hflags', ?_⟩
  rw [hgroups, hgroups', opened_of_record hboth.record]

/-! ## Keys -/

/-- Encoded literal text says the same wherever it stands. -/
theorem restates_escape (options : Options) (text : String) :
    Restates options.flags (escape (options.encode text)).toList
      (escape (options.encode text)).toList := by
  rw [toList_escape]
  exact .literal rfl _

/-- The expression of a key can be read by itself. -/
def Key.Valid (options : Options) (key : Key) : Prop :=
  IsModifier key.modifier ∧ (key.captures = true →
    ∃ expression, Expression.read key.pattern options.flags = .ok expression)

instance (options : Options) (key : Key) : Decidable (key.Valid options) :=
  decidable_of_iff (IsModifier key.modifier ∧ (key.captures = true →
      (Expression.read key.pattern options.flags).toOption.isSome = true)) <| by
    simp only [Key.Valid, Option.isSome_iff_exists, toOption_eq_some]

namespace Key

variable {key : Key}

/-- What is inside the group of a key says the same wherever it stands. -/
theorem refills_content (hcaptures : key.captures = true) (h : key.Valid options) :
    Refills options.flags (key.content options).toList (key.content options).toList := by
  obtain ⟨expression, hread⟩ := h.2 hcaptures
  have hpattern := Refills.of_read rfl hread
  unfold content
  split
  · have hbare := hpattern.bare rfl
    have htexts := (restates_escape options key.after).append (restates_escape options key.before)
    have hagain := ((Refills.of_restates rfl (htexts.append hbare.restates)).bare rfl).mark rfl
      (.inr (.inl rfl))
    simpa using Refills.of_restates rfl (hbare.restates.append hagain)
  · exact hpattern

/-- The text inside the group of a valid key does not begin with a question mark. -/
theorem Valid.head?_content (hcaptures : key.captures = true) (h : key.Valid options) :
    (key.content options).toList.head? ≠ some '?' := by
  obtain ⟨expression, hread⟩ := h.2 hcaptures
  obtain ⟨_, _, hrun, _⟩ := Expression.read_eq_ok.mp hread
  unfold content
  split
  · simp
  · exact head?_of_run rfl hrun

/-- The text of a valid key says the same wherever it stands. -/
theorem restates_source (h : key.Valid options) :
    Restates options.flags
      (key.source (escape (options.encode key.before)) (escape (options.encode key.after))).toList
      (key.source (escape (options.encode key.before))
        (escape (options.encode key.after))).toList := by
  have hbefore := restates_escape options key.before
  have hafter := restates_escape options key.after
  cases hcaptures : key.captures with
  | false =>
      have hgroup := ((Refills.of_restates rfl (hbefore.append hafter)).bare rfl).modified rfl h.1
      simpa [Key.source, hcaptures] using hgroup
  | true =>
      have hgroup := (refills_content hcaptures h).capture rfl (h.head?_content hcaptures)
        (h.head?_content hcaptures)
      have hmark := isModifier_mark options h.1
      rw [source_of_captures hcaptures]
      split
      · simpa using hgroup.modified rfl hmark
      · have hwrapped := ((Refills.of_restates rfl
          ((hbefore.append hgroup.restates).append hafter)).bare rfl).modified rfl hmark
        simpa using hwrapped

end Key

/-- The texts of parts with valid keys say the same wherever they stand. -/
theorem restates_middleText {parts : List Part}
    (h : ∀ key, Part.key key ∈ parts → key.Valid options) :
    Restates options.flags (options.middleText parts) (options.middleText parts) := by
  induction parts with
  | nil => exact .nil
  | cons part rest ih =>
      have hfirst : Restates options.flags (part.source options).toList
          (part.source options).toList := by
        cases part with
        | text literal => exact restates_escape options literal
        | key k => exact Key.restates_source (h k (by simp))
      have hall := hfirst.append (ih fun key hkey => h key (by simp [hkey]))
      simpa [Options.middleText] using hall

end RoutePattern
