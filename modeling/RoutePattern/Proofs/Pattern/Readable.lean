import RoutePattern.Build
import RoutePattern.Proofs.Expr.Demand
import RoutePattern.Proofs.Pattern.Source

/-!
# What a pattern that compiles tells about its keys

The expression of a key is `Telling` if it may stand inside a group whenever it has been read there;
it is if it is the standard one or has been checked by itself. `sourceReadable_of_compile` is the
main result: if the expression of a pattern can be read, then so can everything that it is put
together from, with the meaning that it has by itself. `embeddable_of_wrapped` says the same of a
single key whose expression has been wrapped in a group.
-/

namespace RoutePattern

open ExprReader

variable {options : Options}

/-- The expression of a key is the standard one, or it can be read by itself and has no capture
group. -/
def Key.StandsAlone (options : Options) (key : Key) : Prop :=
  key.pattern = defaultPattern options.delimiter ∨
    ∃ expression, Expression.read key.pattern options.flags = .ok expression ∧
      expression.groups = 0

instance (options : Options) (key : Key) : Decidable (key.StandsAlone options) :=
  decidable_of_iff (key.pattern = defaultPattern options.delimiter ∨
      ((Expression.read key.pattern options.flags).toOption.any (·.groups == 0)) = true) <| by
    simp only [Key.StandsAlone, Option.any_eq_true, toOption_eq_some, beq_iff_eq]

/-- Characters that are not empty as a text are not empty as a list. -/
theorem toList_ne_nil {text : String} (h : text.isEmpty = false) : text.toList ≠ [] := by
  intro hnil
  rw [String.toList_eq_nil_iff] at hnil
  simp [hnil] at h

/-- The standard expression as characters. -/
theorem toList_defaultPattern (delimiter : String) :
    (defaultPattern delimiter).toList = setText true delimiter.toList ++ ['+', '?'] := by
  simp [defaultPattern, setText, toList_escape]

/-- The standard expression repeats its set. -/
theorem read_defaultPattern (options : Options) {test : CharTest}
    (htest : readSet options.flags.fold true options.delimiter.toList = .ok test) :
    Expression.read (defaultPattern options.delimiter) options.flags =
      .ok ⟨defaultPattern options.delimiter, options.flags, .loop .lazy 1 none (.char test), 0⟩ := by
  have hset := @Atom.set options.flags rfl true _ (toList_ne_nil options.isEmpty_delimiter) _ htest
  have hloop := (hset.lazy rfl fun _ => rfl).stretch
  rw [← toList_defaultPattern] at hloop
  refine hloop.read ?_
  have hgranted := (Expr.Granted.char false test).loop .lazy 1 none
  simpa [Term.items, Term.body, Options.flags] using hgranted

/-- Where the set of the standard expression can be read, the expression may stand anywhere. -/
theorem embeddable_defaultPattern (options : Options) {test : CharTest}
    (htest : readSet options.flags.fold true options.delimiter.toList = .ok test) :
    Embeddable options.flags (defaultPattern options.delimiter) := by
  have hset := @Atom.set options.flags rfl true _ (toList_ne_nil options.isEmpty_delimiter) _ htest
  have hcontent := (hset.lazy rfl fun _ => rfl).stretch.content rfl
  -- In a group that is opened at the start it is read to the end.
  let host : ExprReader := { start options.flags with
    frame := { kind := .bare, flags := options.flags }, outer := [(start options.flags).frame] }
  obtain ⟨last, hrun, _⟩ := hcontent.reads host _ _ .bare rfl rfl rfl rfl
  rw [← toList_defaultPattern] at hrun hcontent
  refine Embeddable.fills (read_defaultPattern options htest) rfl host last .bare [')'] rfl rfl rfl
    (by simp [host]) ?_
  rwa [Piece.ofText_append hcontent.whole, Piece.ofText_plain (by decide), Piece.ofText]

/-- The standard expression repeats its test. -/
theorem readItems_defaultPattern (options : Options) {test : CharTest}
    (htest : readSet options.flags.fold true options.delimiter.toList = .ok test) :
    Expr.ofList (readItems options.flags (defaultPattern options.delimiter)) =
      .loop .lazy 1 none (.char test) := by
  have hread := (embeddable_defaultPattern options htest).read_eq
  have hsame := hread.symm.trans (read_defaultPattern options htest)
  have hexpr := congrArg Expression.expr (Except.ok.inj hsame)
  dsimp only at hexpr
  exact hexpr

/-- Reading the expression of a key at the beginning of a group, up to the parenthesis that closes
it, tells that it may stand there. -/
structure Key.Telling (options : Options) (key : Key) : Prop where
  fills : Fills options.flags (key.pattern.toList ++ [')']) (Nestable options.flags key.pattern)
  head : key.pattern.toList.head? ≠ some '?'

/-- The expression of a key that stands alone may stand in a group that has been read. -/
theorem Key.StandsAlone.telling {key : Key} (h : key.StandsAlone options) :
    key.Telling options := by
  rcases h with h | ⟨expression, hread, hgroups⟩
  · refine ⟨?_, by simp [h, toList_defaultPattern, setText]⟩
    intro reader last kind rest hpending hframe hkind houter hrun
    rw [h] at hrun ⊢
    have hset := @Demands.set options.flags rfl true _
      (toList_ne_nil options.isEmpty_delimiter)
    have hfills := (hset.more ['+', '?', ')']).fills
    have htext : (defaultPattern options.delimiter).toList ++ [')'] =
        setText true options.delimiter.toList ++ ['+', '?', ')'] := by
      simp [toList_defaultPattern]
    rw [htext] at hrun
    obtain ⟨test, htest⟩ := hfills reader last kind rest hpending hframe hkind houter hrun
    rw [← htext, List.append_assoc] at hrun
    exact (Embeddable.fills (read_defaultPattern options htest) rfl reader last kind _ hpending
      hframe hkind houter hrun).nestable
  · refine ⟨?_, ?_⟩
    · intro reader last kind rest hpending hframe hkind houter hrun
      rw [List.append_assoc] at hrun
      exact (Embeddable.fills hread hgroups reader last kind _ hpending hframe hkind houter
        hrun).nestable
    · obtain ⟨_, _, hrun, _⟩ := Expression.read_eq_ok.mp hread
      exact head?_of_run rfl hrun

namespace Key.Telling

variable {key : Key}

/-- The text inside the group of a key demands that its expression may stand there. -/
theorem fills_content (h : key.Telling options) :
    Fills options.flags ((key.content options).toList ++ [')'])
      (Nestable options.flags key.pattern) := by
  unfold Key.content
  split
  · have hbare := (h.fills.bare rfl).more (("(?:" ++ escape (options.encode key.after)
      ++ escape (options.encode key.before) ++ "(?:" ++ key.pattern ++ "))*)").toList)
    simpa using hbare.fills
  · exact h.fills

/-- The group of a key demands that its expression may stand there. -/
theorem demands_group (h : key.Telling options) :
    Demands options.flags ('(' :: ((key.content options).toList ++ [')']))
      (Nestable options.flags key.pattern) := by
  refine h.fills_content.capture rfl (by simp) ?_
  unfold Key.content
  split
  · simp
  · have hhead := h.head
    cases htext : key.pattern.toList with
    | nil => simp
    | cons c rest => simpa [htext] using hhead

/-- The text of a key demands that its expression can be read inside of groups. -/
theorem demands (h : key.captures = true → key.Telling options)
    (hmodifier : IsModifier key.modifier) :
    Demands options.flags (key.source (escape (options.encode key.before))
      (escape (options.encode key.after))).toList (key.Nests options) := by
  intro reader last rest hrested hflags hrun
  refine ⟨hmodifier, fun hcaptures => ?_⟩
  have hgroup := (h hcaptures).demands_group
  rw [key.source_of_captures hcaptures] at hrun
  split at hrun
  · have hall := hgroup.more (key.mark options).toList
    refine hall reader last rest hrested hflags ?_
    simpa using hrun
  · have hwrapped := (((hgroup.after (stretch_literal options key.before)).fills.bare rfl).more
      (escape (options.encode key.after) ++ ")" ++ key.mark options).toList)
    refine hwrapped reader last rest hrested hflags ?_
    simpa using hrun

end Key.Telling

/-- The text of some parts demands that the expressions of their keys can be read inside of
groups. -/
theorem joinedSource_demands {parts : List Part}
    (hmodifiers : ∀ key, Part.key key ∈ parts → IsModifier key.modifier)
    (hkeys : ∀ key, Part.key key ∈ parts → key.captures = true → key.Telling options) :
    Demands options.flags (String.join (parts.map (Part.source options))).toList
      (∀ key, Part.key key ∈ parts → key.Nests options) := by
  induction parts with
  | nil => exact .of_true (by simp)
  | cons part rest ih =>
      have hfirst : Demands options.flags (part.source options).toList
          (∀ key, part = .key key → key.Nests options) := by
        cases part with
        | text literal => exact .of_true (by simp)
        | key k =>
            intro reader last later hrested hflags hrun key hkey
            cases hkey
            exact Key.Telling.demands (hkeys k (by simp)) (hmodifiers k (by simp)) reader last
              later hrested hflags hrun
      have hrest := ih (fun key hkey => hmodifiers key (by simp [hkey]))
        (fun key hkey => hkeys key (by simp [hkey]))
      have hall := hfirst.append Part.source_reads hrest
      intro reader last later hrested hflags hrun
      obtain ⟨hpart, hothers⟩ := hall reader last later hrested hflags (by simpa using hrun)
      intro key hkey
      rcases List.mem_cons.mp hkey with hkey | hkey
      · exact hpart key hkey.symm
      · exact hothers key hkey

/-! ## The sets of the options -/

/-- A set of the options demands that its characters can be read. -/
theorem oneOf_demands {chars : String} (hchars : chars.isEmpty = false) :
    Demands options.flags (oneOf chars).toList
      (∃ test, readSet options.flags.fold false chars.toList = .ok test) := by
  have hset := @Demands.set options.flags rfl false _ (toList_ne_nil hchars)
  simpa [oneOf, toList_escape, setText] using hset

/-- The text for the end demands that the further ends can be read, if there are any. -/
theorem endSource_demands : Demands options.flags options.endSource.toList
    (options.endsWith.isEmpty = false →
      ∃ test, readSet options.flags.fold false options.endsWith.toList = .ok test) := by
  unfold Options.endSource
  cases hempty : options.endsWith.isEmpty with
  | true => exact .of_true (by simp)
  | false =>
      have hset := (@oneOf_demands options _ hempty).more "|\\Z".toList
      simpa using hset

/-- The text behind the parts demands that the sets in it can be read when a match has to reach the
end. -/
theorem closedEnd_demands : Demands options.flags options.closedEnd.toList
    ((options.strict = false →
        ∃ test, readSet options.flags.fold false options.delimiter.toList = .ok test) ∧
      (options.endsWith.isEmpty = false →
        ∃ test, readSet options.flags.fold false options.endsWith.toList = .ok test)) := by
  have hfirst : Demands options.flags
      (if options.strict then "" else oneOf options.delimiter ++ "?").toList
        (options.strict = false →
          ∃ test, readSet options.flags.fold false options.delimiter.toList = .ok test) := by
    cases hstrict : options.strict with
    | true => exact .of_true (by simp)
    | false =>
        have hset := (@oneOf_demands options _ options.isEmpty_delimiter).more ['?']
        simpa using hset
  have hsecond : Demands options.flags (if options.endsWith.isEmpty then "\\Z"
      else "(?=" ++ options.endSource ++ ")").toList (options.endsWith.isEmpty = false →
        ∃ test, readSet options.flags.fold false options.endsWith.toList = .ok test) := by
    cases hempty : options.endsWith.isEmpty with
    | true => exact .of_true (by simp)
    | false =>
        have hlook := ((@endSource_demands options).fills.ahead rfl).more [')']
        simpa [hempty] using hlook
  have hall := hfirst.append closedDelimiter_reads hsecond
  unfold Options.closedEnd
  simpa using hall

/-- The text behind the parts demands that the sets in it can be read when a match may end at any
delimiter. -/
theorem openEnd_demands (isDelimited : Bool) :
    Demands options.flags (options.openEnd isDelimited).toList
      (options.strict = false ∨ isDelimited = false →
        (∃ test, readSet options.flags.fold false options.delimiter.toList = .ok test) ∧
          (options.endsWith.isEmpty = false →
            ∃ test, readSet options.flags.fold false options.endsWith.toList = .ok test)) := by
  have hset := @oneOf_demands options _ options.isEmpty_delimiter
  have hstretch (h : ∃ test, readSet options.flags.fold false options.delimiter.toList = .ok test) :=
    (oneOf_reads options.isEmpty_delimiter h).stretch
  have hfirst : Demands options.flags (if options.strict then "" else "(?:"
      ++ oneOf options.delimiter ++ "(?=" ++ options.endSource ++ "))?").toList
        (options.strict = false →
          (∃ test, readSet options.flags.fold false options.delimiter.toList = .ok test) ∧
            (options.endsWith.isEmpty = false →
              ∃ test, readSet options.flags.fold false options.endsWith.toList = .ok test)) := by
    cases hstrict : options.strict with
    | true => exact .of_true (by simp)
    | false =>
        have hboth := hset.append hstretch ((@endSource_demands options).fills.ahead rfl)
        have hgroup := (hboth.fills.bare rfl).more "))?".toList
        simpa using hgroup
  have hsecond : Demands options.flags (if isDelimited then ""
      else "(?=" ++ oneOf options.delimiter ++ "|" ++ options.endSource ++ ")").toList
        (isDelimited = false →
          (∃ test, readSet options.flags.fold false options.delimiter.toList = .ok test) ∧
            (options.endsWith.isEmpty = false →
              ∃ test, readSet options.flags.fold false options.endsWith.toList = .ok test)) := by
    cases isDelimited with
    | true => exact .of_true (by simp)
    | false =>
        have hboth := hset.append hstretch ((@endSource_demands options).bar rfl)
        have hlook := (hboth.fills.ahead rfl).more [')']
        simpa using hlook
  have hall := hfirst.append (fun h => openDelimiter_reads (fun hstrict => (h hstrict).1)
    (fun hstrict => (h hstrict).2)) hsecond
  unfold Options.openEnd
  intro reader last rest hrested hflags hrun
  obtain ⟨hstrict, hdelimited⟩ := hall reader last rest hrested hflags (by simpa using hrun)
  rintro (h | h)
  · exact hstrict h
  · exact hdelimited h

/-! ## Whole patterns -/

/-- The text of a pattern demands that the expressions of its keys can be read inside of groups and
that the sets in it can be read. -/
theorem partsSource_demands {parts : List Part}
    (hmodifiers : ∀ key, Part.key key ∈ parts → IsModifier key.modifier)
    (hkeys : ∀ key, Part.key key ∈ parts → key.captures = true → key.Telling options) :
    Demands options.flags (partsSource options parts).toList
      ((∀ key, Part.key key ∈ parts → key.Nests options) ∧
        (usesDelimiter options parts = true →
          ∃ test, readSet options.flags.fold false options.delimiter.toList = .ok test) ∧
        (usesEndsWith options parts = true →
          ∃ test, readSet options.flags.fold false options.endsWith.toList = .ok test)) := by
  have hend : Demands options.flags (if options.anchorEnd then options.closedEnd
      else options.openEnd (endsDelimited options parts)).toList
        ((usesDelimiter options parts = true →
          ∃ test, readSet options.flags.fold false options.delimiter.toList = .ok test) ∧
        (usesEndsWith options parts = true →
          ∃ test, readSet options.flags.fold false options.endsWith.toList = .ok test)) := by
    unfold usesEndsWith usesDelimiter
    cases options.anchorEnd with
    | true =>
        intro reader last rest hrested hflags hrun
        obtain ⟨hdelimiter, hends⟩ := closedEnd_demands reader last rest hrested hflags hrun
        exact ⟨fun huses => hdelimiter (by simpa using huses),
          fun huses => hends (by simpa using huses)⟩
    | false =>
        intro reader last rest hrested hflags hrun
        have hboth := openEnd_demands _ reader last rest hrested hflags hrun
        simp only [Bool.not_false, Bool.true_and, Bool.false_or, Bool.or_eq_true, Bool.and_eq_true,
          Bool.not_eq_eq_eq_not, Bool.not_true]
        exact ⟨fun huses => (hboth huses).1, fun huses => (hboth huses.2).2 huses.1⟩
  have hall := ((joinedSource_demands hmodifiers hkeys).append joinedSource_reads hend).after
    (anchorStart_reads options)
  intro reader last rest hrested hflags hrun
  exact hall reader last rest hrested hflags (by simpa [partsSource] using hrun)

/-- If parts can be compiled, everything that their expression is put together from can be read. -/
theorem sourceReadable_of_compile {parts : List Part} {expression : Expression}
    (h : compileParts options parts = .ok expression)
    (hmodifiers : ∀ key, Part.key key ∈ parts → IsModifier key.modifier)
    (hkeys : ∀ key, Part.key key ∈ parts → key.captures = true → key.Telling options) :
    SourceReadable options parts := by
  obtain ⟨reading, _, hrun, _⟩ := Expression.read_eq_ok.mp h
  obtain ⟨hnests, hdelimiter, hends⟩ := partsSource_demands hmodifiers hkeys (start options.flags)
    reading [] (.inl rfl) rfl (by rwa [List.append_nil])
  obtain ⟨hgranted, _⟩ := (partsSource_reads hnests hdelimiter hends).read_eq_ok.mp h
  -- What the whole expression asks for can be met, so what each key asks for can be met, too.
  have hparts : ∀ e ∈ partsItems options 0 parts, e.Granted false := by
    unfold sourceItems at hgranted
    exact (List.forall_mem_append.mp (List.forall_mem_append.mp hgranted).1).2
  refine ⟨fun key hkey => ⟨(hnests key hkey).1, fun hcaptures => ?_⟩, hdelimiter, hends⟩
  exact ((hnests key hkey).2 hcaptures).embeddable_iff.mpr
    (granted_of_partsItems hparts hkey hcaptures)

/-- A nestable expression in a group of its own stands for the expressions that it stands for by
itself. -/
theorem stretch_wrapped {pattern : String} (h : Nestable options.flags pattern) :
    Stretch options.flags ("(?:" ++ pattern ++ ")").toList 0 fun _ =>
      readItems options.flags pattern := by
  simpa [Term.items] using ((h.content rfl).bare rfl).stretch

/-- The expression of a key that can be read inside a group of its own may stand in one. -/
theorem embeddable_of_wrapped {key : Key} {expression : Expression}
    (h : Expression.read ("(?:" ++ key.pattern ++ ")") options.flags = .ok expression)
    (hkey : key.Telling options) : Embeddable options.flags key.pattern := by
  obtain ⟨reading, _, hrun, _⟩ := Expression.read_eq_ok.mp h
  have hnestable := (hkey.fills.bare rfl) (start options.flags) reading [] (.inl rfl) rfl
    (by simpa using hrun)
  exact hnestable.embeddable_iff.mpr ((stretch_wrapped hnestable).read_eq_ok.mp h).1

/-- An expression that may stand in a group means the same in a group of its own. -/
theorem read_wrapped {pattern : String} (h : Embeddable options.flags pattern) :
    Expression.read ("(?:" ++ pattern ++ ")") options.flags =
      .ok ⟨"(?:" ++ pattern ++ ")", options.flags, .ofList (readItems options.flags pattern), 0⟩ :=
  (stretch_wrapped h.nestable).read h.granted

end RoutePattern
