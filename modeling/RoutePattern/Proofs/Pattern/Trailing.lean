import RoutePattern.Proofs.Pattern.Delimiters
import RoutePattern.Proofs.Pattern.Ready
import RoutePattern.Proofs.Pattern.Spelling

/-!
# One delimiter at the end

A pattern that is anchored on both sides accepts the texts that its parts spell, with a delimiter
behind them unless that is refused (`search_anchored_iff`). What the parts spell is the same for both
settings if the expressions of the keys are local, so the settings differ by just that delimiter:
`accepts_trailing_delimiter` is the main result.
-/

namespace RoutePattern

open RoutePattern.Expr

variable {options : Options}

/-! ## Keys with local expressions -/

/-- The expression of a key is the standard one, or by itself it is a local expression without
capture groups. -/
def Key.Local (options : Options) (key : Key) : Prop :=
  key.pattern = defaultPattern options.delimiter ∨
    ∃ expression, Expression.read key.pattern options.flags = .ok expression ∧
      expression.groups = 0 ∧ expression.expr.Local

instance (options : Options) (key : Key) : Decidable (key.Local options) :=
  decidable_of_iff (key.pattern = defaultPattern options.delimiter ∨
      ((Expression.read key.pattern options.flags).toOption.any fun expression =>
        expression.groups == 0 && decide expression.expr.Local) = true) <| by
    simp only [Key.Local, Option.any_eq_true, toOption_eq_some, Bool.and_eq_true, beq_iff_eq,
      decide_eq_true_eq]

namespace Key.Local

variable {key : Key}

/-- A key with a local expression stands alone. -/
theorem standsAlone (h : key.Local options) : key.StandsAlone options := by
  rcases h with hdefault | ⟨expression, hread, hgroups, _⟩
  · exact .inl hdefault
  · exact .inr ⟨expression, hread, hgroups⟩

/-- The expressions of a key with a local expression are local. -/
theorem readItems (h : key.Local options) (hembed : Embeddable options.flags key.pattern) :
    ∀ e ∈ readItems options.flags key.pattern, e.Local := by
  rcases h with hdefault | ⟨expression, hread, _, hlocal⟩
  · rw [hdefault] at hembed ⊢
    obtain ⟨test, _, heq⟩ := exists_standard_test hembed
    apply local_ofList.mp
    rw [heq]
    exact ⟨by simp, trivial⟩
  · cases hread.symm.trans hembed.read_eq
    exact local_ofList.mp hlocal

end Key.Local

/-- Being local is kept. -/
theorem composable_local : Composable Local where
  row := local_ofList.mpr
  char _ := trivial
  group _ _ h := h
  loop _ _ _ h := ⟨by simp, h⟩

/-! ## Searching on both sides -/

/-- A row that begins with a condition on the place begins with no set. -/
theorem searchTest?_anchor (asciiOnly : Bool) (place : Anchor) (rest : List Expr) :
    (ofList (.anchor place :: rest)).searchTest? asciiOnly = none := by
  have hopening : (ofList (.anchor place :: rest)).openingSet? asciiOnly = none := by
    cases rest <;> rfl
  unfold searchTest?
  rw [hopening]
  split <;> rfl

variable {parts : List Part}

/-- The expression of a pattern whose keys have local expressions is direct. -/
theorem direct_sourceItems (hreadable : SourceReadable options parts)
    (hlocal : ∀ key, Part.key key ∈ parts → key.captures = true → key.Local options) :
    (ofList (sourceItems options parts 0)).Direct :=
  direct_ofList.mpr <| hereditary_direct.sourceItems (fun key hkey hcaptures e he =>
    ((hlocal key hkey hcaptures).readItems ((hreadable.keys key hkey).2 hcaptures) e he).direct) 0

/-- A pattern that is anchored at the start is found in a text if its parts spell the front of it and
the end of its expression passes from there on. -/
theorem search_of_spelled (hreadable : SourceReadable options parts)
    (hlocal : ∀ key, Part.key key ∈ parts → key.captures = true → key.Local options)
    (hstart : options.anchorStart = true) {text : String} {front rest : List Char}
    (htext : text.toList = front ++ rest)
    (hspells : (ofList (partsItems options 0 parts)).Spells front)
    (hending : ∀ r : Place, r.after = rest → ∀ N, ∃ q,
      (ofList (if options.anchorEnd then options.closedItems
        else options.openItems (endsDelimited options parts))).Passes r N q N) :
    ∃ hit, Expression.search ⟨partsSource options parts, options.flags,
      .ofList (sourceItems options parts 0), partsGroups parts⟩ text = .ok (some hit) := by
  -- From the beginning of the text the parts lead to a place in front of the rest.
  obtain ⟨r, hreaches, hafter⟩ := @Place.exists_reaches (.start text.toList) front rest htext
  obtain ⟨N, hparts⟩ := hspells _ r hreaches []
  obtain ⟨q, hlast⟩ := hending r hafter N
  have hitems : sourceItems options parts 0 = .anchor .textStart :: (partsItems options 0 parts ++
      (if options.anchorEnd then options.closedItems
        else options.openItems (endsDelimited options parts))) := by
    rw [sourceItems, hstart]
    rfl
  have hleads : (ofList (sourceItems options parts 0)).Leads (.start text.toList) q := by
    rw [hitems]
    exact ⟨[], N, passes_ofList_cons.mpr ⟨_, [], ⟨rfl, rfl, rfl⟩,
      passes_ofList_append.mpr ⟨r, N, hparts, hlast⟩⟩⟩
  have hdirect := direct_sourceItems hreadable hlocal
  obtain ⟨hit, hsearch, _⟩ := @Expression.search_of_tried
    ⟨partsSource options parts, options.flags, .ofList (sourceItems options parts 0),
      partsGroups parts⟩ _ text hdirect (fits_sourceItems hreadable.keys) rfl (by
        intro test htest
        rw [hitems, searchTest?_anchor] at htest
        cases htest) q hleads
  exact ⟨hit, hsearch⟩

/-- A pattern that is anchored on both sides is found in the texts that its parts spell, and in those
with a delimiter behind them unless that is refused. -/
theorem search_anchored_iff (hreadable : SourceReadable options parts)
    (hlocal : ∀ key, Part.key key ∈ parts → key.captures = true → key.Local options)
    (hstart : options.anchorStart = true) (hend : options.anchorEnd = true)
    (hends : options.endsWith = "") {text : String} :
    (∃ hit, Expression.search ⟨partsSource options parts, options.flags,
        .ofList (sourceItems options parts 0), partsGroups parts⟩ text = .ok (some hit)) ↔
      ∃ front rest, text.toList = front ++ rest ∧
        (ofList (partsItems options 0 parts)).Spells front ∧
          (rest = [] ∨ options.strict = false ∧
            ∃ d, options.delimiterTest.accepts d = true ∧ rest = [d]) := by
  have hitems : ∀ e ∈ partsItems options 0 parts, e.Local :=
    composable_local.partsItems (fun key hkey hcaptures =>
      (hlocal key hkey hcaptures).readItems ((hreadable.keys key hkey).2 hcaptures)) 0
  constructor
  · rintro ⟨hit, hsearch⟩
    obtain ⟨⟨s, hwhole, _, hpasses, _⟩, _⟩ :=
      Expression.search_eq_some (fits_sourceItems hreadable.keys) hsearch
    obtain ⟨hbefore, hafter, r, hparts, hlast⟩ := passes_sourceItems hend hends hpasses
    obtain ⟨front, hreaches, hspells⟩ := spells_of_passes (local_ofList.mpr hitems) hparts
    have htext : text.toList = front ++ r.after := by
      rw [← hwhole, Place.whole, hbefore hstart]
      exact hreaches.after
    refine ⟨front, r.after, htext, hspells, ?_⟩
    rcases hlast with rfl | ⟨hstrict, hstep⟩
    · exact .inl hafter
    · obtain ⟨d, haccepts, hdelimiter⟩ := Place.step_eq_some_iff.mp hstep
      exact .inr ⟨hstrict, d, haccepts, by rw [hdelimiter.after, hafter]; rfl⟩
  · rintro ⟨front, rest, htext, hspells, hrest⟩
    refine search_of_spelled hreadable hlocal hstart htext hspells fun r hafter N => ?_
    rw [hend, if_pos rfl]
    rcases hrest with rfl | ⟨hstrict, d, haccepts, rfl⟩
    · exact ⟨r, passes_closedItems.mpr ⟨rfl, .inl rfl, .inl hafter⟩⟩
    · obtain ⟨q, hdelimiter, hq⟩ := @Place.exists_reaches r [d] [] hafter
      have hstep := Place.step_eq_some_iff.mpr ⟨d, haccepts, hdelimiter⟩
      exact ⟨q, passes_closedItems.mpr ⟨rfl, .inr ⟨hstrict, hstep⟩, .inl hq⟩⟩

/-! ## Accepting a text -/

/-- A pattern has a matcher, and that matches a text. -/
def Accepts (options : Options) (source text : String) : Prop :=
  ∃ matcher found, Matcher.ofPath options (.pattern source) = .ok matcher ∧
    matcher.run text = .ok (some found)

instance (options : Options) (source text : String) : Decidable (Accepts options source text) :=
  decidable_of_iff (((Matcher.ofPath options (.pattern source)).toOption.bind fun matcher =>
      (matcher.run text).toOption.join).isSome = true) <| by
    simp only [Option.isSome_iff_exists, Option.bind_eq_some_iff, Option.join_eq_some_iff,
      toOption_eq_some]
    exact ⟨fun ⟨found, matcher, hmatcher, hrun⟩ => ⟨matcher, found, hmatcher, hrun⟩,
      fun ⟨matcher, found, hmatcher, hrun⟩ => ⟨found, matcher, hmatcher, hrun⟩⟩

variable {source : String}

/-- A pattern that is anchored on both sides accepts the texts that its parts spell, and those with a
delimiter behind them unless that is refused, provided that it can be read. -/
theorem accepts_anchored_iff (hdelimiter : options.delimiter = standardDelimiter)
    (hstart : options.anchorStart = true) (hend : options.anchorEnd = true)
    (hends : options.endsWith = "")
    (hdecode : ∀ text, ∃ value, options.decode text = .ok value)
    (hparse : parse options source = .ok parts)
    (hlocal : ∀ key, Part.key key ∈ parts → key.captures = true → key.Local options)
    {text : String} : Accepts options source text ↔
      (∀ key, Part.key key ∈ parts → key.Readable options) ∧
        ∃ front rest, text.toList = front ++ rest ∧
          (ofList (partsItems options 0 parts)).Spells front ∧
            (rest = [] ∨ options.strict = false ∧
              ∃ d, options.delimiterTest.accepts d = true ∧ rest = [d]) := by
  constructor
  · rintro ⟨matcher, found, hmatcher, hrun⟩
    obtain ⟨hreadable, rfl⟩ := Matcher.ofPath_readable hparse
      (fun key hkey hcaptures => (hlocal key hkey hcaptures).standsAlone) hmatcher
    obtain ⟨hit, _, hsearch, _⟩ := Matcher.run_eq_some hrun
    exact ⟨hreadable.keys, (search_anchored_iff hreadable hlocal hstart hend hends).mp ⟨hit, hsearch⟩⟩
  · rintro ⟨hkeys, hspelled⟩
    have hreadable := sourceReadable_of_segments hends hdelimiter hkeys
    obtain ⟨hit, hsearch⟩ :=
      (search_anchored_iff hreadable hlocal hstart hend hends).mpr hspelled
    obtain ⟨found, hrun⟩ := @Matcher.exists_run_eq_some ⟨_, capturingKeys parts, options⟩ _ _
      hsearch hdecode
    exact ⟨_, found, Matcher.ofPath_eq hparse hreadable, hrun⟩

/-- The standard expression may stand anywhere. -/
theorem embeddable_standard (options : Options) :
    Embeddable options.flags (defaultPattern standardDelimiter) := by
  unfold Options.flags
  cases options.sensitive <;> decide +kernel

/-- A pattern whose keys have local expressions without flags for the whole has a matcher, which has
an answer for every text. -/
theorem matcher_answers (hdelimiter : options.delimiter = standardDelimiter)
    (hends : options.endsWith = "")
    (hdecode : ∀ text, ∃ value, options.decode text = .ok value)
    (hparse : parse options source = .ok parts)
    (hlocal : ∀ key, Part.key key ∈ parts → key.captures = true → key.Local options)
    (hfree : ∀ key, Part.key key ∈ parts → key.captures = true →
      hasGlobalFlags options.flags key.pattern = false) :
    ∃ matcher, Matcher.ofPath options (.pattern source) = .ok matcher ∧
      ∀ text, ∃ result, matcher.run text = .ok result := by
  have hkeys (key : Key) (hkey : Part.key key ∈ parts) : key.Readable options := by
    refine ⟨isModifier_of_parse hparse key hkey, fun hcaptures => ?_⟩
    rcases hlocal key hkey hcaptures with hdefault | ⟨expression, hread, hgroups, _⟩
    · rw [hdefault, hdelimiter]
      exact embeddable_standard options
    · exact ⟨⟨expression, hread, hgroups⟩, hfree key hkey hcaptures⟩
  have hreadable := sourceReadable_of_segments hends hdelimiter hkeys
  refine ⟨_, Matcher.ofPath_eq hparse hreadable, fun text => Matcher.exists_run ?_ hdecode⟩
  exact @Expression.search_ok
    ⟨partsSource options parts, options.flags, .ofList (sourceItems options parts 0),
      partsGroups parts⟩ _ (direct_sourceItems hreadable hlocal).onward
    (fits_sourceItems hreadable.keys) text

/-- The expressions of the parts do not depend on what is allowed at the end. -/
theorem partsItems_strict (options : Options) (strict : Bool) (opened : Nat) (parts : List Part) :
    partsItems { options with strict } opened parts = partsItems options opened parts := by
  induction parts generalizing opened with
  | nil => rfl
  | cons part rest ih =>
      rw [partsItems, partsItems, ih]
      cases part <;> rfl

/-- With a delimiter at the end allowed, a pattern accepts just what it accepts without, and that with
one delimiter behind it. It has a matcher in both cases, with an answer for every text, if the
expressions of its keys set no flags for the whole. -/
theorem accepts_trailing_delimiter {options : Options}
    (hdelimiter : options.delimiter = standardDelimiter) (hstart : options.anchorStart = true)
    (hend : options.anchorEnd = true) (hends : options.endsWith = "")
    (hdecode : ∀ text, ∃ value, options.decode text = .ok value) {source : String}
    {parts : List Part} (hparse : parse options source = .ok parts)
    (hkeys : ∀ key, Part.key key ∈ parts → key.captures = true → key.Local options) :
    (∀ text, Accepts { options with strict := false } source text ↔
      Accepts { options with strict := true } source text ∨
        ∃ front, ∃ d ∈ ["/", "#", "?"], text = front ++ d ∧
          Accepts { options with strict := true } source front) ∧
    ((∀ key, Part.key key ∈ parts → key.captures = true →
        hasGlobalFlags options.flags key.pattern = false) →
      ∀ strict, ∃ matcher, Matcher.ofPath { options with strict } (.pattern source) = .ok matcher ∧
        ∀ text, ∃ result, matcher.run text = .ok result) := by
  have haccepts (strict : Bool) (text : String) := @accepts_anchored_iff { options with strict }
    parts source hdelimiter hstart hend hends hdecode hparse hkeys text
  simp only [partsItems_strict] at haccepts
  have htest (d : Char) : options.delimiterTest.accepts d = true ↔ d = '/' ∨ d = '#' ∨ d = '?' := by
    rw [accepts_delimiterTest hdelimiter]
    simp [isDelimiter, standardDelimiter]
  refine ⟨fun text => ?_, fun hfree strict =>
    @matcher_answers { options with strict } parts source hdelimiter hends hdecode hparse hkeys hfree⟩
  constructor
  · intro h
    obtain ⟨hreadable, front, rest, htext, hspells, hrest⟩ := (haccepts false text).mp h
    rcases hrest with rfl | ⟨_, d, hd, rfl⟩
    · exact .inl ((haccepts true text).mpr ⟨hreadable, front, [], htext, hspells, .inl rfl⟩)
    · refine .inr ⟨String.ofList front, String.singleton d, ?_, ?_, (haccepts true _).mpr
        ⟨hreadable, front, [], by simp, hspells, .inl rfl⟩⟩
      · rcases (htest d).mp hd with rfl | rfl | rfl <;> decide
      · rw [← String.toList_inj]
        simpa using htext
  · rintro (h | ⟨front, d, hd, rfl, h⟩)
    · obtain ⟨hreadable, front, rest, htext, hspells, rfl | ⟨hstrict, _⟩⟩ := (haccepts true text).mp h
      · exact (haccepts false text).mpr ⟨hreadable, front, [], htext, hspells, .inl rfl⟩
      · cases hstrict
    · obtain ⟨hreadable, text, rest, htext, hspells, rfl | ⟨hstrict, _⟩⟩ := (haccepts true front).mp h
      · have hone : ∃ c, options.delimiterTest.accepts c = true ∧ d.toList = [c] := by
          simp only [List.mem_cons, List.not_mem_nil, or_false] at hd
          rcases hd with rfl | rfl | rfl
          · exact ⟨'/', (htest _).mpr (by simp), rfl⟩
          · exact ⟨'#', (htest _).mpr (by simp), rfl⟩
          · exact ⟨'?', (htest _).mpr (by simp), rfl⟩
        obtain ⟨c, hc, hd⟩ := hone
        refine (haccepts false _).mpr ⟨hreadable, text, [c], ?_, hspells, .inr ⟨rfl, c, hc, rfl⟩⟩
        rw [String.toList_append, htext, hd, List.append_nil]
      · cases hstrict

/-- A repeated key whose values may end in a delimiter: one more is accepted behind them where that is
not refused, and only there. -/
theorem accepts_trailing_delimiter_repeated :
    let options : Options := { encode := Encoding.plus.apply }
    let source := "/:year(\\d+)\x7b/:tag(x|y/)\x7d*"
    parse options source = .ok [.key { name := .named "year", before := "/", pattern := "\\d+" },
      .key { name := .named "tag", before := "/", pattern := "x|y/", modifier := "*" }] ∧
    Accepts { options with strict := true } source "/2024/x/y/" ∧
    Accepts { options with strict := false } source "/2024/x/y/#" ∧
    ∃ matcher, Matcher.ofPath { options with strict := true } (.pattern source) = .ok matcher ∧
      ∃ result, matcher.run "/2024/x/y/#" = .ok result := by
  intro options source
  have hparse := toOption_eq_some.mp (show (parse options source).toOption =
    some [.key { name := .named "year", before := "/", pattern := "\\d+" },
      .key { name := .named "tag", before := "/", pattern := "x|y/", modifier := "*" }] by
    decide +kernel)
  have hsome : ((Matcher.ofPath { options with strict := true } (.pattern source)).toOption.bind
      fun matcher => (matcher.run "/2024/x/y/").toOption.join).isSome = true := by
    decide +kernel
  obtain ⟨found, hfound⟩ := Option.isSome_iff_exists.mp hsome
  obtain ⟨matcher, hmatcher, hrun⟩ := Option.bind_eq_some_iff.mp hfound
  have hstrict : Accepts { options with strict := true } source "/2024/x/y/" :=
    ⟨matcher, found, toOption_eq_some.mp hmatcher,
      toOption_eq_some.mp (Option.join_eq_some_iff.mp hrun)⟩
  obtain ⟨haccepts, hanswers⟩ := @accepts_trailing_delimiter options rfl rfl rfl rfl
    (fun text => ⟨_, rfl⟩) source _ hparse (by
      simp only [List.mem_cons, Part.key.injEq, List.not_mem_nil, or_false, forall_eq_or_imp,
        forall_eq]
      decide +kernel)
  obtain ⟨matcher', hmatcher', hanswer⟩ := hanswers (by
    simp only [List.mem_cons, Part.key.injEq, List.not_mem_nil, or_false, forall_eq_or_imp,
      forall_eq]
    decide +kernel) true
  exact ⟨hparse, hstrict, (haccepts "/2024/x/y/#").mpr
    (.inr ⟨"/2024/x/y/", "#", by simp, by decide, hstrict⟩), matcher', hmatcher', hanswer _⟩

end RoutePattern
