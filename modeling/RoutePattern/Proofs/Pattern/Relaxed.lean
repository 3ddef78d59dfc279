import RoutePattern.Proofs.Expr.Lenient
import RoutePattern.Proofs.Pattern.Boundary
import RoutePattern.Proofs.Pattern.Params
import RoutePattern.Proofs.Pattern.Ready

/-!
# Options that ask for less

A match need not begin at the start of the text, it need not reach the end, or it may also end in
front of further characters. What such options change is the beginning or the end of an expression.
An end that asks for less accepts wherever the other one does, so whatever the keys look at or try
once and for all, something is still found: `run_relaxed` is the main result. `relaxed_loses` shows
what can go wrong all the same, each time in the search itself or in the decoding of the match.
-/

namespace RoutePattern

open RoutePattern.Expr

variable {options options' : Options} {parts : List Part} {expression expression' : Expression}
  {text : String}

/-- Options that ask for less in one respect: a match need not begin at the start of the text, need
not reach the end, or may end in front of further characters. -/
inductive Options.Relaxes (options : Options) : Options → Prop
  | start (h : options.anchorStart = true) : Relaxes options { options with anchorStart := false }
  | stop (h : options.anchorEnd = true) : Relaxes options { options with anchorEnd := false }
  | ends (h : options.endsWith = "") {chars : String} (hchars : chars ≠ "") :
      Relaxes options { options with endsWith := chars }

/-! ## The end -/

/-- A text that ends by some tests ends by more of them. -/
theorem Place.EndsBy.mono {p : Place} {tests others : List CharTest} (h : p.EndsBy tests)
    (hsub : ∀ test ∈ tests, test ∈ others) : p.EndsBy others := by
  rcases h with hafter | ⟨test, htest, hstep⟩
  · exact .inl hafter
  · exact .inr ⟨test, hsub test htest, hstep⟩

/-- No test is known to stand at the beginning of what comes behind the parts. -/
theorem lead_tailItems (options : Options) (parts : List Part) :
    (ofList (options.tailItems parts)).lead none = none := by
  cases hitems : options.tailItems parts with
  | nil => rfl
  | cons e rest =>
      have hmem : e ∈ options.tailItems parts := by rw [hitems]; exact List.mem_cons_self
      rcases mem_ending hmem with ⟨_, rfl⟩ | ⟨_, rfl⟩ | ⟨_, rfl⟩ <;> cases rest <;> rfl

/-- What comes behind the parts tells a search nothing. -/
theorem silent_tailItems (options : Options) (parts : List Part) :
    Silent (options.tailItems parts) :=
  silent_of_forall fun _ he => mem_ending he

/-- An end that leads on wherever another one passes accepts wherever that does. -/
theorem eases_tailItems (hleads : ∀ p M q N, (ofList (options.tailItems parts)).Passes p M q N →
      ∃ r, (ofList (options'.tailItems parts)).Leads p r) :
    Eases (options.tailItems parts) (options'.tailItems parts) where
  groupfree := groupfree_ofList.mpr (groupfree_tailItems options parts)
  groupfree_other := groupfree_ofList.mpr (groupfree_tailItems options' parts)
  direct := direct_ofList.mpr hereditary_direct.ending
  lead := by rw [lead_tailItems, lead_tailItems]
  leads := hleads

namespace Options.Relaxes

/-- Options that ask for less compile with the same flags. -/
theorem flags (h : options.Relaxes options') : options'.flags = options.flags := by
  cases h <;> rfl

/-- Options that ask for less write the parts in the same way. -/
theorem middleText (h : options.Relaxes options') :
    options'.middleText parts = options.middleText parts := by
  cases h <;> rfl

/-- Options that ask for less have an end that accepts wherever the other one does. -/
theorem eases (h : options.Relaxes options') :
    Eases (options.tailItems parts) (options'.tailItems parts) := by
  refine eases_tailItems fun p M q N hpasses => ?_
  cases h with
  | start => exact ⟨q, M, N, hpasses⟩
  | stop hend =>
      -- A delimiter may be read if the end stands behind it, and the end may be a delimiter.
      rw [tailItems, if_pos hend] at hpasses
      obtain ⟨rfl, hstep, hends⟩ := passes_closedItems.mp hpasses
      refine ⟨q, N, N, ?_⟩
      rw [tailItems, if_neg (by simp)]
      refine passes_openItems.mpr ⟨rfl, ?_, .inr (hends.mono fun _ => List.mem_cons_of_mem _)⟩
      exact hstep.imp_right fun hbehind => ⟨hbehind.1, hbehind.2, hends⟩
  | ends hends hchars =>
      have hnone : options.endTests = [] := by simp [endTests, hends]
      have hmore {r : Place} {tests : List CharTest} (hstop : r.EndsBy options.endTests) :
          r.EndsBy tests := by
        rw [hnone] at hstop
        exact hstop.mono (by simp)
      refine ⟨q, M, N, ?_⟩
      unfold tailItems at hpasses ⊢
      cases hend : options.anchorEnd with
      | true =>
          rw [if_pos hend] at hpasses
          obtain ⟨hmarks, hstep, hstop⟩ := passes_closedItems.mp hpasses
          exact passes_closedItems.mpr ⟨hmarks, hstep, hmore hstop⟩
      | false =>
          rw [if_neg (by simp [hend])] at hpasses
          obtain ⟨hmarks, hstep, hstop⟩ := passes_openItems.mp hpasses
          refine passes_openItems.mpr ⟨hmarks, ?_, hstop.imp_right fun hstop => ?_⟩
          · exact hstep.imp_right fun hbehind =>
              ⟨hbehind.1, hbehind.2.1, hmore hbehind.2.2⟩
          · rw [hnone] at hstop
            refine hstop.mono fun test htest => ?_
            rw [List.mem_singleton.mp htest]
            exact List.mem_cons_self

/-- Between the beginning and the end the expressions are the same. -/
theorem framed (h : options.Relaxes options')
    (hkeys : ∀ key, Part.key key ∈ parts → key.Valid options)
    (hcompile : compileParts options parts = .ok expression)
    (hcompile' : compileParts options' parts = .ok expression') :
    ∃ between,
      expression.expr = .ofList (options.headItems ++ between ++ options.tailItems parts) ∧
      expression'.expr = .ofList (options'.headItems ++ between ++ options'.tailItems parts) ∧
      expression.flags = options.flags ∧ expression'.flags = options.flags ∧
        expression'.groups = expression.groups := by
  have htail' : Trails options.flags (options'.tailText parts) (options'.tailItems parts) := by
    rw [← h.flags]
    exact trails_tailText options' parts
  have hsource' : (partsSource options' parts).toList =
      options'.headText ++ options.middleText parts ++ options'.tailText parts := by
    rw [← h.middleText]
    exact toList_partsSource options' parts
  exact (restates_middleText hkeys).framed h.flags (trails_tailText options parts) htail'
    (toList_partsSource options parts) hsource' hcompile hcompile'

/-- Without the anchor at the start a search finds the same match, unless the set that the expression
begins with misleads it. -/
theorem search_start (hstart : options.anchorStart = true)
    (hkeys : ∀ key, Part.key key ∈ parts → key.Valid options)
    (hcompile : compileParts options parts = .ok expression)
    (hcompile' : compileParts { options with anchorStart := false } parts = .ok expression')
    (hscreened : expression'.expr.Screened) {found : Found}
    (hsearch : expression.search text = .ok (some found)) :
    expression'.search text = .ok (some found) ∧ expression'.groups = expression.groups := by
  obtain ⟨between, hexpr, hexpr', hflags, hflags', hgroups⟩ :=
    (Relaxes.start hstart).framed hkeys hcompile hcompile'
  rw [headItems, if_pos hstart, List.append_assoc, List.singleton_append] at hexpr
  rw [headItems, if_neg (by simp), List.nil_append] at hexpr'
  rw [hexpr'] at hscreened
  refine ⟨Expression.search_unanchored hexpr hexpr' hscreened (hflags'.trans hflags.symm) ?_ hgroups
    (Expression.read_numbered hcompile') hsearch, hgroups⟩
  rw [hflags]
  rfl

/-- With an end that asks for less a search finds something, too, unless a group of that is
crossed. -/
theorem search_end (h : options.Relaxes options')
    (hstart : options'.anchorStart = options.anchorStart)
    (hkeys : ∀ key, Part.key key ∈ parts → key.Valid options)
    (hcompile : compileParts options parts = .ok expression)
    (hcompile' : compileParts options' parts = .ok expression') {found : Found}
    (hsearch : expression.search text = .ok (some found)) :
    (∃ found, expression'.search text = .ok (some found)) ∨
      expression'.search text = .error .crossedGroup := by
  obtain ⟨between, hexpr, hexpr', hflags, hflags', _⟩ := h.framed hkeys hcompile hcompile'
  have hhead : options'.headItems = options.headItems := by rw [headItems, headItems, hstart]
  rw [hhead] at hexpr'
  exact Expression.search_of_eases h.eases (silent_tailItems options parts)
    (silent_tailItems options' parts) hexpr hexpr' (hflags'.trans hflags.symm)
    (Expression.read_numbered hcompile) hsearch

end Options.Relaxes

/-! ## Matching -/

/-- A search that finds something gives a match, unless decoding fails. -/
theorem Matcher.run_of_found {matcher : Matcher} {found : Found}
    (hsearch : matcher.expression.search text = .ok (some found)) :
    (∃ result, matcher.run text = .ok (some result)) ∨
      ∃ fault, matcher.run text = .error (.decoding fault) := by
  cases hbind : bindParams matcher.options [] matcher.keys
      (matcher.expression.groupTexts found) with
  | ok params => exact .inl ⟨_, Matcher.run_of_search hsearch hbind⟩
  | error fault =>
      refine .inr ⟨fault, ?_⟩
      unfold Matcher.run
      rw [hsearch]
      show (do
        let params ← (bindParams matcher.options [] matcher.keys
          (matcher.expression.groupTexts found)).mapError MatchFault.decoding
        return some (⟨_, _, params⟩ : Match)) = _
      rw [hbind]
      rfl

/-- Options that ask for less lose no match. Without the anchor at the start there is the same match,
unless the set that the expression begins with misleads the search. With an end that asks for less
there is some match, unless decoding fails or, where the expression has a possessive repetition, a
group of the match is crossed. -/
theorem run_relaxed (hrelaxes : options.Relaxes options')
    (hkeys : ∀ key, Part.key key ∈ parts → key.Valid options)
    (hcompile : compileParts options parts = .ok expression)
    (hcompile' : compileParts options' parts = .ok expression')
    (hscreened : options'.anchorStart = options.anchorStart ∨ expression'.expr.Screened)
    {result : Match}
    (hrun : Matcher.run ⟨expression, capturingKeys parts, options⟩ text = .ok (some result)) :
    (options'.anchorStart ≠ options.anchorStart →
      Matcher.run ⟨expression', capturingKeys parts, options'⟩ text = .ok (some result)) ∧
    ((∃ result', Matcher.run ⟨expression', capturingKeys parts, options'⟩ text =
        .ok (some result')) ∨
      (∃ fault, Matcher.run ⟨expression', capturingKeys parts, options'⟩ text =
        .error (.decoding fault)) ∨
      (Matcher.run ⟨expression', capturingKeys parts, options'⟩ text =
        .error (.search .crossedGroup) ∧ expression'.expr.hasPossessive = true)) := by
  obtain ⟨found, params, hsearch, hbind, rfl⟩ := Matcher.run_eq_some hrun
  by_cases hstart : options'.anchorStart = options.anchorStart
  · refine ⟨fun hne => absurd hstart hne, ?_⟩
    rcases hrelaxes.search_end hstart hkeys hcompile hcompile' hsearch with
      ⟨found', hfound⟩ | hcrossed
    · have hends := @Matcher.run_of_found text ⟨expression', capturingKeys parts, options'⟩ found'
        hfound
      rcases hends with hmatch | hfault
      · exact .inl hmatch
      · exact .inr (.inl hfault)
    · refine .inr (.inr ⟨?_, ?_⟩)
      · unfold Matcher.run
        rw [hcrossed]
        rfl
      · by_contra hpossessive
        obtain ⟨answer, hanswer⟩ := Expression.search_ok_of_numbered
          (Expression.read_numbered hcompile') (by simpa using hpossessive) text
        cases hcrossed.symm.trans hanswer
  · -- Only the anchor at the start has gone.
    have hsame : Matcher.run ⟨expression', capturingKeys parts, options'⟩ text =
        .ok (some ⟨String.ofList found.text, found.index, params⟩) := by
      cases hrelaxes with
      | start hanchored =>
          obtain ⟨hfound, hgroups⟩ := Options.Relaxes.search_start hanchored hkeys hcompile
            hcompile' (hscreened.resolve_left hstart) hsearch
          have htexts : expression'.groupTexts found = expression.groupTexts found := by
            rw [Expression.groupTexts, Expression.groupTexts, hgroups]
          have hvalues := @bindParams_of_forall₂ options { options with anchorStart := false }
            (capturingKeys parts) (capturingKeys parts)
            (List.forall₂_same.mpr fun key _ => ⟨rfl, fun captured => rfl⟩) []
            (expression.groupTexts found)
          exact @Matcher.run_of_search ⟨expression', capturingKeys parts, _⟩ text found params
            hfound (by rw [htexts]; exact hvalues.trans hbind)
      | stop | ends => exact absurd rfl hstart
    exact ⟨fun _ => hsame, .inl ⟨_, hsame⟩⟩

/-- An expression that begins with a class limited to ASCII, but not with the complement of one: the
match is the same without the anchor at the start. -/
theorem run_relaxed_digit :
    let parts := [.key { name := .named "id", pattern := "(?a:\\d)\\w*+" }]
    let relaxed : Options := { strict := true, anchorStart := false }
    ∃ expression expression' result,
      compileParts { strict := true } parts = .ok expression ∧
      compileParts relaxed parts = .ok expression' ∧
      Matcher.run ⟨expression, capturingKeys parts, { strict := true }⟩ "1a" = .ok (some result) ∧
      Matcher.run ⟨expression', capturingKeys parts, relaxed⟩ "1a" = .ok (some result) := by
  intro parts relaxed
  have hsome : ((compileParts { strict := true } parts).toOption.bind fun expression =>
      (Matcher.run ⟨expression, capturingKeys parts, { strict := true }⟩ "1a").toOption.join).isSome =
        true := by
    decide +kernel
  obtain ⟨result, hresult⟩ := Option.isSome_iff_exists.mp hsome
  obtain ⟨expression, hcompile, hrun⟩ := Option.bind_eq_some_iff.mp hresult
  have hcompile := toOption_eq_some.mp hcompile
  have hrun := toOption_eq_some.mp (Option.join_eq_some_iff.mp hrun)
  have hcompile' : compileParts relaxed parts = .ok
      ⟨"((?a:\\d)\\w*+)\\Z", relaxed.flags,
        .seq (.group 1 (.seq (.seq (.char (.set [.cls .digit true false] false .ascii)) .empty)
          (.loop .possessive 0 none (.char (.set [.cls .word false false] false .unicode)))))
          (.anchor .textEnd), 1⟩ :=
    toOption_eq_some.mp (by decide +kernel)
  obtain ⟨hsame, _⟩ := run_relaxed (.start rfl) (by
      simp only [parts, List.mem_singleton, Part.key.injEq, forall_eq]
      decide +kernel) hcompile hcompile' (.inr (by simp [Screened, CharTest.Screened])) hrun
  exact ⟨expression, _, result, hcompile, hcompile', hrun, hsame (by decide)⟩

/-! ## Lost matches -/

/-- Whether a key alone matches something in a text, or why that cannot be told. -/
def Key.finds? (options : Options) (key : Key) (text : String) : Option (Except MatchFault Bool) :=
  (compileParts options [.key key]).toOption.map fun expression =>
    (Matcher.run ⟨expression, capturingKeys [.key key], options⟩ text).map Option.isSome

/-- A character that is none of the ASCII words. -/
def asciiSymbol : Key :=
  { name := .positional 0, pattern := "(?a:\\W)" }

/-- Pieces that are taken for good, or else any text. -/
def piecesOrAny : Key :=
  { name := .named "a", pattern := "(?:(?:(?P<n>ab)|ac)*+)|.*" }

/-- A text that is as short as the end allows. -/
def shortest : Key :=
  { name := .named "a", pattern := ".*?" }

/-- Captured texts are numbers, and a space ends a segment. -/
def spaced : Options :=
  { delimiterChars := " ", decode := Decoding.int.apply }

/-- A match can be lost. A search without an anchor passes over a character that only the complement
of a class limited to ASCII holds. A possessive repetition may leave a group that ends before it
begins, and with an end that asks for less the match is made of it. A shorter capture need not be a
number. -/
theorem relaxed_loses :
    (asciiSymbol.Valid {} ∧ asciiSymbol.finds? {} "é" = some (.ok true) ∧
      asciiSymbol.finds? { anchorStart := false } "é" = some (.ok false)) ∧
    (piecesOrAny.Valid {} ∧ piecesOrAny.finds? {} "abacac/x" = some (.ok true) ∧
      piecesOrAny.finds? { anchorEnd := false } "abacac/x" =
        some (.error (.search .crossedGroup))) ∧
    (shortest.Valid spaced ∧ shortest.finds? spaced " 5" = some (.ok true) ∧
      shortest.finds? { spaced with anchorEnd := false } " 5" =
        some (.error (.decoding (.notInteger "")))) := by
  decide +kernel

end RoutePattern
