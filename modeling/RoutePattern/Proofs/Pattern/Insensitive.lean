import Mathlib.Tactic.SplitIfs
import RoutePattern.Proofs.Expr.Everywhere
import RoutePattern.Proofs.Expr.Folding
import RoutePattern.Proofs.Expr.Widening
import RoutePattern.Proofs.Part.Default
import RoutePattern.Proofs.Pattern.Alternative
import RoutePattern.Proofs.Pattern.Grouping
import RoutePattern.Proofs.Pattern.Standard
import RoutePattern.Proofs.Pattern.Trailing

/-!
# Patterns without regard to case

The expression of a pattern has the same shape whether case matters or not, and where it does not,
every test in it accepts more: all characters with the lower-case form of one that is accepted
otherwise. `widens_sourceItems` says so for patterns without expressions of their own.
`accepts_ignoring_case` is the main result: such a pattern accepts more texts if case is ignored, and
then the case of letters does not change what is accepted.
-/

namespace RoutePattern

open RoutePattern.Expr CharTest

/-! ## Characters and options -/

/-- Characters that have one lower-case form. -/
def SameLetter (c d : Char) : Prop :=
  lowerCode c.toNat = lowerCode d.toNat

/-- A letter of ASCII has the lower-case form of its other case. -/
theorem lowerCode_toLower (c : Char) : lowerCode c.toLower.toNat = lowerCode c.toNat := by
  unfold Char.toLower
  split
  · next hupper =>
    have hlow : 65 ≤ c.toNat := hupper.1
    have hhigh : c.toNat ≤ 90 := hupper.2
    have hcode : ∀ n ≤ 90, 65 ≤ n → lowerCode ((UInt32.ofNat n + 32).toNat) = lowerCode n := by
      decide +kernel
    have hcode := hcode c.toNat hhigh hlow
    rwa [Char.toNat, UInt32.ofNat_toNat] at hcode
  · rfl

/-- A text in lower case is so character by character. -/
theorem toList_toLower (text : String) : text.toLower.toList = text.toList.map Char.toLower :=
  String.toList_map

/-- Texts that differ only in the case of ASCII letters have the same letters. -/
theorem sameLetters_of_toLower {text text' : String} (h : text.toLower = text'.toLower) :
    List.Forall₂ SameLetter text.toList text'.toList := by
  have hmap : text.toList.map Char.toLower = text'.toList.map Char.toLower := by
    rw [← toList_toLower, h, toList_toLower]
  rw [← List.forall₂_eq_eq_eq, List.forall₂_map_left_iff, List.forall₂_map_right_iff] at hmap
  refine hmap.imp fun c d hsame => ?_
  rw [SameLetter, ← lowerCode_toLower c, hsame, lowerCode_toLower d]

/-- The options with case ignored. -/
def Options.ignoringCase (options : Options) : Options :=
  { options with sensitive := false }

section Fields

variable (options : Options)

@[simp] theorem Options.ignoringCase_delimiter :
    options.ignoringCase.delimiter = options.delimiter := rfl

@[simp] theorem Options.ignoringCase_strict : options.ignoringCase.strict = options.strict := rfl

@[simp] theorem Options.ignoringCase_anchorStart :
    options.ignoringCase.anchorStart = options.anchorStart := rfl

@[simp] theorem Options.ignoringCase_anchorEnd :
    options.ignoringCase.anchorEnd = options.anchorEnd := rfl

@[simp] theorem Options.ignoringCase_endsWith :
    options.ignoringCase.endsWith = options.endsWith := rfl

end Fields

variable {options : Options} {parts : List Part}

/-- Where case is ignored already, nothing changes. -/
theorem Options.flags_ignoringCase (h : options.sensitive = false) :
    options.ignoringCase.flags = options.flags := by
  rw [Options.flags, Options.flags, h]
  rfl

/-! ## Tests -/

/-- A test that ignores case widens another one if it accepts what that one does. -/
theorem widens_char {test other : CharTest} (hbroad : other.isBroad = true)
    (hkeeps : other.KeepsTo .unicode)
    (haccepts : ∀ c, test.accepts c = true → other.accepts c = true) :
    Widens SameLetter (.char test) (.char other) := by
  refine .char fun c d hsame hc => ?_
  rw [← accepts_of_lowerCode hbroad hkeeps hsame]
  exact haccepts c hc

/-- The test for the delimiters stands for the same characters if case is ignored. -/
theorem widens_delimiterTest (hdelimiter : options.delimiter = standardDelimiter) :
    Widens SameLetter (.char options.delimiterTest) (.char options.ignoringCase.delimiterTest) := by
  refine widens_char (isBroad_delimiterTest _) ?_ fun c hc => ?_
  · rw [Options.delimiterTest, Options.ignoringCase_delimiter, hdelimiter,
      getD_readSet (by decide)]
    exact keepsTo_test .unicode false _
  · rw [accepts_delimiterTest hdelimiter] at hc
    rwa [@accepts_delimiterTest options.ignoringCase hdelimiter]

/-- The test of the standard expression stands for the same characters if case is ignored. -/
theorem widens_valueTest (hdelimiter : options.delimiter = standardDelimiter) :
    Widens SameLetter (.char options.valueTest) (.char options.ignoringCase.valueTest) := by
  have hread := readSet_plain .unicode true (show DashAtEnds standardDelimiter.toList by decide)
  unfold Options.valueTest
  rw [Options.ignoringCase_delimiter, hdelimiter]
  refine widens_char (isBroad_of_readSet (by decide) hread) (keepsTo_test .unicode true _)
    fun c hc => ?_
  rw [accepts_standardSet (fold_ne_ascii _)] at hc ⊢
  exact hc

/-- The test for the further ends accepts all of them if case is ignored, provided that they may be
listed. -/
theorem widens_endTest (hdash : '-' ∉ options.endsWith.toList)
    (hends : options.sensitive = true → Listable options.endsWith.toList) :
    Widens SameLetter (.char options.endTest) (.char options.ignoringCase.endTest) := by
  have hread := getD_readSet (dashAtEnds_of_notMem hdash)
  refine widens_char (isBroad_endTest _) ?_ fun c hc => ?_
  · rw [Options.endTest, Options.ignoringCase_endsWith, hread]
    exact keepsTo_test .unicode false _
  · rw [Options.endTest, hread] at hc
    rw [Options.endTest, Options.ignoringCase_endsWith, hread]
    cases hsensitive : options.sensitive with
    | true =>
        rw [fold_of_sensitive hsensitive, accepts_codes, Bool.false_bne, decide_eq_true_iff] at hc
        exact accepts_listed (hends hsensitive) hc
    | false => rwa [options.flags_ignoringCase hsensitive]

/-! ## Rows of expressions -/

/-- Expressions in a row that are widened one by one. -/
abbrev RowWidens (items others : List Expr) : Prop :=
  List.Forall₂ (Widens SameLetter) items others

variable {items items' others others' : List Expr}

/-- Rows that are widened make up rows that are. -/
theorem RowWidens.append (hfirst : RowWidens items others) (hsecond : RowWidens items' others') :
    RowWidens (items ++ items') (others ++ others') :=
  List.rel_append hfirst hsecond

/-- A single expression makes a row. -/
theorem rowWidens_singleton {e other : Expr} (h : Widens SameLetter e other) :
    RowWidens [e] [other] :=
  .cons h .nil

/-- Literal text is widened if case is ignored. -/
theorem rowWidens_literal (options : Options) (text : String) :
    RowWidens (options.literal text) (options.ignoringCase.literal text) := by
  unfold RowWidens Options.literal literalItems
  rw [List.forall₂_map_left_iff, List.forall₂_map_right_iff]
  refine List.forall₂_same.mpr fun c _ => widens_char rfl rfl fun d hd => ?_
  rw [accepts, Bool.false_bne] at hd ⊢
  exact sameCode_unicode (fold_ne_ascii options) hd

/-- A mark keeps that a row is widened. -/
theorem rowWidens_markItems (modifier : String) (h : RowWidens items others) :
    RowWidens (markItems modifier items) (markItems modifier others) := by
  have hrow := widens_ofList h
  unfold markItems
  split_ifs
  · exact rowWidens_singleton (.loop (by simp) (by simp) hrow)
  · exact rowWidens_singleton (.loop (by simp) (by simp) hrow)
  · exact rowWidens_singleton (.loop (by simp) (by simp) hrow)
  · exact h

/-! ## Keys and parts -/

section Keys

variable (hdelimiter : options.delimiter = standardDelimiter)

include hdelimiter

/-- What is inside the group of a key with the standard expression is widened. -/
theorem Key.rowWidens_inner {key : Key} (hkey : key.pattern = defaultPattern options.delimiter) :
    RowWidens (key.inner options) (key.inner options.ignoringCase) := by
  have hread : RowWidens (readItems options.flags key.pattern)
      (readItems options.ignoringCase.flags key.pattern) := by
    have hdash : DashAtEnds options.delimiter.toList := hdelimiter ▸ by decide
    have hother := @readItems_valueTest options.ignoringCase hdash
    rw [Options.ignoringCase_delimiter] at hother
    rw [hkey, readItems_valueTest hdash, hother]
    exact rowWidens_singleton (.loop (by simp) (by simp) (widens_valueTest hdelimiter))
  have hagain := ((rowWidens_literal options key.after).append
    (rowWidens_literal options key.before)).append hread
  unfold Key.inner
  rw [show key.gathers options.ignoringCase = key.gathers options from rfl]
  dsimp only
  split_ifs
  · exact hread.append (rowWidens_singleton (.loop (by simp) (by simp) (widens_ofList hagain)))
  · exact hread

/-- A key that has the standard expression, or captures nothing, is widened. -/
theorem Key.rowWidens_items {key : Key}
    (hkey : key.captures = true → key.pattern = defaultPattern options.delimiter) (opened : Nat) :
    RowWidens (key.items options opened) (key.items options.ignoringCase opened) := by
  have hgroup : RowWidens (key.group options opened) (key.group options.ignoringCase opened) := by
    unfold Key.group
    split_ifs with hcaptures
    · exact rowWidens_singleton
        (.group _ (widens_ofList (key.rowWidens_inner hdelimiter (hkey hcaptures))))
    · exact .nil
  unfold Key.items
  rw [show key.mark options.ignoringCase = key.mark options from rfl]
  exact rowWidens_markItems _ (((rowWidens_literal options key.before).append hgroup).append
    (rowWidens_literal options key.after))

/-- Parts whose keys have the standard expression are widened. -/
theorem rowWidens_partsItems (hkeys : ∀ key, Part.key key ∈ parts → key.captures = true →
      key.pattern = defaultPattern options.delimiter) (opened : Nat) :
    RowWidens (partsItems options opened parts) (partsItems options.ignoringCase opened parts) := by
  induction parts generalizing opened with
  | nil => exact .nil
  | cons part rest ih =>
      rw [partsItems, partsItems]
      refine RowWidens.append ?_ (ih (fun key hkey => hkeys key (by simp [hkey])) _)
      cases part with
      | text literal => exact rowWidens_literal options literal
      | key k => exact k.rowWidens_items hdelimiter (hkeys k (by simp)) opened

end Keys

/-! ## The end -/

/-- Tests that are widened one by one. -/
abbrev TestsWiden (tests others : List CharTest) : Prop :=
  List.Forall₂ (fun test other => Widens SameLetter (.char test) (.char other)) tests others

/-- A choice of ends is widened if their tests are. -/
theorem widens_choice_endingWith {tests others : List CharTest} (h : TestsWiden tests others) :
    Widens SameLetter (Alternation.choice (endingWith tests))
      (Alternation.choice (endingWith others)) := by
  induction h with
  | nil => exact .either .textEnd .never
  | cons htest _ ih => exact .either htest ih

/-- A look-ahead for an end is widened if the tests are. -/
theorem widens_lookFor {tests others : List CharTest} (h : TestsWiden tests others) :
    Widens SameLetter (options.lookFor (endingWith tests))
      (options.ignoringCase.lookFor (endingWith others)) := by
  refine .ahead (widens_ofList ?_)
  cases h with
  | nil => exact rowWidens_singleton .textEnd
  | cons htest hrest =>
      rw [(ofBranches_endingWith _ _).resolve_left (by simp),
        (ofBranches_endingWith _ _).resolve_left (by simp)]
      exact rowWidens_singleton (widens_choice_endingWith (.cons htest hrest))

section Ending

variable (hdelimiter : options.delimiter = standardDelimiter)
  (hdash : '-' ∉ options.endsWith.toList)
  (hends : options.sensitive = true → Listable options.endsWith.toList)

include hdash hends

/-- What counts as an end is widened. -/
theorem testsWiden_endTests : TestsWiden options.endTests options.ignoringCase.endTests := by
  unfold Options.endTests
  rw [Options.ignoringCase_endsWith]
  split_ifs
  · exact .nil
  · exact .cons (widens_endTest hdash hends) .nil

include hdelimiter

/-- What is behind the parts is widened where a match has to reach the end. -/
theorem rowWidens_closedItems : RowWidens options.closedItems options.ignoringCase.closedItems := by
  have hlook := @widens_lookFor options _ _ (testsWiden_endTests hdash hends)
  unfold Options.closedItems
  rw [endBranches_eq, endBranches_eq, Options.ignoringCase_strict, Options.ignoringCase_endsWith]
  refine RowWidens.append ?_ ?_
  · split_ifs
    · exact .nil
    · exact rowWidens_singleton (.loop (by simp) (by simp) (widens_delimiterTest hdelimiter))
  · split_ifs
    · exact rowWidens_singleton .textEnd
    · exact rowWidens_singleton hlook

/-- What is behind the parts is widened where a match may end at any delimiter. -/
theorem rowWidens_openItems (isDelimited : Bool) :
    RowWidens (options.openItems isDelimited) (options.ignoringCase.openItems isDelimited) := by
  have htests := testsWiden_endTests hdash hends
  have hdelimiter := widens_delimiterTest hdelimiter
  unfold Options.openItems
  rw [endBranches_eq, endBranches_eq, Options.ignoringCase_strict]
  refine RowWidens.append ?_ ?_
  · split_ifs
    · exact .nil
    · exact rowWidens_singleton
        (.loop (by simp) (by simp) (widens_ofList (.cons hdelimiter
          (rowWidens_singleton (widens_lookFor htests)))))
  · split_ifs
    · exact .nil
    · exact rowWidens_singleton (widens_lookFor (.cons hdelimiter htests))

/-- The expression of a pattern whose keys have the standard expression is widened if case is
ignored. -/
theorem widens_sourceItems (hkeys : ∀ key, Part.key key ∈ parts → key.captures = true →
      key.pattern = defaultPattern options.delimiter) :
    Widens SameLetter (ofList (sourceItems options parts 0))
      (ofList (sourceItems options.ignoringCase parts 0)) := by
  refine widens_ofList (RowWidens.append (RowWidens.append ?_ ?_) ?_)
  · rw [Options.ignoringCase_anchorStart]
    split_ifs
    · exact rowWidens_singleton .textStart
    · exact .nil
  · exact rowWidens_partsItems hdelimiter hkeys 0
  · rw [Options.ignoringCase_anchorEnd]
    split_ifs
    · exact rowWidens_closedItems hdelimiter hdash hends
    · exact rowWidens_openItems hdelimiter hdash hends _

end Ending

/-! ## Accepting a text -/

section Accepting

variable {source : String}

/-- A pattern without expressions of its own accepts a text just if its expression leads anywhere in
the text. -/
theorem accepts_iff_leads (hdelimiter : options.delimiter = standardDelimiter)
    (hdash : '-' ∉ options.endsWith.toList)
    (hdecode : ∀ text, ∃ value, options.decode text = .ok value)
    (hplain : WithoutExpressions source) (hparse : parse options source = .ok parts)
    {text : String} : Accepts options source text ↔
      ∃ p q, p.whole = text.toList ∧ (ofList (sourceItems options parts 0)).Leads p q := by
  have hkeys := pattern_of_withoutExpressions hparse hplain
  have hrangeless : options.Rangeless := ⟨hdelimiter ▸ by decide, dashAtEnds_of_notMem hdash⟩
  have hreadable : SourceReadable options parts := hrangeless.sourceReadable hparse fun key hkey =>
    hkeys key (mem_capturingKeys.mp hkey).1 (mem_capturingKeys.mp hkey).2
  have hitems (key : Key) (hkey : Part.key key ∈ parts) (hcaptures : key.captures = true) :
      readItems options.flags key.pattern = [.loop .lazy 1 none (.char options.valueTest)] := by
    rw [hkeys key hkey hcaptures, readItems_valueTest hrangeless.delimiter]
  have hsearchable : (ofList (sourceItems options parts 0)).Searchable := by
    refine searchable_sourceItems hreadable.keys ?_ (.inr ?_)
    · intro key hkey hcaptures e he
      rw [hitems key hkey hcaptures, List.mem_singleton] at he
      subst he
      exact ⟨by simp, trivial⟩
    · intro key hkey hcaptures
      rw [hitems key hkey hcaptures]
      trivial
  let expression : Expression := ⟨partsSource options parts, options.flags,
    .ofList (sourceItems options parts 0), partsGroups parts⟩
  have hmatcher : Matcher.ofPath options (.pattern source) =
      .ok ⟨expression, capturingKeys parts, options⟩ := Matcher.ofPath_eq hparse hreadable
  rw [← @Expression.search_iff_leads expression _ hsearchable
    (direct_sourceItems hreadable fun key hkey hcaptures => .inl (hkeys key hkey hcaptures))
    (fits_sourceItems hreadable.keys) rfl]
  constructor
  · rintro ⟨matcher, found, hother, hrun⟩
    obtain rfl := Except.ok.inj (hmatcher.symm.trans hother)
    obtain ⟨hit, _, hsearch, _⟩ := Matcher.run_eq_some hrun
    exact ⟨hit, hsearch⟩
  · rintro ⟨hit, hsearch⟩
    obtain ⟨found, hrun⟩ := @Matcher.exists_run_eq_some ⟨expression, capturingKeys parts, options⟩
      _ _ hsearch hdecode
    exact ⟨_, found, hmatcher, hrun⟩

/-- What a pattern without expressions of its own accepts is accepted, too, if case is ignored and
letters have another case. -/
theorem Accepts.ignoringCase (hdelimiter : options.delimiter = standardDelimiter)
    (hdash : '-' ∉ options.endsWith.toList)
    (hends : options.sensitive = true → Listable options.endsWith.toList)
    (hdecode : ∀ text, ∃ value, options.decode text = .ok value)
    (hplain : WithoutExpressions source) {text text' : String}
    (hsame : List.Forall₂ SameLetter text.toList text'.toList) (h : Accepts options source text) :
    Accepts options.ignoringCase source text' := by
  obtain ⟨_, _, hmatcher, _⟩ := id h
  obtain ⟨parts, hparse⟩ := Matcher.parse_of_ofPath hmatcher
  rw [accepts_iff_leads hdelimiter hdash hdecode hplain hparse] at h
  rw [@accepts_iff_leads options.ignoringCase parts source hdelimiter hdash hdecode hplain hparse]
  exact (widens_sourceItems hdelimiter hdash hends
    (pattern_of_withoutExpressions hparse hplain)).leads hsame h

/-- What a pattern without expressions of its own accepts where case matters it accepts if case is
ignored, too, provided that the further ends may be listed. If case is ignored, whether a text is
accepted does not depend on the case of its letters. -/
theorem accepts_ignoring_case {options : Options}
    (hdelimiter : options.delimiter = standardDelimiter) (hdash : '-' ∉ options.endsWith.toList)
    (hdecode : ∀ text, ∃ value, options.decode text = .ok value) {source : String}
    (hplain : WithoutExpressions source) :
    (Listable options.endsWith.toList → ∀ text,
      Accepts { options with sensitive := true } source text →
        Accepts { options with sensitive := false } source text) ∧
    ∀ text text' : String, text.toLower = text'.toLower →
      (Accepts { options with sensitive := false } source text ↔
        Accepts { options with sensitive := false } source text') := by
  constructor
  · intro hends text h
    exact @Accepts.ignoringCase { options with sensitive := true } source hdelimiter hdash
      (fun _ => hends) hdecode hplain text text (sameLetters_of_toLower rfl) h
  · have hside (text text' : String) (hsame : text.toLower = text'.toLower)
        (h : Accepts { options with sensitive := false } source text) :
        Accepts { options with sensitive := false } source text' :=
      @Accepts.ignoringCase { options with sensitive := false } source hdelimiter hdash
        (fun hsensitive => absurd hsensitive (by simp)) hdecode hplain text text'
        (sameLetters_of_toLower hsame) h
    exact fun text text' hsame => ⟨hside text text' hsame, hside text' text hsame.symm⟩

/-- A pattern with letters that are not in ASCII, with an optional key and with ends in both cases. -/
theorem accepts_ignoring_case_optional :
    let options : Options := { endsWith := "x𐐀𐐨" }
    let source := "/Maß\x7b.:ext\x7d?"
    Listable options.endsWith.toList ∧
      Accepts { options with sensitive := true } source "/Maß.Öl𐐀" ∧
      Accepts { options with sensitive := false } source "/Maß.Öl𐐀" ∧
      Accepts { options with sensitive := false } source "/mAß.ÖL𐐀" := by
  intro options source
  have hends : Listable options.endsWith.toList := by decide +kernel
  have hsensitive : Accepts { options with sensitive := true } source "/Maß.Öl𐐀" := by
    decide +kernel
  have hsame : "/Maß.Öl𐐀".toLower = "/mAß.ÖL𐐀".toLower := by
    rw [← String.toList_inj, toList_toLower, toList_toLower]
    decide +kernel
  obtain ⟨hwider, hvariant⟩ := @accepts_ignoring_case options rfl (by decide +kernel)
    (fun text => ⟨_, rfl⟩) source (by decide +kernel)
  have haccepts := hwider hends _ hsensitive
  exact ⟨hends, hsensitive, haccepts, (hvariant _ _ hsame).mp haccepts⟩

/-- A set that ignores case does not hold an upper-case letter of the supplementary planes that it
lists among others: where such a letter is an end, a text is accepted only if case matters. -/
theorem accepts_not_ignoring_case :
    let options : Options := { endsWith := "x𐐀" }
    WithoutExpressions "/a" ∧ '-' ∉ options.endsWith.toList ∧
      Accepts { options with sensitive := true } "/a" "/a𐐀" ∧
      ¬ Accepts { options with sensitive := false } "/a" "/a𐐀" := by
  decide +kernel

end Accepting

end RoutePattern
