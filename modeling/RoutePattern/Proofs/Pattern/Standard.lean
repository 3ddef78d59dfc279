import RoutePattern.Proofs.Pattern.Spelling
import RoutePattern.Proofs.Pattern.Written

/-!
# What a key without an expression of its own stands for

The standard expression is a set of all characters but the delimiters, repeated. In that set a dash
between two delimiters is not one of them: it makes a range. `standard_avoids_delimiters` is the
main result: where dashes stand at the ends of the delimiters, whatever the delimiters are, the
standard expression matches the texts that are not empty and have no delimiter, patterns without
other expressions are compiled, and a value is built in where its text is such a text.
-/

namespace RoutePattern

open RoutePattern.Expr

/-- A text that may stand between delimiters: it is not empty, and it has no delimiter in it. -/
def StandsBetween (delimiter text : String) : Prop :=
  text ≠ "" ∧ ∀ c ∈ text.toList, c ∉ delimiter.toList

-- Only the characters of the text are tested. There are too many to run through all of them.
instance (delimiter text : String) : Decidable (StandsBetween delimiter text) :=
  decidable_of_iff (text ≠ "" ∧
      (text.toList.all fun c => !delimiter.toList.contains c) = true) <| by
    simp [StandsBetween]

/-! ## A repeated test -/

/-- Steps of a test lead over characters that it accepts, and over any such characters there are
steps. -/
theorem Place.stepsTo_iff {test : CharTest} {n : Nat} {p q : Place} : StepsTo test n p q ↔
    ∃ text, text.length = n ∧ p.Reaches q text ∧ ∀ c ∈ text, test.accepts c = true := by
  induction n generalizing p with
  | zero =>
      constructor
      · rintro rfl
        exact ⟨[], rfl, reaches_nil_iff.mpr rfl, by simp⟩
      · rintro ⟨text, hlength, hreaches, _⟩
        rw [List.length_eq_zero_iff.mp hlength] at hreaches
        exact reaches_nil_iff.mp hreaches
  | succ n ih =>
      constructor
      · rintro ⟨r, hstep, hrest⟩
        obtain ⟨c, haccepts, hreaches⟩ := step_eq_some_iff.mp hstep
        obtain ⟨text, hlength, hreaches', hall⟩ := ih.mp hrest
        exact ⟨c :: text, by simp [hlength], hreaches.trans hreaches',
          List.forall_mem_cons.mpr ⟨haccepts, hall⟩⟩
      · rintro ⟨text, hlength, hreaches, hall⟩
        cases text with
        | nil => simp at hlength
        | cons c text =>
            obtain ⟨haccepts, hall⟩ := List.forall_mem_cons.mp hall
            obtain ⟨r, hfirst, hrest⟩ :=
              Reaches.split (show p.Reaches q ([c] ++ text) from hreaches)
            exact ⟨r, step_eq_some_iff.mpr ⟨c, haccepts, hfirst⟩,
              ih.mpr ⟨text, by simpa using hlength, hrest, hall⟩⟩

/-- Without groups there is always an answer to whether a text matches as a whole. -/
theorem Expression.fullMatch_ok {expression : Expression} (hgroups : expression.groups = 0)
    (text : String) : ∃ answer, expression.fullMatch text = .ok answer := by
  have hcrossed (memory : Memory) : expression.hasCrossedGroup memory = false := by
    simp [hasCrossedGroup, hgroups]
  unfold fullMatch
  dsimp only
  split
  · split
    · rw [hcrossed]
      exact ⟨true, rfl⟩
    · exact ⟨false, rfl⟩
  · exact ⟨false, rfl⟩

/-- A test that is repeated at least once matches the texts of characters that it accepts, but for
the empty one. -/
theorem Expression.fullMatch_repeated {expression : Expression} {test : CharTest}
    (hexpr : expression.expr = .loop .lazy 1 none (.char test)) (hgroups : expression.groups = 0)
    (text : String) : expression.fullMatch text =
      .ok (decide (text ≠ "") && text.toList.all test.accepts) := by
  have hdirect : expression.expr.Direct := by
    rw [hexpr]
    exact ⟨by simp, trivial⟩
  have hfits : expression.expr.Fits false 0 0 :=
    fits_of_captures (by rw [hexpr]; rfl) false (Nat.le_refl 0)
  have hleads {p q : Place} {M N : Marks} : expression.expr.Passes p M q N ↔
      N = M ∧ ∃ read, 1 ≤ read.length ∧ p.Reaches q read ∧ ∀ c ∈ read, test.accepts c = true := by
    rw [hexpr, Passes, if_neg (by simp)]
    simp only [iterates_of_soleTest? (e := .char test) rfl, Place.stepsTo_iff, Counts]
    constructor
    · rintro ⟨n, ⟨hleast, _⟩, ⟨read, rfl, hread⟩, hmarks⟩
      exact ⟨hmarks, read, hleast, hread⟩
    · rintro ⟨hmarks, read, hleast, hread⟩
      exact ⟨read.length, ⟨hleast, by simp⟩, ⟨read, rfl, hread⟩, hmarks⟩
  have hmatches : expression.fullMatch text = .ok true ↔
      text ≠ "" ∧ ∀ c ∈ text.toList, test.accepts c = true := by
    constructor
    · intro hmatch
      obtain ⟨q, N, hpasses, hlast⟩ := fullMatch_eq_true hfits hmatch
      obtain ⟨_, read, hlength, hreaches, hall⟩ := hleads.mp hpasses
      have htext : text.toList = read := by simpa [Place.start, hlast] using hreaches.after
      refine ⟨?_, htext ▸ hall⟩
      rintro rfl
      simp [← htext] at hlength
    · rintro ⟨hne, hall⟩
      obtain ⟨q, hreaches, hlast⟩ := @Place.exists_reaches (.start text.toList) text.toList []
        (by simp [Place.start])
      refine fullMatch_of_leads hdirect hfits hlast ⟨[], [], hleads.mpr ⟨rfl, text.toList, ?_,
        hreaches, hall⟩⟩
      exact List.length_pos_iff.mpr fun hnil => hne (String.toList_eq_nil_iff.mp hnil)
  obtain ⟨answer, hanswer⟩ := fullMatch_ok hgroups text
  rw [hanswer, Except.ok.injEq] at hmatches
  rw [hanswer, Except.ok.injEq, Bool.eq_iff_iff, hmatches, Bool.and_eq_true, decide_eq_true_iff,
    List.all_eq_true]

/-- What stands for a repetition by itself is just that. -/
theorem eq_singleton_of_ofList {items : List Expr} {greed : Greed} {least : Nat}
    {most : Option Nat} {body : Expr} (h : ofList items = .loop greed least most body) :
    items = [.loop greed least most body] := by
  match items with
  | [] => cases h
  | [e] => rw [← h, ofList]
  | _ :: _ :: _ => cases h

/-! ## Delimiters -/

variable {options : Options}

/-- The delimiters and the further ends have dashes only where they make no ranges. -/
structure Options.Rangeless (options : Options) : Prop where
  delimiter : DashAtEnds options.delimiter.toList
  endsWith : DashAtEnds options.endsWith.toList

/-- The test of the standard expression lists the delimiters. -/
def Options.valueTest (options : Options) : CharTest :=
  SetReader.test options.flags.fold true (options.delimiter.toList.map fun c => .code c.toNat)

/-- The standard expression repeats that test. -/
theorem readItems_valueTest (hdash : DashAtEnds options.delimiter.toList) :
    readItems options.flags (defaultPattern options.delimiter) =
      [.loop .lazy 1 none (.char options.valueTest)] :=
  eq_singleton_of_ofList (readItems_defaultPattern options (readSet_plain _ true hdash))

/-- Where case matters, the standard expression takes all characters but the delimiters. -/
theorem Options.accepts_valueTest (hsensitive : options.sensitive = true) (c : Char) :
    options.valueTest.accepts c = true ↔ c ∉ options.delimiter.toList := by
  rw [valueTest, fold_of_sensitive hsensitive, accepts_codes, Bool.true_bne, Bool.not_eq_true',
    decide_eq_false_iff_not]

/-- Where case matters, what repeats the test of the standard expression matches just the texts that
may stand between delimiters. -/
theorem fullMatch_standard (hsensitive : options.sensitive = true) {expression : Expression}
    (hexpr : expression.expr = .loop .lazy 1 none (.char options.valueTest))
    (hgroups : expression.groups = 0) (text : String) :
    expression.fullMatch text = .ok (decide (StandsBetween options.delimiter text)) := by
  rw [Expression.fullMatch_repeated hexpr hgroups, Except.ok.injEq, Bool.eq_iff_iff,
    Bool.and_eq_true, decide_eq_true_iff, decide_eq_true_iff, List.all_eq_true, StandsBetween]
  simp only [options.accepts_valueTest hsensitive]

/-- Everything in a pattern without other expressions can be read. -/
theorem Options.Rangeless.sourceReadable (h : options.Rangeless) {source : String}
    {parts : List Part} (hparse : parse options source = .ok parts)
    (hpatterns : ∀ key ∈ capturingKeys parts, key.pattern = defaultPattern options.delimiter) :
    SourceReadable options parts where
  keys key hkey := by
    refine ⟨isModifier_of_parse hparse key hkey, fun hcaptures => ?_⟩
    rw [hpatterns key (mem_capturingKeys.mpr ⟨hkey, hcaptures⟩)]
    exact embeddable_defaultPattern options (readSet_plain _ true h.delimiter)
  delimiter _ := ⟨_, readSet_plain _ _ h.delimiter⟩
  endsWith _ := ⟨_, readSet_plain _ _ h.endsWith⟩

/-- Where case matters and values are checked, a value is built in between the texts of a key just
if its text may stand between delimiters. -/
theorem segment_standard (hsensitive : options.sensitive = true)
    (hvalidate : options.validate = true) {expression : Expression}
    (hexpr : expression.expr = .loop .lazy 1 none (.char options.valueTest))
    (hgroups : expression.groups = 0) (key : Key) (every : Bool) (value : Value) :
    Builder.segment options key expression every value =
      if StandsBetween options.delimiter (options.encode value.toText) then
        .ok (key.before ++ options.encode value.toText ++ key.after)
      else .error (.rejected ⟨.mismatch every key.pattern (options.encode value.toText), key.name,
        .text (options.encode value.toText)⟩) := by
  unfold Builder.segment Builder.accepts
  dsimp only
  rw [if_pos hvalidate, fullMatch_standard hsensitive hexpr hgroups]
  by_cases hstands : StandsBetween options.delimiter (options.encode value.toText)
  · simp only [hstands, decide_true, if_true]
    rfl
  · simp only [hstands, decide_false, if_false]
    rfl

/-- If dashes stand among the delimiters only at their ends, the standard expression matches the
texts that may stand between delimiters. A pattern without other expressions has a matcher and a
builder, and a value is built in just if its text is such a text. -/
theorem standard_avoids_delimiters {delimiter : String} (hne : delimiter ≠ "")
    (hdash : DashAtEnds delimiter.toList) :
    (∃ expression, Expression.read (defaultPattern delimiter) {} = .ok expression ∧
      ∀ text, expression.fullMatch text = .ok (decide (StandsBetween delimiter text))) ∧
    ∀ options : Options, options.delimiter = delimiter → DashAtEnds options.endsWith.toList →
      ∀ source parts, parse options source = .ok parts →
        (∀ key ∈ capturingKeys parts, key.pattern = defaultPattern delimiter) →
        (∃ matcher, Matcher.ofPath options (.pattern source) = .ok matcher) ∧
        ∃ builder, Builder.ofPattern options source = .ok builder ∧
          (options.sensitive = true → options.validate = true →
            ∀ key expression, .key key expression ∈ builder.parts → key.captures = true →
              ∀ every value, Builder.segment options key expression every value =
                if StandsBetween delimiter (options.encode value.toText) then
                  .ok (key.before ++ options.encode value.toText ++ key.after)
                else .error (.rejected ⟨.mismatch every key.pattern (options.encode value.toText),
                  key.name, .text (options.encode value.toText)⟩)) := by
  constructor
  · let options : Options := { delimiterChars := delimiter, sensitive := true }
    have hdelimiter : options.delimiter = delimiter := by simp [options, Options.delimiter, hne]
    have hread := @read_defaultPattern options options.valueTest
      (readSet_plain _ true (hdelimiter ▸ hdash))
    rw [hdelimiter] at hread
    refine ⟨_, hread, fun text => ?_⟩
    rw [@fullMatch_standard options rfl _ rfl rfl, hdelimiter]
  · rintro options rfl hends source parts hparse hpatterns
    have hrangeless : options.Rangeless := ⟨hdash, hends⟩
    have hreadable := hrangeless.sourceReadable hparse hpatterns
    refine ⟨⟨_, Matcher.ofPath_eq hparse hreadable⟩, _,
      Builder.ofPattern_readable hparse hreadable.keys, ?_⟩
    intro hsensitive hvalidate key expression hmem hcaptures every value
    obtain ⟨part, hpart, hready⟩ := List.mem_map.mp hmem
    cases part with
    | text literal => simp [Part.ready] at hready
    | key k =>
        obtain ⟨rfl, rfl⟩ := BuildPart.key.inj hready
        refine segment_standard hsensitive hvalidate ?_ rfl k every value
        dsimp only
        rw [hpatterns k (mem_capturingKeys.mpr ⟨hpart, hcaptures⟩)]
        exact readItems_defaultPattern options (readSet_plain _ true hdash)

/-- Delimiters that are special within a set, and dashes in front of them and behind the further
ends. -/
theorem standard_avoids_delimiters_special :
    let options : Options := { delimiterChars := "-^]\\/", sensitive := true, endsWith := "&-" }
    let key : Key := { name := .named "x", before := "/", pattern := "[^-\\^\\]\\\\\\/]+?" }
    (∃ expression, Expression.read (defaultPattern options.delimiter) {} = .ok expression ∧
      expression.fullMatch "a.b" = .ok true ∧ expression.fullMatch "a]b" = .ok false) ∧
    (∃ matcher, Matcher.ofPath options (.pattern "/:x") = .ok matcher) ∧
    ∃ builder expression, Builder.ofPattern options "/:x" = .ok builder ∧
      builder.parts = [.key key expression] ∧
      Builder.segment options key expression false (.text "a.b") = .ok "/a.b" ∧
      Builder.segment options key expression false (.text "a]b") =
        .error (.rejected ⟨.mismatch false key.pattern "a]b", key.name, .text "a]b"⟩) := by
  intro options key
  obtain ⟨⟨expression, hread, hmatch⟩, hpatterns⟩ := standard_avoids_delimiters
    (show options.delimiter ≠ "" by decide +kernel) (by decide +kernel)
  have hkeys : capturingKeys [.key key] = [key] := by decide +kernel
  obtain ⟨hmatcher, builder, hbuilder, hsegment⟩ := hpatterns options rfl (by decide +kernel) "/:x"
    [.key key] (toOption_eq_some.mp (by decide +kernel)) (by rw [hkeys]; decide +kernel)
  have hparts : (Builder.ofPattern options "/:x").toOption.map (fun builder =>
      builder.parts.map fun part => match part with
        | .key k _ => some k
        | .text _ => none) = some [some key] := by decide +kernel
  rw [hbuilder] at hparts
  obtain ⟨part, hpart, hkey⟩ := List.map_eq_singleton_iff.mp (Option.some.inj hparts)
  cases part with
  | text literal => simp at hkey
  | key k built =>
      obtain rfl := Option.some.inj hkey
      have hbuilt := hsegment rfl rfl key built (by simp [hpart]) rfl false
      refine ⟨⟨expression, hread, (hmatch _).trans (by decide +kernel),
        (hmatch _).trans (by decide +kernel)⟩, hmatcher, builder, built, hbuilder, hpart,
        (hbuilt _).trans ?_, (hbuilt _).trans ?_⟩
      · rw [if_pos (by decide +kernel)]
        rfl
      · rw [if_neg (by decide +kernel)]
        rfl

/-- A dash between two delimiters makes a range: other characters are refused and the dash is not.
-/
example : ((Expression.read (defaultPattern "a-z") {}).toOption.bind fun expression =>
    (["m", "-"].mapM expression.fullMatch).toOption) = some [false, true] := by
  decide +kernel

end RoutePattern
