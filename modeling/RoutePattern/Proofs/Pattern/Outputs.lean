import RoutePattern.Proofs.Part.Default
import RoutePattern.Proofs.Pattern.Repetitions
import RoutePattern.Proofs.Pattern.Standard
import RoutePattern.Proofs.Pattern.Trailing

/-!
# Delimiters in built paths

A built path is made of texts of the pattern itself and of the encoded texts of values
(`Part.outputs`). With validation a value brings no delimiter along if the pattern has no
expressions of its own: `values_add_no_delimiters` is the main result.
-/

namespace RoutePattern

open RoutePattern.Expr

/-- A piece of a built path: text of the pattern itself, or the encoded text of a value. -/
inductive Output where
  | own (text : String)
  | value (text : String)
deriving DecidableEq, Repr

/-- The text of a piece. -/
def Output.text : Output → String
  | own text | value text => text

/-- The text of a piece as far as it comes from the pattern. -/
def Output.ownText : Output → String
  | own text => text
  | value _ => ""

/-- The pieces that are written for a part. The texts of a key stand around each of its values. -/
def Part.outputs (options : Options) (params : Params) : Part → List Output
  | .text literal => [.own literal]
  | .key k =>
      if k.captures then
        (((params.lookup k.name).getD .null).pieces options).flatMap fun piece =>
          [.own k.before, .value piece, .own k.after]
      else if k.optional then [] else [.own k.before, .own k.after]

variable {options : Options}

/-- Texts that the standard expression matches may stand between delimiters. -/
theorem standsBetween_of_fullMatch {expression : Expression}
    (hexpr : expression.expr = ofList options.standardItems) {text : String}
    (h : expression.fullMatch text = .ok true) : StandsBetween standardDelimiter text := by
  have hcaptures := captures_of_isPlain options.shape_standardItems.1
  rw [← hexpr] at hcaptures
  obtain ⟨q, N, hpasses, hlast⟩ :=
    Expression.fullMatch_eq_true (fits_of_captures hcaptures false (Nat.le_refl 0)) h
  rw [hexpr] at hpasses
  obtain ⟨read, hreaches, hne, hfree⟩ := reaches_of_passes_standard hpasses
  have htext : text.toList = read := by simpa [Place.start, hlast] using hreaches.after
  refine ⟨?_, fun c hc => ?_⟩
  · rintro rfl
    exact hne htext.symm
  · simpa [isDelimiter] using hfree c (htext ▸ hc)

/-- What may stand between the standard delimiters is free of them. -/
theorem StandsBetween.free {text : String} (h : StandsBetween standardDelimiter text) :
    Free text.toList :=
  fun c hc => by simpa [isDelimiter] using h.2 c hc

section Writing

variable {params : Params}

/-- What is built for a part is what its pieces say, and a value whose key has the standard
expression may stand between delimiters. -/
theorem Part.build_eq_ok (hvalidate : options.validate = true) {part : Part}
    (hstandard : ∀ key, part = .key key → key.captures = true →
      key.pattern = defaultPattern standardDelimiter) {text : String}
    (h : Builder.part options params (part.ready options) = .ok text) :
    text = String.join ((part.outputs options params).map Output.text) ∧
      ∀ value, .value value ∈ part.outputs options params →
        StandsBetween standardDelimiter value := by
  cases part with
  | text literal =>
      cases h
      simp [outputs, Output.text]
  | key k =>
      rw [ready, Builder.part] at h
      rw [outputs]
      split at h
      · next hcaptures =>
        obtain ⟨hmatch, rfl, _⟩ := capturing_eq_ok hvalidate h
        rw [if_pos hcaptures]
        refine ⟨?_, fun value hvalue => ?_⟩
        · simp [← String.toList_inj, List.flatMap_map, List.map_flatMap, List.flatMap_assoc,
            Output.text]
        · have hpiece : value ∈ ((params.lookup k.name).getD .null).pieces options := by
            simpa using hvalue
          refine @standsBetween_of_fullMatch options _ ?_ _ (hmatch value hpiece)
          rw [hstandard k rfl hcaptures]
          rfl
      · next hcaptures =>
        cases h
        rw [if_neg hcaptures]
        split <;> simp [Output.text]

/-- What is built for some parts is what their pieces say. -/
theorem build_eq_ok (hvalidate : options.validate = true) {parts : List Part}
    (hstandard : ∀ key, Part.key key ∈ parts → key.captures = true →
      key.pattern = defaultPattern standardDelimiter) {texts : List String}
    (h : (parts.map (Part.ready options)).mapM (Builder.part options params) = .ok texts) :
    String.join texts = String.join ((parts.flatMap (Part.outputs options params)).map Output.text) ∧
      ∀ value, .value value ∈ parts.flatMap (Part.outputs options params) →
        StandsBetween standardDelimiter value := by
  induction parts generalizing texts with
  | nil =>
      cases h
      simp
  | cons part rest ih =>
      rw [List.map_cons, List.mapM_cons] at h
      obtain ⟨text, hfirst, h⟩ := bind_eq_ok.mp h
      obtain ⟨others, hrest, h⟩ := bind_eq_ok.mp h
      cases h
      obtain ⟨rfl, hvalues⟩ := Part.build_eq_ok hvalidate
        (fun key hkey => hstandard key (by simp [hkey])) hfirst
      obtain ⟨hjoin, hothers⟩ := ih (fun key hkey => hstandard key (by simp [hkey])) hrest
      refine ⟨?_, fun value hvalue => ?_⟩
      · rw [String.join_cons, hjoin]
        simp
      · rw [List.flatMap_cons, List.mem_append] at hvalue
        exact hvalue.elim (hvalues value) (hothers value)

/-- Values without delimiters leave a path the delimiters of the pattern itself. -/
theorem countP_join_outputs {written : List Output}
    (h : ∀ text, .value text ∈ written → StandsBetween standardDelimiter text) :
    (String.join (written.map Output.text)).toList.countP isDelimiter =
      (written.flatMap fun piece => piece.ownText.toList).countP isDelimiter := by
  induction written with
  | nil => rfl
  | cons piece rest ih =>
      have hrest := ih fun text htext => h text (by simp [htext])
      rw [List.map_cons, String.join_cons, String.toList_append, List.countP_append, hrest,
        List.flatMap_cons, List.countP_append]
      congr 1
      cases piece with
      | own text => rfl
      | value text =>
          have hfree := (h text (by simp)).free
          rw [Output.text, Output.ownText, String.toList_empty, List.countP_nil,
            List.countP_eq_zero]
          exact fun c hc => by simp [hfree c hc]

end Writing

/-- With validation, a path that is built for a pattern without expressions is made of the texts of
its parts and of values between them, in the order of the parts. Each value is the encoded text of
what was given, is not empty and has no delimiter, so the delimiters of the path are those of the
pattern itself. -/
theorem values_add_no_delimiters {options : Options}
    (hdelimiter : options.delimiter = standardDelimiter) (hvalidate : options.validate = true)
    {source : String} (hplain : WithoutExpressions source) {parts : List Part}
    (hparse : parse options source = .ok parts) {builder : Builder}
    (hbuilder : Builder.ofPattern options source = .ok builder) {params : Params} {path : String}
    (hbuild : builder.build params = .ok path) :
    let written := parts.flatMap (Part.outputs options params)
    path = String.join (written.map Output.text) ∧
      (∀ text, .value text ∈ written → StandsBetween standardDelimiter text) ∧
      path.toList.countP isDelimiter =
        (written.flatMap fun piece => piece.ownText.toList).countP isDelimiter := by
  have hpatterns := pattern_of_withoutExpressions hparse hplain
  rw [hdelimiter] at hpatterns
  have hkeys (key : Key) (hkey : Part.key key ∈ parts) : key.Readable options :=
    ⟨isModifier_of_parse hparse key hkey, fun hcaptures =>
      hpatterns key hkey hcaptures ▸ embeddable_standard options⟩
  obtain rfl := Except.ok.inj (hbuilder.symm.trans (Builder.ofPattern_readable hparse hkeys))
  obtain ⟨texts, htexts, hpath⟩ := bind_eq_ok.mp hbuild
  cases hpath
  obtain ⟨hjoin, hvalues⟩ := build_eq_ok hvalidate hpatterns htexts
  exact ⟨hjoin, hvalues, by rw [hjoin, countP_join_outputs hvalues]⟩

/-- A list with a delimiter in one of its elements, which is encoded, an optional key without a
value and groups of literal text, one of them optional. -/
theorem values_add_no_delimiters_encoded :
    let options : Options := { encode := Encoding.percent.apply }
    let source := "/:lang?/\x7bv.:tag\x7d+/x\x7b-\x7d:page\x7b#\x7d?"
    let params : Params := [(.named "page", .int 7), (.named "tag", .list [.int 1, .text "a/b"])]
    WithoutExpressions source ∧
    ∃ parts builder, parse options source = .ok parts ∧
      Builder.ofPattern options source = .ok builder ∧
      builder.build params = .ok "/v.1v.a%2Fb/x-7" ∧
      parts.flatMap (Part.outputs options params) = [.own "/", .own "v.", .value "1", .own "",
        .own "v.", .value "a%2Fb", .own "", .own "/x", .own "-", .own "", .own "", .value "7",
        .own ""] ∧
      StandsBetween standardDelimiter "a%2Fb" ∧
      "/v.1v.a%2Fb/x-7".toList.countP isDelimiter = 2 := by
  intro options source params
  have hplain : WithoutExpressions source := by decide +kernel
  let lang : Key := { name := .named "lang", before := "/", pattern := "[^\\/#\\?]+?",
                      modifier := "?" }
  let tag : Key := { name := .named "tag", before := "v.", pattern := "[^\\/#\\?]+?",
                     modifier := "+" }
  let dash : Key := { name := .named "", before := "-" }
  let page : Key := { name := .named "page", pattern := "[^\\/#\\?]+?" }
  let hash : Key := { name := .named "", before := "#", modifier := "?" }
  have hparse := toOption_eq_some.mp (show (parse options source).toOption =
    some [.key lang, .text "/", .key tag, .text "/x", .key dash, .key page, .key hash] by
    decide +kernel)
  have hsome : ((Builder.ofPattern options source).toOption.bind fun builder =>
      (builder.build params).toOption) = some "/v.1v.a%2Fb/x-7" := by
    decide +kernel
  obtain ⟨builder, hbuilder, hbuild⟩ := Option.bind_eq_some_iff.mp hsome
  have hbuilder' := toOption_eq_some.mp hbuilder
  have hbuild' := toOption_eq_some.mp hbuild
  obtain ⟨_, hvalues, hcount⟩ := @values_add_no_delimiters options (by decide +kernel) rfl source
    hplain _ hparse _ hbuilder' _ _ hbuild'
  have houtputs : [.key lang, .text "/", .key tag, .text "/x", .key dash, .key page,
      .key hash].flatMap (Part.outputs options params) = [.own "/", .own "v.", .value "1", .own "",
        .own "v.", .value "a%2Fb", .own "", .own "/x", .own "-", .own "", .own "", .value "7",
        .own ""] := by
    decide +kernel
  rw [houtputs] at hvalues hcount
  exact ⟨hplain, _, builder, hparse, hbuilder', hbuild', houtputs, hvalues _ (by simp),
    hcount.trans (by decide +kernel)⟩

end RoutePattern
