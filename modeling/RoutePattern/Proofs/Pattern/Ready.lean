import RoutePattern.Proofs.Pattern.Params
import RoutePattern.Proofs.Pattern.Parse
import RoutePattern.Proofs.Pattern.Readable

/-!
# Matchers and builders of readable patterns

Where the keys of a pattern stand alone, its matcher has the expressions that are written for the
parts (`Matcher.ofPath_readable`), and its builder has for each key the expression that the matcher
has for it, too (`Builder.ofPattern_readable`).
-/

namespace RoutePattern

open RoutePattern.Expr

/-! ## Running a matcher -/

section Running

variable {options : Options} {source : String} {parts : List Part}

/-- A pattern's matcher has the expression of the parts and the keys that capture. -/
theorem Matcher.ofPath_pattern {matcher : Matcher} (hparse : parse options source = .ok parts)
    (h : Matcher.ofPath options (.pattern source) = .ok matcher) :
    ∃ expression, compileParts options parts = .ok expression ∧
      matcher = ⟨expression, capturingKeys parts, options⟩ := by
  unfold Matcher.ofPath at h
  rw [Path.compile_pattern hparse] at h
  split at h
  · next expression keys heq =>
    obtain ⟨hcompile, rfl⟩ := Prod.mk.inj heq
    cases h
    exact ⟨expression, mapError_eq_ok.mp hcompile, rfl⟩
  · simp at h

/-- A match comes from a search and the values of the groups that it has found. -/
theorem Matcher.run_eq_some {matcher : Matcher} {text : String} {found : Match}
    (h : matcher.run text = .ok (some found)) : ∃ hit params,
      matcher.expression.search text = .ok (some hit) ∧
      bindParams matcher.options [] matcher.keys (matcher.expression.groupTexts hit) = .ok params ∧
        found = ⟨String.ofList hit.text, hit.index, params⟩ := by
  unfold Matcher.run at h
  obtain ⟨result, hsearch, h⟩ := bind_eq_ok.mp h
  cases result with
  | none => cases h
  | some hit =>
      obtain ⟨params, hbind, h⟩ := bind_eq_ok.mp h
      cases h
      exact ⟨hit, params, mapError_eq_ok.mp hsearch, mapError_eq_ok.mp hbind, rfl⟩

/-- A search that finds something gives a match, if its groups can be read. -/
theorem Matcher.run_of_search {matcher : Matcher} {text : String} {hit : Found} {params : Params}
    (hsearch : matcher.expression.search text = .ok (some hit))
    (hbind : bindParams matcher.options [] matcher.keys (matcher.expression.groupTexts hit) =
      .ok params) :
    matcher.run text = .ok (some ⟨String.ofList hit.text, hit.index, params⟩) := by
  refine bind_eq_ok.mpr ⟨some hit, mapError_eq_ok.mpr hsearch, ?_⟩
  exact bind_eq_ok.mpr ⟨params, mapError_eq_ok.mpr hbind, rfl⟩

/-- Where a search finds something and every text can be decoded, there is a match. -/
theorem Matcher.exists_run_eq_some {matcher : Matcher} {text : String} {hit : Found}
    (hsearch : matcher.expression.search text = .ok (some hit))
    (hdecode : ∀ captured, ∃ value, matcher.options.decode captured = .ok value) :
    ∃ found, matcher.run text = .ok (some found) := by
  obtain ⟨params, hbind⟩ := bindParams_ok hdecode [] matcher.keys (matcher.expression.groupTexts hit)
  exact ⟨_, Matcher.run_of_search hsearch hbind⟩

/-- Where a search has an answer and every text can be decoded, a matcher has an answer. -/
theorem Matcher.exists_run {matcher : Matcher} {text : String}
    (hsearch : ∃ result, matcher.expression.search text = .ok result)
    (hdecode : ∀ captured, ∃ value, matcher.options.decode captured = .ok value) :
    ∃ answer, matcher.run text = .ok answer := by
  obtain ⟨result, hsearch⟩ := hsearch
  cases result with
  | none =>
      refine ⟨none, ?_⟩
      unfold Matcher.run
      rw [hsearch]
      rfl
  | some hit =>
      obtain ⟨found, hrun⟩ := Matcher.exists_run_eq_some hsearch hdecode
      exact ⟨some found, hrun⟩

/-- The matcher of a pattern whose keys stand alone has the expressions that are written for the
parts. -/
theorem Matcher.ofPath_readable {matcher : Matcher} (hparse : parse options source = .ok parts)
    (hkeys : ∀ key, Part.key key ∈ parts → key.captures = true → key.StandsAlone options)
    (h : Matcher.ofPath options (.pattern source) = .ok matcher) :
    SourceReadable options parts ∧ matcher = ⟨⟨partsSource options parts, options.flags,
      .ofList (sourceItems options parts 0), partsGroups parts⟩, capturingKeys parts, options⟩ := by
  obtain ⟨expression, hcompile, rfl⟩ := Matcher.ofPath_pattern hparse h
  have hreadable := sourceReadable_of_compile hcompile (isModifier_of_parse hparse)
    fun key hkey hcaptures => (hkeys key hkey hcaptures).telling
  rw [compileParts_eq hreadable] at hcompile
  cases hcompile
  exact ⟨hreadable, rfl⟩

/-- A pattern that can be read has a matcher. -/
theorem Matcher.ofPath_eq (hparse : parse options source = .ok parts)
    (h : SourceReadable options parts) : Matcher.ofPath options (.pattern source) =
      .ok ⟨⟨partsSource options parts, options.flags, .ofList (sourceItems options parts 0),
        partsGroups parts⟩, capturingKeys parts, options⟩ := by
  refine Matcher.ofPath_of_compile ?_
  rw [Path.compile_pattern hparse, compileParts_eq h]
  rfl

end Running

/-! ## Making parts ready -/

section Making

variable {options : Options}

/-- A part that is ready to be built. -/
def Part.ready (options : Options) : Part → BuildPart
  | .text literal => .text literal
  | .key k => .key k ⟨"(?:" ++ k.pattern ++ ")", options.flags,
      .ofList (readItems options.flags k.pattern), 0⟩

/-- The empty expression may stand anywhere. -/
theorem embeddable_empty (flags : Flags) : Embeddable flags "" := by
  have hread := @Stretch.read flags "" 0 (fun _ => []) Stretch.nil (by simp)
  exact ⟨⟨_, hread, rfl⟩, rfl⟩

/-- The expression of a key that captures nothing may stand anywhere. -/
theorem embeddable_of_not_captures {key : Key} (h : key.captures = false) :
    Embeddable options.flags key.pattern := by
  have hempty : key.pattern = "" := by simpa [Key.captures] using h
  rw [hempty]
  exact embeddable_empty _

/-- The expression of a key that can be read may stand anywhere. -/
theorem Key.Readable.embeddable {key : Key} (h : key.Readable options) :
    Embeddable options.flags key.pattern := by
  cases hcaptures : key.captures with
  | true => exact h.2 hcaptures
  | false => exact embeddable_of_not_captures hcaptures

/-- Parts whose keys can be read are made ready. -/
theorem ofParts_eq {parts : List Part}
    (h : ∀ key, Part.key key ∈ parts → Embeddable options.flags key.pattern) :
    Builder.ofParts options parts = .ok ⟨parts.map (Part.ready options), options⟩ := by
  have hall : parts.mapM (Builder.ofPart options) = .ok (parts.map (Part.ready options)) := by
    induction parts with
    | nil => rfl
    | cons part rest ih =>
        have hpart : Builder.ofPart options part = .ok (part.ready options) := by
          cases part with
          | text literal => rfl
          | key k =>
              rw [Builder.ofPart, read_wrapped (h k (by simp))]
              rfl
        rw [List.mapM_cons, hpart, ih fun key hkey => h key (by simp [hkey])]
        rfl
  rw [Builder.ofParts, hall]
  rfl

/-- The builder of a pattern whose keys can be read has its parts, made ready. -/
theorem Builder.ofPattern_readable {source : String} {parts : List Part}
    (hparse : parse options source = .ok parts)
    (hkeys : ∀ key, Part.key key ∈ parts → key.Readable options) :
    Builder.ofPattern options source = .ok ⟨parts.map (Part.ready options), options⟩ := by
  rw [Builder.ofPattern, hparse]
  show Except.mapError _ (Builder.ofParts _ _) = _
  rw [ofParts_eq fun key hkey => (hkeys key hkey).embeddable]
  rfl

/-- What is made ready has keys whose expressions may stand in groups. -/
theorem embeddable_of_ofParts {parts : List Part} {builder : Builder}
    (hkeys : ∀ key, Part.key key ∈ parts → key.captures = true → key.Telling options)
    (h : Builder.ofParts options parts = .ok builder) :
    ∀ key, Part.key key ∈ parts → Embeddable options.flags key.pattern := by
  obtain ⟨made, hall, -⟩ := bind_eq_ok.mp h
  clear h
  induction parts generalizing made with
  | nil => simp
  | cons part rest ih =>
      rw [List.mapM_cons] at hall
      obtain ⟨first, hfirst, hall⟩ := bind_eq_ok.mp hall
      obtain ⟨others, hothers, _⟩ := bind_eq_ok.mp hall
      intro key hkey
      rcases List.mem_cons.mp hkey with rfl | hrest
      · obtain ⟨expression, hread, _⟩ := bind_eq_ok.mp hfirst
        cases hcaptures : key.captures with
        | true => exact embeddable_of_wrapped hread (hkeys key (by simp) hcaptures)
        | false => exact embeddable_of_not_captures hcaptures
      · exact ih (fun key hkey => hkeys key (by simp [hkey])) others hothers key hrest

/-- A pattern has a builder only if the expressions of its keys may stand in groups. -/
theorem embeddable_of_ofPattern {source : String} {parts : List Part} {builder : Builder}
    (hparse : parse options source = .ok parts)
    (hkeys : ∀ key, Part.key key ∈ parts → key.StandsAlone options)
    (h : Builder.ofPattern options source = .ok builder) :
    ∀ key, Part.key key ∈ parts → Embeddable options.flags key.pattern := by
  rw [Builder.ofPattern, hparse] at h
  exact embeddable_of_ofParts (fun key hkey _ => (hkeys key hkey).telling) (mapError_eq_ok.mp h)

end Making

end RoutePattern
