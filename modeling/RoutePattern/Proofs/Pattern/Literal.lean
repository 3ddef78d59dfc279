import RoutePattern.Proofs.Pattern.Trailing
import RoutePattern.Proofs.Pattern.Written

/-!
# Literal text

A text with every character escaped is a pattern that stands for the text as it is encoded, and for
nothing else. `escaped_matches_itself` is the main result.
-/

namespace RoutePattern

open RoutePattern.Expr

variable {options : Options}

/-- What a literal text is written as: nothing if it is empty, as there is no part for it then. -/
def Options.written (options : Options) (text : String) : String :=
  if text = "" then "" else options.encode text

/-- Where case matters, the expressions of a literal text lead over just what it is written as. -/
theorem passes_literal_iff (hsensitive : options.sensitive = true) {text : String} {p q : Place}
    {M N : Marks} :
    (ofList (partsItems options 0 (PartReader.literal text))).Passes p M q N ↔
      N = M ∧ p.Reaches q (options.written text).toList := by
  unfold PartReader.literal Options.written
  by_cases hempty : text = ""
  · rw [if_pos (by simpa using hempty), if_pos hempty]
    show q = p ∧ N = M ↔ _
    rw [String.toList_empty, Place.reaches_nil_iff]
    tauto
  · rw [if_neg (by simpa using hempty), if_neg hempty, partsItems, partsItems, List.append_nil]
    show (ofList (options.literal text)).Passes p M q N ↔ _
    rw [Options.literal, fold_of_sensitive hsensitive, passes_literalItems]
    refine and_congr_right fun _ => ⟨?_, fun h => ⟨_, h, sameText_refl _ _⟩⟩
    rintro ⟨spelled, hreaches, hsame⟩
    rwa [sameText_keep hsame] at hreaches

/-- A text with every character escaped is read as that text alone. -/
theorem parse_escaped (options : Options) (text : String) :
    parse options (String.ofList (escaped text)) = .ok (PartReader.literal text) := by
  have hnormal : Normal (defaultPattern options.delimiter) 0 (PartReader.literal text) := by
    unfold PartReader.literal
    split
    · exact .nil
    · next hne => exact .text (by simpa using hne) (by simp) .nil
  have hparse := parse_spelling options (fun _ => false) hnormal
  have hspelling : spelling (defaultPattern options.delimiter) (fun _ => false)
      (PartReader.literal text) = escaped text := by
    unfold PartReader.literal
    split
    · next hempty => simp [spelling, String.isEmpty_iff.mp hempty, escaped]
    · simp [spelling, Part.spelling]
  rwa [hspelling] at hparse

/-- There are no keys in literal text. -/
theorem key_notMem_literal {text : String} {key : Key} : Part.key key ∉ PartReader.literal text := by
  unfold PartReader.literal
  split <;> simp

/-- Literal text can be read, whatever the delimiters are, where none of them may be left out. -/
theorem sourceReadable_literal (hstrict : options.strict = true) (hend : options.anchorEnd = true)
    (hends : options.endsWith = "") (text : String) :
    SourceReadable options (PartReader.literal text) where
  keys _ hkey := absurd hkey key_notMem_literal
  delimiter h := by simp [usesDelimiter, hstrict, hend] at h
  endsWith h := by simp [usesEndsWith, hends] at h

/-- A search for literal text that is anchored on both sides finds all of the text that it is written
as, and nothing in other texts. -/
theorem search_literal (hsensitive : options.sensitive = true) (hstrict : options.strict = true)
    (hstart : options.anchorStart = true) (hend : options.anchorEnd = true)
    (hends : options.endsWith = "") (text candidate : String) :
    let parts := PartReader.literal text
    let expression : Expression := ⟨partsSource options parts, options.flags,
      .ofList (sourceItems options parts 0), partsGroups parts⟩
    (candidate = options.written text ∧ ∃ hit, expression.search candidate = .ok (some hit) ∧
        hit.index = 0 ∧ String.ofList hit.text = candidate) ∨
      candidate ≠ options.written text ∧ expression.search candidate = .ok none := by
  intro parts expression
  have hreadable : SourceReadable options parts := sourceReadable_literal hstrict hend hends text
  have hlocal (key : Key) (hkey : Part.key key ∈ parts) (_ : key.captures = true) :
      key.Local options := absurd hkey key_notMem_literal
  have hfits : expression.expr.Fits false 0 _ := fits_sourceItems hreadable.keys
  obtain ⟨result, hsearch⟩ := @Expression.search_ok expression _
    (direct_sourceItems hreadable hlocal).onward hfits candidate
  have hfound := @search_anchored_iff options parts hreadable hlocal hstart hend hends candidate
  cases result with
  | none =>
      refine .inr ⟨?_, hsearch⟩
      rintro rfl
      obtain ⟨hit, hhit⟩ := hfound.mpr ⟨_, [], (List.append_nil _).symm,
        fun p q hreaches M => ⟨M, (passes_literal_iff hsensitive).mpr ⟨rfl, hreaches⟩⟩, .inl rfl⟩
      exact absurd (hsearch.symm.trans hhit) (by simp)
  | some hit =>
      obtain ⟨⟨s, hwhole, hindex, hpasses, _⟩, _⟩ := Expression.search_eq_some hfits hsearch
      have hzero : hit.index = 0 := by
        have hbefore := (passes_sourceItems hend hends hpasses).1 hstart
        rw [hindex, s.offset_eq, hbefore, List.length_nil]
      obtain ⟨htext, _, hlast, r, hparts, hr | ⟨hloose, _⟩⟩ :=
        whole_of_search hreadable hend hends hsearch hzero
      · subst hr
        obtain ⟨_, hreaches⟩ := (passes_literal_iff hsensitive).mp hparts
        have hall : candidate.toList = (options.written text).toList := by
          simpa [Place.start, hlast] using hreaches.after
        exact .inl ⟨String.toList_inj.mp hall, hit, hsearch, hzero, htext⟩
      · simp [hstrict] at hloose

/-- A text with every character escaped is read as one literal, or as nothing if it is empty. Where
case matters, a match is anchored on both sides and no delimiter may follow, the pattern has no keys
and matches what the literal is written as, from its beginning to its end, and nothing else. -/
theorem escaped_matches_itself {options : Options} (hsensitive : options.sensitive = true)
    (hstrict : options.strict = true) (hstart : options.anchorStart = true)
    (hend : options.anchorEnd = true) (hends : options.endsWith = "") (text : String) :
    parse options (String.ofList (escaped text)) = .ok (if text = "" then [] else [.text text]) ∧
    ∃ matcher, Matcher.ofPath options (.pattern (String.ofList (escaped text))) = .ok matcher ∧
      matcher.keys = [] ∧
      ∀ candidate, matcher.run candidate =
        .ok (if candidate = options.written text then some ⟨candidate, 0, []⟩ else none) := by
  have hparse := parse_escaped options text
  have hreadable := sourceReadable_literal hstrict hend hends text
  have hkeys : capturingKeys (PartReader.literal text) = [] := by
    rw [List.eq_nil_iff_forall_not_mem]
    exact fun key hkey => key_notMem_literal (mem_capturingKeys.mp hkey).1
  refine ⟨?_, _, Matcher.ofPath_eq hparse hreadable, hkeys, fun candidate => ?_⟩
  · rw [hparse]
    simp only [PartReader.literal, String.isEmpty_iff]
  rw [hkeys]
  rcases search_literal hsensitive hstrict hstart hend hends text candidate with
    ⟨hwritten, hit, hsearch, hindex, htext⟩ | ⟨hwritten, hsearch⟩
  · have hrun := @Matcher.run_of_search ⟨_, [], options⟩ _ _ [] hsearch rfl
    rw [if_pos hwritten, hrun, htext, hindex]
  · rw [if_neg hwritten, Matcher.run, hsearch]
    rfl

/-- Text that looks like an expression with a key in it, and is encoded. -/
theorem escaped_matches_itself_special :
    let options : Options := { delimiterChars := "9-0", sensitive := true, strict := true,
                               encode := Encoding.wrap.apply }
    let source := "\\[\\a\\b\\]\\\x7b\\2\\\x7d\\\n\\:\\x\\(\\\\\\)"
    parse options source = .ok [.text "[ab]\x7b2\x7d\n:x(\\)"] ∧
    ∃ matcher, Matcher.ofPath options (.pattern source) = .ok matcher ∧
      matcher.run "<[ab]\x7b2\x7d\n:x(\\)>" = .ok (some ⟨"<[ab]\x7b2\x7d\n:x(\\)>", 0, []⟩) ∧
      matcher.run "<a\x7b2\x7d\n:x(\\)>" = .ok none := by
  intro options source
  obtain ⟨hparse, matcher, hmatcher, _, hrun⟩ := @escaped_matches_itself options rfl rfl rfl rfl rfl
    "[ab]\x7b2\x7d\n:x(\\)"
  have hsource : String.ofList (escaped "[ab]\x7b2\x7d\n:x(\\)") = source := by decide +kernel
  rw [hsource] at hparse hmatcher
  refine ⟨hparse.trans (by decide +kernel), matcher, hmatcher, ?_, ?_⟩
  · rw [hrun, if_pos (by decide +kernel)]
  · rw [hrun, if_neg (by decide +kernel)]

end RoutePattern
