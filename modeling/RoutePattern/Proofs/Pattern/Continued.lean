import RoutePattern.Proofs.Part.Default
import RoutePattern.Proofs.Pattern.Relaxed
import RoutePattern.Proofs.Pattern.Trailing

/-!
# Texts that go on behind a match

Where a match need not reach the end of a text, a text that its pattern matches as a whole may go on:
with anything at all if the pattern ends in literal text whose last character is a delimiter, and with
a delimiter whatever the pattern ends in. `run_continued` is the main result. That the text behind a
key or the text of a group ends in a delimiter does not count.
-/

namespace RoutePattern

open RoutePattern.Expr

variable {options : Options}

/-! ## Where decoding fails -/

section Decoding

variable {α β ε : Type} {fault : IntegerFault}

/-- If elements in a row fail, one of them does. -/
theorem exists_of_mapM_eq_error {f : α → Except ε β} {items : List α} {error : ε}
    (h : items.mapM f = .error error) : ∃ item ∈ items, f item = .error error := by
  induction items with
  | nil => cases h
  | cons item rest ih =>
      rw [List.mapM_cons] at h
      rcases bind_eq_error.mp h with hitem | ⟨_, _, hbehind⟩
      · exact ⟨item, List.mem_cons_self, hitem⟩
      · rcases bind_eq_error.mp hbehind with hrest | ⟨_, _, hdone⟩
        · obtain ⟨culprit, hculprit, hfails⟩ := ih hrest
          exact ⟨culprit, List.mem_cons_of_mem item hculprit, hfails⟩
        · cases hdone

/-- If a key has no value for what its group captured, some text cannot be decoded. -/
theorem Key.exists_of_value_eq_error {key : Key} {captured : String}
    (h : key.value options captured = .error fault) :
    ∃ text, options.decode text = .error fault := by
  unfold Key.value at h
  dsimp only at h
  split at h
  · rcases bind_eq_error.mp h with hpieces | ⟨_, _, hdone⟩
    · obtain ⟨text, _, hfails⟩ := exists_of_mapM_eq_error hpieces
      exact ⟨text, hfails⟩
    · cases hdone
  · exact ⟨captured, h⟩

/-- If groups give no values, some text cannot be decoded. -/
theorem exists_of_bindParams_eq_error {params : Params} {keys : List Key}
    {groups : List (Option String)} (h : bindParams options params keys groups = .error fault) :
    ∃ text, options.decode text = .error fault := by
  induction keys generalizing params groups with
  | nil => simp [bindParams] at h
  | cons key rest ih =>
      rcases groups with _ | ⟨_ | captured, groups⟩
      · simp [bindParams] at h
      · exact ih (by rwa [bindParams] at h)
      · rw [bindParams] at h
        rcases bind_eq_error.mp h with hvalue | ⟨value, _, hothers⟩
        · exact Key.exists_of_value_eq_error hvalue
        · exact ih hothers

/-- A match fails to be decoded only if some text cannot be. -/
theorem Matcher.exists_of_run_eq_decoding {matcher : Matcher} {text : String}
    (h : matcher.run text = .error (.decoding fault)) :
    ∃ captured, matcher.options.decode captured = .error fault := by
  unfold Matcher.run at h
  rcases bind_eq_error.mp h with hsearch | ⟨result, _, hbehind⟩
  · cases hsearched : matcher.expression.search text with
    | ok result => simp [hsearched] at hsearch
    | error other => simp [hsearched] at hsearch
  · cases result with
    | none => cases hbehind
    | some found =>
        rcases bind_eq_error.mp hbehind with hbind | ⟨_, _, hdone⟩
        · cases hparams : bindParams matcher.options [] matcher.keys
            (matcher.expression.groupTexts found) with
          | ok params => simp [hparams] at hbind
          | error other =>
              simp only [hparams, mapError_error, Except.error.injEq, MatchFault.decoding.injEq]
                at hbind
              exact exists_of_bindParams_eq_error (hbind ▸ hparams)
        · cases hdone

end Decoding

/-! ## Going on -/

/-- The expressions of the parts do not depend on whether a match has to reach the end. -/
theorem partsItems_anchorEnd (options : Options) (anchorEnd : Bool) (opened : Nat)
    (parts : List Part) :
    partsItems { options with anchorEnd } opened parts = partsItems options opened parts := by
  induction parts generalizing opened with
  | nil => rfl
  | cons part rest ih =>
      rw [partsItems, partsItems, ih]
      cases part <;> rfl

/-- A delimiter as a text is one character that the test for delimiters accepts. -/
theorem exists_delimiter (hdelimiter : options.delimiter = standardDelimiter) {d : String}
    (hd : d ∈ ["/", "#", "?"]) : ∃ c, d.toList = [c] ∧ c ∈ options.delimiter.toList ∧
      options.delimiterTest.accepts c = true := by
  simp only [accepts_delimiterTest hdelimiter, hdelimiter]
  simp only [List.mem_cons, List.not_mem_nil, or_false] at hd
  rcases hd with rfl | rfl | rfl
  · exact ⟨'/', rfl, by decide, by decide⟩
  · exact ⟨'#', rfl, by decide, by decide⟩
  · exact ⟨'?', rfl, by decide, by decide⟩

/-- What a pattern without expressions matches as a whole is matched where more comes behind it, too,
if a match need not reach the end: whatever comes there if the pattern ends in literal text with a
delimiter at its end, and otherwise nothing or a delimiter in front. Only the decoding of what has been
captured can fail. -/
theorem run_continued {options : Options} (hdelimiter : options.delimiter = standardDelimiter)
    (hstart : options.anchorStart = true) (hends : options.endsWith = "") {source : String}
    (hplain : WithoutExpressions source) {parts : List Part}
    (hparse : parse options source = .ok parts) {matcher : Matcher}
    (hmatcher : Matcher.ofPath { options with anchorEnd := true, strict := true } (.pattern source) =
      .ok matcher) :
    ∃ other, Matcher.ofPath { options with anchorEnd := false } (.pattern source) = .ok other ∧
      ∀ text whole, matcher.run text = .ok (some whole) → ∀ more,
        (∃ front literal, ∃ d ∈ ["/", "#", "?"], parts = front ++ [.text (literal ++ d)]) ∨
            more = "" ∨ (∃ d ∈ ["/", "#", "?"], ∃ behind, more = d ++ behind) →
          (∃ result, other.run (text ++ more) = .ok (some result)) ∨
            ∃ captured fault, options.decode captured = .error fault ∧
              other.run (text ++ more) = .error (.decoding fault) := by
  let closed : Options := { options with anchorEnd := true, strict := true }
  let opened : Options := { options with anchorEnd := false }
  have hlocal (key : Key) (hkey : Part.key key ∈ parts) (hcaptures : key.captures = true) :
      key.Local options := .inl (pattern_of_withoutExpressions hparse hplain key hkey hcaptures)
  obtain ⟨hreadable, rfl⟩ := @Matcher.ofPath_readable closed source parts matcher hparse
    (fun key hkey hcaptures => (hlocal key hkey hcaptures).standsAlone) hmatcher
  have hopen : SourceReadable opened parts :=
    sourceReadable_of_segments hends hdelimiter hreadable.keys
  refine ⟨_, Matcher.ofPath_eq hparse hopen, fun text whole hrun more hmore => ?_⟩
  -- The parts spell the whole text, and they stand for the same with both settings.
  obtain ⟨hit, _, hsearch, _⟩ := Matcher.run_eq_some hrun
  obtain ⟨front, rest, htext, hspells, hrest⟩ :=
    (@search_anchored_iff closed parts hreadable hlocal hstart rfl hends text).mp ⟨hit, hsearch⟩
  obtain rfl : rest = [] := hrest.resolve_right (by simp [closed])
  have hsame : partsItems closed 0 parts = partsItems opened 0 parts :=
    (partsItems_strict { options with anchorEnd := true } true 0 parts).trans
      ((partsItems_anchorEnd options true 0 parts).trans
        (partsItems_anchorEnd options false 0 parts).symm)
  rw [hsame, ← List.append_nil front, ← htext] at hspells
  -- Behind them the end of the expression passes without reading any more.
  obtain ⟨found, hfound⟩ := @search_of_spelled opened parts hopen hlocal hstart (text ++ more)
    text.toList more.toList String.toList_append hspells fun r hafter N => by
      refine ⟨r, passes_openItems.mpr ⟨rfl, .inl rfl, ?_⟩⟩
      rcases hmore with ⟨front, literal, d, hd, rfl⟩ | rfl | ⟨d, hd, behind, rfl⟩
      · obtain ⟨c, hc, hmem, _⟩ := exists_delimiter hdelimiter hd
        have hdelimited : endsDelimited options (front ++ [.text (literal ++ d)]) = true := by
          simpa [endsDelimited, hc] using hmem
        exact .inl hdelimited
      · exact .inr (.inl hafter)
      · obtain ⟨c, hc, _, haccepts⟩ := exists_delimiter hdelimiter hd
        rw [String.toList_append, hc] at hafter
        obtain ⟨q, hreaches, _⟩ := @Place.exists_reaches r [c] behind.toList hafter
        refine .inr (.inr ⟨_, List.mem_cons_self, Option.isSome_iff_exists.mpr ⟨q, ?_⟩⟩)
        exact Place.step_eq_some_iff.mpr ⟨c, haccepts, hreaches⟩
  refine (Matcher.run_of_found hfound).imp_right fun ⟨fault, hfault⟩ => ?_
  obtain ⟨captured, hcaptured⟩ := Matcher.exists_of_run_eq_decoding hfault
  exact ⟨captured, fault, hcaptured, hfault⟩

/-- A key with an optional one behind it and literal text that ends in a delimiter: anything may come
behind a match. -/
theorem run_continued_literal :
    let options : Options := { sensitive := true }
    let source := "/:id\x7b-:tag\x7d?/"
    ∃ other, Matcher.ofPath { options with anchorEnd := false } (.pattern source) = .ok other ∧
      ∃ result, other.run "/7-x/more" = .ok (some result) := by
  intro options source
  let parts : List Part := [
    .key { name := .named "id", before := "/", pattern := "[^\\/#\\?]+?" },
    .key { name := .named "tag", before := "-", pattern := "[^\\/#\\?]+?", modifier := "?" },
    .text "/"]
  have hparse : parse options source = .ok parts := toOption_eq_some.mp (by decide +kernel)
  have hsome : ((Matcher.ofPath { options with anchorEnd := true, strict := true }
      (.pattern source)).toOption.bind fun matcher => (matcher.run "/7-x/").toOption.join).isSome =
        true := by
    decide +kernel
  obtain ⟨whole, hwhole⟩ := Option.isSome_iff_exists.mp hsome
  obtain ⟨matcher, hmatcher, hrun⟩ := Option.bind_eq_some_iff.mp hwhole
  obtain ⟨other, hother, hmore⟩ := @run_continued options rfl rfl rfl source (by decide +kernel)
    parts hparse matcher (toOption_eq_some.mp hmatcher)
  have hends : parts = [_, _] ++ [.text ("" ++ "/")] := rfl
  rcases hmore "/7-x/" whole (toOption_eq_some.mp (Option.join_eq_some_iff.mp hrun)) "more"
    (.inl ⟨_, "", "/", by simp, hends⟩) with hmatch | ⟨_, _, hfault, _⟩
  · exact ⟨other, hother, hmatch⟩
  · cases hfault

-- The delimiter at the end of a group is not seen, so there has to be one behind it.
example : Accepts { anchorEnd := true, strict := true } "\x7b/a/\x7d" "/a/" ∧
    ¬ Accepts { anchorEnd := false } "\x7b/a/\x7d" "/a/b" ∧
      Accepts { anchorEnd := false } "\x7b/a/\x7d" "/a//b" := by
  decide +kernel

end RoutePattern
