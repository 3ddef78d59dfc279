import RoutePattern.Proofs.Pattern.Division
import RoutePattern.Proofs.Pattern.Params
import RoutePattern.Proofs.Pattern.Ready

/-!
# From a match back to its text

`match_then_build` is the main result: building a path from the values of a match gives the text that
has been matched. A match divides the text among the parts of the pattern (`Divides`), each key has
the text of its group as its value, and splitting a repeated value loses nothing, so writing the
parts in order writes the text once more.
-/

namespace RoutePattern

open RoutePattern.Expr

/-! ## Building from a division -/

section Building

variable {options : Options}

/-- Without validation a text is written between the texts of its key. -/
theorem segment_eq (hencode : ∀ text, options.encode text = text)
    (hvalidate : options.validate = false) (key : Key) (expression : Expression) (every : Bool)
    (text : String) : Builder.segment options key expression every (.text text) =
      .ok (key.before ++ text ++ key.after) := by
  unfold Builder.segment
  simp [Builder.accepts, hvalidate, hencode, Value.toText, bind, Except.bind, pure, Except.pure]

/-- Without validation a list of texts is written text by text. -/
theorem mapM_segment_eq (hencode : ∀ text, options.encode text = text)
    (hvalidate : options.validate = false) (key : Key) (expression : Expression) (every : Bool)
    (pieces : List String) :
    (pieces.map Value.text).mapM (Builder.segment options key expression every) =
      .ok (pieces.map fun piece => key.before ++ piece ++ key.after) := by
  induction pieces with
  | nil => rfl
  | cons first rest ih =>
      rw [List.map_cons, List.mapM_cons, segment_eq hencode hvalidate, ih]
      rfl

/-- Without validation the value that a key has taken is written as it was captured. -/
theorem capturing_taken (hencode : ∀ text, options.encode text = text)
    (hvalidate : options.validate = false) {key : Key}
    (hrepeated : key.repeated = true → key.before ≠ "" ∨ key.after ≠ "") (expression : Expression)
    (captured : String) : Builder.capturing options key expression (key.taken captured) =
      .ok (key.before ++ captured ++ key.after) := by
  unfold Key.taken
  split
  · next hmany =>
    have hseparator : (key.after ++ key.before).isEmpty = false := by
      rw [← Bool.not_eq_true, String.isEmpty_iff, String.append_eq_empty_iff]
      rintro ⟨hafter, hbefore⟩
      exact (hrepeated hmany).elim (· hbefore) (· hafter)
    have hne : (splitText (key.after ++ key.before) captured).map String.toList ≠ [] := by
      simp [splitText, splitFrom_ne_nil]
    have hitems : ((splitText (key.after ++ key.before) captured).map Value.text).isEmpty =
        false := by
      simpa using hne
    rw [hseparator]
    unfold Builder.capturing
    simp only [Bool.false_eq_true, ↓reduceIte, Value.elements?, hmany, Bool.not_true, hitems,
      Bool.false_and, mapM_segment_eq hencode hvalidate]
    show Except.ok _ = _
    congr 1
    rw [← String.toList_inj]
    have hjoin := flatMap_surround key.before.toList key.after.toList hne
    rw [show key.after.toList ++ key.before.toList = (key.after ++ key.before).toList by simp,
      intercalate_splitText hseparator] at hjoin
    simpa [List.flatMap_map] using hjoin
  · exact segment_eq hencode hvalidate key expression false captured

/-- Where case matters, literal text that is written as it is leads just over itself. -/
theorem reaches_of_leads_literal (hencode : ∀ text, options.encode text = text)
    (hsensitive : options.sensitive = true) {text : String} {p q : Place}
    (h : (ofList (options.literal text)).Leads p q) : p.Reaches q text.toList := by
  obtain ⟨spelled, hreaches, hsame⟩ := sameText_of_leads (hencode text) h
  rw [fold_of_sensitive hsensitive] at hsame
  rwa [sameText_keep hsame] at hreaches

/-- So does a key without a group and without a mark, over the texts around it. -/
theorem reaches_of_leads_mute (hencode : ∀ text, options.encode text = text)
    (hsensitive : options.sensitive = true) {key : Key} (hcaptures : key.captures = false)
    (hmodifier : key.modifier = "") {p q : Place} (h : (ofList (key.items options 0)).Leads p q) :
    p.Reaches q (key.before ++ key.after).toList := by
  have hrow : key.items options 0 = options.literal key.before ++ options.literal key.after := by
    simp [Key.items, Key.mark, Key.group, hcaptures, hmodifier, markItems]
  obtain ⟨M, N, hpasses⟩ := h
  rw [hrow] at hpasses
  obtain ⟨s, L, hbefore, hafter⟩ := passes_ofList_append.mp hpasses
  have hfirst := reaches_of_leads_literal hencode hsensitive ⟨M, L, hbefore⟩
  have hsecond := reaches_of_leads_literal hencode hsensitive ⟨L, N, hafter⟩
  simpa using hfirst.trans hsecond

section Keys

variable {built : Options} {params : Params} {key : Key}

/-- A key without a group and without a mark is written as the texts around it. -/
theorem part_mute (hcaptures : key.captures = false) (hmodifier : key.modifier = "") :
    Builder.part built params (Part.ready built (.key key)) = .ok (key.before ++ key.after) := by
  simp [Part.ready, Builder.part, hcaptures, Key.optional, hmodifier]

/-- Nothing is written for an optional key without a value. -/
theorem part_absent (hcaptures : key.captures = true) (hoptional : key.optional = true)
    (hvalue : params.lookup key.name = none) :
    Builder.part built params (Part.ready built (.key key)) = .ok "" := by
  simp [Part.ready, Builder.part, hcaptures, hvalue, Builder.capturing, Value.elements?,
    Value.isScalar, hoptional]

/-- Without validation a key with the value that it has taken is written as it was captured. -/
theorem part_taken (hencode : ∀ text, built.encode text = text) (hvalidate : built.validate = false)
    (hcaptures : key.captures = true)
    (hrepeated : key.repeated = true → key.before ≠ "" ∨ key.after ≠ "") {captured : String}
    (hvalue : params.lookup key.name = some (key.taken captured)) :
    Builder.part built params (Part.ready built (.key key)) =
      .ok (key.before ++ captured ++ key.after) := by
  rw [Part.ready, Builder.part, if_pos hcaptures, hvalue]
  exact capturing_taken hencode hvalidate hrepeated _ captured

end Keys

/-- Building the parts that divide a text writes the text, if the keys have the texts of their spans
as values. -/
theorem build_of_divides {built : Options} {parts : List Part} {params : Params} {p q : Place}
    {spans : List (Option (Place × Place))} (h : Divides options parts p q spans)
    (hencode : ∀ text, options.encode text = text) (hsensitive : options.sensitive = true)
    (hbuilt : ∀ text, built.encode text = text) (hvalidate : built.validate = false)
    (hmute : ∀ key, Part.key key ∈ parts → key.captures = false → key.modifier = "")
    (hrepeated : ∀ key, Part.key key ∈ parts → key.captures = true → key.repeated = true →
      key.before ≠ "" ∨ key.after ≠ "")
    (hspans : ∀ start stop, some (start, stop) ∈ spans → start.offset ≤ stop.offset)
    (hvalues : List.Forall₂ (fun key span => params.lookup key.name =
        (span.map fun (start, stop) => String.ofList (stop.textSince start)).map key.taken)
      (capturingKeys parts) spans) :
    ∃ texts, (parts.map (Part.ready built)).mapM (Builder.part built params) = .ok texts ∧
      p.Reaches q (String.join texts).toList := by
  induction h with
  | nil p => exact ⟨[], rfl, Place.reaches_nil_iff.mpr rfl⟩
  | @text text rest p r q spans hliteral _ ih =>
      have hfirst := reaches_of_leads_literal hencode hsensitive hliteral
      obtain ⟨texts, hrest, hreaches⟩ := ih (fun key hkey => hmute key (by simp [hkey]))
        (fun key hkey => hrepeated key (by simp [hkey])) hspans hvalues
      refine ⟨text :: texts, ?_, ?_⟩
      · rw [List.map_cons, List.mapM_cons, hrest]
        rfl
      · simpa using hfirst.trans hreaches
  | @mute key rest p r q spans hcaptures hitems _ ih =>
      have hmodifier := hmute key (by simp) hcaptures
      rw [capturingKeys_cons_mute hcaptures] at hvalues
      obtain ⟨texts, hrest, hreaches⟩ := ih (fun key hkey => hmute key (by simp [hkey]))
        (fun key hkey => hrepeated key (by simp [hkey])) hspans hvalues
      have hfirst := reaches_of_leads_mute hencode hsensitive hcaptures hmodifier hitems
      refine ⟨(key.before ++ key.after) :: texts, ?_, by simpa using hfirst.trans hreaches⟩
      rw [List.map_cons, List.mapM_cons, part_mute hcaptures hmodifier, hrest]
      rfl
  | @absent key rest p q spans hcaptures hoptional _ ih =>
      rw [capturingKeys_cons hcaptures] at hvalues
      cases hvalues with
      | cons hvalue hvalues =>
          obtain ⟨texts, hrest, hreaches⟩ := ih (fun key hkey => hmute key (by simp [hkey]))
            (fun key hkey => hrepeated key (by simp [hkey]))
            (fun start stop hmem => hspans start stop (List.mem_cons_of_mem _ hmem)) hvalues
          refine ⟨"" :: texts, ?_, by simpa using hreaches⟩
          rw [List.map_cons, List.mapM_cons, part_absent hcaptures hoptional hvalue, hrest]
          rfl
  | @present key rest p start stop r q spans hcaptures hbefore hinner hafter _ ih =>
      rw [capturingKeys_cons hcaptures] at hvalues
      cases hvalues with
      | cons hvalue hvalues =>
          obtain ⟨texts, hrest, hreaches⟩ := ih (fun key hkey => hmute key (by simp [hkey]))
            (fun key hkey => hrepeated key (by simp [hkey]))
            (fun start stop hmem => hspans start stop (List.mem_cons_of_mem _ hmem)) hvalues
          have hfirst := reaches_of_leads_literal hencode hsensitive hbefore
          have hlast := reaches_of_leads_literal hencode hsensitive hafter
          obtain ⟨M, N, hpasses⟩ := hinner
          have hmiddle := Place.reaches_textSince hpasses.whole (hspans start stop (by simp))
          let captured := String.ofList (stop.textSince start)
          refine ⟨(key.before ++ captured ++ key.after) :: texts, ?_, ?_⟩
          · rw [List.map_cons, List.mapM_cons, part_taken hbuilt hvalidate hcaptures
              (hrepeated key (by simp) hcaptures) hvalue, hrest]
            rfl
          · simpa [captured] using ((hfirst.trans hmiddle).trans hlast).trans hreaches

end Building

/-! ## Matching and building -/

/-- Building from the values of a match gives the text that has been matched. -/
theorem match_then_build {options : Options} (hverbatim : options.Verbatim)
    (hsensitive : options.sensitive = true) (hstrict : options.strict = true)
    (hstart : options.anchorStart = true) (hend : options.anchorEnd = true)
    (hends : options.endsWith = "") {source : String} {parts : List Part}
    (hparse : parse options source = .ok parts)
    (hkeys : ∀ key, Part.key key ∈ parts → key.captures = true → key.StandsAlone options)
    (hnames : ((capturingKeys parts).map Key.name).Nodup)
    (hrepeated : ∀ key, Part.key key ∈ parts → key.captures = true → key.repeated = true →
      key.before ≠ "" ∨ key.after ≠ "")
    (hmute : ∀ key, Part.key key ∈ parts → key.captures = false → key.modifier = "")
    {matcher : Matcher} (hmatcher : Matcher.ofPath options (.pattern source) = .ok matcher)
    {candidate : String} {found : Match} (hfound : matcher.run candidate = .ok (some found)) :
    ∃ builder, Builder.ofPattern { options with validate := false } source = .ok builder ∧
      builder.build found.params = .ok candidate := by
  obtain ⟨hreadable, rfl⟩ := Matcher.ofPath_readable hparse hkeys hmatcher
  obtain ⟨hit, params, hsearch, hbind, rfl⟩ := Matcher.run_eq_some hfound
  -- The match runs through the parts from the beginning of the text to its end.
  obtain ⟨⟨p, hwhole, _, hpasses, _⟩, hcrossed⟩ :=
    Expression.search_eq_some (fits_sourceItems hreadable.keys) hsearch
  obtain ⟨hbefore, hafter, q, hparts, hq⟩ := passes_sourceItems hend hends hpasses
  have hgathers (key : Key) (hkey : Part.key key ∈ parts) (hcaptures : key.captures = true)
      (hmany : key.repeated = true) : key.gathers options = true := by
    have hone := hrepeated key hkey hcaptures hmany
    simpa [Key.gathers, hmany, hverbatim.encode, ← not_and_or] using hone
  have hdivides := divides_of_passes hreadable.keys hgathers hparts (fun _ _ => rfl)
  have hspans : ∀ start stop, some (start, stop) ∈ (List.range' (0 + 1) (partsGroups parts)).map
      (spanOf hit.memory.marks) → start.offset ≤ stop.offset := by
    intro start stop hmem
    obtain ⟨number, hnumber, hspan⟩ := List.mem_map.mp hmem
    rw [List.mem_range'_1] at hnumber
    exact Expression.offset_le_of_hasCrossedGroup hcrossed hnumber.1 (by dsimp only; omega) hspan
  -- Each key has the text of its span.
  obtain ⟨values, hbound, hvalues, _⟩ := @bindParams_eq options hverbatim.decode
    (capturingKeys parts) (Expression.groupTexts ⟨partsSource options parts, options.flags,
      .ofList (sourceItems options parts 0), partsGroups parts⟩ hit)
    (by rw [Expression.groupTexts_eq]; simp [partsGroups_eq]) hnames [] (fun _ _ => rfl)
  obtain rfl : params = values := Except.ok.inj (hbind.symm.trans hbound)
  have hspelled : List.Forall₂ (fun key span => params.lookup key.name =
      (span.map fun (start, stop) => String.ofList (stop.textSince start)).map key.taken)
      (capturingKeys parts) ((List.range' (0 + 1) (partsGroups parts)).map
        (spanOf hit.memory.marks)) := by
    rw [Expression.groupTexts_eq, List.forall₂_map_right_iff] at hvalues
    rw [List.forall₂_map_right_iff]
    exact hvalues
  -- Without a delimiter at its end, the match ends where the parts do.
  obtain rfl : q = hit.memory.cursor := hq.resolve_right fun h => by simp [hstrict] at h
  obtain ⟨texts, hbuild, hreaches⟩ := @build_of_divides options { options with validate := false }
    _ _ _ _ _ hdivides hverbatim.encode hsensitive hverbatim.encode rfl hmute hrepeated hspans
    hspelled
  refine ⟨⟨parts.map (Part.ready { options with validate := false }),
    { options with validate := false }⟩, ?_, ?_⟩
  · exact @Builder.ofPattern_readable { options with validate := false } _ _ hparse hreadable.keys
  · show Builder.build _ params = _
    rw [Builder.build, hbuild]
    show Except.ok (String.join texts) = _
    congr 1
    have htext : candidate.toList = (String.join texts).toList := by
      rw [← hwhole, Place.whole, hbefore hstart, hreaches.after, hafter]
      simp
    rw [String.toList_inj.mp htext]

/-- Building from the values of a match with a repeated key, where an optional key is left out. -/
theorem match_then_build_repeated :
    ∃ matcher found builder,
      Matcher.ofPath { sensitive := true, strict := true }
        (.pattern "/:year(\\d+)/:tag*\x7b-(draft)\x7d?") = .ok matcher ∧
      matcher.run "/2024/a/b" = .ok (some found) ∧
      Builder.ofPattern { sensitive := true, strict := true, validate := false }
        "/:year(\\d+)/:tag*\x7b-(draft)\x7d?" = .ok builder ∧
      builder.build found.params = .ok "/2024/a/b" := by
  have hsome : ((Matcher.ofPath { sensitive := true, strict := true }
      (.pattern "/:year(\\d+)/:tag*\x7b-(draft)\x7d?")).toOption.bind fun matcher =>
        (matcher.run "/2024/a/b").toOption.join).isSome = true := by decide +kernel
  obtain ⟨found, hbind⟩ := Option.isSome_iff_exists.mp hsome
  obtain ⟨matcher, hmatcher, hjoin⟩ := Option.bind_eq_some_iff.mp hbind
  have hmatcher' := toOption_eq_some.mp hmatcher
  have hfound := toOption_eq_some.mp (Option.join_eq_some_iff.mp hjoin)
  obtain ⟨builder, hbuilder, hbuild⟩ := match_then_build
    (⟨fun _ => rfl, fun _ => rfl⟩ : Options.Verbatim { sensitive := true, strict := true })
    rfl rfl rfl rfl rfl
    (toOption_eq_some.mp (by decide +kernel) : parse _ _ = .ok
      [.key { name := .named "year", before := "/", pattern := "\\d+" },
        .key { name := .named "tag", before := "/", pattern := "[^\\/#\\?]+?", modifier := "*" },
        .key { name := .positional 0, before := "-", pattern := "draft", modifier := "?" }])
    (by
      simp only [List.mem_cons, Part.key.injEq, List.not_mem_nil, or_false, forall_eq_or_imp,
        forall_eq]
      decide +kernel)
    (by decide +kernel) (by simp) (by simp [Key.captures]) hmatcher' hfound
  exact ⟨matcher, found, builder, hmatcher', hfound, hbuilder, hbuild⟩

end RoutePattern
