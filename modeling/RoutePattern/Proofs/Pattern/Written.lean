import RoutePattern.Proofs.Pattern.Ready
import RoutePattern.Proofs.Pattern.Spelling

/-!
# What is built is matched

`build_then_match` is the main result: whatever path is built for some values, the matcher of the same
pattern finds it from its beginning on, and as a whole if a match has to reach the end. A key that is
built writes texts that its expression matches (`capturing_eq_ok`), so the expressions of the parts
spell the path (`spells_built`), and a search misses nothing that is spelled.
-/

namespace RoutePattern

open RoutePattern.Expr

variable {options : Options}

/-! ## What is built -/

/-- The encoded texts that a value writes: one for each element of a list, or its own. -/
def Value.pieces (options : Options) (value : Value) : List String :=
  match value.elements? with
  | some items => items.map fun item => options.encode item.toText
  | none => if value.isScalar then [options.encode value.toText] else []

/-- With validation only encoded texts that match are written. -/
theorem segment_eq_ok (hvalidate : options.validate = true) {key : Key} {expression : Expression}
    {every : Bool} {value : Value} {text : String}
    (h : Builder.segment options key expression every value = .ok text) :
    expression.fullMatch (options.encode value.toText) = .ok true ∧
      text = key.before ++ options.encode value.toText ++ key.after := by
  unfold Builder.segment at h
  dsimp only at h
  obtain ⟨accepted, haccepts, h⟩ := bind_eq_ok.mp h
  rw [Builder.accepts, if_pos hvalidate] at haccepts
  split at h
  · next haccepted =>
    subst haccepted
    cases h
    exact ⟨mapError_eq_ok.mp haccepts, rfl⟩
  · simp at h

/-- With validation a list is written element by element, if all of them match. -/
theorem mapM_segment_eq_ok (hvalidate : options.validate = true) {key : Key}
    {expression : Expression} {every : Bool} {items : List Value} {texts : List String}
    (h : items.mapM (Builder.segment options key expression every) = .ok texts) :
    (∀ item ∈ items, expression.fullMatch (options.encode item.toText) = .ok true) ∧
      texts = items.map fun item => key.before ++ options.encode item.toText ++ key.after := by
  induction items generalizing texts with
  | nil =>
      cases h
      exact ⟨by simp, rfl⟩
  | cons item rest ih =>
      rw [List.mapM_cons] at h
      obtain ⟨text, hfirst, h⟩ := bind_eq_ok.mp h
      obtain ⟨others, hrest, h⟩ := bind_eq_ok.mp h
      cases h
      obtain ⟨hmatch, rfl⟩ := segment_eq_ok hvalidate hfirst
      obtain ⟨hall, rfl⟩ := ih hrest
      exact ⟨List.forall_mem_cons.mpr ⟨hmatch, hall⟩, rfl⟩

/-- A key that captures writes texts that match, each between its own, as many as it allows. -/
theorem capturing_eq_ok (hvalidate : options.validate = true) {key : Key} {expression : Expression}
    {value : Value} {text : String}
    (h : Builder.capturing options key expression value = .ok text) :
    (∀ piece ∈ value.pieces options, expression.fullMatch piece = .ok true) ∧
      text = String.join ((value.pieces options).map fun piece =>
        key.before ++ piece ++ key.after) ∧
      (value.pieces options = [] → key.optional = true) ∧
        (1 < (value.pieces options).length → key.repeated = true) := by
  unfold Builder.capturing at h
  dsimp only at h
  unfold Value.pieces
  cases helements : value.elements? with
  | some items =>
      rw [helements] at h
      dsimp only at h
      split at h
      · simp at h
      · next hrepeated =>
        split at h
        · simp at h
        · next hempty =>
          obtain ⟨texts, hall, h⟩ := bind_eq_ok.mp h
          cases h
          obtain ⟨hmatch, rfl⟩ := mapM_segment_eq_ok hvalidate hall
          refine ⟨by simpa using hmatch, by rw [List.map_map]; rfl, ?_, fun _ => by
            simpa using hrepeated⟩
          intro hnil
          simpa [List.map_eq_nil_iff.mp hnil] using hempty
  | none =>
      rw [helements] at h
      dsimp only at h
      split at h
      · next hscalar =>
        obtain ⟨hmatch, rfl⟩ := segment_eq_ok hvalidate h
        simp [hscalar, hmatch]
      · next hscalar =>
        split at h
        · next hoptional =>
          cases h
          simp [hscalar, hoptional]
        · simp at h

/-! ## What is spelled -/

/-- A plain expression spells each text that it matches as a whole. -/
theorem spells_of_fullMatch {expression : Expression} (hplain : expression.expr.isPlain = true)
    {text : String} (h : expression.fullMatch text = .ok true) :
    expression.expr.Spells text.toList := by
  have hfits := fits_of_captures (captures_of_isPlain hplain) false (Nat.le_refl 0)
  obtain ⟨q, N, hpasses, hafter⟩ := Expression.fullMatch_eq_true hfits h
  obtain ⟨spelled, hreaches, hspells⟩ := spells_of_passes (local_of_isPlain hplain) hpasses
  have hall := hreaches.after
  rw [hafter, List.append_nil] at hall
  rwa [show text.toList = spelled from hall]

/-- Literal text and the texts of a key are encoded as they are. -/
def Part.Unchanged (options : Options) : Part → Prop
  | .text literal => options.encode literal = literal
  | .key k => options.encode k.before = k.before ∧ options.encode k.after = k.after

/-- Literal text compares as equal to what it is encoded as, and the texts of a key are encoded as
they are. -/
def Part.Kept (options : Options) : Part → Prop
  | .text literal => SameText options.flags.fold (options.encode literal).toList literal.toList
  | .key k => options.encode k.before = k.before ∧ options.encode k.after = k.after

/-- What is encoded as it is compares as equal. -/
theorem Part.Unchanged.kept {part : Part} (h : part.Unchanged options) : part.Kept options := by
  cases part with
  | text literal =>
      have hencode : options.encode literal = literal := h
      rw [Part.Kept, hencode]
      exact sameText_refl _ _
  | key k => exact h

/-- The expressions of a part spell what is built for it. -/
theorem Part.spells_built (hvalidate : options.validate = true) {part : Part}
    (hmodifier : ∀ key, part = .key key → IsModifier key.modifier)
    (hplain : ∀ key, part = .key key → key.captures = true →
      (ofList (readItems options.flags key.pattern)).isPlain = true)
    (hkept : part.Kept options) {params : Params} {text : String}
    (h : Builder.part options params (part.ready options) = .ok text) (opened : Nat) :
    (ofList (part.items options opened)).Spells text.toList := by
  cases part with
  | text literal =>
      cases h
      exact spells_literal_of_sameText hkept
  | key k =>
      obtain ⟨hbefore, hafter⟩ := hkept
      rw [Part.ready, Builder.part] at h
      split at h
      · next hcaptures =>
        obtain ⟨hmatch, rfl, hnone, hmany⟩ := capturing_eq_ok hvalidate h
        have hspells := @Key.spells_items options k hcaptures (hmodifier k rfl) hbefore hafter
          (((params.lookup k.name).getD .null).pieces options |>.map String.toList) ?_
          (fun hnil => hnone (by simpa using hnil)) (fun hlong => hmany (by simpa using hlong))
          opened
        · rw [Part.items]
          simpa [List.flatMap_map, List.flatMap_def, Function.comp_def] using hspells
        · intro piece hpiece
          obtain ⟨value, hvalue, rfl⟩ := List.mem_map.mp hpiece
          exact spells_of_fullMatch (hplain k rfl hcaptures) (hmatch value hvalue)
      · next hcaptures =>
        cases h
        -- Without a group the texts of the key are there once, or not at all.
        have hrow : (ofList (Options.literal options k.before ++ k.group options opened ++
            Options.literal options k.after)).Spells (k.before.toList ++ k.after.toList) := by
          rw [Key.group, if_neg hcaptures, List.append_nil]
          exact spells_append (spells_literal hbefore) (spells_literal hafter)
        have hmark : k.mark options = k.modifier := by simp [Key.mark, hcaptures]
        rw [Part.items, Key.items, hmark]
        split
        · next hoptional =>
          have hnone : k.modifier = "?" ∨ k.modifier = "*" := by simpa [Key.optional] using hoptional
          exact @spells_markItems _ (hmodifier k rfl) _ [] (by simp) (fun _ => hnone) (by simp)
        · have hone := @spells_markItems _ (hmodifier k rfl) _ [_] (by simpa using hrow) (by simp)
            (by simp)
          simpa using hone

/-- The expressions of some parts spell the path that is built for them. -/
theorem spells_built (hvalidate : options.validate = true) {parts : List Part}
    (hmodifiers : ∀ key, Part.key key ∈ parts → IsModifier key.modifier)
    (hplain : ∀ key, Part.key key ∈ parts → key.captures = true →
      (ofList (readItems options.flags key.pattern)).isPlain = true)
    (hkept : ∀ part ∈ parts, part.Kept options) {params : Params} {texts : List String}
    (h : (parts.map (Part.ready options)).mapM (Builder.part options params) = .ok texts)
    (opened : Nat) :
    (ofList (partsItems options opened parts)).Spells (String.join texts).toList := by
  induction parts generalizing opened texts with
  | nil =>
      cases h
      exact spells_nil
  | cons part rest ih =>
      rw [List.map_cons, List.mapM_cons] at h
      obtain ⟨text, hfirst, h⟩ := bind_eq_ok.mp h
      obtain ⟨others, hrest, h⟩ := bind_eq_ok.mp h
      cases h
      obtain ⟨hpart, hothers⟩ := List.forall_mem_cons.mp hkept
      have hspells := Part.spells_built hvalidate (fun key hkey => hmodifiers key (by simp [hkey]))
        (fun key hkey => hplain key (by simp [hkey])) hpart hfirst opened
      have hspells' := ih (fun key hkey => hmodifiers key (by simp [hkey]))
        (fun key hkey => hplain key (by simp [hkey])) hothers hrest (opened + part.groups)
      rw [partsItems]
      simpa using spells_append hspells hspells'

/-! ## Building and matching -/

/-- The expression of a pattern finds what is built for some values, from its beginning on. -/
theorem search_built_of_kept (hvalidate : options.validate = true) {parts : List Part}
    (hmodifiers : ∀ key, Part.key key ∈ parts → IsModifier key.modifier)
    (hreadable : SourceReadable options parts)
    (hkeys : ∀ key, Part.key key ∈ parts → key.captures = true → key.Plain options)
    (hkept : ∀ part ∈ parts, part.Kept options) {params : Params} {texts : List String}
    (h : (parts.map (Part.ready options)).mapM (Builder.part options params) = .ok texts) :
    ∃ hit, Expression.search ⟨partsSource options parts, options.flags,
        .ofList (sourceItems options parts 0), partsGroups parts⟩ (String.join texts) =
      .ok (some hit) ∧ hit.index = 0 := by
  have hplain (key : Key) (hkey : Part.key key ∈ parts) (hcaptures : key.captures = true) :
      (ofList (readItems options.flags key.pattern)).isPlain = true :=
    (hkeys key hkey hcaptures).isPlain ((hreadable.keys key hkey).2 hcaptures)
  have hspells := spells_built hvalidate hmodifiers hplain hkept h 0
  -- The parts lead from the beginning of the path to its end, and the end of a text is accepted.
  obtain ⟨q, hreaches, hafter⟩ := @Place.exists_reaches (.start (String.join texts).toList)
    (String.join texts).toList [] (by simp [Place.start])
  obtain ⟨N, hparts⟩ := hspells _ q hreaches []
  refine @Expression.search_of_leads _ _ _ (regular_sourceItems hplain)
    (fits_sourceItems hreadable.keys) rfl q ⟨[], N, ?_⟩
  refine passes_ofList_append.mpr ⟨q, N, passes_ofList_append.mpr ⟨_, [], ?_, hparts⟩,
    passes_ending options parts hafter N⟩
  split
  · exact ⟨rfl, rfl, rfl⟩
  · exact ⟨rfl, rfl⟩

/-- The expression of a pattern whose own text is encoded as it is finds what is built. -/
theorem search_built (hvalidate : options.validate = true) {parts : List Part}
    (hmodifiers : ∀ key, Part.key key ∈ parts → IsModifier key.modifier)
    (hreadable : SourceReadable options parts)
    (hkeys : ∀ key, Part.key key ∈ parts → key.captures = true → key.Plain options)
    (hunchanged : ∀ part ∈ parts, part.Unchanged options) {params : Params} {texts : List String}
    (h : (parts.map (Part.ready options)).mapM (Builder.part options params) = .ok texts) :
    ∃ hit, Expression.search ⟨partsSource options parts, options.flags,
        .ofList (sourceItems options parts 0), partsGroups parts⟩ (String.join texts) =
      .ok (some hit) ∧ hit.index = 0 :=
  search_built_of_kept hvalidate hmodifiers hreadable hkeys
    (fun part hpart => (hunchanged part hpart).kept) h

/-- What a pattern finds from the beginning of a text on is all of it if a match has to reach the
end. It runs through the parts, and behind them there may be a delimiter unless that is refused. -/
theorem whole_of_search {parts : List Part} (hreadable : SourceReadable options parts)
    (hend : options.anchorEnd = true) (hends : options.endsWith = "") {text : String} {hit : Found}
    (hsearch : Expression.search ⟨partsSource options parts, options.flags,
      .ofList (sourceItems options parts 0), partsGroups parts⟩ text = .ok (some hit))
    (hindex : hit.index = 0) : String.ofList hit.text = text ∧
      hit.memory.cursor.whole = text.toList ∧ hit.memory.cursor.after = [] ∧
        ∃ r, (ofList (partsItems options 0 parts)).Passes (.start text.toList) [] r hit.memory.marks ∧
          (r = hit.memory.cursor ∨
            options.strict = false ∧ r.step options.delimiterTest = some hit.memory.cursor) := by
  obtain ⟨⟨s, hwhole, hoffset, hpasses, htext⟩, _⟩ := Expression.search_eq_some
    (fits_sourceItems hreadable.keys) hsearch
  obtain ⟨_, hlast, hparts⟩ := passes_sourceItems hend hends hpasses
  -- A match that begins at the front and reaches the end is the whole text.
  obtain rfl : s = .start text.toList :=
    Place.ext_offset hwhole (by rw [← hoffset, hindex]; rfl)
  have hcursor : hit.memory.cursor.whole = text.toList := hpasses.whole.trans hwhole
  refine ⟨?_, hcursor, hlast, hparts⟩
  rw [htext, Place.textSince_start hcursor]
  rw [Place.whole, hlast, List.append_nil] at hcursor
  rw [hcursor, String.ofList_toList]

/-- What is built for some values is matched from its beginning on, and as a whole if a match has to
reach the end. -/
theorem build_then_match {options : Options} (hvalidate : options.validate = true)
    (hdecode : ∀ text, options.decode text = .ok (.text text)) {source : String}
    {parts : List Part} (hparse : parse options source = .ok parts)
    (hkeys : ∀ key, Part.key key ∈ parts → key.captures = true → key.Plain options)
    (hunchanged : ∀ part ∈ parts, part.Unchanged options) {builder : Builder}
    (hbuilder : Builder.ofPattern options source = .ok builder) {matcher : Matcher}
    (hmatcher : Matcher.ofPath options (.pattern source) = .ok matcher) {params : Params}
    {path : String} (hbuild : builder.build params = .ok path) :
    ∃ found, matcher.run path = .ok (some found) ∧ found.index = 0 ∧
      (options.anchorEnd = true → options.endsWith = "" → found.path = path) := by
  obtain ⟨hreadable, rfl⟩ := Matcher.ofPath_readable hparse
    (fun key hkey hcaptures => (hkeys key hkey hcaptures).standsAlone) hmatcher
  -- The builder has the expressions that the matcher has for the keys.
  obtain rfl := Except.ok.inj (hbuilder.symm.trans
    (Builder.ofPattern_readable hparse hreadable.keys))
  obtain ⟨texts, htexts, hpath⟩ := bind_eq_ok.mp hbuild
  cases hpath
  obtain ⟨hit, hsearch, hindex⟩ := search_built hvalidate (isModifier_of_parse hparse) hreadable
    hkeys hunchanged htexts
  obtain ⟨values, hbind⟩ := bindParams_ok (fun text => ⟨_, hdecode text⟩) [] (capturingKeys parts)
    (Expression.groupTexts ⟨partsSource options parts, options.flags,
      .ofList (sourceItems options parts 0), partsGroups parts⟩ hit)
  refine ⟨_, Matcher.run_of_search hsearch hbind, hindex, ?_⟩
  intro hend hends
  exact (whole_of_search hreadable hend hends hsearch hindex).1

/-- What is built for a number and for a list without anything between its elements is matched. -/
theorem build_then_match_unseparated :
    ∃ builder matcher found,
      Builder.ofPattern {} "/:year(\\d+)(x|yz)*" = .ok builder ∧
      Matcher.ofPath {} (.pattern "/:year(\\d+)(x|yz)*") = .ok matcher ∧
      builder.build [(.named "year", .int 2024),
        (.positional 0, .list [.text "x", .text "yz"])] = .ok "/2024xyz" ∧
      matcher.run "/2024xyz" = .ok (some found) ∧ found.index = 0 ∧ found.path = "/2024xyz" := by
  have hsome : ((Builder.ofPattern {} "/:year(\\d+)(x|yz)*").toOption.bind fun builder =>
      (builder.build [(.named "year", .int 2024),
        (.positional 0, .list [.text "x", .text "yz"])]).toOption) = some "/2024xyz" := by
    decide +kernel
  obtain ⟨builder, hbuilder, hbuild⟩ := Option.bind_eq_some_iff.mp hsome
  have hsome' : (Matcher.ofPath {} (.pattern "/:year(\\d+)(x|yz)*")).toOption.isSome = true := by
    decide +kernel
  obtain ⟨matcher, hmatcher⟩ := Option.isSome_iff_exists.mp hsome'
  have hbuilder' := toOption_eq_some.mp hbuilder
  have hmatcher' := toOption_eq_some.mp hmatcher
  have hbuild' := toOption_eq_some.mp hbuild
  obtain ⟨found, hrun, hindex, hpath⟩ := @build_then_match {} rfl (fun _ => rfl) _ [
      .key { name := .named "year", before := "/", pattern := "\\d+" },
      .key { name := .positional 0, pattern := "x|yz", modifier := "*" }]
    (toOption_eq_some.mp (by decide +kernel))
    (by
      simp only [List.mem_cons, Part.key.injEq, List.not_mem_nil, or_false, forall_eq_or_imp,
        forall_eq]
      decide +kernel)
    (by simp [Part.Unchanged]) _ hbuilder' _ hmatcher' _ _ hbuild'
  exact ⟨builder, matcher, found, hbuilder', hmatcher', hbuild', hrun, hindex, hpath rfl rfl⟩

end RoutePattern
