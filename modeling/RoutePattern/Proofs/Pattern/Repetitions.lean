import RoutePattern.Proofs.Expr.Regular
import RoutePattern.Proofs.Pattern.Returned

/-!
# The values of repeated keys

A repeated key captures all of its repetitions at once, and the text it has captured is split where
its surrounding texts meet. `repeated_values` is the main result: the pieces are the repetitions, so
none is empty or has a delimiter, if what the expression of the pattern takes for the separator is
what the text is split at (`Key.Separable`). Otherwise a piece may hold several repetitions.
-/

namespace RoutePattern

open RoutePattern.Expr

/-! ## What a group spans -/

namespace Expr

variable {e : Expr} {p q : Place} {M N : Marks}

/-- A group that has a span after a passage had it before, or what is inside it leads from the
beginning of the span to its end. -/
theorem Passes.leads_of_spanOf (h : e.Passes p M q N) {looped : Bool} {low high : Nat}
    (hfits : e.Fits looped low high) {number : Nat} {start stop : Place}
    (hspan : spanOf N number = some (start, stop)) :
    spanOf M number = some (start, stop) ∨
      ∃ other body, (other, body) ∈ e.captures ∧ other - 1 = number - 1 ∧
        body.Leads start stop := by
  refine h.keeps_spans hfits (fun marks => spanOf marks number = some (start, stop) →
    spanOf M number = some (start, stop) ∨ ∃ other body, (other, body) ∈ e.captures ∧
      other - 1 = number - 1 ∧ body.Leads start stop) ?_ .inl hspan
  intro other body hmem marks first last hleads hmarks hspan
  rw [spanOf_putMark] at hspan
  split at hspan
  · next hsame =>
    cases hspan
    exact .inr ⟨other, body, hmem, hsame.symm, hleads⟩
  · exact hmarks hspan

end Expr

variable {options : Options}

/-- A group of some keys is the group of one of them. -/
theorem exists_key_of_mem_keyGroups {opened : Nat} {keys : List Key} {number : Nat} {body : Expr}
    (h : (number, body) ∈ keyGroups options opened keys) :
    ∃ n key, keys[n]? = some key ∧ number = opened + n + 1 ∧ body = ofList (key.inner options) := by
  obtain ⟨n, hn⟩ := List.mem_iff_getElem?.mp h
  obtain ⟨hlt, _⟩ := List.getElem?_eq_some_iff.mp hn
  rw [length_keyGroups] at hlt
  have hkey := List.getElem?_eq_getElem hlt
  rw [getElem?_keyGroups hkey] at hn
  obtain ⟨rfl, rfl⟩ := Prod.mk.inj (Option.some.inj hn)
  exact ⟨n, _, hkey, rfl, rfl⟩

/-- What is inside the group of a key leads from the beginning of its span to the end. -/
theorem inner_leads_of_spanOf {parts : List Part}
    (hkeys : ∀ key, Part.key key ∈ parts → key.Readable options) {p q : Place} {N : Marks}
    (h : (ofList (sourceItems options parts 0)).Passes p [] q N) {n : Nat} {key : Key}
    (hkey : (capturingKeys parts)[n]? = some key) {start stop : Place}
    (hspan : spanOf N (n + 1) = some (start, stop)) :
    (ofList (key.inner options)).Leads start stop := by
  rcases h.leads_of_spanOf (fits_sourceItems hkeys) hspan with hbefore |
    ⟨number, body, hmem, hnumber, hleads⟩
  · simp [spanOf, markAt] at hbefore
  · rw [captures_ofList, capturesAll_sourceItems hkeys] at hmem
    obtain ⟨m, other, hother, rfl, rfl⟩ := exists_key_of_mem_keyGroups hmem
    obtain rfl : m = n := by omega
    obtain rfl := Option.some.inj (hother.symm.trans hkey)
    exact hleads

/-! ## Repetitions -/

/-- What stands between two repetitions of a key is written as it is, and has no case that would be
ignored. -/
structure Key.Separable (options : Options) (key : Key) : Prop where
  unchanged : options.encode key.after ++ options.encode key.before = key.after ++ key.before
  caseless : options.sensitive = true ∨
    ∀ c ∈ (key.after ++ key.before).toList, isCased c.toNat = false

/-- Only the text itself compares as equal to a text without case. -/
theorem SameText.eq_of_uncased {fold : Fold} {text spelled : List Char}
    (h : SameText fold text spelled) (hcase : ∀ c ∈ text, fold.cased c.toNat = false) :
    spelled = text := by
  induction h with
  | nil => rfl
  | @cons expected c text _ hchar _ ih =>
      obtain ⟨hfirst, hrest⟩ := List.forall_mem_cons.mp hcase
      have heq : c.toNat = expected.toNat := by simpa [CharTest.sameCode, hfirst] using hchar
      rw [ih hrest, Char.toNat_inj.mp heq]

/-- A repeated key with a text in front gathers its repetitions in one group. -/
theorem Key.Separable.gathers {key : Key} (h : key.Separable options)
    (hrepeated : key.repeated = true) (hbefore : key.before ≠ "") :
    key.gathers options = true := by
  rw [Key.gathers, hrepeated, Bool.true_and, Bool.not_eq_true', ← Bool.not_eq_true,
    Bool.and_eq_true, String.isEmpty_iff, String.isEmpty_iff]
  rintro ⟨hfirst, hsecond⟩
  have hempty := h.unchanged
  rw [hfirst, hsecond] at hempty
  exact hbefore (String.append_eq_empty_iff.mp hempty.symm).2

/-- The texts between two repetitions lead over the separator. -/
theorem Key.Separable.reaches {key : Key} (h : key.Separable options) {p q : Place} {M N : Marks}
    (hpasses : (ofList (options.literal key.after ++ options.literal key.before)).Passes p M q N) :
    p.Reaches q (key.after ++ key.before).toList := by
  have hliteral : options.literal key.after ++ options.literal key.before =
      literalItems options.flags.fold (key.after ++ key.before).toList := by
    rw [← h.unchanged, String.toList_append]
    exact (List.map_append ..).symm
  rw [hliteral] at hpasses
  obtain ⟨_, spelled, hreaches, hsame⟩ := passes_literalItems.mp hpasses
  rw [hsame.eq_of_uncased fun c hc => ?_] at hreaches
  · exact hreaches
  · rcases h.caseless with hsensitive | huncased
    · simp [Options.flags, Flags.fold, hsensitive, Fold.cased]
    · unfold Options.flags Flags.fold
      cases options.sensitive
      · exact huncased c hc
      · rfl

/-- The expressions of a key without one of its own. -/
def Options.standardItems (options : Options) : List Expr :=
  readItems options.flags (defaultPattern standardDelimiter)

/-- The standard expression is plain and avoids delimiters, and it cannot match nothing. -/
theorem Options.shape_standardItems (options : Options) :
    (ofList options.standardItems).isPlain = true ∧
      (ofList options.standardItems).avoidsDelimiters = true ∧
        0 < (ofList options.standardItems).width.least := by
  unfold standardItems Options.flags
  cases options.sensitive <;> decide +kernel

/-- The standard expression leads over texts that are neither empty nor have a delimiter. -/
theorem reaches_of_passes_standard {p q : Place} {M N : Marks}
    (h : (ofList options.standardItems).Passes p M q N) :
    ∃ text, p.Reaches q text ∧ text ≠ [] ∧ Free text := by
  obtain ⟨hplain, havoids, hwidth⟩ := options.shape_standardItems
  obtain ⟨text, hreaches, hfree⟩ := h.free hplain havoids
  obtain ⟨spelled, hspelled, hlength⟩ := (regular_of_isPlain hplain).direct.reaches h
  rw [← hspelled.textSince, hreaches.textSince] at hlength
  exact ⟨text, hreaches, List.ne_nil_of_length_pos (Nat.lt_of_lt_of_le hwidth hlength), hfree⟩

/-- What is inside the group of a key that gathers its repetitions leads over these repetitions with
the separator between two of them. -/
theorem Key.pieces_of_leads {key : Key} (hpattern : key.pattern = defaultPattern standardDelimiter)
    (hseparable : key.Separable options) (hgathers : key.gathers options = true)
    {start stop : Place} (h : (ofList (key.inner options)).Leads start stop) :
    ∃ pieces, pieces ≠ [] ∧
      stop.textSince start = (key.after ++ key.before).toList.intercalate pieces ∧
        ∀ piece ∈ pieces, piece ≠ [] ∧ Free piece := by
  obtain ⟨M, N, hpasses⟩ := h
  rw [Key.inner, hpattern, if_pos hgathers] at hpasses
  obtain ⟨r, L, hfirst, hloop⟩ := passes_ofList_append.mp hpasses
  rw [ofList, Passes, if_neg (by simp)] at hloop
  obtain ⟨n, _, hiterates⟩ := hloop
  obtain ⟨first, hreaches, hne, hfree⟩ := reaches_of_passes_standard hfirst
  -- Each iteration adds the separator and a further piece.
  have hpieces : ∃ rest : List (List Char), start.Reaches stop
      (first ++ (rest.map ((key.after ++ key.before).toList ++ ·)).flatten) ∧
        ∀ piece ∈ rest, piece ≠ [] ∧ Free piece := by
    refine hiterates.keeps (fun s => ∃ rest : List (List Char), start.Reaches s.1
      (first ++ (rest.map ((key.after ++ key.before).toList ++ ·)).flatten) ∧
        ∀ piece ∈ rest, piece ≠ [] ∧ Free piece) ?_ ⟨[], by simpa using hreaches, by simp⟩
    rintro a b hstep ⟨rest, hrest, hall⟩
    obtain ⟨s, K, hseparator, hpiece⟩ := passes_ofList_append.mp hstep
    obtain ⟨piece, hlast, hpiece⟩ := reaches_of_passes_standard hpiece
    refine ⟨rest ++ [piece], ?_, List.forall_mem_append.mpr ⟨hall, by simpa using hpiece⟩⟩
    simpa using (hrest.trans (hseparable.reaches hseparator)).trans hlast
  obtain ⟨rest, hall, hrest⟩ := hpieces
  refine ⟨first :: rest, List.cons_ne_nil _ _, ?_, List.forall_mem_cons.mpr ⟨⟨hne, hfree⟩, hrest⟩⟩
  rw [intercalate_eq_append]
  exact hall.textSince

/-- Splitting free texts that were joined by a separator with a delimiter gives them back. -/
theorem splitText_intercalate {separator : String}
    (hdelimiter : ∃ d ∈ separator.toList, isDelimiter d = true) {pieces : List (List Char)}
    (hne : pieces ≠ []) (hfree : ∀ piece ∈ pieces, Free piece) :
    splitText separator (String.ofList (separator.toList.intercalate pieces)) =
      pieces.map String.ofList := by
  obtain ⟨d, hmem, hd⟩ := hdelimiter
  -- The separator is cut at the first delimiter in it.
  have hlater : separator.toList.dropWhile (!isDelimiter ·) ≠ [] := by
    intro hnil
    have hall := List.dropWhile_eq_nil_iff.mp hnil d hmem
    simp [hd] at hall
  obtain ⟨c, later, hlater⟩ := List.exists_cons_of_ne_nil hlater
  have hc : isDelimiter c = true := by
    have hhead := List.head?_dropWhile_not (!isDelimiter ·) separator.toList
    rw [hlater] at hhead
    simpa using hhead
  have hfront : Free (separator.toList.takeWhile (!isDelimiter ·)) := by
    intro a ha
    simpa using List.mem_takeWhile_imp ha
  have hcut : separator.toList = separator.toList.takeWhile (!isDelimiter ·) ++ c :: later := by
    rw [← hlater, List.takeWhile_append_dropWhile]
  rw [splitText, String.toList_ofList, hcut, splitFrom_intercalate hc hfront hne hfree]

/-- A repeated key takes the pieces that were joined by its texts. -/
theorem Key.taken_pieces {key : Key} (hrepeated : key.repeated = true)
    (hbefore : ∃ d lead, key.before.toList = d :: lead ∧ isDelimiter d = true)
    {pieces : List (List Char)} (hne : pieces ≠ []) (hfree : ∀ piece ∈ pieces, Free piece) :
    key.taken (String.ofList ((key.after ++ key.before).toList.intercalate pieces)) =
      .list (pieces.map fun piece => .text (String.ofList piece)) := by
  obtain ⟨d, lead, htext, hd⟩ := hbefore
  have hmem : d ∈ (key.after ++ key.before).toList := by
    simp [String.toList_append, htext]
  have hseparator : (key.after ++ key.before).isEmpty = false := by
    rw [← Bool.not_eq_true, String.isEmpty_iff]
    intro hempty
    simp [hempty] at hmem
  rw [Key.taken, if_pos hrepeated, hseparator, if_neg (by simp),
    splitText_intercalate ⟨d, hmem, hd⟩ hne hfree, List.map_map]
  rfl

/-! ## Matches -/

/-- The value of a repeated key holds one text for each repetition, none of them empty or with a
delimiter in it. -/
theorem repeated_values {options : Options} (hdelimiter : options.delimiter = standardDelimiter)
    (hdecode : ∀ text, options.decode text = .ok (.text text)) {source : String}
    {parts : List Part} (hparse : parse options source = .ok parts)
    (hpatterns : ∀ key ∈ capturingKeys parts, key.pattern = defaultPattern options.delimiter)
    (hnames : ((capturingKeys parts).map Key.name).Nodup) {matcher : Matcher}
    (hmatcher : Matcher.ofPath options (.pattern source) = .ok matcher) {candidate : String}
    {found : Match} (hfound : matcher.run candidate = .ok (some found)) {key : Key}
    (hkey : key ∈ capturingKeys parts) (hrepeated : key.repeated = true)
    (hbefore : ∃ d lead, key.before.toList = d :: lead ∧ isDelimiter d = true)
    (hseparable : key.Separable options) {value : Value}
    (hvalue : found.params.lookup key.name = some value) :
    ∃ texts : List String, texts ≠ [] ∧ value = .list (texts.map .text) ∧
      ∀ text ∈ texts, text ≠ "" ∧ Free text.toList := by
  obtain ⟨hreadable, rfl⟩ := Matcher.ofPath_readable hparse
    (fun key hpart hcaptures => .inl (hpatterns key (mem_capturingKeys.mpr ⟨hpart, hcaptures⟩)))
    hmatcher
  obtain ⟨hit, params, hsearch, hbind, rfl⟩ := Matcher.run_eq_some hfound
  obtain ⟨⟨p, _, _, hpasses, _⟩, _⟩ :=
    Expression.search_eq_some (fits_sourceItems hreadable.keys) hsearch
  obtain ⟨values, hbound, hvalues, _⟩ := @bindParams_eq options hdecode
    (capturingKeys parts) (Expression.groupTexts ⟨partsSource options parts, options.flags,
      .ofList (sourceItems options parts 0), partsGroups parts⟩ hit)
    (by rw [Expression.groupTexts_eq]; simp [partsGroups_eq]) hnames [] (fun _ _ => rfl)
  obtain rfl : params = values := Except.ok.inj (hbind.symm.trans hbound)
  obtain ⟨n, hlt, hn⟩ := List.mem_iff_getElem.mp hkey
  have hspanned : params.lookup key.name = ((spanOf hit.memory.marks (n + 1)).map fun span =>
      String.ofList (span.2.textSince span.1)).map key.taken := by
    rw [Expression.groupTexts_eq, List.forall₂_map_right_iff] at hvalues
    have hget := hvalues.get hlt (by simpa [partsGroups_eq] using hlt)
    simp only [List.get_eq_getElem, hn, List.getElem_range'] at hget
    rw [hget, Nat.one_mul, Nat.add_comm 1]
  rw [hspanned] at hvalue
  obtain ⟨captured, hcaptured, rfl⟩ := Option.map_eq_some_iff.mp hvalue
  obtain ⟨⟨start, stop⟩, hspan, rfl⟩ := Option.map_eq_some_iff.mp hcaptured
  have hleads := inner_leads_of_spanOf hreadable.keys hpasses
    (List.getElem?_eq_some_iff.mpr ⟨hlt, hn⟩) hspan
  have hgathers := hseparable.gathers hrepeated (by
    intro hempty
    obtain ⟨d, lead, htext, _⟩ := hbefore
    simp [hempty] at htext)
  obtain ⟨pieces, hne, htext, hpieces⟩ := key.pieces_of_leads
    (hdelimiter ▸ hpatterns key hkey) hseparable hgathers hleads
  refine ⟨pieces.map String.ofList, by simpa using hne, ?_, ?_⟩
  · rw [htext, key.taken_pieces hrepeated hbefore hne fun piece hpiece => (hpieces piece hpiece).2,
      List.map_map]
    rfl
  · intro text htext
    obtain ⟨piece, hpiece, rfl⟩ := List.mem_map.mp htext
    simpa using hpieces piece hpiece

/-- The repetitions of a key with letters on both sides, where case matters and other text is
changed by encoding. -/
theorem repeated_values_cased :
    let options : Options := { sensitive := true, encode := Encoding.plus.apply }
    let path : Path := .pattern "/x y\x7b/a:tag-b\x7d*"
    ∃ matcher found, ∃ texts : List String, Matcher.ofPath options path = .ok matcher ∧
      matcher.run "/x+y/a1-b/a2-b" = .ok (some found) ∧
      found.params.lookup (.named "tag") = some (.list (texts.map .text)) ∧
      ∀ text ∈ texts, text ≠ "" ∧ Free text.toList := by
  intro options path
  have hsome : ((Matcher.ofPath options path).toOption.bind fun matcher =>
      (matcher.run "/x+y/a1-b/a2-b").toOption.join.bind fun found =>
        found.params.lookup (.named "tag")).isSome = true := by decide +kernel
  obtain ⟨value, hbind⟩ := Option.isSome_iff_exists.mp hsome
  obtain ⟨matcher, hmatcher, hbind⟩ := Option.bind_eq_some_iff.mp hbind
  obtain ⟨found, hfound, hvalue⟩ := Option.bind_eq_some_iff.mp hbind
  have hmatcher' := toOption_eq_some.mp hmatcher
  have hfound' := toOption_eq_some.mp (Option.join_eq_some_iff.mp hfound)
  let tag : Key := { name := .named "tag", before := "/a", after := "-b", modifier := "*",
                     pattern := "[^\\/#\\?]+?" }
  have hkeys : capturingKeys [.text "/x y", .key tag] = [tag] := by decide +kernel
  obtain ⟨texts, _, rfl, htexts⟩ := @repeated_values options rfl (fun _ => rfl) _
    [.text "/x y", .key tag] (toOption_eq_some.mp (by decide +kernel))
    (by rw [hkeys]; decide +kernel) (by rw [hkeys]; decide) _ hmatcher' _ _ hfound' tag
    (by simp [hkeys]) rfl ⟨'/', ['a'], by decide, by decide⟩ ⟨by decide +kernel, .inl rfl⟩ _ hvalue
  exact ⟨matcher, found, texts, hmatcher', hfound', hvalue, htexts⟩

/-- Where case is ignored, a repetition in other letters stays part of the one before. -/
example : ((Matcher.ofPath {} (.pattern "\x7b/a:x\x7d*")).toOption.bind fun matcher =>
    (matcher.run "/a1/A2").toOption.join.bind fun found =>
      (found.params.lookup (.named "x")).bind Value.elements?).map (·.map Value.toText) =
        some ["1/A2"] := by
  decide +kernel

end RoutePattern
