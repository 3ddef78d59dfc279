import RoutePattern.Proofs.Pattern.Repetitions
import RoutePattern.Proofs.Pattern.Trailing

/-!
# What a match captures

Wherever the expressions of some parts lead, every key has captured a text on the way, unless it is
optional (`captured_of_passes`). `params_complete` is the main result: a match has values for all
keys that are not optional and for no names but those of keys, and the value of a key that is not
repeated is a stretch of the matched text, neither empty nor with a delimiter in it.
-/

namespace RoutePattern

open RoutePattern.Expr

/-- The second place is the first one or stands behind it. -/
def Place.Precedes (p q : Place) : Prop :=
  ∃ text, p.Reaches q text

/-- A place stands behind what stands behind it. -/
theorem Place.Precedes.trans {p q r : Place} (hfirst : p.Precedes q) (hsecond : q.Precedes r) :
    p.Precedes r := by
  obtain ⟨text, hreaches⟩ := hfirst
  obtain ⟨text', hreaches'⟩ := hsecond
  exact ⟨text ++ text', hreaches.trans hreaches'⟩

/-- Every place precedes itself. -/
theorem Place.Precedes.refl (p : Place) : p.Precedes p :=
  ⟨[], Place.reaches_nil_iff.mpr rfl⟩

/-- A local expression leads on. -/
theorem Expr.Local.precedes {e : Expr} (h : e.Local) {p q : Place} (hleads : e.Leads p q) :
    p.Precedes q := by
  obtain ⟨M, N, hpasses⟩ := hleads
  exact h.direct.onward.reaches hpasses

/-- An expression with a mark behind it passes some number of times in a row, and not at all only if
the mark allows for that. -/
theorem passes_markItems {modifier : String} {items : List Expr} {p q : Place} {M N : Marks}
    (h : (ofList (markItems modifier items)).Passes p M q N) :
    ∃ n, Iterates (Paired (ofList items).Passes) n (p, M) (q, N) ∧
      (n = 0 → modifier = "?" ∨ modifier = "*") := by
  unfold markItems at h
  split at h
  · next hmark =>
    obtain ⟨n, _, hiterates⟩ := h
    exact ⟨n, hiterates, fun _ => .inl hmark⟩
  split at h
  · next hmark =>
    obtain ⟨n, _, hiterates⟩ := h
    exact ⟨n, hiterates, fun _ => .inr hmark⟩
  split at h
  · obtain ⟨n, ⟨hleast, _⟩, hiterates⟩ := h
    exact ⟨n, hiterates, fun hzero => absurd hleast (by omega)⟩
  · exact ⟨1, ⟨(q, N), h, rfl⟩, by simp⟩

variable {options : Options}

/-! ## The spans of the keys -/

/-- What a key can have captured between two places: a text between them, or nothing if the key is
optional. -/
def Key.Captured (options : Options) (key : Key) (p q : Place) : Option (Place × Place) → Prop
  | none => key.optional = true
  | some (start, stop) =>
      p.Precedes start ∧ (ofList (key.inner options)).Leads start stop ∧ stop.Precedes q

/-- What has been captured between two places has been captured between places farther apart. -/
theorem Key.Captured.widen {key : Key} {p p' q q' : Place} {span : Option (Place × Place)}
    (h : key.Captured options p q span) (hp : p'.Precedes p) (hq : q.Precedes q') :
    key.Captured options p' q' span := by
  cases span with
  | none => exact h
  | some span => exact ⟨hp.trans h.1, h.2.1, h.2.2.trans hq⟩

/-- Literal text leads on. -/
theorem precedes_of_literal {text : String} {p q : Place}
    (h : (ofList (options.literal text)).Leads p q) : p.Precedes q :=
  (local_ofList.mpr (composable_local.literal text)).precedes h

namespace Key

variable {key : Key} {opened : Nat} {p q : Place} {M N : Marks}

/-- The mark of a key allows for nothing only if the key is optional. -/
theorem optional_of_mark (h : key.mark options = "?" ∨ key.mark options = "*") :
    key.optional = true := by
  unfold mark at h
  unfold optional
  split at h
  · split at h
    · next hmodifier => simp [hmodifier]
    · simp at h
  · rcases h with h | h <;> simp [h]

/-- Once through a key with its texts, the key has captured a text. -/
theorem captured_row (hcaptures : key.captures = true) (h : key.Readable options)
    (hlocal : ∀ e ∈ key.inner options, e.Local)
    (hrow : (ofList (options.literal key.before ++ key.group options opened ++
      options.literal key.after)).Passes p M q N) :
    p.Precedes q ∧ key.Captured options p q (spanOf N (opened + 1)) := by
  obtain ⟨start, stop, hbefore, hinner, hafter, rfl⟩ := key.passes_row hcaptures h hrow
  have hfront := precedes_of_literal hbefore
  have hback := precedes_of_literal hafter
  refine ⟨(hfront.trans ((local_ofList.mpr hlocal).precedes hinner)).trans hback, ?_⟩
  rw [show 2 * opened = 2 * (opened + 1 - 1) by omega, spanOf_putMark, if_pos rfl]
  exact ⟨hfront, hinner, hback⟩

/-- Behind all repetitions of a key, it has captured a text or is optional. What it captured in an
earlier repetition is no longer there. -/
theorem captured_items (hcaptures : key.captures = true) (h : key.Readable options)
    (hlocal : ∀ e ∈ key.inner options, e.Local) (hfresh : spanOf M (opened + 1) = none)
    (hpasses : (ofList (key.items options opened)).Passes p M q N) :
    p.Precedes q ∧ key.Captured options p q (spanOf N (opened + 1)) := by
  obtain ⟨n, hiterates, hzero⟩ := passes_markItems hpasses
  cases n with
  | zero =>
      obtain ⟨rfl, rfl⟩ := Prod.mk.inj hiterates
      refine ⟨.refl p, ?_⟩
      rw [hfresh]
      exact optional_of_mark (hzero rfl)
  | succ n =>
      obtain ⟨⟨r, L⟩, hfirst, hrest⟩ := hiterates
      refine hrest.keeps (fun s => p.Precedes s.1 ∧
        key.Captured options p s.1 (spanOf s.2 (opened + 1))) ?_
        (captured_row hcaptures h hlocal hfirst)
      rintro ⟨a, K⟩ ⟨b, J⟩ hstep ⟨hbefore, _⟩
      obtain ⟨hon, hcaptured⟩ := captured_row hcaptures h hlocal hstep
      exact ⟨hbefore.trans hon, hcaptured.widen hbefore (.refl b)⟩

end Key

/-- Behind some parts each key has captured a text that lies in what was passed, or is optional. -/
theorem captured_of_passes {parts : List Part}
    (hkeys : ∀ key, Part.key key ∈ parts → key.Readable options)
    (hlocal : ∀ key, Part.key key ∈ parts → key.captures = true → key.Local options) {opened : Nat}
    {p q : Place} {M N : Marks} (h : (ofList (partsItems options opened parts)).Passes p M q N)
    (hfresh : ∀ number, 2 * opened ≤ number → markAt M number = none) :
    List.Forall₂ (fun key span => key.Captured options p q span) (capturingKeys parts)
      ((List.range' (opened + 1) (partsGroups parts)).map (spanOf N)) := by
  induction parts generalizing opened p M with
  | nil => exact .nil
  | cons part rest ih =>
      obtain ⟨r, L, hpart, hrest⟩ := passes_ofList_append.mp h
      have hkeys' (key : Key) (hkey : Part.key key ∈ rest) := hkeys key (by simp [hkey])
      have hlocal' (key : Key) (hkey : Part.key key ∈ rest) := hlocal key (by simp [hkey])
      have hitems (key : Key) (hkey : Part.key key ∈ part :: rest)
          (hcaptures : key.captures = true) :
          ∀ e ∈ readItems options.flags key.pattern, e.Local :=
        (hlocal key hkey hcaptures).readItems ((hkeys key hkey).2 hcaptures)
      have hfits : (ofList (part.items options opened)).Fits false (2 * opened)
          (2 * (opened + part.groups)) := by
        cases part with
        | text literal => exact fits_literal options literal _
        | key k => exact k.fits_items (hkeys k (by simp)) opened
      -- The marks of the later parts are still missing behind this one.
      have hothers := ih hkeys' hlocal' hrest fun number hnumber => by
        rw [hpart.markAt_eq hfits (.inr hnumber)]
        exact hfresh number (by omega)
      have hon : p.Precedes r := by
        refine Local.precedes (local_ofList.mpr ?_) hpart.leads
        cases part with
        | text literal => exact composable_local.literal literal
        | key k => exact composable_local.key (hitems k (by simp)) opened
      have hwider := hothers.imp fun key span hcaptured => hcaptured.widen hon (.refl q)
      rw [partsGroups_cons]
      cases part with
      | text literal =>
          rw [show (Part.text literal).groups = 0 from rfl, Nat.zero_add]
          exact hwider
      | key k =>
          cases hcaptures : k.captures with
          | false =>
              rw [Part.groups_of_mute hcaptures] at hwider ⊢
              rw [Nat.zero_add, capturingKeys_cons_mute hcaptures]
              exact hwider
          | true =>
              rw [Part.groups_of_captures hcaptures] at hwider hrest ⊢
              rw [Nat.add_comm 1, List.range'_succ, List.map_cons, capturingKeys_cons hcaptures]
              refine .cons ?_ hwider
              -- Later parts do not touch the marks of this one.
              have hkeep (number : Nat) (hnumber : number < 2 * (opened + 1)) :
                  markAt N number = markAt L number :=
                hrest.markAt_eq (fits_partsItems hkeys' _) (.inl hnumber)
              have hspan : spanOf N (opened + 1) = spanOf L (opened + 1) := by
                rw [spanOf, spanOf, hkeep _ (by omega), hkeep _ (by omega)]
              have hnone : spanOf M (opened + 1) = none := by
                rw [spanOf, hfresh _ (by omega), Option.bind_none]
              obtain ⟨_, hcaptured⟩ := k.captured_items hcaptures (hkeys k (by simp))
                (composable_local.inner (hitems k (by simp) hcaptures)) hnone hpart
              rw [hspan]
              refine hcaptured.widen (.refl p) ?_
              refine Local.precedes (local_ofList.mpr ?_) hrest.leads
              exact composable_local.partsItems (fun key hkey => hitems key (by simp [hkey])) _

/-- A match of a pattern gives each key a span that lies in the match, unless the key is optional.
-/
theorem captured_of_match {parts : List Part}
    (hkeys : ∀ key, Part.key key ∈ parts → key.Readable options)
    (hlocal : ∀ key, Part.key key ∈ parts → key.captures = true → key.Local options)
    {p q : Place} {N : Marks} (h : (ofList (sourceItems options parts 0)).Passes p [] q N) :
    List.Forall₂ (fun key span => key.Captured options p q span) (capturingKeys parts)
      ((List.range' 1 (partsGroups parts)).map (spanOf N)) := by
  obtain ⟨r, L, hfront, hending⟩ := passes_ofList_append.mp h
  obtain ⟨s, K, hbeginning, hparts⟩ := passes_ofList_append.mp hfront
  have hK := hbeginning.marks_eq (by rw [captures_ofList, capturesAll_beginning])
  have hN := hending.marks_eq (by rw [captures_ofList, capturesAll_ending])
  have hs := (direct_ofList.mpr hereditary_direct.beginning).onward.reaches hbeginning
  have hr := (direct_ofList.mpr hereditary_direct.ending).onward.reaches hending
  rw [hN]
  refine (captured_of_passes hkeys hlocal hparts fun number _ => ?_).imp
    fun key span hcaptured => hcaptured.widen hs hr
  rw [hK]
  rfl

/-! ## The values of the keys -/

/-- What a key with the standard expression captures once is a stretch of the matched text without
delimiters. -/
theorem Key.Captured.segment {key : Key} (hpattern : key.pattern = defaultPattern standardDelimiter)
    (hrepeated : key.repeated = false) {p q start stop : Place}
    (h : key.Captured options p q (some (start, stop))) :
    stop.textSince start ≠ [] ∧ Free (stop.textSince start) ∧
      stop.textSince start <:+: q.textSince p := by
  obtain ⟨⟨front, hfront⟩, ⟨M, N, hpasses⟩, ⟨back, hback⟩⟩ := h
  rw [Key.inner, hpattern, Key.gathers, hrepeated, Bool.false_and, if_neg (by simp)] at hpasses
  obtain ⟨text, hreaches, hne, hfree⟩ := reaches_of_passes_standard hpasses
  rw [hreaches.textSince, ((hfront.trans hreaches).trans hback).textSince]
  exact ⟨hne, hfree, front, back, rfl⟩

/-- In a match each key has the value of what it captured between the ends of the match, and there
are no other values. -/
theorem captured_of_run (hdecode : ∀ text, options.decode text = .ok (.text text)) {source : String}
    {parts : List Part} (hparse : parse options source = .ok parts)
    (hlocal : ∀ key, Part.key key ∈ parts → key.captures = true → key.Local options)
    (hnames : ((capturingKeys parts).map Key.name).Nodup) {matcher : Matcher}
    (hmatcher : Matcher.ofPath options (.pattern source) = .ok matcher) {candidate : String}
    {found : Match} (hfound : matcher.run candidate = .ok (some found)) :
    ∃ p q : Place, found.path = String.ofList (q.textSince p) ∧
      (∀ key ∈ capturingKeys parts, ∃ span, key.Captured options p q span ∧
        found.params.lookup key.name = (span.map fun (start, stop) =>
          String.ofList (stop.textSince start)).map key.taken) ∧
      ∀ name, name ∉ (capturingKeys parts).map Key.name → found.params.lookup name = none := by
  obtain ⟨hreadable, rfl⟩ := Matcher.ofPath_readable hparse
    (fun key hpart hcaptures => (hlocal key hpart hcaptures).standsAlone) hmatcher
  obtain ⟨hit, params, hsearch, hbind, rfl⟩ := Matcher.run_eq_some hfound
  obtain ⟨⟨p, _, _, hpasses, htext⟩, _⟩ :=
    Expression.search_eq_some (fits_sourceItems hreadable.keys) hsearch
  obtain ⟨values, hbound, hvalues, hothers⟩ := @bindParams_eq options hdecode
    (capturingKeys parts) (Expression.groupTexts ⟨partsSource options parts, options.flags,
      .ofList (sourceItems options parts 0), partsGroups parts⟩ hit)
    (by rw [Expression.groupTexts_eq]; simp [partsGroups_eq]) hnames [] (fun _ _ => rfl)
  obtain rfl : params = values := Except.ok.inj (hbind.symm.trans hbound)
  have hcaptured := captured_of_match hreadable.keys hlocal hpasses
  rw [List.forall₂_map_right_iff] at hcaptured
  rw [Expression.groupTexts_eq, List.forall₂_map_right_iff] at hvalues
  -- The value of each key is taken from the span that its marks show.
  have hboth := List.Forall₂.mp (S := fun (key : Key) _ =>
    (∃ span, key.Captured options p hit.memory.cursor span ∧
      params.lookup key.name = (span.map fun (start, stop) =>
        String.ofList (stop.textSince start)).map key.taken) ∧ True)
    (fun _ _ hvalue hspan => ⟨⟨_, hspan, hvalue⟩, trivial⟩) hvalues hcaptured
  exact ⟨p, hit.memory.cursor, congrArg String.ofList htext,
    ((List.forall₂_and_left _ _).mp hboth).1, hothers⟩

/-- A match has a value for each key that is not optional, and no value for anything but a key. The
value of a key that is not repeated is a stretch of the matched text, not empty and without
delimiters. -/
theorem params_complete {options : Options} (hdelimiter : options.delimiter = standardDelimiter)
    (hdecode : ∀ text, options.decode text = .ok (.text text)) {source : String}
    {parts : List Part} (hparse : parse options source = .ok parts)
    (hpatterns : ∀ key ∈ capturingKeys parts, key.pattern = defaultPattern options.delimiter)
    (hnames : ((capturingKeys parts).map Key.name).Nodup) {matcher : Matcher}
    (hmatcher : Matcher.ofPath options (.pattern source) = .ok matcher) {candidate : String}
    {found : Match} (hfound : matcher.run candidate = .ok (some found)) :
    (∀ key ∈ capturingKeys parts, key.modifier = "" ∨ key.modifier = "+" →
      ∃ value, found.params.lookup key.name = some value) ∧
    (∀ entry ∈ found.params, ∃ key ∈ capturingKeys parts, key.name = entry.1) ∧
    ∀ key ∈ capturingKeys parts, key.repeated = false →
      ∀ value, found.params.lookup key.name = some value →
        ∃ text, value = .text text ∧ text ≠ "" ∧ Free text.toList ∧
          text.toList <:+: found.path.toList := by
  obtain ⟨p, q, hpath, hspans, hothers⟩ := captured_of_run hdecode hparse
    (fun key hpart hcaptures => .inl (hpatterns key (mem_capturingKeys.mpr ⟨hpart, hcaptures⟩)))
    hnames hmatcher hfound
  refine ⟨?_, ?_, ?_⟩
  · intro key hkey hmodifier
    obtain ⟨span, hspan, hvalue⟩ := hspans key hkey
    cases span with
    | none =>
        have hoptional : key.optional = true := hspan
        rcases hmodifier with h | h <;> simp [Key.optional, h] at hoptional
    | some span => exact ⟨_, hvalue⟩
  · intro entry hentry
    refine List.mem_map.mp ?_
    by_contra hname
    have hnone := List.lookup_eq_none_iff.mp (hothers entry.1 hname) entry hentry
    simp at hnone
  · intro key hkey hrepeated value hvalue
    obtain ⟨span, hspan, hlookup⟩ := hspans key hkey
    obtain ⟨captured, hcaptured, rfl⟩ := Option.map_eq_some_iff.mp (hlookup.symm.trans hvalue)
    obtain ⟨⟨start, stop⟩, rfl, rfl⟩ := Option.map_eq_some_iff.mp hcaptured
    obtain ⟨hne, hfree, hinfix⟩ := hspan.segment (hdelimiter ▸ hpatterns key hkey) hrepeated
    refine ⟨String.ofList (stop.textSince start), by simp [Key.taken, hrepeated], ?_, ?_, ?_⟩
    · exact fun hempty => hne (String.ofList_eq_empty_iff.mp hempty)
    · rwa [String.toList_ofList]
    · rwa [String.toList_ofList, hpath, String.toList_ofList]

/-- A match in the middle of a text, behind an optional key that is left out and with a group of
literal text between two keys. -/
theorem params_complete_within :
    let options : Options := { sensitive := true, anchorStart := false, anchorEnd := false,
                               endsWith := "&", encode := Encoding.plus.apply }
    let path : Path := .pattern "/:lang?/\x7bv.:tag\x7d+/x y\x7b-\x7d?:page"
    ∃ matcher found, Matcher.ofPath options path = .ok matcher ∧
      matcher.run "see /v.1v.2/x+y-start#x" = .ok (some found) ∧
      (∃ value, found.params.lookup (.named "tag") = some value) ∧
      (∀ entry ∈ found.params, entry.1 ∈ [.named "lang", .named "tag", .named "page"]) ∧
      ∃ text, found.params.lookup (.named "page") = some (.text text) ∧ text ≠ "" ∧
        Free text.toList ∧ text.toList <:+: found.path.toList := by
  intro options path
  have hsome : ((Matcher.ofPath options path).toOption.bind fun matcher =>
      (matcher.run "see /v.1v.2/x+y-start#x").toOption.join).isSome = true := by decide +kernel
  obtain ⟨found, hbind⟩ := Option.isSome_iff_exists.mp hsome
  obtain ⟨matcher, hmatcher, hfound⟩ := Option.bind_eq_some_iff.mp hbind
  have hmatcher' := toOption_eq_some.mp hmatcher
  have hfound' := toOption_eq_some.mp (Option.join_eq_some_iff.mp hfound)
  let lang : Key := { name := .named "lang", before := "/", pattern := "[^\\/#\\?]+?",
                      modifier := "?" }
  let tag : Key := { name := .named "tag", before := "v.", pattern := "[^\\/#\\?]+?",
                     modifier := "+" }
  let dash : Key := { name := .named "", before := "-", modifier := "?" }
  let page : Key := { name := .named "page", pattern := "[^\\/#\\?]+?" }
  let parts : List Part := [.key lang, .text "/", .key tag, .text "/x y", .key dash, .key page]
  have hkeys : capturingKeys parts = [lang, tag, page] := by decide +kernel
  obtain ⟨hthere, honly, hsingle⟩ := @params_complete options rfl (fun _ => rfl) _ parts
    (toOption_eq_some.mp (by decide +kernel)) (by rw [hkeys]; decide +kernel)
    (by rw [hkeys]; decide) _ hmatcher' _ _ hfound'
  rw [hkeys] at hthere honly hsingle
  obtain ⟨value, hvalue⟩ := hthere page (by simp) (.inl rfl)
  obtain ⟨text, rfl, htext⟩ := hsingle page (by simp) rfl value hvalue
  refine ⟨matcher, found, hmatcher', hfound', hthere tag (by simp) (.inr rfl), ?_, text, hvalue,
    htext⟩
  intro entry hentry
  obtain ⟨key, hkey, hname⟩ := honly entry hentry
  rw [← hname]
  exact List.mem_map_of_mem (f := Key.name) hkey

end RoutePattern
