import Mathlib.Data.List.Forall2
import RoutePattern.Proofs.Expr.Searching
import RoutePattern.Proofs.Pattern.Groups

/-!
# How a match divides its text

A match runs through the parts of its pattern in order: literal text, the groups of the keys with the
texts around them, and nothing for a key that is left out. `Divides` says so, with the span of each
group, and `divides_of_passes` that every passage of the expressions of a pattern is such a
division, with the spans that its marks show.
-/

namespace RoutePattern

open RoutePattern.Expr

/-- A text that is spelled with characters which compare as equal. -/
def SameText (fold : Fold) : List Char → List Char → Prop :=
  List.Forall₂ fun expected c => CharTest.sameCode fold expected.toNat c.toNat = true

/-- Where case matters, only the text itself compares as equal. -/
theorem sameText_keep {text spelled : List Char} (h : SameText .keep text spelled) :
    spelled = text := by
  induction h with
  | nil => rfl
  | @cons expected c _ _ hchar _ ih =>
      have heq : c.toNat = expected.toNat := by simpa [CharTest.sameCode, Fold.cased] using hchar
      rw [ih, Char.toNat_inj.mp heq]

/-- Literal text passes what it spells. -/
theorem passes_literalItems {fold : Fold} {text : List Char} {p q : Place} {M N : Marks} :
    (ofList (literalItems fold text)).Passes p M q N ↔
      N = M ∧ ∃ spelled, p.Reaches q spelled ∧ SameText fold text spelled := by
  induction text generalizing p with
  | nil =>
      constructor
      · rintro ⟨rfl, rfl⟩
        exact ⟨rfl, [], Place.reaches_nil_iff.mpr rfl, .nil⟩
      · rintro ⟨rfl, spelled, hreaches, hsame⟩
        cases hsame
        exact ⟨(Place.reaches_nil_iff.mp hreaches).symm, rfl⟩
  | cons c rest ih =>
      rw [show literalItems fold (c :: rest) = .char (.literal c.toNat false fold) ::
        literalItems fold rest from rfl, passes_ofList_cons]
      constructor
      · rintro ⟨r, L, ⟨hstep, rfl⟩, hrest⟩
        obtain ⟨rfl, spelled, hreaches, hsame⟩ := ih.mp hrest
        obtain ⟨d, haccepts, hfirst⟩ := Place.step_eq_some_iff.mp hstep
        refine ⟨rfl, d :: spelled, hfirst.trans hreaches, .cons ?_ hsame⟩
        simpa [CharTest.accepts] using haccepts
      · rintro ⟨rfl, spelled, hreaches, hsame⟩
        cases hsame with
        | @cons _ d _ spelled hchar hsame =>
            obtain ⟨r, hfirst, hrest⟩ := Place.Reaches.split (show p.Reaches q ([d] ++ spelled) from
              hreaches)
            refine ⟨r, N, ⟨Place.step_eq_some_iff.mpr ⟨d, ?_, hfirst⟩, rfl⟩,
              ih.mpr ⟨rfl, spelled, hrest, hsame⟩⟩
            simpa [CharTest.accepts] using hchar

/-- Groups that fit in order fit in a repetition. -/
theorem Expr.Fits.looped {e : Expr} {low high : Nat} (h : e.Fits false low high) :
    e.Fits true low high := by
  induction e generalizing low high with
  | empty | never | char | anchor | backref | group | loop => exact h
  | seq first second ihfirst ihsecond =>
      obtain ⟨middle, hfirst, hsecond⟩ := h
      exact ⟨(ihfirst hfirst).widen (Nat.le_refl low) hsecond.le,
        (ihsecond hsecond).widen hfirst.le (Nat.le_refl high)⟩
  | either first second ihfirst ihsecond | ifGroup _ first second ihfirst ihsecond =>
      exact ⟨ihfirst h.1, ihsecond h.2⟩
  | atomic body ih | ahead _ body ih | behind _ _ body ih => exact ih h

/-- Expressions with a mark behind them fit where they fit themselves. -/
theorem fits_markItems {modifier : String} {items : List Expr} {low high : Nat}
    (h : (ofList items).Fits false low high) :
    (ofList (markItems modifier items)).Fits false low high := by
  unfold markItems
  split
  · exact h.looped
  split
  · exact h.looped
  split
  · exact h.looped
  · exact h

/-- Optional expressions pass or are left out. -/
theorem passes_optional {body : Expr} {p q : Place} {M N : Marks} :
    (loop .greedy 0 (some 1) body).Passes p M q N ↔ q = p ∧ N = M ∨ body.Passes p M q N := by
  rw [passes_loop (by simp)]
  constructor
  · rintro ⟨n, ⟨_, hmost⟩, hiterates⟩
    have hle : n ≤ 1 := by
      rcases hmost 1 rfl with h | ⟨h, _⟩ <;> omega
    obtain rfl | rfl : n = 0 ∨ n = 1 := by omega
    · cases hiterates
      exact .inl ⟨rfl, rfl⟩
    · obtain ⟨⟨r, L⟩, hfirst, hrest⟩ := hiterates
      cases hrest
      exact .inr hfirst
  · rintro (⟨rfl, rfl⟩ | hbody)
    · exact ⟨0, ⟨Nat.le_refl 0, fun m _ => .inl (Nat.zero_le m)⟩, rfl⟩
    · exact ⟨1, ⟨Nat.zero_le 1, fun m hm => .inl (Option.some.inj hm).le⟩, (q, N), hbody, rfl⟩

variable {options : Options}

/-- Literal text that is written as it is leads over a text that compares as equal. -/
theorem sameText_of_leads {text : String} (hencode : options.encode text = text) {p q : Place}
    (h : (ofList (options.literal text)).Leads p q) :
    ∃ spelled, p.Reaches q spelled ∧ SameText options.flags.fold text.toList spelled := by
  obtain ⟨M, N, hpasses⟩ := h
  rw [Options.literal, hencode] at hpasses
  exact (passes_literalItems.mp hpasses).2

/-- Parts divide the text between two places. There is a span for each key that captures, unless the
key is left out. -/
inductive Divides (options : Options) :
    List Part → Place → Place → List (Option (Place × Place)) → Prop where
  | nil (p : Place) : Divides options [] p p []
  | text {text : String} {rest : List Part} {p r q : Place} {spans : List (Option (Place × Place))} :
      (ofList (options.literal text)).Leads p r → Divides options rest r q spans →
      Divides options (.text text :: rest) p q spans
  | mute {key : Key} {rest : List Part} {p r q : Place} {spans : List (Option (Place × Place))} :
      key.captures = false → (ofList (key.items options 0)).Leads p r →
      Divides options rest r q spans → Divides options (.key key :: rest) p q spans
  | absent {key : Key} {rest : List Part} {p q : Place} {spans : List (Option (Place × Place))} :
      key.captures = true → key.optional = true → Divides options rest p q spans →
      Divides options (.key key :: rest) p q (none :: spans)
  | present {key : Key} {rest : List Part} {p start stop r q : Place}
      {spans : List (Option (Place × Place))} :
      key.captures = true → (ofList (options.literal key.before)).Leads p start →
      (ofList (key.inner options)).Leads start stop →
      (ofList (options.literal key.after)).Leads stop r → Divides options rest r q spans →
      Divides options (.key key :: rest) p q (some (start, stop) :: spans)

/-- Literal text needs no marks. -/
theorem fits_literal (options : Options) (text : String) (low : Nat) :
    (ofList (options.literal text)).Fits false low low :=
  fits_of_captures (by rw [captures_ofList, capturesAll_literal]) false (Nat.le_refl low)

/-- The group of a key fits the marks of its number. -/
theorem Key.fits_items {key : Key} (h : key.Readable options) (opened : Nat) :
    (ofList (key.items options opened)).Fits false (2 * opened) (2 * (opened + key.groups)) := by
  have hgroup : (ofList (key.group options opened)).Fits false (2 * opened)
      (2 * (opened + key.groups)) := by
    unfold Key.group Key.groups
    cases hcaptures : key.captures with
    | false => exact fits_of_captures rfl false (by omega)
    | true =>
        have hinner := key.capturesAll_inner hcaptures h
        exact ⟨by rw [captures_ofList, hinner], Nat.succ_pos opened, Nat.le_refl _, Nat.le_refl _⟩
  exact fits_markItems (fits_ofList_append (fits_ofList_append (fits_literal _ _ _) hgroup)
    (fits_literal _ _ _))

/-- The groups of some parts fit the marks of their numbers. -/
theorem fits_partsItems {parts : List Part}
    (h : ∀ key, Part.key key ∈ parts → key.Readable options) (opened : Nat) :
    (ofList (partsItems options opened parts)).Fits false (2 * opened)
      (2 * (opened + partsGroups parts)) := by
  induction parts generalizing opened with
  | nil => exact Nat.le_refl _
  | cons part rest ih =>
      have hrest := ih (fun key hkey => h key (by simp [hkey])) (opened + part.groups)
      rw [partsGroups_cons, ← Nat.add_assoc]
      refine fits_ofList_append ?_ hrest
      cases part with
      | text literal => exact fits_literal options literal _
      | key k => exact k.fits_items (h k (by simp)) opened

/-- A key that gathers its repetitions as a whole is there once or, if it is optional, left out. -/
theorem Key.mark_of_captures {key : Key} (hcaptures : key.captures = true)
    (hmodifier : IsModifier key.modifier)
    (hgathers : key.repeated = true → key.gathers options = true) :
    key.mark options = "" ∧ key.optional = false ∨
      key.mark options = "?" ∧ key.optional = true := by
  unfold Key.mark
  rcases hmodifier with h | h | h | h
  · simp [h, hcaptures, Key.gathers, Key.repeated, Key.optional]
  · simp [h, hcaptures, Key.gathers, Key.repeated, Key.optional]
  · have := hgathers (by simp [Key.repeated, h])
    simp [h, hcaptures, this, Key.optional]
  · have := hgathers (by simp [Key.repeated, h])
    simp [h, hcaptures, this, Key.optional]

/-- The group of a key that captures stands between its texts. -/
theorem Key.passes_row {key : Key} (hcaptures : key.captures = true) (h : key.Readable options)
    {opened : Nat} {p q : Place} {M N : Marks}
    (hrow : (ofList (options.literal key.before ++ key.group options opened ++
      options.literal key.after)).Passes p M q N) : ∃ start stop,
        (ofList (options.literal key.before)).Leads p start ∧
        (ofList (key.inner options)).Leads start stop ∧
        (ofList (options.literal key.after)).Leads stop q ∧
          N = putMark (putMark M (2 * opened) start) (2 * opened + 1) stop := by
  obtain ⟨stop, L, hfront, hafter⟩ := passes_ofList_append.mp hrow
  obtain ⟨start, K, hbefore, hgroup⟩ := passes_ofList_append.mp hfront
  rw [Key.group, if_pos hcaptures] at hgroup
  obtain ⟨J, hinner, rfl⟩ := hgroup
  have hK := (passes_literalItems.mp hbefore).1
  have hN := (passes_literalItems.mp hafter).1
  have hJ := hinner.marks_eq (by rw [captures_ofList, key.capturesAll_inner hcaptures h])
  refine ⟨start, stop, ⟨M, K, hbefore⟩, ⟨_, J, hinner⟩, ⟨_, N, hafter⟩, ?_⟩
  rw [hN, hJ, hK]
  rfl

/-- A key that captures is left out, or its group stands between its texts. -/
theorem Key.passes_items {key : Key} (hcaptures : key.captures = true)
    (h : key.Readable options) (hgathers : key.repeated = true → key.gathers options = true)
    {opened : Nat} {p q : Place} {M N : Marks}
    (hpasses : (ofList (key.items options opened)).Passes p M q N) :
    q = p ∧ N = M ∧ key.optional = true ∨ ∃ start stop,
      (ofList (options.literal key.before)).Leads p start ∧
      (ofList (key.inner options)).Leads start stop ∧
      (ofList (options.literal key.after)).Leads stop q ∧
        N = putMark (putMark M (2 * opened) start) (2 * opened + 1) stop := by
  rw [Key.items] at hpasses
  rcases key.mark_of_captures hcaptures h.1 hgathers with ⟨hmark, _⟩ | ⟨hmark, hoptional⟩
  · rw [hmark] at hpasses
    exact .inr (key.passes_row hcaptures h hpasses)
  · rw [hmark] at hpasses
    rcases passes_optional.mp hpasses with ⟨hq, hN⟩ | hrow
    · exact .inl ⟨hq, hN, hoptional⟩
    · exact .inr (key.passes_row hcaptures h hrow)

/-- A key without a group leaves the marks alone. -/
theorem Key.captures_items_of_mute {key : Key} (hcaptures : key.captures = false) (opened : Nat) :
    key.items options opened = key.items options 0 ∧
      (ofList (key.items options opened)).captures = [] := by
  constructor
  · simp [Key.items, Key.group, hcaptures]
  · simp [Key.items, Key.group, hcaptures, captures_ofList, capturesAll_markItems,
      capturesAll_literal]

/-- A passage of the expressions of some parts divides the text, and the marks show the spans. -/
theorem divides_of_passes {parts : List Part}
    (hkeys : ∀ key, Part.key key ∈ parts → key.Readable options)
    (hgathers : ∀ key, Part.key key ∈ parts → key.captures = true → key.repeated = true →
      key.gathers options = true) {opened : Nat} {p q : Place} {M N : Marks}
    (h : (ofList (partsItems options opened parts)).Passes p M q N)
    (hfresh : ∀ number, 2 * opened ≤ number → markAt M number = none) :
    Divides options parts p q ((List.range' (opened + 1) (partsGroups parts)).map (spanOf N)) := by
  induction parts generalizing opened p M with
  | nil =>
      obtain ⟨rfl, rfl⟩ := h
      exact .nil q
  | cons part rest ih =>
      obtain ⟨r, L, hpart, hrest⟩ := passes_ofList_append.mp h
      have hkeys' (key : Key) (hkey : Part.key key ∈ rest) := hkeys key (by simp [hkey])
      have hgathers' (key : Key) (hkey : Part.key key ∈ rest) := hgathers key (by simp [hkey])
      -- Later parts do not touch the marks of this one.
      have hkeep (number : Nat) (hnumber : number < 2 * (opened + part.groups)) :
          markAt N number = markAt L number :=
        hrest.markAt_eq (fits_partsItems hkeys' _) (.inl hnumber)
      rw [partsGroups_cons]
      cases part with
      | text literal =>
          rw [show (Part.text literal).groups = 0 from rfl, Nat.zero_add]
          have hL := (passes_literalItems.mp hpart).1
          refine .text ⟨M, L, hpart⟩ (ih hkeys' hgathers' hrest ?_)
          rwa [hL]
      | key k =>
          cases hcaptures : k.captures with
          | false =>
              rw [Part.groups_of_mute hcaptures] at hrest ⊢
              rw [Nat.zero_add]
              obtain ⟨hitems, hnone⟩ := @Key.captures_items_of_mute options k hcaptures opened
              have hpart' : (ofList (k.items options opened)).Passes p M r L := hpart
              have hL := hpart'.marks_eq hnone
              rw [hitems] at hpart'
              refine .mute hcaptures ⟨M, L, hpart'⟩ (ih hkeys' hgathers' hrest ?_)
              rwa [hL]
          | true =>
              rw [Part.groups_of_captures hcaptures] at hrest hkeep ⊢
              rw [Nat.add_comm 1, List.range'_succ, List.map_cons]
              have hspan : spanOf N (opened + 1) = (markAt L (2 * opened + 1)).bind fun stop =>
                  (markAt L (2 * opened)).map fun start => (start, stop) := by
                rw [spanOf, Nat.add_sub_cancel, hkeep _ (by omega), hkeep _ (by omega)]
              rcases k.passes_items hcaptures (hkeys k (by simp)) (hgathers k (by simp) hcaptures)
                hpart with ⟨rfl, rfl, hoptional⟩ | ⟨start, stop, hbefore, hinner, hafter, rfl⟩
              · rw [hspan, hfresh _ (by omega)]
                refine .absent hcaptures hoptional (ih hkeys' hgathers' hrest ?_)
                exact fun number hnumber => hfresh number (by omega)
              · rw [hspan, markAt_putMark, if_pos rfl, markAt_putMark, if_neg (by omega),
                  markAt_putMark, if_pos rfl]
                refine .present hcaptures hbefore hinner hafter (ih hkeys' hgathers' hrest ?_)
                intro number hnumber
                rw [markAt_putMark, if_neg (by omega), markAt_putMark, if_neg (by omega)]
                exact hfresh number (by omega)

/-! ## Whole patterns -/

/-- The groups of a pattern fit the marks there are. -/
theorem fits_sourceItems {parts : List Part}
    (h : ∀ key, Part.key key ∈ parts → key.Readable options) :
    (ofList (sourceItems options parts 0)).Fits false 0 (2 * partsGroups parts) := by
  have hparts := fits_partsItems h 0
  rw [Nat.zero_add, Nat.mul_zero] at hparts
  refine fits_ofList_append (fits_ofList_append ?_ hparts) ?_
  · exact fits_of_captures (by rw [captures_ofList, capturesAll_beginning]) false (Nat.le_refl 0)
  · exact fits_of_captures (by rw [captures_ofList, capturesAll_ending]) false (Nat.le_refl _)

/-- Where a match has to reach the end, a passage of a pattern runs through the parts to the end of
the text. Behind the parts there may be a delimiter unless that is refused. -/
theorem passes_sourceItems {parts : List Part} (hend : options.anchorEnd = true)
    (hends : options.endsWith = "") {p q : Place} {M N : Marks}
    (h : (ofList (sourceItems options parts 0)).Passes p M q N) :
    (options.anchorStart = true → p.before = []) ∧ q.after = [] ∧
      ∃ r, (ofList (partsItems options 0 parts)).Passes p M r N ∧
        (r = q ∨ options.strict = false ∧ r.step options.delimiterTest = some q) := by
  have hempty : options.endsWith.isEmpty = true := by simp [hends]
  unfold sourceItems Options.closedItems at h
  rw [hend, hempty] at h
  obtain ⟨r, L, hfront, hclosed⟩ := passes_ofList_append.mp h
  obtain ⟨s, K, hbegin, hparts⟩ := passes_ofList_append.mp hfront
  obtain ⟨t, J, hdelimiter, hlast, rfl, rfl⟩ := passes_ofList_append.mp hclosed
  have hafter : q.after = [] := by simpa [Anchor.holds] using hlast
  have hbefore : s = p ∧ K = M ∧ (options.anchorStart = true → p.before = []) := by
    cases hstart : options.anchorStart with
    | true =>
        rw [hstart] at hbegin
        obtain ⟨hholds, rfl, rfl⟩ := hbegin
        exact ⟨rfl, rfl, fun _ => by simpa [Anchor.holds] using hholds⟩
    | false =>
        rw [hstart] at hbegin
        obtain ⟨rfl, rfl⟩ := hbegin
        exact ⟨rfl, rfl, by simp⟩
  obtain ⟨rfl, rfl, hbefore⟩ := hbefore
  refine ⟨hbefore, hafter, ?_⟩
  cases hstrict : options.strict with
  | true =>
      rw [hstrict, if_pos rfl] at hdelimiter
      obtain ⟨rfl, rfl⟩ := hdelimiter
      exact ⟨q, hparts, .inl rfl⟩
  | false =>
      rw [hstrict, if_neg (by simp)] at hdelimiter
      rcases passes_optional.mp hdelimiter with
        ⟨rfl, rfl⟩ | ⟨hstep, rfl⟩
      · exact ⟨q, hparts, .inl rfl⟩
      · exact ⟨r, hparts, .inr ⟨rfl, hstep⟩⟩

end RoutePattern
