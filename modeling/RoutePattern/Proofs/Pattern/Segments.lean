import RoutePattern.Proofs.Pattern.Delimiters
import RoutePattern.Proofs.Pattern.Written

/-!
# Patterns of segments

A key stands for a segment if its expression matches only texts without delimiters, and there is a
delimiter in front of it. A text can be laid out along such parts in one way only if at most one of
the keys has a mark (`Laid.unique`). From the front, a key without a mark takes all up to the next
delimiter; behind the key with a mark, the places of the other keys are settled from the end of the
text (`Laid.backwards`), even if a delimiter is left over there.
-/

namespace RoutePattern

open RoutePattern.Expr

variable {options : Options}

/-! ## Segments -/

/-- A key that captures by a plain expression which matches only texts that are neither empty nor
have a delimiter. There is one delimiter in front of each of them, and none behind it. -/
structure Key.Segment (options : Options) (key : Key) : Prop where
  captures : key.captures = true
  plain : key.Plain options
  matched : ∀ expression text, Expression.read key.pattern options.flags = .ok expression →
    expression.fullMatch text = .ok true → text.toList ≠ [] ∧ Free text.toList
  before : ∃ d lead, key.before.toList = d :: lead ∧ isDelimiter d = true ∧ Free lead
  after : Free key.after.toList

/-- Literal text directly behind a key begins with a delimiter. -/
def Part.Borders : Part → Part → Prop
  | .key _, .text literal => ∃ d rest, literal.toList = d :: rest ∧ isDelimiter d = true
  | _, _ => True

/-- Whether a part is a key with a mark. -/
def Part.isMarked : Part → Bool
  | .key k => k.modifier != ""
  | .text _ => false

/-- What the expression of a segment spells is neither empty nor has a delimiter. -/
theorem Key.Segment.free_of_spells {key : Key} (h : key.Segment options)
    (hembed : Embeddable options.flags key.pattern) {text : List Char}
    (hspells : (ofList (readItems options.flags key.pattern)).Spells text) :
    text ≠ [] ∧ Free text := by
  have hplain := h.plain.isPlain hembed
  have hfits := fits_of_captures (captures_of_isPlain hplain) false (Nat.le_refl 0)
  obtain ⟨q, hreaches, hafter⟩ := @Place.exists_reaches (.start (String.ofList text).toList)
    text [] (by simp [Place.start])
  have hmatch := @Expression.fullMatch_of_leads
    ⟨key.pattern, options.flags, .ofList (readItems options.flags key.pattern), 0⟩ _ _
    (regular_of_isPlain hplain).direct hfits q hafter (hspells.leads hreaches)
  simpa using h.matched _ _ hembed.read_eq hmatch

/-- The expression of a segment leads over a text that is neither empty nor has a delimiter. -/
theorem Key.Segment.reaches {key : Key} (h : key.Segment options)
    (hembed : Embeddable options.flags key.pattern) {p q : Place} {M N : Marks}
    (hpasses : (ofList (readItems options.flags key.pattern)).Passes p M q N) :
    ∃ text, p.Reaches q text ∧ text ≠ [] ∧ Free text := by
  obtain ⟨text, hreaches, hspells⟩ :=
    spells_of_passes (local_of_isPlain (h.plain.isPlain hembed)) hpasses
  exact ⟨text, hreaches, h.free_of_spells hembed hspells⟩

/-! ## Rows -/

/-- A row of a key: the text in front begins with its only delimiter, the segment does not end in
one, and has none unless the key is repeated. -/
structure Key.Row (key : Key) (p start stop r : Place) : Prop where
  before : ∃ d lead, p.Reaches start (d :: lead) ∧ isDelimiter d = true ∧ Free lead ∧
    (d :: lead).length = key.before.length
  inner : ∃ front c, start.Reaches stop (front ++ [c]) ∧ isDelimiter c = false ∧
    (key.repeated = false → Free front)
  after : ∃ tail, stop.Reaches r tail ∧ Free tail ∧ tail.length = key.after.length

/-- A free text that is not empty ends in a character that is no delimiter. -/
theorem Free.exists_last {text : List Char} (h : Free text) (hne : text ≠ []) :
    ∃ front c, text = front ++ [c] ∧ Free front ∧ isDelimiter c = false := by
  obtain ⟨front, c, rfl⟩ := (List.eq_nil_or_concat' text).resolve_left hne
  obtain ⟨hfront, hlast⟩ := free_append.mp h
  exact ⟨front, c, rfl, hfront, hlast c (List.mem_singleton_self c)⟩

/-- A further segment behind the texts between two of them does not end in a delimiter. -/
theorem Key.Segment.again_reaches {key : Key} (h : key.Segment options)
    (hembed : Embeddable options.flags key.pattern) (hunchanged : (Part.key key).Unchanged options)
    {p q : Place} {M N : Marks} (hpasses : (ofList (options.literal key.after ++
      options.literal key.before ++ readItems options.flags key.pattern)).Passes p M q N) :
    ∃ front c, p.Reaches q (front ++ [c]) ∧ isDelimiter c = false := by
  obtain ⟨s, L, htexts, hitems⟩ := passes_ofList_append.mp hpasses
  obtain ⟨r, K, hafter, hbefore⟩ := passes_ofList_append.mp htexts
  obtain ⟨after, hreaches, _⟩ := sameText_of_leads hunchanged.2 hafter.leads
  obtain ⟨before, hreaches', _⟩ := sameText_of_leads hunchanged.1 hbefore.leads
  obtain ⟨text, hlast, hne, hfree⟩ := h.reaches hembed hitems
  obtain ⟨front, c, rfl, _, hc⟩ := hfree.exists_last hne
  refine ⟨after ++ before ++ front, c, ?_, hc⟩
  rw [List.append_assoc]
  exact (hreaches.trans hreaches').trans hlast

/-- The group of a segment leads over a text that does not end in a delimiter, and has none unless
the key is repeated. -/
theorem Key.Segment.inner_reaches {key : Key} (h : key.Segment options)
    (hembed : Embeddable options.flags key.pattern) (hunchanged : (Part.key key).Unchanged options)
    {p q : Place} (hleads : (ofList (key.inner options)).Leads p q) :
    ∃ front c, p.Reaches q (front ++ [c]) ∧ isDelimiter c = false ∧
      (key.repeated = false → Free front) := by
  obtain ⟨M, N, hpasses⟩ := hleads
  unfold Key.inner at hpasses
  split at hpasses
  · next hgathers =>
    rw [Key.gathers, Bool.and_eq_true] at hgathers
    obtain ⟨r, L, hfirst, hloop⟩ := passes_ofList_append.mp hpasses
    obtain ⟨text, hreaches, hne, hfree⟩ := h.reaches hembed hfirst
    obtain ⟨front, c, rfl, _, hc⟩ := hfree.exists_last hne
    rw [ofList, Passes, if_neg (by simp)] at hloop
    obtain ⟨n, _, hiterates⟩ := hloop
    -- Each further segment ends like the first one.
    have hends : ∃ front c, p.Reaches q (front ++ [c]) ∧ isDelimiter c = false := by
      refine hiterates.keeps (fun s => ∃ front c, p.Reaches s.1 (front ++ [c]) ∧
        isDelimiter c = false) ?_ ⟨front, c, hreaches, hc⟩
      rintro a b hstep ⟨front, last, hfront, _⟩
      obtain ⟨next, c, hnext, hc⟩ := h.again_reaches hembed hunchanged hstep
      refine ⟨front ++ [last] ++ next, c, ?_, hc⟩
      rw [List.append_assoc]
      exact hfront.trans hnext
    obtain ⟨front, c, hall, hc⟩ := hends
    exact ⟨front, c, hall, hc, by simp [hgathers.1]⟩
  · obtain ⟨text, hreaches, hne, hfree⟩ := h.reaches hembed hpasses
    obtain ⟨front, c, rfl, hfront, hc⟩ := hfree.exists_last hne
    exact ⟨front, c, hreaches, hc, fun _ => hfront⟩

/-- A segment between its texts is a row. -/
theorem Key.Segment.row {key : Key} (h : key.Segment options)
    (hembed : Embeddable options.flags key.pattern) (hunchanged : (Part.key key).Unchanged options)
    {p start stop r : Place} (hbefore : (ofList (options.literal key.before)).Leads p start)
    (hinner : (ofList (key.inner options)).Leads start stop)
    (hafter : (ofList (options.literal key.after)).Leads stop r) : key.Row p start stop r where
  before := by
    obtain ⟨spelled, hreaches, hsame⟩ := sameText_of_leads hunchanged.1 hbefore
    obtain ⟨d, lead, htext, hd, hlead⟩ := h.before
    have hlength := hsame.length_eq
    rw [htext] at hsame
    obtain ⟨rest, rfl, hrest⟩ := hsame.delimited (fold_ne_ascii options) hd
    exact ⟨d, rest, hreaches, hd, hrest.free (fold_ne_ascii options) hlead, hlength.symm⟩
  inner := h.inner_reaches hembed hunchanged hinner
  after := by
    obtain ⟨spelled, hreaches, hsame⟩ := sameText_of_leads hunchanged.2 hafter
    exact ⟨spelled, hreaches, hsame.free (fold_ne_ascii options) h.after, hsame.length_eq.symm⟩

/-! ## Layouts -/

/-- Parts are laid out between two places: literal text as something that compares as equal, and
each key as a row or, if it is optional, not at all. There is a span for each key. -/
inductive Laid (options : Options) :
    List Part → Place → Place → List (Option (Place × Place)) → Prop where
  | nil (p : Place) : Laid options [] p p []
  | text {text : String} {rest : List Part} {p r q : Place} {spans : List (Option (Place × Place))}
      {spelled : List Char} : p.Reaches r spelled → SameText options.flags.fold text.toList spelled →
      Laid options rest r q spans → Laid options (.text text :: rest) p q spans
  | absent {key : Key} {rest : List Part} {p q : Place} {spans : List (Option (Place × Place))} :
      key.optional = true → Laid options rest p q spans →
      Laid options (.key key :: rest) p q (none :: spans)
  | present {key : Key} {rest : List Part} {p start stop r q : Place}
      {spans : List (Option (Place × Place))} : key.Row p start stop r →
      Laid options rest r q spans → Laid options (.key key :: rest) p q (some (start, stop) :: spans)

/-- A part with its literal text encoded. -/
def Part.encoded (options : Options) : Part → Part
  | .text literal => .text (options.encode literal)
  | .key k => .key k

/-- Parts whose keys stand for segments are laid out as they divide the text, with the literal text
encoded. -/
theorem laid_encoded_of_divides {parts : List Part} {p q : Place}
    {spans : List (Option (Place × Place))}
    (hkeys : ∀ key, Part.key key ∈ parts → key.Segment options)
    (hembed : ∀ key, Part.key key ∈ parts → Embeddable options.flags key.pattern)
    (hunchanged : ∀ key, Part.key key ∈ parts → (Part.key key).Unchanged options)
    (h : Divides options parts p q spans) :
    Laid options (parts.map (Part.encoded options)) p q spans := by
  induction h with
  | nil p => exact .nil p
  | text hliteral _ ih =>
      obtain ⟨M, N, hpasses⟩ := hliteral
      obtain ⟨spelled, hreaches, hsame⟩ := (passes_literalItems.mp hpasses).2
      exact .text hreaches hsame (ih (fun key hkey => hkeys key (by simp [hkey]))
        (fun key hkey => hembed key (by simp [hkey]))
        (fun key hkey => hunchanged key (by simp [hkey])))
  | @mute key _ _ _ _ _ hcaptures _ _ _ =>
      rw [(hkeys key (by simp)).captures] at hcaptures
      simp at hcaptures
  | absent _ hoptional _ ih =>
      exact .absent hoptional (ih (fun key hkey => hkeys key (by simp [hkey]))
        (fun key hkey => hembed key (by simp [hkey]))
        (fun key hkey => hunchanged key (by simp [hkey])))
  | @present key _ _ _ _ _ _ _ _ hbefore hinner hafter _ ih =>
      exact .present ((hkeys key (by simp)).row (hembed key (by simp)) (hunchanged key (by simp))
          hbefore hinner hafter)
        (ih (fun key hkey => hkeys key (by simp [hkey]))
          (fun key hkey => hembed key (by simp [hkey]))
          (fun key hkey => hunchanged key (by simp [hkey])))

/-- A delimiter leads from one place to the other. -/
def Place.Delimits (p q : Place) : Prop :=
  ∃ d, isDelimiter d = true ∧ p.Reaches q [d]

/-- The place behind a delimiter is one character on. -/
theorem Place.Delimits.offset {p q : Place} (h : p.Delimits q) : q.offset = p.offset + 1 := by
  obtain ⟨d, _, hreaches⟩ := h
  exact hreaches.offset

/-- A row has at least two characters. -/
theorem Key.Row.offset_lt {key : Key} {p start stop r : Place} (h : key.Row p start stop r) :
    p.offset + 1 < r.offset := by
  obtain ⟨d, lead, hbefore, _⟩ := h.before
  obtain ⟨front, c, hinner, _⟩ := h.inner
  obtain ⟨tail, hafter, _⟩ := h.after
  have hp := hbefore.offset
  have hstart := hinner.offset
  have hstop := hafter.offset
  simp only [List.length_cons, List.length_append, List.length_nil] at hp hstart
  omega

/-- No delimiter is the last character of a row. -/
theorem Key.Row.not_delimits {key : Key} {p start stop r s : Place} (h : key.Row p start stop r) :
    ¬s.Delimits r := by
  rintro ⟨d, hd, hreaches⟩
  obtain ⟨front, c, hinner, hc, _⟩ := h.inner
  obtain ⟨tail, hafter, htail, _⟩ := h.after
  -- The text behind the segment may be empty.
  obtain ⟨whole, last, hwhole, hlast⟩ : ∃ whole last, start.Reaches r (whole ++ [last]) ∧
      isDelimiter last = false := by
    by_cases hnil : tail = []
    · subst hnil
      rw [← Place.reaches_nil_iff.mp hafter]
      exact ⟨front, c, hinner, hc⟩
    · obtain ⟨init, last, rfl, _, hlast⟩ := htail.exists_last hnil
      refine ⟨front ++ [c] ++ init, last, ?_, hlast⟩
      rw [List.append_assoc]
      exact hinner.trans hafter
  have hsame : last = d := by
    have hbefore := hwhole.before.symm.trans hreaches.before
    simp only [List.reverse_append, List.reverse_singleton, List.cons_append, List.nil_append,
      List.cons.injEq] at hbefore
    exact hbefore.1
  rw [hsame, hd] at hlast
  simp at hlast

/-- Of two rows of a key between the same places the segments are the same. -/
theorem Key.Row.between {key : Key} {p start stop start' stop' r : Place}
    (h : key.Row p start stop r) (h' : key.Row p start' stop' r) :
    start' = start ∧ stop' = stop := by
  obtain ⟨d, lead, hbefore, _, _, hlength⟩ := h.before
  obtain ⟨d', lead', hbefore', _, _, hlength'⟩ := h'.before
  obtain ⟨tail, hafter, _, hlast⟩ := h.after
  obtain ⟨tail', hafter', _, hlast'⟩ := h'.after
  exact ⟨hbefore'.end_eq hbefore (hlength'.trans hlength.symm),
    hafter'.begin_eq hafter (hlast'.trans hlast.symm)⟩

/-- Of two rows from the same place that end in front of delimiters the ends are the same. -/
theorem Key.Row.forwards {key : Key} (hrepeated : key.repeated = false)
    {p start stop start' stop' r r' : Place} (h : key.Row p start stop r)
    (h' : key.Row p start' stop' r') (hr : Bounded r.after) (hr' : Bounded r'.after) : r' = r := by
  obtain ⟨d, lead, hbefore, _, _, hlength⟩ := h.before
  obtain ⟨d', lead', hbefore', _, _, hlength'⟩ := h'.before
  obtain ⟨front, c, hinner, hc, hfront⟩ := h.inner
  obtain ⟨front', c', hinner', hc', hfront'⟩ := h'.inner
  obtain ⟨tail, hafter, htail, _⟩ := h.after
  obtain ⟨tail', hafter', htail', _⟩ := h'.after
  obtain rfl : start' = start := hbefore'.end_eq hbefore (hlength'.trans hlength.symm)
  have hfree : Free (front ++ [c] ++ tail) :=
    free_append.mpr ⟨free_append.mpr ⟨hfront hrepeated, free_cons.mpr ⟨hc, free_nil⟩⟩, htail⟩
  have hfree' : Free (front' ++ [c'] ++ tail') :=
    free_append.mpr ⟨free_append.mpr ⟨hfront' hrepeated, free_cons.mpr ⟨hc', free_nil⟩⟩, htail'⟩
  exact (hinner'.trans hafter').free_unique (hinner.trans hafter) hfree' hfree hr' hr

/-- Of two rows to the same place the beginnings are the same. -/
theorem Key.Row.backwards {key : Key} (hrepeated : key.repeated = false)
    {p p' start stop start' stop' r : Place} (h : key.Row p start stop r)
    (h' : key.Row p' start' stop' r) : p' = p := by
  obtain ⟨d, lead, hbefore, hd, hlead, _⟩ := h.before
  obtain ⟨d', lead', hbefore', hd', hlead', _⟩ := h'.before
  obtain ⟨front, c, hinner, hc, hfront⟩ := h.inner
  obtain ⟨front', c', hinner', hc', hfront'⟩ := h'.inner
  obtain ⟨tail, hafter, htail, hlength⟩ := h.after
  obtain ⟨tail', hafter', htail', hlength'⟩ := h'.after
  obtain rfl : stop' = stop := hafter'.begin_eq hafter (hlength'.trans hlength.symm)
  have hfree : Free (lead ++ (front ++ [c])) :=
    free_append.mpr ⟨hlead, free_append.mpr ⟨hfront hrepeated, free_cons.mpr ⟨hc, free_nil⟩⟩⟩
  have hfree' : Free (lead' ++ (front' ++ [c'])) :=
    free_append.mpr ⟨hlead', free_append.mpr ⟨hfront' hrepeated, free_cons.mpr ⟨hc', free_nil⟩⟩⟩
  exact (hbefore'.trans hinner').last_delimiter (hbefore.trans hinner) hd' hd hfree' hfree

/-! ## The only layout -/

/-- What is laid out directly behind a key is bounded by a delimiter, or by the end. -/
theorem Laid.bounded {parts : List Part} {p q : Place} {spans : List (Option (Place × Place))}
    (h : Laid options parts p q spans) {key : Key}
    (hchain : (Part.key key :: parts).IsChain Part.Borders) (hq : Bounded q.after) :
    Bounded p.after := by
  induction h generalizing key with
  | nil => exact hq
  | text hreaches hsame _ _ =>
      obtain ⟨⟨d, rest, htext, hd⟩, _⟩ := List.isChain_cons_cons.mp hchain
      rw [htext] at hsame
      obtain ⟨spelled, rfl, _⟩ := hsame.delimited (fold_ne_ascii options) hd
      rw [hreaches.after]
      exact bounded_cons hd _
  | absent _ _ ih => exact ih (List.isChain_cons_cons.mp hchain).2 hq
  | present hrow _ _ =>
      obtain ⟨d, lead, hreaches, hd, _⟩ := hrow.before
      rw [hreaches.after]
      exact bounded_cons hd _

/-- From the end of a text, or from in front of a delimiter there, keys without marks are laid out in
one way, or all that is left is a row of delimiters. -/
theorem Laid.backwards {parts : List Part} {p p' q q' : Place}
    {spans spans' : List (Option (Place × Place))} (h : Laid options parts p q spans)
    (h' : Laid options parts p' q' spans') (hunmarked : ∀ part ∈ parts, part.isMarked = false)
    (hend : q' = q ∨ q'.Delimits q) : p' = p ∧ spans' = spans ∨ p'.Delimits p := by
  have hmodifier {key : Key} {parts : List Part} (hparts : ∀ part ∈ Part.key key :: parts,
      part.isMarked = false) : key.modifier = "" := by
    simpa [Part.isMarked] using hparts (.key key) (by simp)
  induction h generalizing p' spans' with
  | nil =>
      cases h'
      exact hend.imp_left fun h => ⟨h, rfl⟩
  | @text text rest p r q spans spelled hreaches hsame _ ih =>
      obtain ⟨_, hrest⟩ := List.forall_mem_cons.mp hunmarked
      cases h' with
      | @text _ _ _ r' _ _ spelled' hreaches' hsame' h' =>
          have hlength : spelled'.length = spelled.length :=
            hsame'.length_eq.symm.trans hsame.length_eq
          rcases ih h' hrest hend with ⟨rfl, hspans⟩ | ⟨d, hd, hr⟩
          · exact .inl ⟨hreaches'.begin_eq hreaches hlength, hspans⟩
          · -- The text stands one character earlier, too.
            right
            have hall := hreaches'.trans hr
            obtain ⟨c, other, hshift⟩ : ∃ c other, spelled' ++ [d] = c :: other :=
              List.exists_cons_of_ne_nil (by simp)
            rw [hshift] at hall
            obtain ⟨s, hfirst, hother⟩ := Place.Reaches.split (show p'.Reaches r ([c] ++ other) from
              hall)
            have hcount : other.length = spelled.length := by
              have := congrArg List.length hshift
              simp at this
              omega
            obtain rfl : s = p := hother.begin_eq hreaches hcount
            have htext : other = spelled := by rw [← hother.textSince, hreaches.textSince]
            rw [htext] at hshift
            have hc := SameText.shift (fold_ne_ascii options) hd hsame hsame' hshift.symm
            exact ⟨c, hc ▸ hd, hfirst⟩
  | @absent key rest p q spans hoptional _ ih =>
      simp [Key.optional, hmodifier hunmarked] at hoptional
  | @present key rest p start stop r q spans hrow _ ih =>
      have hnone := hmodifier hunmarked
      obtain ⟨_, hrest⟩ := List.forall_mem_cons.mp hunmarked
      cases h' with
      | absent hoptional _ => simp [Key.optional, hnone] at hoptional
      | @present _ _ _ start' stop' r' _ _ hrow' h' =>
          rcases ih h' hrest hend with ⟨rfl, rfl⟩ | hr
          · obtain rfl := hrow.backwards (by simp [Key.repeated, hnone]) hrow'
            obtain ⟨rfl, rfl⟩ := hrow.between hrow'
            exact .inl ⟨rfl, rfl⟩
          · exact (hrow.not_delimits hr).elim

/-- A key that is optional has a mark. -/
theorem isMarked_of_optional {key : Key} (h : key.optional = true) :
    (Part.key key).isMarked = true := by
  rw [Key.optional, Bool.or_eq_true, beq_iff_eq, beq_iff_eq] at h
  rcases h with h | h <;> simp [Part.isMarked, h]

/-- Behind the only part with a mark there is no other one. -/
theorem unmarked_of_isMarked {part : Part} {rest : List Part} (h : part.isMarked = true)
    (hmarks : (part :: rest).countP Part.isMarked ≤ 1) : ∀ other ∈ rest, other.isMarked = false := by
  rw [List.countP_cons_of_pos h] at hmarks
  simpa using List.countP_eq_zero.mp (show rest.countP Part.isMarked = 0 by omega)

/-- Parts with at most one mark are laid out in one way up to the end of a text, even if a delimiter
may be left over there. -/
theorem Laid.unique {parts : List Part} {p q q' : Place}
    {spans spans' : List (Option (Place × Place))} (h : Laid options parts p q spans)
    (h' : Laid options parts p q' spans') (hborders : parts.IsChain Part.Borders)
    (hmarks : parts.countP Part.isMarked ≤ 1) (hq : q.after = [])
    (hend : q' = q ∨ q'.Delimits q) : spans' = spans := by
  induction h generalizing spans' with
  | nil =>
      cases h'
      rfl
  | @text text rest p r q spans spelled hreaches hsame _ ih =>
      cases h' with
      | @text _ _ _ r' _ _ spelled' hreaches' hsame' h' =>
          obtain rfl : r' = r := hreaches'.end_eq hreaches
            (hsame'.length_eq.symm.trans hsame.length_eq)
          exact ih h' hborders.tail (by simpa [Part.isMarked] using hmarks) hq hend
  | @absent key rest p q spans hoptional h ih =>
      cases h' with
      | absent _ h' =>
          have hrest : rest.countP Part.isMarked ≤ 1 := by
            rw [List.countP_cons] at hmarks
            omega
          rw [ih h' hborders.tail hrest hq hend]
      | @present _ _ _ start' stop' r' _ _ hrow' h' =>
          have hlt := hrow'.offset_lt
          rcases h.backwards h' (unmarked_of_isMarked (isMarked_of_optional hoptional) hmarks) hend with
            ⟨rfl, _⟩ | hr
          · omega
          · have := hr.offset
            omega
  | @present key rest p start stop r q spans hrow h ih =>
      have hlt := hrow.offset_lt
      cases h' with
      | absent hoptional h' =>
          rcases h.backwards h' (unmarked_of_isMarked (isMarked_of_optional hoptional) hmarks) hend with
            ⟨rfl, _⟩ | hr
          · omega
          · have := hr.offset
            omega
      | @present _ _ _ start' stop' r' _ _ hrow' h' =>
          cases hmarked : (Part.key key).isMarked with
          | true =>
              rcases h.backwards h' (unmarked_of_isMarked hmarked hmarks) hend with
                ⟨rfl, rfl⟩ | hr
              · obtain ⟨rfl, rfl⟩ := hrow.between hrow'
                rfl
              · exact (hrow.not_delimits hr).elim
          | false =>
              have hnone : key.repeated = false := by
                have hmodifier : key.modifier = "" := by simpa [Part.isMarked] using hmarked
                simp [Key.repeated, hmodifier]
              have hq' : Bounded q'.after := by
                rcases hend with rfl | ⟨d, hd, hreaches⟩
                · simp [hq, Bounded]
                · rw [hreaches.after]
                  exact bounded_cons hd _
              obtain rfl := hrow.forwards hnone hrow' (h.bounded hborders (by simp [hq, Bounded]))
                (h'.bounded hborders hq')
              obtain ⟨rfl, rfl⟩ := hrow.between hrow'
              rw [ih h' hborders.tail (by simpa [hmarked] using hmarks) hq hend]

end RoutePattern
