import Mathlib.Data.List.Nodup
import RoutePattern.Proofs.Pattern.Segments

/-!
# Building and matching a pattern of segments

Values are encoded where a path is built, and the text of a pattern is encoded where it is compiled.
Both fit together where the text of the pattern is encoded as itself, or as something that compares
as equal (`Part.Kept`). `segments_encode_then_decode` is the main result: where the keys of a pattern
stand for segments, a match of the path that is built for some values gives these values back, if
decoding undoes encoding. The path is laid out along the parts as it has been built
(`laid_encoded_built`), and as the match divides it (`laid_of_search`). There is only one layout, so
the values are the same. `build_then_match_same` is the case in which nothing is encoded.
-/

namespace RoutePattern

open RoutePattern.Expr

variable {options : Options}

/-- A key takes a text or, if it is repeated, a list of texts that is not empty. -/
def Key.Takes (key : Key) (value : Value) : Prop :=
  if key.repeated then ∃ texts : List String, texts ≠ [] ∧ value = .list (texts.map .text)
  else ∃ text, value = .text text

/-! ## What is built -/

/-- Texts of segments, joined by what stands between them, do not end in a delimiter. -/
theorem intercalate_last (separator : List Char) {pieces : List (List Char)} (hne : pieces ≠ [])
    (h : ∀ piece ∈ pieces, piece ≠ [] ∧ Free piece) :
    ∃ front c, separator.intercalate pieces = front ++ [c] ∧ isDelimiter c = false := by
  induction pieces with
  | nil => exact absurd rfl hne
  | cons piece others ih =>
      obtain ⟨⟨hpiece, hfree⟩, hothers⟩ := List.forall_mem_cons.mp h
      cases others with
      | nil =>
          obtain ⟨front, c, rfl, _, hc⟩ := hfree.exists_last hpiece
          exact ⟨front, c, List.intercalate_singleton .., hc⟩
      | cons next others =>
          obtain ⟨front, c, heq, hc⟩ := ih (List.cons_ne_nil _ _) hothers
          refine ⟨piece ++ separator ++ front, c, ?_, hc⟩
          rw [List.intercalate_cons_cons, heq]
          simp only [List.append_assoc]

/-- Segments that are written between the texts of their key are a row. -/
theorem Key.Segment.row_written {key : Key} (h : key.Segment options) {pieces : List (List Char)}
    (hne : pieces ≠ []) (hpieces : ∀ piece ∈ pieces, piece ≠ [] ∧ Free piece)
    (hone : key.repeated = false → pieces.length ≤ 1) {p r : Place}
    (hreaches : p.Reaches r
      (pieces.flatMap fun piece => key.before.toList ++ piece ++ key.after.toList)) :
    ∃ start stop, key.Row p start stop r ∧
      stop.textSince start = (key.after.toList ++ key.before.toList).intercalate pieces := by
  rw [flatMap_surround _ _ hne] at hreaches
  obtain ⟨stop, hfront, hafter⟩ := hreaches.split
  obtain ⟨start, hbefore, hinner⟩ := hfront.split
  obtain ⟨d, lead, htext, hd, hlead⟩ := h.before
  obtain ⟨front, c, hlast, hc⟩ := intercalate_last (key.after.toList ++ key.before.toList) hne hpieces
  refine ⟨start, stop, ⟨?_, ?_, ?_⟩, hinner.textSince⟩
  · exact ⟨d, lead, htext ▸ hbefore, hd, hlead, by rw [← htext, String.length_toList]⟩
  · refine ⟨front, c, hlast ▸ hinner, hc, fun hrepeated => ?_⟩
    obtain ⟨piece, rfl⟩ := List.length_eq_one_iff.mp
      (Nat.le_antisymm (hone hrepeated) (List.length_pos_iff.mpr hne))
    rw [List.intercalate_singleton] at hlast
    have hfree := (hpieces piece (List.mem_singleton_self piece)).2
    rw [hlast] at hfree
    exact (free_append.mp hfree).1
  · exact ⟨key.after.toList, hafter, h.after, String.length_toList ..⟩

/-- What is captured for several segments is taken as a list of them. -/
theorem Key.Segment.taken_list {key : Key} (h : key.Segment options)
    (hrepeated : key.repeated = true) {texts : List String} (hne : texts ≠ [])
    (hfree : ∀ text ∈ texts, Free text.toList) :
    key.taken (String.ofList ((key.after.toList ++ key.before.toList).intercalate
      (texts.map String.toList))) = .list (texts.map .text) := by
  obtain ⟨d, lead, htext, hd, _⟩ := h.before
  have hseparator : (key.after ++ key.before).isEmpty = false := by
    rw [← Bool.not_eq_true, String.isEmpty_iff, String.append_eq_empty_iff]
    rintro ⟨_, hempty⟩
    simp [hempty] at htext
  have hsplit := @splitFrom_intercalate d lead key.after.toList hd h.after (texts.map String.toList)
    (by simpa using hne) (by simpa using hfree)
  unfold Key.taken
  rw [if_pos hrepeated, hseparator, if_neg (by simp), splitText, String.toList_ofList,
    String.toList_append, htext, hsplit]
  simp [Function.comp_def]

/-- A value with its texts encoded. -/
def Value.encoded (options : Options) : Value → Value
  | .list items => .list (items.map fun item => .text (options.encode item.toText))
  | value => .text (options.encode value.toText)

/-- A value that a key takes writes texts, as many as the key allows, which make it up with its texts
encoded. -/
theorem Key.Takes.exists_texts {key : Key} {value : Value} (h : key.Takes value) :
    ∃ texts : List String, texts ≠ [] ∧ value.pieces options = texts ∧
      (key.repeated = false → texts.length ≤ 1) ∧ value.encoded options =
        if key.repeated then .list (texts.map .text) else .text (String.join texts) := by
  unfold Key.Takes at h
  split at h
  · next hrepeated =>
    obtain ⟨texts, hne, rfl⟩ := h
    refine ⟨texts.map options.encode, by simpa using hne, ?_, by simp [hrepeated], ?_⟩
    · simp [Value.pieces, Value.elements?, Value.toText, Function.comp_def]
    · simp [Value.encoded, Value.toText, hrepeated, Function.comp_def]
  · next hrepeated =>
    obtain ⟨text, rfl⟩ := h
    refine ⟨[options.encode text], by simp, ?_, by simp, ?_⟩
    · simp [Value.pieces, Value.elements?, Value.isScalar, Value.toText]
    · simp [Value.encoded, Value.toText, hrepeated]

/-- A key that is built for a value that it takes is laid out as a row, and the value with its texts
encoded is taken from the text of that. -/
theorem Key.Segment.row_built {key : Key} (h : key.Segment options)
    (hembed : Embeddable options.flags key.pattern) (hvalidate : options.validate = true)
    {value : Value} (htakes : key.Takes value) {text : String}
    (hbuild : Builder.capturing options key ⟨"(?:" ++ key.pattern ++ ")", options.flags,
      .ofList (readItems options.flags key.pattern), 0⟩ value = .ok text)
    {p r : Place} (hreaches : p.Reaches r text.toList) :
    ∃ start stop, key.Row p start stop r ∧
      key.taken (String.ofList (stop.textSince start)) = value.encoded options := by
  obtain ⟨hmatch, rfl, _, _⟩ := capturing_eq_ok hvalidate hbuild
  obtain ⟨texts, hne, hpieces, hone, hvalue⟩ := @Key.Takes.exists_texts options _ _ htakes
  rw [hpieces] at hmatch hreaches
  have hfree : ∀ piece ∈ texts, piece.toList ≠ [] ∧ Free piece.toList := fun piece hpiece =>
    h.free_of_spells hembed (spells_of_fullMatch (h.plain.isPlain hembed) (hmatch piece hpiece))
  obtain ⟨start, stop, hrow, htext⟩ := @Key.Segment.row_written _ _ h (texts.map String.toList)
    (by simpa using hne) (by simpa using hfree) (by simpa using hone) p r
    (by simpa [List.flatMap_map, List.flatMap_def, Function.comp_def] using hreaches)
  refine ⟨start, stop, hrow, ?_⟩
  rw [htext, hvalue]
  split
  · next hrepeated =>
    exact h.taken_list hrepeated hne fun piece hpiece => (hfree piece hpiece).2
  · next hrepeated =>
    obtain ⟨piece, rfl⟩ := List.length_eq_one_iff.mp
      (Nat.le_antisymm (hone (by simpa using hrepeated)) (List.length_pos_iff.mpr hne))
    simp [Key.taken, hrepeated]

/-- Parts whose keys stand for segments are laid out as they are built, with the literal text encoded,
and each value with its texts encoded is taken from its span. -/
theorem laid_encoded_built {parts : List Part}
    (hkeys : ∀ key, Part.key key ∈ parts → key.Segment options)
    (hembed : ∀ key, Part.key key ∈ parts → Embeddable options.flags key.pattern)
    (hkept : ∀ part ∈ parts, part.Kept options) (hvalidate : options.validate = true)
    {params : Params} (htakes : ∀ key, Part.key key ∈ parts → ∀ value,
      params.lookup key.name = some value → key.Takes value) {texts : List String}
    (hbuild : (parts.map (Part.ready options)).mapM (Builder.part options params) = .ok texts)
    {p q : Place} (hreaches : p.Reaches q (String.join texts).toList) :
    ∃ spans, Laid options (parts.map (Part.encoded options)) p q spans ∧
      List.Forall₂ (fun key span => (params.lookup key.name).map (Value.encoded options) =
        (span.map fun (start, stop) => String.ofList (stop.textSince start)).map key.taken)
      (capturingKeys parts) spans := by
  induction parts generalizing texts p with
  | nil =>
      cases hbuild
      obtain rfl := Place.reaches_nil_iff.mp hreaches
      exact ⟨[], .nil p, .nil⟩
  | cons part rest ih =>
      rw [List.map_cons, List.mapM_cons] at hbuild
      obtain ⟨text, hfirst, hbuild⟩ := bind_eq_ok.mp hbuild
      obtain ⟨others, hrest, hbuild⟩ := bind_eq_ok.mp hbuild
      cases hbuild
      obtain ⟨r, hpart, hothers⟩ := Place.Reaches.split
        (show p.Reaches q (text.toList ++ (String.join others).toList) by simpa using hreaches)
      obtain ⟨hown, hkept'⟩ := List.forall_mem_cons.mp hkept
      obtain ⟨spans, hlaid, hvalues⟩ := ih (fun key hkey => hkeys key (by simp [hkey]))
        (fun key hkey => hembed key (by simp [hkey])) hkept'
        (fun key hkey => htakes key (by simp [hkey])) hrest hothers
      cases part with
      | text literal =>
          cases hfirst
          exact ⟨spans, .text hpart hown hlaid, hvalues⟩
      | key k =>
          have hsegment := hkeys k (by simp)
          rw [capturingKeys_cons hsegment.captures]
          rw [Part.ready, Builder.part, if_pos hsegment.captures] at hfirst
          cases hvalue : params.lookup k.name with
          | none =>
              rw [hvalue] at hfirst
              simp only [Option.getD_none, Builder.capturing, Value.elements?, Value.isScalar,
                Bool.false_eq_true, ↓reduceIte] at hfirst
              split at hfirst
              · next hoptional =>
                cases hfirst
                obtain rfl := Place.reaches_nil_iff.mp hpart
                exact ⟨none :: spans, .absent hoptional hlaid, .cons (by simp [hvalue]) hvalues⟩
              · simp at hfirst
          | some value =>
              rw [hvalue] at hfirst
              obtain ⟨start, stop, hrow, htaken⟩ := hsegment.row_built (hembed k (by simp)) hvalidate
                (htakes k (by simp) value hvalue) hfirst hpart
              refine ⟨some (start, stop) :: spans, .present hrow hlaid, .cons ?_ hvalues⟩
              rw [hvalue, Option.map_some, Option.map_some, Option.map_some, htaken]

/-! ## A check for segments -/

/-- Whether no test of a plain expression accepts a delimiter. -/
def Expr.avoidsDelimiters : Expr → Bool
  | char test => standardDelimiter.toList.all fun d => !test.accepts d
  | seq first second | either first second => first.avoidsDelimiters && second.avoidsDelimiters
  | loop _ _ _ body => body.avoidsDelimiters
  | _ => true

/-- A plain expression whose tests refuse the delimiters leads over free texts. -/
theorem Expr.Passes.free {e : Expr} {p q : Place} {M N : Marks} (h : e.Passes p M q N)
    (hplain : e.isPlain = true) (havoids : e.avoidsDelimiters = true) :
    ∃ text, p.Reaches q text ∧ Free text := by
  induction e generalizing p M q N with
  | empty =>
      obtain ⟨rfl, rfl⟩ := h
      exact ⟨[], Place.reaches_nil_iff.mpr rfl, free_nil⟩
  | never => exact h.elim
  | char test =>
      obtain ⟨hstep, rfl⟩ := h
      obtain ⟨c, haccepts, hreaches⟩ := Place.step_eq_some_iff.mp hstep
      refine ⟨[c], hreaches, free_cons.mpr ⟨?_, free_nil⟩⟩
      rw [← Bool.not_eq_true]
      intro hc
      have hrefused := List.all_eq_true.mp havoids c (List.contains_iff_mem.mp hc)
      simp [haccepts] at hrefused
  | seq first second ihfirst ihsecond =>
      simp only [isPlain, avoidsDelimiters, Bool.and_eq_true] at hplain havoids
      obtain ⟨r, L, hfirst, hsecond⟩ := h
      obtain ⟨text, hreaches, hfree⟩ := ihfirst hfirst hplain.1 havoids.1
      obtain ⟨text', hreaches', hfree'⟩ := ihsecond hsecond hplain.2 havoids.2
      exact ⟨text ++ text', hreaches.trans hreaches', free_append.mpr ⟨hfree, hfree'⟩⟩
  | either first second ihfirst ihsecond =>
      simp only [isPlain, avoidsDelimiters, Bool.and_eq_true] at hplain havoids
      exact h.elim (fun h => ihfirst h hplain.1 havoids.1) (fun h => ihsecond h hplain.2 havoids.2)
  | loop greed least most body ih =>
      simp only [isPlain, avoidsDelimiters, Bool.and_eq_true, bne_iff_ne] at hplain havoids
      obtain ⟨n, _, hiterates⟩ := (passes_loop hplain.1).mp h
      refine hiterates.keeps (fun s => ∃ text, p.Reaches s.1 text ∧ Free text) ?_
        ⟨[], Place.reaches_nil_iff.mpr rfl, free_nil⟩
      rintro a b hstep ⟨text, hreaches, hfree⟩
      obtain ⟨text', hreaches', hfree'⟩ := ih hstep hplain.2 havoids
      exact ⟨text ++ text', hreaches.trans hreaches', free_append.mpr ⟨hfree, hfree'⟩⟩
  | group | anchor | atomic | ahead | behind | backref | ifGroup => simp [isPlain] at hplain

/-- Whether a key shows by its tests and its texts that it stands for a segment. -/
def Key.isSegment (options : Options) (key : Key) : Bool :=
  key.captures &&
    (Expression.read key.pattern options.flags).toOption.any (fun expression =>
      expression.groups == 0 && expression.expr.isPlain && expression.expr.avoidsDelimiters &&
        0 < expression.expr.width.least) &&
    key.before.toList.head?.any isDelimiter &&
    decide (Free key.before.toList.tail) && decide (Free key.after.toList)

/-- A key that shows that it stands for a segment does so. -/
theorem Key.segment_of_isSegment {key : Key} (h : key.isSegment options = true) :
    key.Segment options := by
  simp only [isSegment, Bool.and_eq_true, decide_eq_true_eq, Option.any_eq_true, toOption_eq_some,
    beq_iff_eq] at h
  obtain ⟨⟨⟨⟨hcaptures, expression, hread, ⟨⟨hgroups, hplain⟩, havoids⟩, hwidth⟩, d, hhead, hd⟩,
    hlead⟩, hafter⟩ := h
  refine ⟨hcaptures, .inr ⟨expression, hread, hgroups, hplain⟩, ?_, ?_, hafter⟩
  · intro other text hother hmatch
    obtain rfl := Except.ok.inj (hread.symm.trans hother)
    have hfits := fits_of_captures (captures_of_isPlain hplain) false (Nat.le_refl 0)
    obtain ⟨q, N, hpasses, hlast⟩ := Expression.fullMatch_eq_true hfits hmatch
    obtain ⟨spelled, hreaches, hfree⟩ := hpasses.free hplain havoids
    obtain ⟨spelled', hreaches', hlength⟩ := (regular_of_isPlain hplain).direct.reaches hpasses
    have hall := hreaches.after
    rw [hlast, List.append_nil] at hall
    obtain rfl : text.toList = spelled := hall
    rw [← hreaches'.textSince, hreaches.textSince] at hlength
    exact ⟨List.ne_nil_of_length_pos (Nat.lt_of_lt_of_le hwidth hlength), hfree⟩
  · obtain ⟨lead, hbefore⟩ := List.head?_eq_some_iff.mp hhead
    rw [hbefore] at hlead
    exact ⟨d, lead, hbefore, hd, hlead⟩

/-! ## Parts with encoded text -/

/-- Literal text that begins with a delimiter does so when it is encoded, too. -/
theorem borders_encoded {parts : List Part} (hkept : ∀ part ∈ parts, part.Kept options)
    (h : parts.IsChain Part.Borders) : (parts.map (Part.encoded options)).IsChain Part.Borders := by
  induction h with
  | nil => exact .nil
  | singleton part => exact .singleton _
  | @cons_cons first second rest hborder _ ih =>
      obtain ⟨_, hrest⟩ := List.forall_mem_cons.mp hkept
      refine .cons_cons ?_ (ih hrest)
      cases first with
      | text literal => cases second <;> trivial
      | key k =>
          cases second with
          | key other => trivial
          | text literal =>
              obtain ⟨d, later, htext, hd⟩ := hborder
              have hsame : SameText options.flags.fold (options.encode literal).toList
                  literal.toList := hrest (.text literal) (by simp)
              rw [htext] at hsame
              obtain ⟨c, front, hchar, _, hencoded⟩ := List.forall₂_cons_right_iff.mp hsame
              obtain rfl := eq_of_sameCode (fold_ne_ascii options) hchar (.inr hd)
              exact ⟨c, front, hencoded, hd⟩

/-- Encoding leaves the marks of the keys alone. -/
theorem countP_isMarked_encoded (parts : List Part) :
    (parts.map (Part.encoded options)).countP Part.isMarked = parts.countP Part.isMarked := by
  rw [List.countP_map]
  refine List.countP_congr fun part _ => ?_
  cases part <;> rfl

/-- Parts whose keys stand for segments are laid out by a match that begins at the front, up to the
end or to a delimiter there. -/
theorem laid_of_search {parts : List Part} (hreadable : SourceReadable options parts)
    (hdelimiter : options.delimiter = standardDelimiter) (hend : options.anchorEnd = true)
    (hends : options.endsWith = "") (hkeys : ∀ key, Part.key key ∈ parts → key.Segment options)
    (hunchanged : ∀ key, Part.key key ∈ parts → (Part.key key).Unchanged options)
    {text : String} {hit : Found}
    (hsearch : Expression.search ⟨partsSource options parts, options.flags,
      .ofList (sourceItems options parts 0), partsGroups parts⟩ text = .ok (some hit))
    (hindex : hit.index = 0) {q : Place} (hall : (Place.start text.toList).Reaches q text.toList)
    (hafter : q.after = []) :
    ∃ r, Laid options (parts.map (Part.encoded options)) (.start text.toList) r
        ((List.range' 1 (partsGroups parts)).map (spanOf hit.memory.marks)) ∧
      (r = q ∨ r.Delimits q) := by
  obtain ⟨_, hwhole, hlast, r, hparts, hr⟩ := whole_of_search hreadable hend hends hsearch hindex
  have hgathers (key : Key) (hkey : Part.key key ∈ parts) (_ : key.captures = true)
      (hrepeated : key.repeated = true) : key.gathers options = true := by
    obtain ⟨d, lead, hbefore, _⟩ := (hkeys key hkey).before
    have hne : key.before ≠ "" := by
      intro hempty
      simp [hempty] at hbefore
    simp [Key.gathers, hrepeated, (hunchanged key hkey).1, (hunchanged key hkey).2, hne]
  have hembed (key : Key) (hkey : Part.key key ∈ parts) :
      Embeddable options.flags key.pattern :=
    (hreadable.keys key hkey).2 (hkeys key hkey).captures
  have hdivides := divides_of_passes hreadable.keys hgathers hparts (fun _ _ => rfl)
  obtain rfl : q = hit.memory.cursor := by
    have hq := hall.whole.trans (Place.whole_start _)
    rw [Place.whole, hafter, List.append_nil] at hq
    rw [Place.whole, hlast, List.append_nil] at hwhole
    exact Place.ext_sides (List.reverse_injective (hq.trans hwhole.symm)) (hafter.trans hlast.symm)
  refine ⟨r, laid_encoded_of_divides hkeys hembed hunchanged hdivides, ?_⟩
  refine hr.imp_right ?_
  rintro ⟨_, hstep⟩
  obtain ⟨c, haccepts, hreaches⟩ := Place.step_eq_some_iff.mp hstep
  exact ⟨c, (accepts_delimiterTest hdelimiter c).symm.trans haccepts, hreaches⟩

/-! ## Decoded values -/

/-- Decoding undoes encoding. -/
def Options.Lossless (options : Options) : Prop :=
  ∀ text, options.decode (options.encode text) = .ok (.text text)

/-- Decoding encoded texts gives the texts. -/
theorem mapM_decode_encode (hlossless : options.Lossless) (texts : List String) :
    (texts.map options.encode).mapM options.decode = .ok (texts.map .text) := by
  induction texts with
  | nil => rfl
  | cons first rest ih =>
      rw [List.map_cons, List.mapM_cons, hlossless, ih]
      rfl

/-- Decoding what is taken for the encoded texts of a value gives this value. -/
theorem Key.value_of_taken (hlossless : options.Lossless) {key : Key} {value : Value}
    (htakes : key.Takes value) {captured : String}
    (h : key.taken captured = value.encoded options) : key.value options captured = .ok value := by
  unfold Key.Takes at htakes
  unfold Key.taken at h
  unfold Key.value
  split at htakes
  · next hrepeated =>
    obtain ⟨texts, _, rfl⟩ := htakes
    rw [if_pos hrepeated] at h ⊢
    have hpieces : (if (key.after ++ key.before).isEmpty then [captured]
        else splitText (key.after ++ key.before) captured) = texts.map options.encode := by
      refine List.map_injective_iff.mpr (fun _ _ => Value.text.inj) ?_
      simpa [Value.encoded, Value.toText, Function.comp_def] using h
    dsimp only
    rw [hpieces, mapM_decode_encode hlossless]
    rfl
  · next hrepeated =>
    obtain ⟨text, rfl⟩ := htakes
    rw [if_neg hrepeated] at h ⊢
    obtain rfl : captured = options.encode text := by simpa [Value.encoded, Value.toText] using h
    exact hlossless text

/-- Decoding what is taken from a group, if it is there, gives the value that was encoded for it. -/
theorem Key.mapM_value_of_taken (hlossless : options.Lossless) {key : Key} {given : Option Value}
    (htakes : ∀ value, given = some value → key.Takes value) {group : Option String}
    (h : given.map (Value.encoded options) = group.map key.taken) :
    group.mapM (key.value options) = .ok given := by
  cases group with
  | none =>
      obtain rfl : given = none := by simpa using h
      rfl
  | some captured =>
      obtain ⟨value, rfl, hvalue⟩ := Option.map_eq_some_iff.mp h
      exact bind_eq_ok.mpr ⟨value, key.value_of_taken hlossless (htakes value rfl) hvalue.symm, rfl⟩

/-- A match gives back the values of which a path of segments was built, if decoding undoes encoding
and the text of the pattern is kept. -/
theorem segments_encode_then_decode (hlossless : options.Lossless)
    (hdelimiter : options.delimiter = standardDelimiter) (hend : options.anchorEnd = true)
    (hends : options.endsWith = "") (hvalidate : options.validate = true) {source : String}
    {parts : List Part} (hparse : parse options source = .ok parts)
    (hkeys : ∀ key, Part.key key ∈ parts → key.Segment options)
    (hkept : ∀ part ∈ parts, part.Kept options) (hborders : parts.IsChain Part.Borders)
    (hnames : ((capturingKeys parts).map Key.name).Nodup)
    (hmarks : parts.countP Part.isMarked ≤ 1) {builder : Builder}
    (hbuilder : Builder.ofPattern options source = .ok builder) {params : Params}
    (htakes : ∀ name value, params.lookup name = some value →
      ∃ key, Part.key key ∈ parts ∧ key.name = name ∧ key.Takes value)
    {path : String} (hbuild : builder.build params = .ok path) :
    ∃ matcher found, Matcher.ofPath options (.pattern source) = .ok matcher ∧
      matcher.run path = .ok (some found) ∧
        ∀ name, found.params.lookup name = params.lookup name := by
  have hembed := embeddable_of_ofPattern hparse (fun key hkey => (hkeys key hkey).plain.standsAlone)
    hbuilder
  have hreadable := sourceReadable_of_segments hends hdelimiter fun key hkey =>
    ⟨isModifier_of_parse hparse key hkey, fun _ => hembed key hkey⟩
  obtain rfl := Except.ok.inj (hbuilder.symm.trans
    (Builder.ofPattern_readable hparse hreadable.keys))
  obtain ⟨texts, htexts, hpath⟩ := bind_eq_ok.mp hbuild
  cases hpath
  have hmem (key : Key) (hkey : Part.key key ∈ parts) : key ∈ capturingKeys parts :=
    mem_capturingKeys.mpr ⟨hkey, (hkeys key hkey).captures⟩
  have htakes' (key : Key) (hkey : Part.key key ∈ parts) (value : Value)
      (hvalue : params.lookup key.name = some value) : key.Takes value := by
    obtain ⟨other, hother, hname, htaken⟩ := htakes key.name value hvalue
    obtain rfl := List.inj_on_of_nodup_map hnames (hmem other hother) (hmem key hkey) hname
    exact htaken
  -- The path is laid out as it has been built, and as the match divides it.
  obtain ⟨q, hall, hafter⟩ := @Place.exists_reaches (.start (String.join texts).toList)
    (String.join texts).toList [] (by simp [Place.start])
  obtain ⟨spans, hbuilt, hspans⟩ := laid_encoded_built hkeys hembed hkept hvalidate htakes' htexts
    hall
  obtain ⟨hit, hsearch, hindex⟩ := search_built_of_kept hvalidate (isModifier_of_parse hparse)
    hreadable (fun key hkey _ => (hkeys key hkey).plain) hkept htexts
  obtain ⟨r, hmatched, hr⟩ := laid_of_search hreadable hdelimiter hend hends hkeys
    (fun key hkey => hkept _ hkey) hsearch hindex hall hafter
  obtain rfl := hbuilt.unique hmatched (borders_encoded hkept hborders)
    (by rwa [countP_isMarked_encoded]) hafter hr
  -- So each key has the value from which its span was built.
  have hread : List.Forall₂ (fun key group =>
      group.mapM (key.value options) = .ok (params.lookup key.name)) (capturingKeys parts)
      (Expression.groupTexts ⟨partsSource options parts, options.flags,
        .ofList (sourceItems options parts 0), partsGroups parts⟩ hit) := by
    rw [Expression.groupTexts_eq, List.forall₂_map_right_iff]
    rw [List.forall₂_map_right_iff] at hspans
    refine ((List.forall₂_and_left _ _).mpr ⟨fun key hkey => mem_capturingKeys.mp hkey, hspans⟩).imp
      ?_
    rintro key number ⟨⟨hkey, _⟩, hspan⟩
    exact key.mapM_value_of_taken hlossless (htakes' key hkey) hspan
  obtain ⟨values, hbind, hsame⟩ := exists_bindParams_same hread hnames fun name value hvalue => by
    obtain ⟨key, hkey, hname, _⟩ := htakes name value hvalue
    exact List.mem_map.mpr ⟨key, hmem key hkey, hname⟩
  exact ⟨_, _, Matcher.ofPath_eq hparse hreadable, Matcher.run_of_search hsearch hbind, hsame⟩

/-- Where nothing is encoded, a match gives back the values of which a path of segments was built. -/
theorem build_then_match_same {options : Options} (hverbatim : options.Verbatim)
    (hdelimiter : options.delimiter = standardDelimiter) (hend : options.anchorEnd = true)
    (hends : options.endsWith = "") (hvalidate : options.validate = true) {source : String}
    {parts : List Part} (hparse : parse options source = .ok parts)
    (hkeys : ∀ key, Part.key key ∈ parts → key.Segment options)
    (hborders : parts.IsChain Part.Borders) (hnames : ((capturingKeys parts).map Key.name).Nodup)
    (hmarks : parts.countP Part.isMarked ≤ 1) {builder : Builder}
    (hbuilder : Builder.ofPattern options source = .ok builder) {params : Params}
    (htakes : ∀ name value, params.lookup name = some value →
      ∃ key, Part.key key ∈ parts ∧ key.name = name ∧ key.Takes value)
    {path : String} (hbuild : builder.build params = .ok path) :
    ∃ matcher found, Matcher.ofPath options (.pattern source) = .ok matcher ∧
      matcher.run path = .ok (some found) ∧
        ∀ name, found.params.lookup name = params.lookup name := by
  have hlossless : options.Lossless := fun text => by rw [hverbatim.encode, hverbatim.decode]
  have hkept (part : Part) (_ : part ∈ parts) : part.Kept options :=
    Part.Unchanged.kept (by cases part <;> simp [Part.Unchanged, hverbatim.encode])
  exact segments_encode_then_decode hlossless hdelimiter hend hends hvalidate hparse hkeys hkept
    hborders hnames hmarks hbuilder htakes hbuild

/-- A repeated key with a text behind it gets its list back, whatever the order of the values. -/
theorem build_then_match_same_repeated :
    ∃ builder matcher found,
      Builder.ofPattern {} "/:year(\\d+)\x7b/:tag-x\x7d*/end" = .ok builder ∧
      builder.build [(.named "tag", .list [.text "a", .text "b-x"]), (.named "year", .text "2024")] =
        .ok "/2024/a-x/b-x-x/end" ∧
      Matcher.ofPath {} (.pattern "/:year(\\d+)\x7b/:tag-x\x7d*/end") = .ok matcher ∧
      matcher.run "/2024/a-x/b-x-x/end" = .ok (some found) ∧
      found.params.lookup (.named "tag") = some (.list [.text "a", .text "b-x"]) ∧
      found.params.lookup (.named "year") = some (.text "2024") := by
  have hsome : ((Builder.ofPattern {} "/:year(\\d+)\x7b/:tag-x\x7d*/end").toOption.bind fun builder =>
      (builder.build [(.named "tag", .list [.text "a", .text "b-x"]),
        (.named "year", .text "2024")]).toOption) = some "/2024/a-x/b-x-x/end" := by
    decide +kernel
  obtain ⟨builder, hbuilder, hbuild⟩ := Option.bind_eq_some_iff.mp hsome
  have hbuilder' := toOption_eq_some.mp hbuilder
  have hbuild' := toOption_eq_some.mp hbuild
  let year : Key := { name := .named "year", before := "/", pattern := "\\d+" }
  let tag : Key :=
    { name := .named "tag", before := "/", after := "-x", pattern := "[^\\/#\\?]+?", modifier := "*" }
  obtain ⟨matcher, found, hmatcher, hrun, hsame⟩ := @build_then_match_same {}
    ⟨fun _ => rfl, fun _ => rfl⟩ rfl rfl rfl rfl _ [.key year, .key tag, .text "/end"]
    (toOption_eq_some.mp (by decide +kernel))
    (by
      have hyear : year.Segment {} := Key.segment_of_isSegment (by decide +kernel)
      have htag : tag.Segment {} := Key.segment_of_isSegment (by decide +kernel)
      simpa using ⟨hyear, htag⟩)
    (by
      have hborder : (Part.key tag).Borders (.text "/end") := ⟨'/', "end".toList, rfl, by decide⟩
      simpa [Part.Borders] using hborder)
    (by decide) (by decide) _ hbuilder' _
    (by
      intro name value hvalue
      rw [Params.lookup_cons, Params.lookup_cons] at hvalue
      split at hvalue
      · next hname =>
        cases hvalue
        exact ⟨tag, by simp, hname.symm, ["a", "b-x"], by simp, rfl⟩
      split at hvalue
      · next hname =>
        cases hvalue
        exact ⟨year, by simp, hname.symm, "2024", rfl⟩
      · simp at hvalue) _ hbuild'
  exact ⟨builder, matcher, found, hbuilder', hbuild', hmatcher, hrun, hsame _, hsame _⟩

end RoutePattern
