import RoutePattern.Proofs.Expr.Easing
import RoutePattern.Proofs.Pattern.Alternative
import RoutePattern.Proofs.Pattern.Ending
import RoutePattern.Proofs.Pattern.Framing

/-!
# Where a match ends

Whatever the keys of a pattern match, the end of its expression passes last, and it passes only to the
end of the text, to one of the further ends, or at a delimiter. `match_ends_at_boundary` is the main
result: where a match has to reach the end it stops at one, and elsewhere it stops at a delimiter,
too, or just behind one.
-/

namespace RoutePattern

open RoutePattern.Expr

variable {options : Options} {parts : List Part} {expression : Expression} {text : String}
  {found : Found}

/-! ## Sets where case matters -/

namespace Options

/-- Where case matters, the test for a delimiter accepts just the delimiters. -/
theorem mem_delimiter_iff (hsensitive : options.sensitive = true) (hdash : options.Dashless)
    (c : Char) : options.delimiterTest.accepts c = true ↔ c ∈ options.delimiter.toList := by
  rw [delimiterTest, fold_of_sensitive hsensitive, getD_readSet (dashAtEnds_of_notMem hdash.1),
    accepts_codes, Bool.false_bne, decide_eq_true_iff]

/-- Where case matters, the tests for the further ends accept just these. -/
theorem mem_endsWith_of_accepts (hsensitive : options.sensitive = true) (hdash : options.Dashless)
    {test : CharTest} (htest : test ∈ options.endTests) {c : Char} (h : test.accepts c = true) :
    c ∈ options.endsWith.toList := by
  unfold endTests at htest
  split at htest
  · simp at htest
  · rwa [List.mem_singleton.mp htest, endTest, fold_of_sensitive hsensitive,
      getD_readSet (dashAtEnds_of_notMem hdash.2), accepts_codes, Bool.false_bne,
      decide_eq_true_iff] at h

end Options

/-! ## Stops -/

/-- An offset is the end of a text, or one of some characters stands there. -/
def StopsBefore (chars text : List Char) (offset : Nat) : Prop :=
  offset = text.length ∨ ∃ c ∈ chars, text[offset]? = some c

/-- One of some characters stands in front of an offset of a text. -/
def StopsBehind (chars text : List Char) (offset : Nat) : Prop :=
  0 < offset ∧ ∃ c ∈ chars, text[offset - 1]? = some c

namespace Place

variable {p q : Place} {tests : List CharTest} {chars : List Char}

/-- A place where a text ends by some tests stops in front of the characters that they accept. -/
theorem EndsBy.stopsBefore (h : p.EndsBy tests)
    (htests : ∀ test ∈ tests, ∀ c, test.accepts c = true → c ∈ chars) :
    StopsBefore chars p.whole p.offset := by
  have hoffset := p.offset_eq
  rcases h with hafter | ⟨test, htest, hstep⟩
  · exact .inl (by simp [whole, hafter, hoffset])
  · obtain ⟨q, hq⟩ := Option.isSome_iff_exists.mp hstep
    obtain ⟨c, haccepts, hreaches⟩ := step_eq_some_iff.mp hq
    refine .inr ⟨c, htests test htest c haccepts, ?_⟩
    rw [whole, List.getElem?_append_right (by simp [hoffset]), hreaches.after]
    simp [hoffset]

/-- A place behind a character stops behind it. -/
theorem Reaches.stopsBehind {c : Char} (h : p.Reaches q [c]) (hc : c ∈ chars) :
    StopsBehind chars q.whole q.offset := by
  have hoffset : q.offset = p.offset + 1 := h.offset
  have hlength : p.before.reverse.length = p.offset := by rw [List.length_reverse, p.offset_eq]
  refine ⟨by omega, c, hc, ?_⟩
  have hwhole : q.whole = p.before.reverse ++ (c :: q.after) := by
    rw [h.whole, Place.whole, h.after]
    rfl
  rw [hwhole, hoffset, Nat.add_sub_cancel, List.getElem?_append_right (by omega), hlength,
    Nat.sub_self]
  rfl

end Place

/-- Where a row of expressions is found, its last expressions have passed to the end of the match. -/
theorem Expression.passes_of_search {first second : List Expr}
    (hexpr : expression.expr = .ofList (first ++ second)) (hsecond : ∀ e ∈ second, e.Groupfree)
    (h : expression.search text = .ok (some found)) :
    found.memory.cursor.whole = text.toList ∧
      ∃ q M N, (ofList second).Passes q M found.memory.cursor N := by
  obtain ⟨_, hfind, _⟩ := search_eq_some_iff.mp h
  obtain ⟨s, hwhole, _, _, hrun⟩ := run_of_findFrom hfind
  rw [hexpr] at hrun
  obtain ⟨q, M, N, hq, hpasses⟩ := passes_of_run_append (groupfree_ofList.mpr hsecond) hrun
  exact ⟨hpasses.whole.trans (hq.trans hwhole), q, M, N, hpasses⟩

/-! ## The end of a match -/

/-- The end of a pattern has no groups. -/
theorem groupfree_tailItems (options : Options) (parts : List Part) :
    ∀ e ∈ options.tailItems parts, e.Groupfree :=
  groupfree_ending options parts

/-- A match passes the end of its pattern last. -/
theorem passes_tailItems (hkeys : ∀ key, Part.key key ∈ parts → key.Valid options)
    (hcompile : compileParts options parts = .ok expression)
    (hsearch : expression.search text = .ok (some found)) :
    found.memory.cursor.whole = text.toList ∧
      ∃ q M N, (ofList (options.tailItems parts)).Passes q M found.memory.cursor N := by
  obtain ⟨between, hexpr, _⟩ := (restates_middleText hkeys).framed rfl
    (trails_tailText options parts) (trails_tailText options parts) (toList_partsSource options parts)
    (toList_partsSource options parts) hcompile hcompile
  exact Expression.passes_of_search hexpr (groupfree_tailItems options parts) hsearch

/-- Parts that end in a delimiter end in a text of which that is the last character. -/
theorem exists_of_endsDelimited (h : endsDelimited options parts = true) (hparts : parts ≠ []) :
    ∃ front text chars c, parts = front ++ [.text text] ∧ text.toList = chars ++ [c] ∧
      c ∈ options.delimiter.toList := by
  unfold endsDelimited at h
  split at h
  · next hlast => exact absurd (List.getLast?_eq_none_iff.mp hlast) hparts
  · simp at h
  · next text hlast =>
    obtain ⟨front, rfl⟩ := List.getLast?_eq_some_iff.mp hlast
    split at h
    · simp at h
    · next c hchar =>
      obtain ⟨chars, htext⟩ := List.getLast?_eq_some_iff.mp hchar
      exact ⟨front, text, chars, c, rfl, htext, List.contains_iff_mem.mp h⟩

/-- A match of parts that end in a character passes that character and then the end of its
pattern. -/
theorem passes_lastChar {front : List Part} {last : String} {chars : List Char} {c : Char}
    (hkeys : ∀ key, Part.key key ∈ front ++ [.text last] → key.Valid options)
    (hlast : (options.encode last).toList = chars ++ [c])
    (hcompile : compileParts options (front ++ [.text last]) = .ok expression)
    (hsearch : expression.search text = .ok (some found)) :
    found.memory.cursor.whole = text.toList ∧ ∃ q M N,
      (ofList (literalItems options.flags.fold [c] ++ options.tailItems (front ++ [.text last]))).Passes
        q M found.memory.cursor N := by
  have hmiddle := (restates_middleText fun key hkey => hkeys key (List.mem_append_left _ hkey)).append
    (@Restates.literal options.flags rfl chars)
  have htail := (@Stretch.literal options.flags rfl [c]).trails.append
    (trails_tailText options (front ++ [.text last]))
  have hsource : (partsSource options (front ++ [.text last])).toList = options.headText ++
      (options.middleText front ++ escapeChars chars) ++
        (escapeChars [c] ++ options.tailText (front ++ [.text last])) := by
    have hescape : escapeChars (chars ++ [c]) = escapeChars chars ++ escapeChars [c] :=
      List.flatMap_append
    rw [toList_partsSource]
    simp [Options.middleText, Part.source, toList_escape, hlast, hescape]
  obtain ⟨between, hexpr, _⟩ := hmiddle.framed rfl htail htail hsource hsource hcompile hcompile
  refine Expression.passes_of_search hexpr ?_ hsearch
  refine List.forall_mem_append.mpr ⟨fun e he => ?_, groupfree_tailItems options _⟩
  rw [literalItems, List.mem_map] at he
  obtain ⟨d, _, rfl⟩ := he
  exact groupfree_char _

/-- A match ends at a boundary. Where it has to reach the end, it stops at the end of the text or in
front of one of the further ends. Elsewhere it stops there, in front of a delimiter or behind one. -/
theorem match_ends_at_boundary (hsensitive : options.sensitive = true)
    (hencode : ∀ text, options.encode text = text) (hdash : options.Dashless)
    (hkeys : ∀ key, Part.key key ∈ parts → key.Valid options)
    (hcompile : compileParts options parts = .ok expression)
    (hsearch : expression.search text = .ok (some found)) :
    (options.anchorEnd = true →
      StopsBefore options.endsWith.toList text.toList found.memory.cursor.offset) ∧
    (options.anchorEnd = false → parts ≠ [] →
      StopsBefore (options.delimiter.toList ++ options.endsWith.toList) text.toList
          found.memory.cursor.offset ∨
        StopsBehind options.delimiter.toList text.toList found.memory.cursor.offset) := by
  obtain ⟨hwhole, q, M, N, htail⟩ := passes_tailItems hkeys hcompile hsearch
  rw [← hwhole]
  have hends : ∀ test ∈ options.endTests, ∀ c, test.accepts c = true →
      c ∈ options.endsWith.toList :=
    fun test htest c => Options.mem_endsWith_of_accepts hsensitive hdash htest
  constructor
  · intro hend
    rw [Options.tailItems, if_pos hend] at htail
    obtain ⟨_, _, hstops⟩ := passes_closedItems.mp htail
    exact hstops.stopsBefore hends
  · intro hend hparts
    cases hdelimited : endsDelimited options parts with
    | false =>
        -- The look-ahead behind the parts has passed.
        rw [Options.tailItems, if_neg (by simp [hend]), hdelimited] at htail
        obtain ⟨_, _, hstops⟩ := passes_openItems.mp htail
        refine .inl ((hstops.resolve_left (by simp)).stopsBefore ?_)
        intro test htest c haccepts
        rcases List.mem_cons.mp htest with rfl | htest
        · exact List.mem_append_left _ ((Options.mem_delimiter_iff hsensitive hdash c).mp haccepts)
        · exact List.mem_append_right _ (hends test htest c haccepts)
    | true =>
        -- There is no look-ahead, but the last character that has been read is a delimiter.
        obtain ⟨front, last, chars, c, rfl, hlast, hc⟩ := exists_of_endsDelimited hdelimited hparts
        obtain ⟨_, q, M, N, hpasses⟩ := passes_lastChar hkeys (by rw [hencode, hlast]) hcompile
          hsearch
        obtain ⟨r, L, hchar, htail⟩ := passes_ofList_append.mp hpasses
        rw [Options.tailItems, if_neg (by simp [hend])] at htail
        obtain ⟨_, hstop, _⟩ := passes_openItems.mp htail
        refine .inr ?_
        rcases hstop with heq | ⟨_, hstep, _⟩
        · obtain ⟨_, spelled, hreaches, hsame⟩ := passes_literalItems.mp hchar
          rw [fold_of_sensitive hsensitive] at hsame
          rw [sameText_keep hsame, ← heq] at hreaches
          exact hreaches.stopsBehind hc
        · obtain ⟨d, haccepts, hreaches⟩ := Place.step_eq_some_iff.mp hstep
          exact hreaches.stopsBehind ((Options.mem_delimiter_iff hsensitive hdash d).mp haccepts)

/-- A repeated key with a possessive and a looking expression: the match does not go on into the
segment behind it. -/
theorem match_ends_at_boundary_repeated :
    let options : Options := { sensitive := true, anchorEnd := false, endsWith := ";" }
    let parts := [.text "/v", .key
      { name := .named "id", before := "/", pattern := "\\d++|(?=b)\\w", modifier := "+" }]
    ∃ expression found, compileParts options parts = .ok expression ∧
      expression.search "/v/11/b/cd" = .ok (some found) ∧
        (StopsBefore "/#?;".toList "/v/11/b/cd".toList found.memory.cursor.offset ∨
          StopsBehind "/#?".toList "/v/11/b/cd".toList found.memory.cursor.offset) := by
  intro options parts
  have hsome : ((compileParts options parts).toOption.bind fun expression =>
      (expression.search "/v/11/b/cd").toOption.join).isSome = true := by
    decide +kernel
  obtain ⟨found, hfound⟩ := Option.isSome_iff_exists.mp hsome
  obtain ⟨expression, hcompile, hsearch⟩ := Option.bind_eq_some_iff.mp hfound
  have hcompile := toOption_eq_some.mp hcompile
  have hsearch := toOption_eq_some.mp (Option.join_eq_some_iff.mp hsearch)
  obtain ⟨_, hopen⟩ := @match_ends_at_boundary options parts expression "/v/11/b/cd" found rfl
    (fun _ => rfl) ⟨by decide, by decide⟩ (by
      simp only [parts, List.mem_cons, reduceCtorEq, Part.key.injEq, List.not_mem_nil, or_false,
        false_or, forall_eq]
      decide +kernel) hcompile hsearch
  have hchars : options.delimiter.toList ++ options.endsWith.toList = "/#?;".toList := by decide
  have hstops := hopen rfl (by simp [parts])
  rw [hchars] at hstops
  exact ⟨expression, found, hcompile, hsearch, hstops⟩

end RoutePattern
