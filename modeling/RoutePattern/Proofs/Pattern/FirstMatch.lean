import RoutePattern.Proofs.Pattern.Division
import RoutePattern.Proofs.Pattern.Leaves
import RoutePattern.Proofs.Pattern.Ready

/-!
# The pattern that matches first

A path that is made of patterns matches a text where one of its patterns does, and it gives the
match of the pattern that matches earliest in the text, the leftmost one if there are several.
`Path.Nested.run_eq_first` is the main result. The groups of the other patterns give no values,
whatever their keys are called: their marks are blank (`Memory.spans_shift`), and blank groups
change nothing (`bindParams_front` and `bindParams_behind`).
-/

namespace RoutePattern

open RoutePattern.Expr

variable {options : Options}

/-! ## The pattern that matches first -/

/-- The expression of a pattern by itself. -/
def alone (options : Options) (parts : List Part) : Expr :=
  ofList (sourceItems options parts 0)

/-- Behind other groups a pattern matches as it does by itself. -/
theorem Blends.hit?_sourceItems {parts : List Part} (h : Blends options parts) (opened : Nat)
    (place : Place) : (ofList (sourceItems options parts opened)).hit? place =
      ((alone options parts).hit? place).map (Memory.shift opened) := by
  rw [sourceItems_eq_shift h.readable.keys, ← shift_ofList, hit?_shift h.searchable.unreferring]
  rfl

/-- None of some patterns matches if none of them does by itself. -/
theorem firstOf?_eq_none {members : List (List Part)}
    (h : ∀ parts ∈ members, Blends options parts) (opened : Nat) (place : Place) :
    firstOf? (memberItems options opened members) place = none ↔
      ∀ parts ∈ members, (alone options parts).hit? place = none := by
  unfold firstOf?
  induction members generalizing opened with
  | nil => simp [memberItems]
  | cons parts rest ih =>
      obtain ⟨hparts, hrest⟩ := List.forall_mem_cons.mp h
      rw [List.forall_mem_cons, ← ih hrest (opened + partsGroups parts), memberItems,
        List.findSome?_cons, hparts.hit?_sourceItems]
      cases (alone options parts).hit? place <;> simp

/-- Where no pattern in front matches, the choice matches as the next one if that does. -/
theorem firstOf?_eq_some {front behind : List (List Part)} {parts : List Part}
    (h : ∀ other ∈ front, Blends options other) (hparts : Blends options parts) {place : Place}
    (hfront : ∀ other ∈ front, (alone options other).hit? place = none) {memory : Memory}
    (hhit : (alone options parts).hit? place = some memory) :
    firstOf? (memberItems options 0 (front ++ parts :: behind)) place =
      some (memory.shift (allGroups front)) := by
  have hnone := (firstOf?_eq_none h 0 place).mpr hfront
  unfold firstOf? at hnone ⊢
  rw [memberItems_append, List.findSome?_append, hnone, memberItems, List.findSome?_cons,
    hparts.hit?_sourceItems, hhit, Nat.zero_add]
  rfl

section

variable {members front behind : List (List Part)} {parts : List Part} {items : Nat → List Expr}
  {text : List Char} {found : Found}

/-- A choice among patterns has no match if none of them has. -/
theorem Merged.firstHit?_eq_none (h : Merged options members items)
    (hmembers : ∀ parts ∈ members, Blends options parts) :
    (ofList (items 0)).firstHit? text = none ↔
      ∀ parts ∈ members, (alone options parts).firstHit? text = none := by
  simp only [firstHit?_eq_none_iff, h.hit, firstOf?_eq_none hmembers]
  exact ⟨fun hall parts hparts place hplace => hall place hplace parts hparts,
    fun hall place hplace parts hparts => hall parts hparts place hplace⟩

/-- A choice among patterns has the first match of the one that matches earliest, the leftmost one
if there are several. Its marks come behind those of the patterns in front. -/
theorem Merged.firstHit?_eq_some (h : Merged options (front ++ parts :: behind) items)
    (hmembers : ∀ other ∈ front ++ parts :: behind, Blends options other)
    (hfound : (alone options parts).firstHit? text = some found)
    (hfront : ∀ other ∈ front, ∀ hit, (alone options other).firstHit? text = some hit →
      found.index < hit.index)
    (hbehind : ∀ other ∈ behind, ∀ hit, (alone options other).firstHit? text = some hit →
      found.index ≤ hit.index) :
    (ofList (items 0)).firstHit? text =
      some { found with memory := found.memory.shift (allGroups front) } := by
  obtain ⟨before, place, after, memory, hsplit, hnone, hhit, rfl⟩ := firstHit?_eq_some_iff.mp hfound
  have hmem {q : Place} (hq : q ∈ before ++ place :: after) :
      q ∈ (Place.start text).onward text.length :=
    hsplit ▸ hq
  have hearlier : ∀ q ∈ before, q.offset < place.offset := by
    have hordered := pairwise_onward text.length (Place.start text)
    rw [hsplit] at hordered
    exact fun q hq => (List.pairwise_append.mp hordered).2.2 q hq place (by simp)
  -- A match from a place in front would be an earlier one.
  have hbefore : ∀ q ∈ before, ∀ other ∈ front ++ parts :: behind,
      (alone options other).hit? q = none := by
    intro q hq other hother
    cases hmatch : (alone options other).hit? q with
    | none => rfl
    | some later =>
        obtain ⟨hit, hfirst, hle⟩ := index_le_of_firstHit? (hmem (by simp [hq])) hmatch
        have hlt := hearlier q hq
        rcases List.mem_append.mp hother with hother | hother
        · have := hfront other hother hit hfirst
          simp only [Found.at] at this
          omega
        rcases List.mem_cons.mp hother with rfl | hother
        · simp [hnone q hq] at hmatch
        · have := hbehind other hother hit hfirst
          simp only [Found.at] at this
          omega
  have hhere : ∀ other ∈ front, (alone options other).hit? place = none := by
    intro other hother
    cases hmatch : (alone options other).hit? place with
    | none => rfl
    | some later =>
        obtain ⟨hit, hfirst, hle⟩ := index_le_of_firstHit? (hmem (by simp)) hmatch
        have := hfront other hother hit hfirst
        simp only [Found.at] at this
        omega
  refine firstHit?_eq_some_iff.mpr ⟨before, place, after, memory.shift (allGroups front), hsplit,
    fun q hq => ?_, ?_, rfl⟩
  · rw [h.hit]
    exact (firstOf?_eq_none hmembers 0 q).mpr (hbefore q hq)
  · rw [h.hit]
    exact firstOf?_eq_some (fun other hother => hmembers other (by simp [hother]))
      (hmembers parts (by simp)) hhere hhit

end

/-! ## The values of the keys -/

/-- Groups that took no part give no values. -/
theorem bindParams_front (params : Params) (front keys : List Key)
    (groups : List (Option String)) :
    bindParams options params (front ++ keys) (List.replicate front.length none ++ groups) =
      bindParams options params keys groups := by
  induction front with
  | nil => rfl
  | cons key rest ih => simpa [List.replicate_succ, bindParams] using ih

/-- Groups that took no part give no values behind others, either. -/
theorem bindParams_behind (params : Params) {keys : List Key} {groups : List (Option String)}
    (h : keys.length = groups.length) (behind : List Key) :
    bindParams options params (keys ++ behind)
        (groups ++ List.replicate behind.length none) =
      bindParams options params keys groups := by
  induction keys generalizing groups params with
  | nil =>
      cases groups with
      | nil =>
          have hnone := @bindParams_front options params behind [] []
          rwa [List.append_nil, List.append_nil] at hnone
      | cons => simp at h
  | cons key rest ih =>
      cases groups with
      | nil => simp at h
      | cons group groups =>
          have hlength : rest.length = groups.length := by simpa using h
          cases group with
          | none => simpa [bindParams] using ih params hlength
          | some captured =>
              simp only [List.cons_append, bindParams]
              exact bind_congr fun value => ih _ hlength

/-- The texts of the groups lie between their marks. -/
theorem groupTexts_eq_map_spans (expression : Expression) (found : Found) :
    expression.groupTexts found = (found.memory.spans expression.groups).map
      (Option.map fun span => String.ofList (span.2.textSince span.1)) := by
  rw [Expression.groupTexts, Memory.spans, List.map_map]
  refine List.map_congr_left fun index _ => ?_
  rw [Memory.groupText?, Option.map_map]
  rfl

/-- Whether groups are crossed shows in their marks. -/
theorem hasCrossedGroup_eq_any_spans (expression : Expression) (memory : Memory) :
    expression.hasCrossedGroup memory = (memory.spans expression.groups).any
      (·.any fun span => span.2.offset < span.1.offset) := by
  rw [Expression.hasCrossedGroup, Memory.spans, List.any_map]
  rfl

/-- The matcher of parts. -/
def partsMatcher (options : Options) (parts : List Part) : Matcher :=
  ⟨⟨partsSource options parts, options.flags, alone options parts, partsGroups parts⟩,
    capturingKeys parts, options⟩

/-- A match of a pattern has no more marks than its groups. -/
theorem Blends.length_marks_le {parts : List Part} (h : Blends options parts) {text : List Char}
    {found : Found} (hfound : (alone options parts).firstHit? text = some found) :
    found.memory.marks.length ≤ 2 * partsGroups parts := by
  obtain ⟨_, place, _, memory, _, _, hhit, rfl⟩ := firstHit?_eq_some_iff.mp hfound
  have hfits := fits_sourceItems h.readable.keys
  unfold hit? at hhit
  cases hrun : (alone options parts).run false none place { cursor := place } Matching.accept with
  | failed later =>
      rw [hrun] at hhit
      simp [Attempt.found?] at hhit
  | found later =>
      rw [hrun] at hhit
      cases hhit
      exact (run_accept hfits hrun).length_le hfits (Nat.zero_le _)

/-! ## Running matchers -/

/-- What a matcher makes of the first match of its expression. -/
def Matcher.answer (matcher : Matcher) : Option Found → Except MatchFault (Option Match)
  | none => .ok none
  | some found =>
      if matcher.expression.hasCrossedGroup found.memory then .error (.search .crossedGroup)
      else do
        let params ← (bindParams matcher.options [] matcher.keys
          (matcher.expression.groupTexts found)).mapError .decoding
        return some ⟨String.ofList found.text, found.index, params⟩

/-- A matcher gives what it makes of the first match of its expression. -/
theorem Matcher.run_eq_answer {matcher : Matcher} (h : matcher.expression.expr.Searchable)
    (hflags : matcher.expression.flags.asciiOnly = false) (text : String) :
    matcher.run text = matcher.answer (matcher.expression.expr.firstHit? text.toList) := by
  unfold Matcher.run
  rw [search_eq h hflags]
  cases matcher.expression.expr.firstHit? text.toList with
  | none => rfl
  | some found =>
      dsimp only [answer]
      split <;> rfl

/-- In a choice among patterns a match of one of them is what that pattern makes of it. -/
theorem Matcher.answer_shift {front behind : List (List Part)} {parts : List Part}
    {expression : Expression} {found : Found}
    (hgroups : expression.groups =
      ((front ++ parts :: behind).flatMap capturingKeys).length)
    (hmarks : found.memory.marks.length ≤ 2 * partsGroups parts) :
    Matcher.answer ⟨expression, (front ++ parts :: behind).flatMap capturingKeys, options⟩
        (some { found with memory := found.memory.shift (allGroups front) }) =
      (partsMatcher options parts).answer (some found) := by
  have hspans : (found.memory.shift (allGroups front)).spans expression.groups =
      List.replicate (front.flatMap capturingKeys).length none ++
        found.memory.spans (partsGroups parts) ++
          List.replicate (behind.flatMap capturingKeys).length none := by
    rw [hgroups, List.flatMap_append, List.flatMap_cons, List.length_append, List.length_append,
      ← Nat.add_assoc, ← partsGroups_eq, ← allGroups_eq, ← allGroups_eq,
      Memory.spans_shift hmarks]
  have hcrossed : expression.hasCrossedGroup (found.memory.shift (allGroups front)) =
      (partsMatcher options parts).expression.hasCrossedGroup found.memory := by
    rw [hasCrossedGroup_eq_any_spans, hasCrossedGroup_eq_any_spans, hspans]
    simp [partsMatcher]
  have hbind : bindParams options [] ((front ++ parts :: behind).flatMap capturingKeys)
      (expression.groupTexts { found with memory := found.memory.shift (allGroups front) }) =
        bindParams options [] (capturingKeys parts)
          ((partsMatcher options parts).expression.groupTexts found) := by
    have hlength : (capturingKeys parts).length =
        ((partsMatcher options parts).expression.groupTexts found).length := by
      simp [groupTexts_eq_map_spans, Memory.spans, partsMatcher, partsGroups_eq]
    rw [groupTexts_eq_map_spans, hspans, List.map_append, List.map_append, List.map_replicate,
      List.map_replicate, List.flatMap_append, List.flatMap_cons, List.append_assoc,
      Option.map_none, bindParams_front]
    rw [groupTexts_eq_map_spans] at hlength ⊢
    exact bindParams_behind [] hlength _
  unfold answer
  dsimp only
  rw [hcrossed, hbind]
  rfl

/-! ## What is asked of the patterns -/

/-- The test that an expression ends in, if the last thing in it is a single test. -/
def Expr.last? : Expr → Option CharTest
  | char test => some test
  | seq _ second => second.last?
  | _ => none

/-- A row of expressions ends in the test that its last expression is. -/
theorem last?_ofList {items : List Expr} {test : CharTest}
    (h : items.getLast? = some (.char test)) : (ofList items).last? = some test := by
  fun_induction ofList items with
  | case1 => simp at h
  | case2 e =>
      obtain rfl : e = .char test := by simpa using h
      rfl
  | case3 e rest hne ih =>
      refine ih ?_
      rw [← h]
      cases rest with
      | nil => exact absurd rfl hne
      | cons next rest => rfl

/-- The matcher of a pattern that matches in a choice as it does by itself. Its keys stand alone.
The expression of a key does not look back in a possessive repetition, and if a match may begin
anywhere, it does not begin with the complement of a class limited to ASCII. If the pattern ends in
a single character, that is not an upper-case letter beyond the basic plane whose case is ignored. -/
structure Matcher.Joinable (matcher : Matcher) : Prop where
  standsAlone : ∀ key ∈ matcher.keys, key.StandsAlone matcher.options
  forward : ∀ key ∈ matcher.keys, ∀ expression,
    Expression.read key.pattern matcher.options.flags = .ok expression → expression.expr.Forward
  screened : matcher.options.anchorStart = true ∨ ∀ key ∈ matcher.keys, ∀ expression,
    Expression.read key.pattern matcher.options.flags = .ok expression → expression.expr.Screened
  settled : ∀ code fold, matcher.expression.expr.last? = some (.literal code false fold) →
    CharTest.Settled fold code

/-- A pattern whose matcher may be joined with others may be put together with others. -/
theorem Matcher.Joinable.blends {source : String} {leaf : Matcher} (h : leaf.Joinable)
    (hleaf : Matcher.ofPath options (.pattern source) = .ok leaf) :
    SourceBlends options source ∧ leaf = partsMatcher options (partsOf options source) := by
  cases hparse : parse options source with
  | error error =>
      unfold Matcher.ofPath at hleaf
      simp [Path.compile_pattern_error hparse] at hleaf
  | ok parts =>
      have hparts : partsOf options source = parts := by
        rw [partsOf, hparse]
        rfl
      obtain ⟨_, _, rfl⟩ := Matcher.ofPath_pattern hparse hleaf
      have hmem {key : Key} (hkey : Part.key key ∈ parts) (hcaptures : key.captures = true) :
          key ∈ capturingKeys parts :=
        mem_capturingKeys.mpr ⟨hkey, hcaptures⟩
      obtain ⟨hreadable, heq⟩ := Matcher.ofPath_readable hparse
        (fun key hkey hcaptures => h.standsAlone key (hmem hkey hcaptures)) hleaf
      have hread {key : Key} (hkey : Part.key key ∈ parts) (hcaptures : key.captures = true) :
          Expression.read key.pattern options.flags = .ok ⟨key.pattern, options.flags,
            ofList (readItems options.flags key.pattern), 0⟩ :=
        ((hreadable.keys key hkey).2 hcaptures).read_eq
      rw [SourceBlends, hparts]
      refine ⟨⟨hparse, hreadable, fun key hkey hcaptures => ?_, ?_, fun code hlast => ?_⟩, heq⟩
      · exact forward_ofList.mp (h.forward key (hmem hkey hcaptures) _ (hread hkey hcaptures))
      · refine h.screened.imp_right fun hkeys key hkey hcaptures => ?_
        exact hkeys key (hmem hkey hcaptures) _ (hread hkey hcaptures)
      · refine h.settled code _ ?_
        rw [heq]
        exact last?_ofList hlast

/-! ## The matcher that matches first -/

namespace Matcher

/-- Where the first match of a matcher begins in a text, if there is one. -/
def begins? (matcher : Matcher) (text : String) : Option Nat :=
  (matcher.expression.expr.firstHit? text.toList).map Found.index

/-- A matcher out of several finds its match earliest in a text. Those in front of it find theirs
later, if they do, and those behind it do not find theirs earlier. -/
def IsFirst (matchers : List Matcher) (text : String) (matcher : Matcher) : Prop :=
  ∃ front behind index, matchers = front ++ matcher :: behind ∧
    matcher.begins? text = some index ∧
    (∀ other ∈ front, ∀ n, other.begins? text = some n → index < n) ∧
    ∀ other ∈ behind, ∀ n, other.begins? text = some n → index ≤ n

/-- If any matcher finds a match, there is one that finds it earliest. -/
theorem exists_isFirst {matchers : List Matcher} {text : String}
    (h : ∃ matcher ∈ matchers, matcher.begins? text ≠ none) :
    ∃ matcher, IsFirst matchers text matcher := by
  induction matchers with
  | nil => simp at h
  | cons head rest ih =>
      by_cases hrest : ∃ matcher ∈ rest, matcher.begins? text ≠ none
      · obtain ⟨first, front, behind, index, rfl, hindex, hfront, hbehind⟩ := ih hrest
        by_cases hhead : ∃ n, head.begins? text = some n ∧ n ≤ index
        · obtain ⟨n, hn, hle⟩ := hhead
          refine ⟨head, [], _, n, rfl, hn, by simp, fun other hother m hm => ?_⟩
          rcases List.mem_append.mp hother with hother | hother
          · exact Nat.le_trans hle (Nat.le_of_lt (hfront other hother m hm))
          rcases List.mem_cons.mp hother with rfl | hother
          · rw [hindex, Option.some.injEq] at hm
            exact hm ▸ hle
          · exact Nat.le_trans hle (hbehind other hother m hm)
        · refine ⟨first, head :: front, behind, index, rfl, hindex, ?_, hbehind⟩
          refine List.forall_mem_cons.mpr ⟨fun n hn => ?_, hfront⟩
          exact Nat.lt_of_not_le fun hle => hhead ⟨n, hn, hle⟩
      · simp only [not_exists, not_and, not_not] at hrest
        obtain ⟨matcher, hmem, hmatcher⟩ := h
        obtain rfl : matcher = head :=
          (List.mem_cons.mp hmem).resolve_right fun hmem => hmatcher (hrest matcher hmem)
        obtain ⟨n, hn⟩ := Option.ne_none_iff_exists'.mp hmatcher
        refine ⟨matcher, [], rest, n, rfl, hn, by simp, fun other hother m hm => ?_⟩
        simp [hrest other hother] at hm

end Matcher

/-! ## Whole paths -/

/-- There is no match if and only if there is nothing to make one of. -/
theorem Matcher.answer_eq_none {matcher : Matcher} {found? : Option Found} :
    matcher.answer found? = .ok none ↔ found? = none := by
  cases found? with
  | none => simp [answer]
  | some found =>
      simp only [answer, reduceCtorEq, iff_false]
      split
      · simp
      · intro h
        obtain ⟨params, _, h⟩ := bind_eq_ok.mp h
        simp [pure, Except.pure] at h

/-- A match begins where it has been found. -/
theorem Matcher.index_of_answer {matcher : Matcher} {found? : Option Found} {result : Match}
    (h : matcher.answer found? = .ok (some result)) :
    found?.map Found.index = some result.index := by
  cases found? with
  | none => simp [answer] at h
  | some found =>
      unfold answer at h
      dsimp only at h
      split at h
      · simp at h
      · obtain ⟨params, _, h⟩ := bind_eq_ok.mp h
        cases h
        rfl

namespace Blends

variable {parts : List Part}

/-- The matcher of a pattern gives what it makes of the first match of its expression. -/
theorem run_eq (h : Blends options parts) (text : String) :
    (partsMatcher options parts).run text =
      (partsMatcher options parts).answer ((alone options parts).firstHit? text.toList) :=
  Matcher.run_eq_answer h.searchable rfl text

/-- A pattern does not match where no match begins. -/
theorem run_eq_none_iff (h : Blends options parts) {text : String} :
    (partsMatcher options parts).run text = .ok none ↔
      (partsMatcher options parts).begins? text = none := by
  rw [h.run_eq, Matcher.answer_eq_none, Matcher.begins?, Option.map_eq_none_iff]
  rfl

/-- A match of a pattern begins where it says. -/
theorem begins?_of_run (h : Blends options parts) {text : String} {result : Match}
    (hrun : (partsMatcher options parts).run text = .ok (some result)) :
    (partsMatcher options parts).begins? text = some result.index := by
  rw [h.run_eq] at hrun
  exact Matcher.index_of_answer hrun

end Blends

namespace Merged

variable {members : List (List Part)} {items : Nat → List Expr} {expression : Expression}
  {keys : List Key}

/-- A search for a choice among patterns ends at its first match. -/
theorem searchable (h : Merged options members items) : (ofList (items 0)).Searchable where
  unreferring := unreferring_ofList.mpr (h.joins 0).unreferring
  forward := forward_ofList.mpr (h.forward 0)
  screened := h.screened 0

/-- The matcher of a choice among patterns gives what it makes of the first match. -/
theorem run_eq (h : Merged options members items)
    (hcompiled : Compiled options expression keys items) (text : String) :
    Matcher.run ⟨expression, keys, options⟩ text =
      Matcher.answer ⟨expression, keys, options⟩ ((ofList (items 0)).firstHit? text.toList) := by
  rw [← hcompiled.expr]
  refine Matcher.run_eq_answer ?_ ?_ text
  · rw [hcompiled.expr]
    exact h.searchable
  · rw [hcompiled.flags]
    rfl

/-- A choice among patterns does not match if none of them does. -/
theorem run_eq_none_iff (h : Merged options members items)
    (hmembers : ∀ parts ∈ members, Blends options parts)
    (hcompiled : Compiled options expression keys items) {text : String} :
    Matcher.run ⟨expression, keys, options⟩ text = .ok none ↔
      ∀ leaf ∈ members.map (partsMatcher options), leaf.run text = .ok none := by
  rw [h.run_eq hcompiled, Matcher.answer_eq_none, h.firstHit?_eq_none hmembers, List.forall_mem_map]
  refine forall₂_congr fun parts hparts => ?_
  rw [(hmembers parts hparts).run_eq, Matcher.answer_eq_none]

/-- A choice among patterns matches as the one that matches first. -/
theorem run_eq_of_isFirst (h : Merged options members items)
    (hmembers : ∀ parts ∈ members, Blends options parts)
    (hcompiled : Compiled options expression (members.flatMap capturingKeys) items)
    {text : String} {leaf : Matcher}
    (hleaf : Matcher.IsFirst (members.map (partsMatcher options)) text leaf) :
    Matcher.run ⟨expression, members.flatMap capturingKeys, options⟩ text = leaf.run text := by
  obtain ⟨front, behind, index, hsplit, hindex, hfront, hbehind⟩ := hleaf
  obtain ⟨before, others, rfl, rfl, hothers⟩ := List.map_eq_append_iff.mp hsplit
  obtain ⟨parts, after, rfl, rfl, rfl⟩ := List.map_eq_cons_iff.mp hothers
  obtain ⟨found, hhit, rfl⟩ := Option.map_eq_some_iff.mp hindex
  have hparts := hmembers parts (by simp)
  have hbegins {other : List Part} {hit : Found}
      (h : (alone options other).firstHit? text.toList = some hit) :
      (partsMatcher options other).begins? text = some hit.index :=
    Option.map_eq_some_iff.mpr ⟨hit, h, rfl⟩
  have hfirst := h.firstHit?_eq_some hmembers hhit
    (fun other hother hit h => hfront _ (List.mem_map_of_mem hother) _ (hbegins h))
    (fun other hother hit h => hbehind _ (List.mem_map_of_mem hother) _ (hbegins h))
  rw [h.run_eq hcompiled, hfirst, hparts.run_eq,
    Matcher.answer_shift hcompiled.groups (hparts.length_marks_le hhit)]
  exact congrArg _ hhit.symm

end Merged

/-- The matchers of patterns that may be joined are those of their parts. -/
theorem blends_of_leaves {sources : List String} {leaves : List Matcher}
    (hleaves : List.Forall₂ (fun source leaf =>
      Matcher.ofPath options (.pattern source) = .ok leaf) sources leaves)
    (hjoin : ∀ leaf ∈ leaves, leaf.Joinable) :
    (∀ source ∈ sources, SourceBlends options source) ∧
      leaves = (sources.map (partsOf options)).map (partsMatcher options) := by
  induction hleaves with
  | nil => simp
  | cons hleaf _ ih =>
      obtain ⟨hfirst, hothers⟩ := List.forall_mem_cons.mp hjoin
      obtain ⟨hsource, rfl⟩ := hfirst.blends hleaf
      obtain ⟨hrest, rfl⟩ := ih hothers
      exact ⟨List.forall_mem_cons.mpr ⟨hsource, hrest⟩, rfl⟩

/-- A path made of patterns matches as the pattern that matches earliest, the leftmost one if there
are several. It does not match if none of the patterns does, and where reading a value fails for
that pattern, it fails for the path. -/
theorem Path.Nested.run_eq_first {path : Path} (hpath : path.Nested) {leaves : List Matcher}
    (hleaves : List.Forall₂ (fun source leaf =>
      Matcher.ofPath options (.pattern source) = .ok leaf) path.sources leaves)
    (hjoin : ∀ leaf ∈ leaves, leaf.Joinable) :
    ∃ matcher, Matcher.ofPath options path = .ok matcher ∧ ∀ text,
      (∀ leaf ∈ leaves, (leaf.run text = .ok none ↔ leaf.begins? text = none) ∧
        ∀ result, leaf.run text = .ok (some result) →
          leaf.begins? text = some result.index) ∧
      (matcher.run text = .ok none ↔ ∀ leaf ∈ leaves, leaf.run text = .ok none) ∧
      ((∃ leaf ∈ leaves, leaf.run text ≠ .ok none) → ∃ leaf, Matcher.IsFirst leaves text leaf) ∧
      ∀ leaf, Matcher.IsFirst leaves text leaf → matcher.run text = leaf.run text := by
  obtain ⟨hblends, rfl⟩ := blends_of_leaves hleaves hjoin
  obtain ⟨expression, items, hcompile, hcompiled, hmerged⟩ := hpath.compiled hblends []
  have hmembers : ∀ parts ∈ path.sources.map (partsOf options), Blends options parts :=
    List.forall_mem_map.mpr fun source hsource => (hblends source hsource).2
  have hmatcher : Matcher.ofPath options path = .ok ⟨expression,
      (path.sources.map (partsOf options)).flatMap capturingKeys, options⟩ :=
    Matcher.ofPath_of_compile hcompile
  refine ⟨_, hmatcher, fun text => ?_⟩
  have hbegins : ∀ leaf ∈ (path.sources.map (partsOf options)).map (partsMatcher options),
      (leaf.run text = .ok none ↔ leaf.begins? text = none) ∧
        ∀ result, leaf.run text = .ok (some result) → leaf.begins? text = some result.index :=
    List.forall_mem_map.mpr fun parts hparts =>
      ⟨(hmembers parts hparts).run_eq_none_iff, fun _ => (hmembers parts hparts).begins?_of_run⟩
  refine ⟨hbegins, hmerged.run_eq_none_iff hmembers hcompiled, ?_,
    fun leaf => hmerged.run_eq_of_isFirst hmembers hcompiled⟩
  rintro ⟨leaf, hmem, hne⟩
  exact Matcher.exists_isFirst ⟨leaf, hmem, mt (hbegins leaf hmem).1.mpr hne⟩

/-- Options under which a match may begin and end anywhere. -/
def anywhere : Options :=
  { anchorStart := false, anchorEnd := false }

/-- A text and a key of digits behind it. -/
def digitsBehind (text name : String) : List Part :=
  [.text text, .key { name := .named name, pattern := "\\d+" }]

/-- A text and a key of digits have a matcher, and it may be joined with others. -/
theorem ofPath_digitsBehind {source text name : String}
    (hparse : parse anywhere source = .ok (digitsBehind text name)) :
    Matcher.ofPath anywhere (.pattern source) =
        .ok (partsMatcher anywhere (digitsBehind text name)) ∧
      ((partsMatcher anywhere (digitsBehind text name)).expression.expr.last? = none →
        (partsMatcher anywhere (digitsBehind text name)).Joinable) := by
  have hread : Expression.read "\\d+" anywhere.flags = .ok ⟨"\\d+", anywhere.flags,
      .loop .greedy 1 none (.char (.set [.cls .digit false false] false .unicode)), 0⟩ := by
    decide +kernel
  have hreadable : SourceReadable anywhere (digitsBehind text name) := by
    refine Options.Dashless.sourceReadable ⟨by decide, by decide⟩ fun key hkey => ?_
    obtain rfl : key = { name := .named name, pattern := "\\d+" } := by
      simpa [digitsBehind] using hkey
    exact ⟨.inl rfl, fun _ => show Embeddable anywhere.flags "\\d+" by decide +kernel⟩
  have hkeys : ∀ key ∈ (partsMatcher anywhere (digitsBehind text name)).keys,
      key.pattern = "\\d+" := by
    simp [partsMatcher, capturingKeys, digitsBehind, Key.captures]
  have hexpression : ∀ key ∈ (partsMatcher anywhere (digitsBehind text name)).keys,
      ∀ expression, Expression.read key.pattern anywhere.flags = .ok expression →
        expression.expr.Forward ∧ expression.expr.Screened := by
    intro key hkey expression hexpression
    rw [hkeys key hkey, hread, Except.ok.injEq] at hexpression
    subst hexpression
    exact ⟨⟨by simp, trivial⟩, trivial⟩
  refine ⟨Matcher.ofPath_eq hparse hreadable, fun hlast => ⟨fun key hkey => ?_, ?_, ?_, ?_⟩⟩
  · exact .inr ⟨_, (hkeys key hkey).symm ▸ hread, rfl⟩
  · exact fun key hkey expression h => (hexpression key hkey expression h).1
  · exact .inr fun key hkey expression h => (hexpression key hkey expression h).2
  · simp [hlast]

/-- Of two patterns that match at the same place the leftmost one gives the match of a path, in
front of one that matches later. -/
theorem Path.Nested.run_eq_first_tied : ∃ matcher,
    Matcher.ofPath anywhere (.anyOf [.pattern "b:n(\\d+)",
      .anyOf [.pattern "a:x(\\d+)", .pattern "a:n(\\d+)"]]) = .ok matcher ∧
    matcher.run "a1/b2" = (partsMatcher anywhere (digitsBehind "a" "x")).run "a1/b2" := by
  obtain ⟨hlater, hlater'⟩ := @ofPath_digitsBehind "b:n(\\d+)" "b" "n"
    (toOption_eq_some.mp (by decide +kernel))
  obtain ⟨hfirst, hfirst'⟩ := @ofPath_digitsBehind "a:x(\\d+)" "a" "x"
    (toOption_eq_some.mp (by decide +kernel))
  obtain ⟨hsecond, hsecond'⟩ := @ofPath_digitsBehind "a:n(\\d+)" "a" "n"
    (toOption_eq_some.mp (by decide +kernel))
  have hnested : Path.Nested (.anyOf [.pattern "b:n(\\d+)",
      .anyOf [.pattern "a:x(\\d+)", .pattern "a:n(\\d+)"]]) := by
    simp [Path.Nested, Path.AllNested]
  obtain ⟨matcher, hmatcher, hrun⟩ := Path.Nested.run_eq_first hnested
    (.cons hlater (.cons hfirst (.cons hsecond .nil))) (by
      simp only [List.forall_mem_cons]
      exact ⟨hlater' (by decide +kernel), hfirst' (by decide +kernel), hsecond' (by decide +kernel),
        by simp⟩)
  refine ⟨matcher, hmatcher, (hrun "a1/b2").2.2.2 _ ?_⟩
  refine ⟨[_], [_], 0, rfl, by decide +kernel, ?_, ?_⟩
  · have hbegins : (partsMatcher anywhere (digitsBehind "b" "n")).begins? "a1/b2" = some 3 := by
      decide +kernel
    simp [hbegins]
  · simp

/-- Options under which a match ends at a letter, or in one. -/
def letterDelimited : Options :=
  { delimiterChars := "x𐐀", strict := true, anchorEnd := false }

/-- The text that a path matches, if the path can be compiled and the text is matched or refused. -/
def Path.matched? (options : Options) (path : Path) (text : String) : Option (Option String) := do
  let matcher ← (Matcher.ofPath options path).toOption
  let result ← (matcher.run text).toOption
  return result.map Match.path

/-- What is asked of the patterns is needed. A search for a single pattern tries no place in front
of a character that the class of all scripts does not hold, and none with too few characters behind
it, but a search for several patterns does. On the other hand a set of letters that ignores case
lacks those beyond the basic plane, where a letter alone is found. -/
theorem Path.choice_differs :
    ((Expression.read "(?a:\\W)" anywhere.flags).toOption.map Expression.groups = some 0 ∧
      Path.matched? anywhere (.pattern "((?a:\\W))") "é" = some none ∧
      Path.matched? anywhere (.pattern "x") "é" = some none ∧
      Path.matched? anywhere (.anyOf [.pattern "((?a:\\W))", .pattern "x"]) "é" =
        some (some "é")) ∧
    ((Expression.read "aa(?:(?<=xa)c)*+aa" {}).toOption.map Expression.groups = some 0 ∧
      Path.matched? {} (.pattern "(aa(?:(?<=xa)c)*+aa)") "aa" = some none ∧
      Path.matched? {} (.pattern "x") "aa" = some none ∧
      Path.matched? {} (.anyOf [.pattern "(aa(?:(?<=xa)c)*+aa)", .pattern "x"]) "aa" =
        some (some "aa")) ∧
    (Path.matched? letterDelimited (.pattern "𐐀") "𐐀" = some (some "𐐀") ∧
      Path.matched? letterDelimited (.pattern "x") "𐐀" = some none ∧
      Path.matched? letterDelimited (.anyOf [.pattern "𐐀", .pattern "x"]) "𐐀" = some none) := by
  decide +kernel

end RoutePattern
