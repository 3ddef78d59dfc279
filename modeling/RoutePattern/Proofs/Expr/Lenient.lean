import RoutePattern.Proofs.Expr.Easing
import RoutePattern.Proofs.Expr.Leftmost
import RoutePattern.Proofs.Expr.Ordering

/-!
# Searches that find as much

Before a search tries a place it looks at the width of an expression and at what that begins with. The
last expressions of a row do not matter for either if they are `Silent`. So a search with other last
expressions that accept more also finds something (`Eases.search`), and one without the anchor in
front finds the very same match (`search_unanchored`), unless the set it begins with misleads it.
-/

namespace RoutePattern

namespace Expr

variable {first second other : List Expr}

/-! ## What a search looks at -/

/-- Expressions in a row that tell a search nothing: they begin with no test, and they may match
without reading anything. -/
structure Silent (items : List Expr) : Prop where
  code : (ofList items).opensWithCode = false
  set : ∀ asciiOnly, (ofList items).openingSet? asciiOnly = none
  choice : (ofList items).opensWithChoice = false
  width : (ofList items).width.least = 0

/-- Conditions on the place, look-aheads and optional expressions tell a search nothing. -/
theorem silent_of_forall {items : List Expr} (h : ∀ e ∈ items, (∃ place, e = .anchor place) ∨
    (∃ body, e = .ahead true body) ∨ ∃ body, e = .loop .greedy 0 (some 1) body) : Silent items := by
  induction items with
  | nil => exact ⟨rfl, fun _ => rfl, rfl, rfl⟩
  | cons e rest ih =>
      obtain ⟨he, hrest⟩ := List.forall_mem_cons.mp h
      have hempty : e.width.least = 0 := by
        rcases he with ⟨_, rfl⟩ | ⟨_, rfl⟩ | ⟨_, rfl⟩
        · rfl
        · rfl
        · show min (_ * 0) _ = 0
          simp
      have hwidth : (ofList (e :: rest)).width.least = 0 := by
        cases rest with
        | nil => exact hempty
        | cons next rest =>
            show min (e.width.least + (ofList (next :: rest)).width.least) _ = 0
            rw [hempty, (ih hrest).width]
            rfl
      rcases he with ⟨_, rfl⟩ | ⟨_, rfl⟩ | ⟨_, rfl⟩ <;>
        exact ⟨by cases rest <;> rfl, fun _ => by cases rest <;> rfl, by cases rest <;> rfl, hwidth⟩

/-- What decides about a row by its first expression that is not passed over does not depend on the
end of the row, if it decides nothing about that. -/
theorem opener_append {α : Type} {opener : Expr → α} {passed : Expr → Prop} [DecidablePred passed]
    (hcons : ∀ e rest, opener (ofList (e :: rest)) =
      if passed e then opener (ofList rest) else opener e)
    (hsecond : opener (ofList second) = opener empty) (first : List Expr) :
    opener (ofList (first ++ second)) = opener (ofList first) := by
  induction first with
  | nil => exact hsecond
  | cons e rest ih => rw [List.cons_append, hcons, hcons, ih]

/-- Whether there is nothing to an expression but perhaps a group. -/
def isBlank : Expr → Bool
  | empty | group _ empty => true
  | _ => false

/-- A row begins with a code point if its first expression does, unless there is nothing to that. -/
theorem opensWithCode_ofList_cons (e : Expr) (rest : List Expr) :
    (ofList (e :: rest)).opensWithCode =
      if e.isBlank then (ofList rest).opensWithCode else e.opensWithCode := by
  split
  · next hblank =>
    unfold isBlank at hblank
    split at hblank
    · cases rest <;> rfl
    · cases rest <;> rfl
    · simp at hblank
  · next hblank =>
    cases rest with
    | nil => rfl
    | cons next rest =>
        rw [ofList, opensWithCode]
        · rintro rfl
          exact hblank rfl
        · rintro number rfl
          exact hblank rfl
        · simp

/-- A row begins with the set that its first expression begins with, unless that is empty. -/
theorem openingSet?_ofList_cons (asciiOnly : Bool) (e : Expr) (rest : List Expr) :
    (ofList (e :: rest)).openingSet? asciiOnly =
      if e = empty then (ofList rest).openingSet? asciiOnly else e.openingSet? asciiOnly := by
  split
  · next hempty =>
    subst hempty
    cases rest <;> rfl
  · next hempty =>
    cases rest with
    | nil => rfl
    | cons next rest =>
        rw [ofList, openingSet?]
        · exact hempty
        · simp

/-- A row begins with a choice if its first expression does, unless that is empty. -/
theorem opensWithChoice_ofList_cons (e : Expr) (rest : List Expr) :
    (ofList (e :: rest)).opensWithChoice =
      if e = empty then (ofList rest).opensWithChoice else e.opensWithChoice := by
  split
  · next hempty =>
    subst hempty
    cases rest <;> rfl
  · next hempty =>
    cases rest with
    | nil => rfl
    | cons next rest =>
        rw [ofList, opensWithChoice]
        · exact hempty
        · simp

namespace Silent

/-- The least length of a row within the limit does not depend on a silent end. -/
theorem width_append (h : Silent second) {low high : Nat}
    (hnumbered : (ofList first).Numbered false low high) :
    (ofList (first ++ second)).width.least = (ofList first).width.least := by
  induction first generalizing low with
  | nil => exact h.width
  | cons e rest ih =>
      have hlimit := hnumbered.width_lt
      obtain ⟨middle, _, hrest⟩ := numbered_ofList_cons.mp hnumbered
      have hsame := ih hrest
      cases rest with
      | nil =>
          cases second with
          | nil => rfl
          | cons other second =>
              have hlimit : e.width.least < countLimit := hlimit
              show min (e.width.least + (ofList (other :: second)).width.least) (countLimit - 1) =
                e.width.least
              rw [h.width]
              omega
      | cons next rest =>
          show min (e.width.least + (ofList (next :: rest ++ second)).width.least) _ =
            min (e.width.least + (ofList (next :: rest)).width.least) _
          rw [hsame]

/-- The test in front of a search does not depend on a silent end. -/
theorem searchTest?_append (h : Silent second) {low high : Nat}
    (hnumbered : (ofList first).Numbered false low high) (asciiOnly : Bool) :
    (ofList (first ++ second)).searchTest? asciiOnly = (ofList first).searchTest? asciiOnly := by
  have hset := opener_append (openingSet?_ofList_cons asciiOnly) (h.set asciiOnly) first
  unfold searchTest?
  rw [h.width_append hnumbered, hset]

/-- The room that a search needs does not depend on a silent end. -/
theorem roomNeeded_append (h : Silent second) {low high : Nat}
    (hnumbered : (ofList first).Numbered false low high) :
    (ofList (first ++ second)).roomNeeded = (ofList first).roomNeeded := by
  have hcode := opener_append opensWithCode_ofList_cons h.code first
  have hset := opener_append (openingSet?_ofList_cons false) (h.set false) first
  have hchoice := opener_append opensWithChoice_ofList_cons h.choice first
  unfold roomNeeded
  rw [h.width_append hnumbered, hcode, hset, hchoice]

end Silent

/-! ## Another end -/

/-- From every place on a row of expressions is found where one with a stricter end is. -/
theorem Eases.findFrom (h : Eases second other) {test : Option CharTest} {room count : Nat}
    {p : Place} {found : Found}
    (hfind : (ofList (first ++ second)).findFrom test room count p = some found) :
    ∃ found, (ofList (first ++ other)).findFrom test room count p = some found := by
  -- An attempt with the other end succeeds where the first one does.
  have hattempt {p : Place} {memory : Memory} (hfound : (if test.all fun test =>
      (p.step test).isSome then (ofList (first ++ second)).run false none p { cursor := p }
        Matching.accept else .failed { cursor := p }) = Attempt.found memory) :
      (if test.all fun test => (p.step test).isSome then
        (ofList (first ++ other)).run false none p { cursor := p } Matching.accept
          else .failed { cursor := p } : Attempt).Succeeds := by
    split at hfound
    · next htest =>
      rw [if_pos htest]
      exact h.succeeds (by rw [hfound]; trivial)
    · simp at hfound
  induction count generalizing p with
  | zero =>
      unfold Expr.findFrom at hfind ⊢
      dsimp only at hfind ⊢
      split at hfind
      · next memory hfound =>
        have hsucceeds := hattempt hfound
        split
        · exact ⟨_, rfl⟩
        · next later hfailed =>
          rw [hfailed] at hsucceeds
          exact hsucceeds.elim
      · simp at hfind
  | succ count ih =>
      unfold Expr.findFrom at hfind ⊢
      dsimp only at hfind ⊢
      split
      · exact ⟨_, rfl⟩
      · next later hfailed =>
        split at hfind
        · next memory hfound =>
          have hsucceeds := hattempt hfound
          rw [hfailed] at hsucceeds
          exact hsucceeds.elim
        · split at hfind
          · next rest c next hcount hnext =>
            cases hcount
            split at hfind
            · next hroom =>
              rw [if_pos hroom]
              exact ih hfind
            · simp at hfind
          · simp at hfind

end Expr

open RoutePattern.Expr

namespace Expression

variable {expression expression' : Expression} {text : String} {found : Found}

/-- What is found from the beginning of a text that is long enough is the answer of a search, unless
a group of it is crossed. -/
theorem search_of_findFrom (hlong : expression.expr.width.least ≤ text.length)
    (h : expression.expr.findFrom (expression.expr.searchTest? expression.flags.asciiOnly)
      expression.expr.roomNeeded text.length (.start text.toList) = some found) :
    expression.search text = .ok (some found) ∨ expression.search text = .error .crossedGroup := by
  have hleft : (Place.start text.toList).left = text.length := String.length_toList
  unfold search
  dsimp only
  rw [if_pos hlong, hleft, h]
  dsimp only
  split
  · exact .inr rfl
  · exact .inl rfl

/-- A search finds something where one with a stricter end does, unless a group of what it finds is
crossed. -/
theorem search_of_eases {first second other : List Expr} (h : Eases second other)
    (hsecond : Silent second) (hother : Silent other)
    (hexpr : expression.expr = .ofList (first ++ second))
    (hexpr' : expression'.expr = .ofList (first ++ other))
    (hflags : expression'.flags = expression.flags) {high : Nat}
    (hnumbered : expression.expr.Numbered false 0 high)
    (hsearch : expression.search text = .ok (some found)) :
    (∃ found, expression'.search text = .ok (some found)) ∨
      expression'.search text = .error .crossedGroup := by
  rw [hexpr] at hnumbered
  obtain ⟨middle, hfirst, _⟩ := numbered_ofList_append.mp hnumbered
  obtain ⟨hlong, hfind, _⟩ := search_eq_some_iff.mp hsearch
  rw [hexpr, hsecond.width_append hfirst] at hlong
  rw [hexpr, hsecond.searchTest?_append hfirst, hsecond.roomNeeded_append hfirst] at hfind
  obtain ⟨found', hfind'⟩ := h.findFrom hfind
  have hanswer := @search_of_findFrom expression' text found'
    (by rwa [hexpr', hother.width_append hfirst])
    (by rwa [hexpr', hflags, hother.searchTest?_append hfirst, hother.roomNeeded_append hfirst])
  rcases hanswer with hanswer | hanswer
  · exact .inl ⟨found', hanswer⟩
  · exact .inr hanswer

/-! ## Another beginning -/

/-- Without the anchor in front of it a search finds the same match, unless the set that the
expression begins with misleads it. -/
theorem search_unanchored {items : List Expr}
    (hexpr : expression.expr = .ofList (.anchor .textStart :: items))
    (hexpr' : expression'.expr = .ofList items) (hscreened : (ofList items).Screened)
    (hflags : expression'.flags = expression.flags) (hascii : expression.flags.asciiOnly = false)
    (hgroups : expression'.groups = expression.groups) {high : Nat}
    (hnumbered : expression'.expr.Numbered false 0 high)
    (hsearch : expression.search text = .ok (some found)) :
    expression'.search text = .ok (some found) := by
  obtain ⟨hlong, hfind, hcrossed⟩ := search_eq_some_iff.mp hsearch
  obtain ⟨s, hwhole, hindex, htext, hrun⟩ := run_of_findFrom hfind
  -- The anchor holds only at the beginning of the text.
  rw [hexpr, run_ofList_cons, run] at hrun
  have hstart : s = .start text.toList := by
    split at hrun
    · next hholds =>
      rw [Anchor.holds, List.isEmpty_iff] at hholds
      refine Place.ext_offset hwhole ?_
      rw [s.offset_eq, hholds]
      rfl
    · simp at hrun
  subst hstart
  rw [if_pos (show Anchor.textStart.holds (.start text.toList) = true from rfl)] at hrun
  have htest : (expression'.expr.searchTest? expression'.flags.asciiOnly).all fun test =>
      ((Place.start text.toList).step test).isSome := by
    rw [hexpr', hflags, hascii]
    by_contra htest
    have hnone := hit?_of_left_out hscreened htest
    rw [hit?, hrun] at hnone
    simp [Attempt.found?] at hnone
  have hfound : found = ⟨(Place.start text.toList).offset,
      found.memory.cursor.textSince (.start text.toList), found.memory⟩ := by
    rw [← hindex, ← htext]
  refine search_eq_some_iff.mpr ⟨?_, ?_, ?_⟩
  · refine Nat.le_trans (Nat.le_of_eq ?_) hlong
    have hlimit := hnumbered.width_lt
    rw [hexpr'] at hlimit ⊢
    rw [hexpr]
    cases items with
    | nil => rfl
    | cons e rest =>
        show (ofList (e :: rest)).width.least =
          min (0 + (ofList (e :: rest)).width.least) (countLimit - 1)
        omega
  · rw [hexpr'] at htest ⊢
    cases text.length <;>
      · unfold findFrom
        dsimp only
        rw [if_pos htest, hrun, hfound]
  · unfold hasCrossedGroup at hcrossed ⊢
    rw [hgroups]
    exact hcrossed

end Expression

end RoutePattern
