import RoutePattern.Proofs.Expr.Finding
import RoutePattern.Proofs.Expr.Following
import RoutePattern.Proofs.Expr.Opening

/-!
# What a search finds

A match that is found is a passage of the expression from the place where it begins to the one where
it ends, and its marks are those that the passage leaves. `search_eq_some` says so of a search and
`fullMatch_eq_true` of a match of a whole text. A direct expression that leads anywhere from the
beginning of a text is found there if that place is tried (`search_of_tried`), as it is for regular
ones (`search_of_leads`), and if it leads to the end, the text matches as a whole
(`fullMatch_of_leads`).
-/

namespace RoutePattern

namespace Place

/-- The place behind a text lies in front of nothing. -/
theorem Reaches.of_start {text : List Char} {q : Place} (hwhole : q.whole = text) :
    (start text).Reaches q q.before.reverse :=
  ⟨by simp [start], hwhole.symm⟩

/-- What has been read up to a place since the start is all that stands in front of it. -/
theorem textSince_start {text : List Char} {q : Place} (hwhole : q.whole = text) :
    q.textSince (start text) = q.before.reverse :=
  (Reaches.of_start hwhole).textSince

end Place

namespace Expr

variable {e : Expr} {high : Nat}

/-- A first match from a place on is a passage. -/
theorem run_accept (hfits : e.Fits false 0 high) {p : Place} {next : Option CharTest}
    {memory : Memory} (h : e.run false next p { cursor := p } Matching.accept = .found memory) :
    e.Passes p [] memory.cursor memory.marks := by
  have hends := run_follows hfits next p { cursor := p } Matching.accept
    (fun later => e.Passes p [] later.cursor later.marks) rfl rfl (fun _ => Nat.zero_le 0)
    (fun q later hpasses _ _ => hpasses)
  rwa [h] at hends

/-- What is found from a place on is the match from there or from a later place. -/
theorem run_of_findFrom {test : Option CharTest} {room count : Nat} {p : Place} {found : Found}
    (h : e.findFrom test room count p = some found) :
    ∃ s, s.whole = p.whole ∧ found.index = s.offset ∧
      found.text = found.memory.cursor.textSince s ∧
        e.run false none s { cursor := s } Matching.accept = .found found.memory := by
  -- The attempt at a place is the same whether or not further ones follow.
  have hattempt {p : Place} {memory : Memory} (h : (if test.all fun test => (p.step test).isSome then
      e.run false none p { cursor := p } Matching.accept else .failed { cursor := p }) =
        Attempt.found memory) :
      e.run false none p { cursor := p } Matching.accept = .found memory := by
    split at h
    · exact h
    · simp at h
  induction count generalizing p with
  | zero =>
      unfold findFrom at h
      dsimp only at h
      split at h
      · next memory hfound =>
        cases h
        exact ⟨p, rfl, rfl, rfl, hattempt hfound⟩
      · simp at h
  | succ count ih =>
      unfold findFrom at h
      dsimp only at h
      split at h
      · next memory hfound =>
        cases h
        exact ⟨p, rfl, rfl, rfl, hattempt hfound⟩
      · split at h
        · next rest c later hcount hnext =>
          cases hcount
          split at h
          · obtain ⟨s, hwhole, hrest⟩ := ih h
            exact ⟨s, hwhole.trans (Place.next?_eq_some_iff.mp hnext).whole, hrest⟩
          · simp at h
        · simp at h

/-- What is found from a place on is a passage from there or from a later place. -/
theorem findFrom_eq_some (hfits : e.Fits false 0 high) {test : Option CharTest} {room count : Nat}
    {p : Place} {found : Found} (h : e.findFrom test room count p = some found) :
    ∃ s, s.whole = p.whole ∧ found.index = s.offset ∧
      e.Passes s [] found.memory.cursor found.memory.marks ∧
        found.text = found.memory.cursor.textSince s := by
  obtain ⟨s, hwhole, hindex, htext, hrun⟩ := run_of_findFrom h
  exact ⟨s, hwhole, hindex, run_accept hfits hrun, htext⟩

end Expr

namespace Expression

variable {expression : Expression} {high : Nat} {text : String}

/-- A search finds what is found from the beginning of a text that is long enough, unless a group of
it is crossed. -/
theorem search_eq_some_iff {found : Found} : expression.search text = .ok (some found) ↔
    expression.expr.width.least ≤ text.length ∧
      expression.expr.findFrom (expression.expr.searchTest? expression.flags.asciiOnly)
        expression.expr.roomNeeded text.length (.start text.toList) = some found ∧
      expression.hasCrossedGroup found.memory = false := by
  have hleft : (Place.start text.toList).left = text.length := String.length_toList
  unfold search
  dsimp only
  rw [hleft]
  split
  · next hlong =>
    simp only [hlong, true_and]
    split
    · next hnone => simp [hnone]
    · next other hfind =>
      rw [hfind, Option.some.injEq]
      split
      · next hcrossed =>
        simp only [reduceCtorEq, false_iff, not_and, Bool.not_eq_false]
        rintro rfl
        exact hcrossed
      · next hcrossed =>
        simp only [Except.ok.injEq, Option.some.injEq]
        constructor
        · rintro rfl
          exact ⟨rfl, by simpa using hcrossed⟩
        · exact fun h => h.1
  · next hshort => simp [hshort]

/-- A match that is found is a passage whose groups end behind their beginnings. -/
theorem search_eq_some (hfits : expression.expr.Fits false 0 high) {found : Found}
    (h : expression.search text = .ok (some found)) :
    (∃ s, s.whole = text.toList ∧ found.index = s.offset ∧
      expression.expr.Passes s [] found.memory.cursor found.memory.marks ∧
        found.text = found.memory.cursor.textSince s) ∧
      expression.hasCrossedGroup found.memory = false := by
  obtain ⟨_, hfind, hcrossed⟩ := search_eq_some_iff.mp h
  exact ⟨Expr.findFrom_eq_some hfits hfind, hcrossed⟩

/-- A match that reaches the end of a text is a passage to that end. -/
theorem passes_of_run_end (hfits : expression.expr.Fits false 0 high) {memory : Memory}
    (h : expression.expr.run false none (.start text.toList) { cursor := .start text.toList }
      (fun place memory => if place.after.isEmpty then .found memory else .failed memory) =
        .found memory) :
    ∃ q, expression.expr.Passes (.start text.toList) [] q memory.marks ∧ q.after = [] := by
  have hends := @Expr.run_follows text.toList _ _ _ _ hfits none (.start text.toList)
    { cursor := .start text.toList }
    (fun place memory => if place.after.isEmpty then .found memory else .failed memory)
    (fun later => ∃ q, expression.expr.Passes (.start text.toList) [] q later.marks ∧ q.after = [])
    rfl rfl (fun _ => Nat.zero_le 0) ?_
  · rwa [h] at hends
  · intro q later hpasses _ hlater
    split
    · next hempty =>
      exact ⟨q, hpasses, List.isEmpty_iff.mp hempty⟩
    · exact Steady.intact ⟨hlater, rfl⟩ _

/-- A text that matches as a whole is a passage to its end. -/
theorem fullMatch_eq_true (hfits : expression.expr.Fits false 0 high)
    (h : expression.fullMatch text = .ok true) :
    ∃ q N, expression.expr.Passes (.start text.toList) [] q N ∧ q.after = [] := by
  unfold fullMatch at h
  dsimp only at h
  split at h
  · split at h
    · next memory hrun =>
      obtain ⟨q, hpasses, hafter⟩ := passes_of_run_end hfits hrun
      exact ⟨q, memory.marks, hpasses, hafter⟩
    · simp at h
  · simp at h

/-- Marks in order belong to groups that are not crossed. -/
theorem hasCrossedGroup_of_ordered {memory : Memory} (h : Ordered memory.marks) :
    expression.hasCrossedGroup memory = false := by
  unfold hasCrossedGroup
  rw [List.any_eq_false]
  intro index _
  rw [span?_eq]
  cases hspan : spanOf memory.marks (index + 1) with
  | none => simp
  | some span =>
      have hle := h (index + 1) span.1 span.2 hspan
      simpa using hle

/-- A search has an answer unless a group of what it finds is crossed. -/
theorem search_ok (honward : expression.expr.Onward) (hfits : expression.expr.Fits false 0 high)
    (text : String) : ∃ result, expression.search text = .ok result := by
  unfold search
  dsimp only
  split
  · split
    · exact ⟨none, rfl⟩
    · next found hfind =>
        obtain ⟨s, _, _, hpasses, _⟩ := Expr.findFrom_eq_some hfits hfind
        rw [hasCrossedGroup_of_ordered (honward.ordered hfits hpasses ordered_nil)]
        exact ⟨some found, rfl⟩
  · exact ⟨none, rfl⟩

/-- A match at the beginning of a text is found if that place is tried, unless a group of it is
crossed. -/
theorem search_of_run {memory : Memory} (hroom : expression.expr.width.least ≤ text.length)
    (htried : (expression.expr.searchTest? expression.flags.asciiOnly).all fun test =>
      ((Place.start text.toList).step test).isSome)
    (hrun : expression.expr.run false none (.start text.toList) { cursor := .start text.toList }
      Matching.accept = .found memory)
    (hcrossed : expression.hasCrossedGroup memory = false) :
    ∃ found, expression.search text = .ok (some found) ∧ found.index = 0 := by
  unfold search
  dsimp only
  rw [if_pos hroom]
  unfold Expr.findFrom
  dsimp only
  rw [if_pos htried, hrun]
  dsimp only
  rw [hcrossed]
  exact ⟨_, rfl, rfl⟩

/-- A text in which a direct expression leads anywhere from the beginning is not too short for it. -/
theorem width_le_of_leads (hdirect : expression.expr.Direct) {q : Place}
    (h : expression.expr.Leads (.start text.toList) q) :
    expression.expr.width.least ≤ text.length := by
  obtain ⟨M, N, hpasses⟩ := h
  obtain ⟨read, hreaches, hwidth⟩ := hdirect.reaches hpasses
  have hleft := hreaches.left
  rw [Place.start, ← String.length_toList] at *
  dsimp only at hleft
  omega

/-- A direct expression that leads anywhere from the beginning of a text is found there, if the test
in front of the search passes. -/
theorem search_of_tried (hdirect : expression.expr.Direct)
    (hfits : expression.expr.Fits false 0 high) (hflags : expression.flags.asciiOnly = false)
    (htried : ∀ test, expression.expr.searchTest? false = some test →
      ((Place.start text.toList).step test).isSome = true)
    {q : Place} (h : expression.expr.Leads (.start text.toList) q) :
    ∃ found, expression.search text = .ok (some found) ∧ found.index = 0 := by
  have hroom := width_le_of_leads hdirect h
  obtain ⟨M, N, hpasses⟩ := h
  have htest : (expression.expr.searchTest? false).all fun test =>
      ((Place.start text.toList).step test).isSome := by
    cases hsearch : expression.expr.searchTest? false with
    | none => rfl
    | some test => exact htried test hsearch
  have hrun := Expr.run_finds hdirect false none _ q Matching.accept
    ⟨hpasses.leads, q.admits_none⟩ (fun _ => trivial) { cursor := .start text.toList }
  cases hattempt : expression.expr.run false none (.start text.toList)
    { cursor := .start text.toList } Matching.accept with
  | failed memory =>
      rw [hattempt] at hrun
      exact hrun.elim
  | found memory =>
      have hordered := hdirect.onward.ordered hfits (Expr.run_accept hfits hattempt) ordered_nil
      exact search_of_run hroom (by rwa [hflags]) hattempt (hasCrossedGroup_of_ordered hordered)

/-- A regular expression that leads anywhere from the beginning of a text is found there. -/
theorem search_of_leads (hregular : expression.expr.Regular)
    (hfits : expression.expr.Fits false 0 high) (hflags : expression.flags.asciiOnly = false)
    {q : Place} (h : expression.expr.Leads (.start text.toList) q) :
    ∃ found, expression.search text = .ok (some found) ∧ found.index = 0 := by
  have hleads := h
  obtain ⟨M, N, hpasses⟩ := hleads
  exact search_of_tried hregular.direct hfits hflags
    (fun test htest => Expr.isSome_step_of_searchTest? hregular hpasses htest) h

/-- If a direct expression leads from the beginning of a text to its end, the whole text matches. -/
theorem fullMatch_of_leads (hdirect : expression.expr.Direct)
    (hfits : expression.expr.Fits false 0 high) {q : Place} (hafter : q.after = [])
    (h : expression.expr.Leads (.start text.toList) q) : expression.fullMatch text = .ok true := by
  have hroom := width_le_of_leads hdirect h
  obtain ⟨M, N, hpasses⟩ := h
  have hrun := Expr.run_finds hdirect false none _ q
    (fun place memory => if place.after.isEmpty then .found memory else .failed memory)
    ⟨hpasses.leads, q.admits_none⟩ (by intro memory; simp [hafter, Attempt.Succeeds])
    { cursor := .start text.toList }
  unfold fullMatch
  dsimp only
  rw [if_pos hroom]
  cases hattempt : expression.expr.run false none (.start text.toList)
    { cursor := .start text.toList }
    (fun place memory => if place.after.isEmpty then .found memory else .failed memory) with
  | failed memory =>
      rw [hattempt] at hrun
      exact hrun.elim
  | found memory =>
      obtain ⟨r, hpasses', _⟩ := passes_of_run_end hfits hattempt
      have hordered := hdirect.onward.ordered hfits hpasses' ordered_nil
      dsimp only
      rw [hasCrossedGroup_of_ordered hordered]
      rfl

/-- The text of each group lies between its marks. -/
theorem groupTexts_eq (found : Found) :
    expression.groupTexts found = (List.range' 1 expression.groups).map fun number =>
      (spanOf found.memory.marks number).map fun span =>
        String.ofList (span.2.textSince span.1) := by
  have hmap (number : Nat) : (found.memory.groupText? number).map String.ofList =
      (spanOf found.memory.marks number).map fun span =>
        String.ofList (span.2.textSince span.1) := by
    rw [Memory.groupText?, span?_eq, Option.map_map]
    rfl
  rw [groupTexts, List.range'_eq_map_range, List.map_map]
  refine List.map_congr_left fun index _ => ?_
  rw [hmap, Function.comp_apply, Nat.add_comm]

/-- If no group is crossed, each of them ends behind its beginning. -/
theorem offset_le_of_hasCrossedGroup {memory : Memory}
    (h : expression.hasCrossedGroup memory = false) {number : Nat} (hpos : 0 < number)
    (hle : number ≤ expression.groups) {start stop : Place}
    (hspan : spanOf memory.marks number = some (start, stop)) : start.offset ≤ stop.offset := by
  unfold hasCrossedGroup at h
  rw [List.any_eq_false] at h
  have hgroup := h (number - 1) (by simp; omega)
  rw [show number - 1 + 1 = number by omega, span?_eq, hspan] at hgroup
  simpa using hgroup

end Expression

end RoutePattern
