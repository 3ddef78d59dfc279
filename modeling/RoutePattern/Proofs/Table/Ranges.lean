import RoutePattern.Diagnostics
import RoutePattern.Proofs.Table.Positions
import RoutePattern.Proofs.Text.Lines

/-!
# The ranges of diagnostics

A diagnostic covers a stretch of the line that holds its route. `ranges_within` is the main result:
above the first foreign break this is the line of the document with the number that the diagnostic
tells, and the stretch lies within it. Only the range of a pattern that ends too early, at the very
end of its line, covers one character more.
-/

namespace RoutePattern

/-- A line holds the pattern of a route in its column. -/
def Route.HeldBy (route : Route) (line : List Char) : Prop :=
  ∃ front back, line = front ++ route.pattern.toList ++ back ∧ route.column = front.length + 1

/-- The pattern of a route ends where something else should follow. -/
def Route.EndsEarly (options : Options) (route : Route) : Prop :=
  ∃ error, parse options route.pattern = .error (.grammatical error) ∧ error.actual = .ending

/-- The range of a diagnostic is a stretch of one line. -/
structure Diagnostic.Within (diagnostic : Diagnostic) (line : List Char) : Prop where
  single : diagnostic.stop.line = diagnostic.start.line
  ordered : diagnostic.start.character ≤ diagnostic.stop.character
  bounded : diagnostic.stop.character ≤ line.length

/-- The range of a diagnostic is the place behind a line. -/
structure Diagnostic.Behind (diagnostic : Diagnostic) (line : List Char) : Prop where
  single : diagnostic.stop.line = diagnostic.start.line
  start_eq : diagnostic.start.character = line.length
  stop_eq : diagnostic.stop.character = line.length + 1

variable {options : Options} {route : Route} {text more : List Char} {problem : Problem}

/-- What a route stands in holds it, also with more behind it. -/
theorem Route.StandsIn.heldBy (h : route.StandsIn text) (more : List Char) :
    route.HeldBy (text ++ more) := by
  obtain ⟨_, front, back, rfl, hcolumn, _⟩ := h
  exact ⟨front, back ++ more, by simp, hcolumn⟩

/-- A place in a line is pointed at, or that just behind a pattern that ends too early. -/
theorem Route.PointsAt.lt_or_ending {column : Nat} {error : PatternError}
    (h : route.PointsAt text column error) :
    column - 1 < text.length ∨ column = route.column + route.pattern.length ∧
      ∃ mismatch, error = .grammatical mismatch ∧ mismatch.actual = .ending := by
  cases h with
  | culprit _ _ htext => exact .inl (List.getElem?_eq_some_iff.mp htext).1
  | lexeme _ _ _ _ htext => exact .inl (List.getElem?_eq_some_iff.mp htext).1
  | ending hactual hcolumn => exact .inr ⟨hcolumn, _, rfl, hactual⟩

/-- The range of a problem lies within the line that its route stands in, or behind it if the
pattern ends too early. -/
theorem Route.Concerned.ranges (h : route.Concerned options problem) (hstands : route.StandsIn text)
    (more : List Char) :
    problem.diagnostic.Within (text ++ more) ∨
      route.EndsEarly options ∧ problem.diagnostic.Behind (text ++ more) := by
  obtain ⟨front, back, hline, hcolumn⟩ := hstands.heldBy more
  have hlength : (text ++ more).length = front.length + route.pattern.length + back.length := by
    rw [hline, List.length_append, List.length_append, String.length_toList]
  have hshown : front.length + route.pattern.length ≤ (text ++ more).length := by omega
  -- A range as long as the pattern, from the column of the route on.
  have hwhole : route.column - 1 + route.pattern.length ≤ (text ++ more).length := by omega
  cases h with
  | @pattern error herror =>
      obtain hlt | ⟨hend, mismatch, rfl, hactual⟩ := (hstands.pointsAt herror).lt_or_ending
      · refine .inl ⟨rfl, Nat.le_add_right _ _, ?_⟩
        rw [List.length_append]
        exact Nat.le_add_right_of_le hlt
      · by_cases hback : back = []
        · rw [hback, List.length_nil, Nat.add_zero] at hlength
          refine .inr ⟨⟨mismatch, herror, hactual⟩, rfl, ?_, ?_⟩
          · show (route.column + (PatternError.grammatical mismatch).index).toNat - 1 = _
            omega
          · show (route.column + (PatternError.grammatical mismatch).index).toNat - 1 + 1 = _
            omega
        · have hpos : 0 < back.length := List.length_pos_iff.mpr hback
          refine .inl ⟨rfl, Nat.le_add_right _ _, ?_⟩
          show (route.column + (PatternError.grammatical mismatch).index).toNat - 1 + 1 ≤ _
          omega
  | expression _ => exact .inl ⟨rfl, Nat.le_add_right _ _, hwhole⟩
  | duplicate _ _ => exact .inl ⟨rfl, Nat.le_add_right _ _, hwhole⟩

/-- No place that is pointed at stands in front of the pattern. -/
theorem Route.PointsAt.column_le {column : Nat} {error : PatternError}
    (h : route.PointsAt text column error) : route.column ≤ column := by
  cases h <;> omega

/-- A problem has a line and a column, both from one on. -/
theorem Route.Concerned.positive (h : route.Concerned options problem) (hline : 1 ≤ route.line)
    (hstands : route.StandsIn text) : 1 ≤ problem.line ∧ 1 ≤ problem.column := by
  have hcolumn : 1 ≤ route.column := by
    obtain ⟨front, _, _, hcolumn, _⟩ := hstands.split
    omega
  cases h with
  | pattern herror => exact ⟨hline, hcolumn.trans (hstands.pointsAt herror).column_le⟩
  | expression _ | duplicate _ _ => exact ⟨hline, hcolumn⟩

/-- Above the first foreign break of a document, a diagnostic tells of the line with its number: the
line holds the route of the problem, the lines above it are those of the table, and the range lies
within it, or just behind it if the pattern ends too early. -/
theorem ranges_within {source : String} {diagnostics : List Diagnostic}
    (hdiagnose : diagnose source = .ok diagnostics) {diagnostic : Diagnostic}
    (hmem : diagnostic ∈ diagnostics)
    (hfront : diagnostic.start.line < (documentLines (familiarFront source.toList)).length) :
    ∃ route ∈ readRoutes source, ∃ problem, route.Concerned {} problem ∧
      diagnostic = problem.diagnostic ∧ problem.line = diagnostic.start.line + 1 ∧
      problem.column = diagnostic.start.character + 1 ∧ route.line = problem.line ∧
      (documentLines source.toList).take diagnostic.start.line
        = (splitLines source.toList).take diagnostic.start.line ∧
      ∃ line, (documentLines source.toList)[diagnostic.start.line]? = some line ∧
        route.HeldBy line ∧
        (diagnostic.Within line ∨ route.EndsEarly {} ∧ diagnostic.Behind line) := by
  obtain ⟨problems, hproblems, hmap⟩ := bind_eq_ok.mp hdiagnose
  cases hmap
  obtain ⟨problem, hproblem, rfl⟩ := List.mem_map.mp hmem
  obtain ⟨route, hroute, hconcerned⟩ := concerned_of_mem hproblems hproblem
  obtain ⟨text, htext, hone, hstands⟩ := standsIn_of_mem hroute
  obtain ⟨hline, hcolumn⟩ := hconcerned.positive hone hstands
  have hroute_line := hconcerned.line_eq
  obtain ⟨htake, more, hmore⟩ := linesAgree_of_splitLines (hroute_line ▸ htext) hfront
  exact ⟨route, hroute, problem, hconcerned, rfl, (Nat.sub_add_cancel hline).symm,
    (Nat.sub_add_cancel hcolumn).symm, hroute_line.symm, htake, text ++ more, hmore,
    hstands.heldBy more, hconcerned.ranges hstands more⟩

/-- A name that is missing behind two kinds of breaks, and another one behind a form feed, which
breaks a line of the table only. -/
theorem ranges_within_missingName :
    let source := "/a\r\n\n  /b/:\n/c\x0c/:"
    let diagnostic : Diagnostic := ⟨⟨2, 5⟩, ⟨2, 6⟩, "missing parameter name at 3", .error⟩
    (diagnose source).toOption
        = some [diagnostic, ⟨⟨4, 1⟩, ⟨4, 2⟩, "missing parameter name at 1", .error⟩] ∧
      documentLines source.toList = ["/a", "", "  /b/:", "/c\x0c/:"].map String.toList ∧
      diagnostic.Within "  /b/:".toList := by
  have hdiagnose : (diagnose "/a\r\n\n  /b/:\n/c\x0c/:").toOption = some
      [⟨⟨2, 5⟩, ⟨2, 6⟩, "missing parameter name at 3", .error⟩,
        ⟨⟨4, 1⟩, ⟨4, 2⟩, "missing parameter name at 1", .error⟩] := by
    decide +kernel
  have hlines : documentLines "/a\r\n\n  /b/:\n/c\x0c/:".toList
      = ["/a", "", "  /b/:", "/c\x0c/:"].map String.toList := by
    decide +kernel
  refine ⟨hdiagnose, hlines, ?_⟩
  obtain ⟨_, _, _, _, _, _, _, _, _, line, hline, _, hrange⟩ :=
    ranges_within (toOption_eq_some.mp hdiagnose) List.mem_cons_self (by decide +kernel)
  rw [hlines] at hline
  obtain rfl : "  /b/:".toList = line := Option.some.inj hline
  obtain hwithin | ⟨_, hbehind⟩ := hrange
  · exact hwithin
  · have hstart := hbehind.start_eq
    simp at hstart

end RoutePattern
