import RoutePattern.Proofs.Lexeme.Culprit
import RoutePattern.Proofs.Part.Verdict
import RoutePattern.Table

/-!
# Where routes and their problems stand

A route stands in its line between blanks, and a problem with its pattern points into that line: at
the character at fault, at the first character of a lexeme that does not fit, or just behind the
pattern if it ends too early. `positions_faithful` is the main result, for the routes and the
problems of any table.
-/

namespace RoutePattern

/-! ## Lines of a table -/

/-- Whether a line holds a route: it is neither blank nor a comment. -/
def isRouteLine (text : List Char) : Bool :=
  !(trim text).isEmpty && (trim text).head? != some '#'

/-- A route is what stands in a line between blanks, in its column. -/
structure Route.StandsIn (route : Route) (text : List Char) : Prop where
  trimmed : route.pattern.toList = trim text
  split : ∃ front back, text = front ++ route.pattern.toList ++ back ∧
    route.column = front.length + 1 ∧ (∀ c ∈ front, isBlank c) ∧ ∀ c ∈ back, isBlank c

/-- A text is what is left of it between the blanks at its ends. -/
theorem exists_trim (text : List Char) :
    ∃ front back, text = front ++ trim text ++ back ∧ front ++ trimFront text = text ∧
      (∀ c ∈ front, isBlank c) ∧ ∀ c ∈ back, isBlank c := by
  refine ⟨text.takeWhile isBlank, ((trimFront text).reverse.takeWhile isBlank).reverse, ?_,
    List.takeWhile_append_dropWhile, fun c hc => List.mem_takeWhile_imp hc, fun c hc => ?_⟩
  · have hback : trim text ++ ((trimFront text).reverse.takeWhile isBlank).reverse
        = trimFront text := by
      rw [trim, ← List.reverse_append]
      nth_rewrite 2 [trimFront]
      rw [List.takeWhile_append_dropWhile, List.reverse_reverse]
    rw [List.append_assoc, hback, trimFront, List.takeWhile_append_dropWhile]
  · exact List.mem_takeWhile_imp (List.mem_reverse.mp hc)

/-- A line that holds a route gives it, and any other gives none. -/
theorem ofLine?_cases (line : Nat) (text : List Char) :
    (isRouteLine text = false ∧ Route.ofLine? line text = none) ∨
      (isRouteLine text = true ∧ ∃ route, Route.ofLine? line text = some route ∧
        route.line = line ∧ route.StandsIn text) := by
  unfold Route.ofLine? isRouteLine
  split
  · next htrim => simp [htrim]
  · next htrim => simp [htrim]
  · next hempty hcomment =>
    refine .inr ⟨?_, _, rfl, rfl, ⟨String.toList_ofList, ?_⟩⟩
    · cases htrim : trim text with
      | nil => exact absurd htrim hempty
      | cons c rest =>
          have hc : c ≠ '#' := fun h => hcomment rest (by rw [htrim, h])
          simpa using hc
    · obtain ⟨front, back, hsplit, hfront, hblank⟩ := exists_trim text
      refine ⟨front, back, by rwa [String.toList_ofList], ?_, hblank⟩
      have hlength := congrArg List.length hfront
      rw [List.length_append] at hlength
      dsimp only
      omega

/-- The routes of lines are those of the lines that hold one, in their order. -/
theorem routesFrom_faithful (line : Nat) (texts : List (List Char)) :
    List.Forall₂ (fun text route => route.line = text.2 ∧ route.StandsIn text.1)
      ((texts.zipIdx line).filter fun text => isRouteLine text.1) (routesFrom line texts) := by
  induction texts generalizing line with
  | nil => exact .nil
  | cons text rest ih =>
      rw [List.zipIdx_cons, routesFrom]
      obtain ⟨hnone, hroute⟩ | ⟨hsome, route, hroute, hline, hstands⟩ := ofLine?_cases line text
      · simpa [hnone, hroute] using ih (line + 1)
      · simpa [hsome, hroute] using ⟨⟨hline, hstands⟩, ih (line + 1)⟩

/-- A route of a table stands in the line that it tells of. -/
theorem standsIn_of_mem {texts : List (List Char)} {line : Nat} {route : Route}
    (h : route ∈ routesFrom line texts) :
    ∃ text, texts[route.line - line]? = some text ∧ line ≤ route.line ∧ route.StandsIn text := by
  induction texts generalizing line with
  | nil => simp [routesFrom] at h
  | cons text rest ih =>
      rw [routesFrom] at h
      obtain h | h := List.mem_append.mp h
      · obtain ⟨_, hnone⟩ | ⟨_, found, hfound, hline, hstands⟩ := ofLine?_cases line text
        · simp [hnone] at h
        · obtain rfl : route = found := by simpa [hfound] using h
          exact ⟨text, by simp [hline], hline.ge, hstands⟩
      · obtain ⟨other, hother, hle, hstands⟩ := ih h
        refine ⟨other, ?_, by omega, hstands⟩
        rw [show route.line - line = route.line - (line + 1) + 1 by omega,
          List.getElem?_cons_succ, hother]

/-! ## Problems of a table -/

/-- What a problem of a route tells: an error in its pattern, a fault in its expression, or that an
earlier route has the same one. -/
inductive Route.Concerned (options : Options) (route : Route) : Problem → Prop where
  | pattern {error : PatternError} (h : parse options route.pattern = .error error) :
      Concerned options route
        ⟨route.line, (route.column + error.index).toNat, 1, .error, error.description⟩
  | expression {parts : List Part} (h : parse options route.pattern = .ok parts)
      {fault : ExprFault} (hfault : Expression.read (partsSource options parts) {} = .error fault) :
      Concerned options route ⟨route.line, route.column, route.pattern.length, .error,
        "invalid capture pattern: " ++ fault.message⟩
  | duplicate {parts : List Part} (h : parse options route.pattern = .ok parts) (first : Route) :
      Concerned options route (route.duplicate first)

/-- A route is checked with a problem that is its own, or it has been parsed. -/
theorem Route.concerned_of_check {options : Options} {route : Route} {result : String ⊕ Problem}
    (h : route.check options = .ok result) :
    (∃ problem, result = .inr problem ∧ route.Concerned options problem) ∨
      ∃ source, result = .inl source ∧
        ∀ first, route.Concerned options (route.duplicate first) := by
  unfold check at h
  split at h
  · next error herror =>
    cases h
    exact .inl ⟨_, rfl, .pattern herror⟩
  · next parts hparts =>
    dsimp only at h
    split at h
    · cases h
      exact .inr ⟨_, rfl, fun first => .duplicate hparts first⟩
    · next fault hfault =>
      split at h
      · cases h
        exact .inl ⟨_, rfl, .expression hparts hfault⟩
      · cases h

/-- Every problem of some routes is one of a route among them. -/
theorem concerned_of_mem {options : Options} {seen : List (String × Route)} {routes : List Route}
    {problems : List Problem} (h : problemsFrom options seen routes = .ok problems)
    {problem : Problem} (hproblem : problem ∈ problems) :
    ∃ route ∈ routes, route.Concerned options problem := by
  induction routes generalizing seen problems with
  | nil =>
      cases h
      simp at hproblem
  | cons route rest ih =>
      rw [problemsFrom] at h
      obtain ⟨result, hcheck, h⟩ := bind_eq_ok.mp h
      -- What is found behind the route is a problem of another one.
      have hlater {seen : List (String × Route)} {later : List Problem}
          (hrest : problemsFrom options seen rest = .ok later) (hmem : problem ∈ later) :
          ∃ route' ∈ route :: rest, route'.Concerned options problem := by
        obtain ⟨other, hother, hconcerned⟩ := ih hrest hmem
        exact ⟨other, List.mem_cons_of_mem _ hother, hconcerned⟩
      obtain ⟨found, rfl, hfound⟩ | ⟨source, rfl, hfound⟩ := Route.concerned_of_check hcheck
      · obtain ⟨later, hrest, h⟩ := bind_eq_ok.mp h
        cases h
        obtain rfl | hmem := List.mem_cons.mp hproblem
        · exact ⟨route, List.mem_cons_self, hfound⟩
        · exact hlater hrest hmem
      · dsimp only at h
        split at h
        · next first _ =>
          obtain ⟨later, hrest, h⟩ := bind_eq_ok.mp h
          cases h
          obtain rfl | hmem := List.mem_cons.mp hproblem
          · exact ⟨route, List.mem_cons_self, hfound first⟩
          · exact hlater hrest hmem
        · exact hlater h hproblem

/-- A problem stands on the line of its route. -/
theorem Route.Concerned.line_eq {options : Options} {route : Route} {problem : Problem}
    (h : route.Concerned options problem) : problem.line = route.line := by
  cases h <;> rfl

/-! ## Errors in a pattern -/

/-- The lexeme that an error in reading a pattern is about stands at its offset. -/
structure GrammarError.Concerns (error : GrammarError) (source : String) (lexeme : Lexeme)
    (offset : Nat) : Prop where
  scanned : ∃ lexemes, scan source = .ok lexemes ∧ lexeme ∈ lexemes
  kind : error.actual = lexeme.kind
  index : error.index = lexeme.index
  placed : lexeme.index = offset
  stands : ∃ before after, source.toList = before ++ lexeme.render ++ after ∧
    before.length = offset ∧ (lexeme.kind = .ending → after = [])
  nonempty : lexeme.kind ≠ .ending → lexeme.render ≠ []

/-- The lexemes of a pattern are well-formed and stand for its text. -/
theorem wellFormed_of_scan {source : String} {lexemes : List Lexeme}
    (h : scan source = .ok lexemes) : WellFormed lexemes ∧ renderAll lexemes = source.toList := by
  obtain ⟨found, hspelled, rfl⟩ := scan_eq_ok_iff_spelled.mp h
  have htext := hspelled.rendered
  rw [renderAll_ending, ← String.length_toList, wellFormed_iff_spelled, ← htext]
  exact ⟨⟨hspelled, rfl⟩, rfl⟩

/-- A fault in the text of a pattern has been found in scanning it. -/
theorem scan_of_parse {options : Options} {source : String} {error : ScanError}
    (h : parse options source = .error (.lexical error)) : scan source = .error error := by
  cases hscan : scan source with
  | error found => simpa [parse, hscan] using h
  | ok lexemes =>
      rw [parse, hscan] at h
      cases hread : readLexemes options lexemes <;> simp [hread] at h

/-- An error in reading a pattern is about one of its lexemes. -/
theorem exists_concerns {options : Options} {source : String} {error : GrammarError}
    (h : parse options source = .error (.grammatical error)) :
    ∃ lexeme offset, error.Concerns source lexeme offset := by
  cases hscan : scan source with
  | error fault => simp [parse, hscan] at h
  | ok lexemes =>
      obtain ⟨hlast, hne⟩ := endsLast_of_scan hscan
      have hread : readLexemes options lexemes = .error error := by
        cases hread : readLexemes options lexemes with
        | ok parts => simp [parse, hscan, hread] at h
        | error found => simpa [parse, hscan, hread] using h
      have hjudged := judged_readLexemes options hlast hne
      rw [hread] at hjudged
      obtain ⟨before, lexeme, after, _, rfl, _, _, herror⟩ := hjudged
      obtain ⟨hformed, hsource⟩ := wellFormed_of_scan hscan
      have hindex := hformed.placed before lexeme after rfl
      rw [Nat.zero_add] at hindex
      have hvalued := hformed.valued lexeme (by simp)
      refine ⟨lexeme, (renderAll before).length, ⟨_, hscan, by simp⟩, ?_, ?_, hindex,
        ⟨renderAll before, renderAll after, ?_, rfl, fun hending => ?_⟩, fun hkind => ?_⟩
      · obtain ⟨_, rfl⟩ | ⟨_, _, _, _, _, _, rfl⟩ := herror <;> rfl
      · obtain ⟨_, rfl⟩ | ⟨_, _, _, _, _, _, rfl⟩ := herror <;> rfl
      · rw [← hsource]
        simp [renderAll]
      · rw [(hlast before lexeme after rfl).mp hending, renderAll, List.flatMap_nil]
      · obtain ⟨c, rest, hrender, _⟩ := hvalued.head_render hkind
        simp [hrender]

/-- What the column of a problem points at, for an error in the pattern of a route with the line
`text`. -/
inductive Route.PointsAt (route : Route) (text : List Char) (column : Nat) :
    PatternError → Prop where
  /-- The character at fault. -/
  | culprit {fault : ScanFault} {index : Nat} (hcolumn : column = route.column + index)
      (hpattern : route.pattern.toList[index]? = some fault.culprit)
      (htext : text[column - 1]? = some fault.culprit) :
      PointsAt route text column (.lexical ⟨fault, index⟩)
  /-- The first character of the lexeme that does not fit. -/
  | lexeme {error : GrammarError} {lexeme : Lexeme} {offset : Nat} {c : Char}
      (hconcerns : error.Concerns route.pattern lexeme offset)
      (hcolumn : column = route.column + offset) (hfirst : lexeme.render.head? = some c)
      (hpattern : route.pattern.toList[offset]? = some c) (htext : text[column - 1]? = some c) :
      PointsAt route text column (.grammatical error)
  /-- The place just behind a pattern that ends too early. -/
  | ending {error : GrammarError} (hactual : error.actual = .ending)
      (hcolumn : column = route.column + route.pattern.length) :
      PointsAt route text column (.grammatical error)

/-- The pattern of a route and its line have the same characters, one column after the other. -/
theorem Route.StandsIn.getElem?_eq {route : Route} {text : List Char} (h : route.StandsIn text)
    {index : Nat} {c : Char} (hc : route.pattern.toList[index]? = some c) :
    text[route.column + index - 1]? = some c := by
  obtain ⟨_, front, back, rfl, hcolumn, _⟩ := h
  obtain ⟨hlt, _⟩ := List.getElem?_eq_some_iff.mp hc
  rw [hcolumn, List.append_assoc, List.getElem?_append_right (by omega),
    show front.length + 1 + index - 1 - front.length = index by omega,
    List.getElem?_append_left hlt, hc]

/-- The error in a pattern is found where its problem points. -/
theorem Route.StandsIn.pointsAt {options : Options} {route : Route} {text : List Char}
    (h : route.StandsIn text) {error : PatternError}
    (herror : parse options route.pattern = .error error) :
    route.PointsAt text (route.column + error.index).toNat error := by
  cases error with
  | lexical error =>
      have hculprit := culprit_of_scan (scan_of_parse herror)
      have hcolumn : (route.column + (PatternError.lexical error).index).toNat
          = route.column + error.index := by
        rw [PatternError.index]
        omega
      rw [hcolumn]
      exact .culprit rfl hculprit (h.getElem?_eq hculprit)
  | grammatical error =>
      obtain ⟨lexeme, offset, hconcerns⟩ := exists_concerns herror
      have hcolumn : (route.column + (PatternError.grammatical error).index).toNat
          = route.column + offset := by
        rw [PatternError.index, hconcerns.index, hconcerns.placed]
        omega
      obtain ⟨before, after, hsource, hbefore, hafter⟩ := hconcerns.stands
      rw [hcolumn]
      by_cases hending : lexeme.kind = .ending
      · refine .ending (hconcerns.kind.trans hending) ?_
        have hrender : lexeme.render = [] := by simp [Lexeme.render, hending]
        rw [← String.length_toList, hsource, hrender, hafter hending]
        simp [hbefore]
      · obtain ⟨c, rest, hrender⟩ := List.exists_cons_of_ne_nil (hconcerns.nonempty hending)
        have hpattern : route.pattern.toList[offset]? = some c := by
          rw [hsource, List.append_assoc, List.getElem?_append_right hbefore.le, hbefore,
            Nat.sub_self, hrender]
          rfl
        exact .lexeme hconcerns rfl (by rw [hrender]; rfl) hpattern (h.getElem?_eq hpattern)

/-- The routes of a table stand in the lines that hold one, one in each and in their order. A
problem stands on the line of its route, and points at the error if there is one in the pattern. -/
theorem positions_faithful (options : Options) (source : String) :
    List.Forall₂ (fun text route => route.line = text.2 ∧ route.StandsIn text.1)
        (((splitLines source.toList).zipIdx 1).filter fun text => isRouteLine text.1)
        (readRoutes source) ∧
      ∀ problems, checkRoutes options source = .ok problems → ∀ problem ∈ problems,
        ∃ route ∈ readRoutes source, route.line = problem.line ∧
          ∃ text, (splitLines source.toList)[problem.line - 1]? = some text ∧
            route.StandsIn text ∧ ∀ error, parse options route.pattern = .error error →
              problem.message = error.description ∧ route.PointsAt text problem.column error := by
  refine ⟨routesFrom_faithful 1 _, fun problems hproblems problem hproblem => ?_⟩
  obtain ⟨route, hroute, hconcerned⟩ := concerned_of_mem hproblems hproblem
  obtain ⟨text, htext, _, hstands⟩ := standsIn_of_mem hroute
  have hline := hconcerned.line_eq
  refine ⟨route, hroute, hline.symm, text, hline ▸ htext, hstands, fun error herror => ?_⟩
  cases hconcerned with
  | pattern h =>
      obtain rfl := Except.error.inj (h.symm.trans herror)
      exact ⟨rfl, hstands.pointsAt herror⟩
  | expression h | duplicate h =>
      rw [h] at herror
      cases herror

/-- A comment, a blank line, a name that is missing, a closing without an opening, and a modifier
that follows another. -/
theorem positions_faithful_mixed :
    let source := "# routes\n\n  /users/:\n/a\x7d/b\n\t/:c+* \n"
    let problem : Problem := ⟨5, 6, 1, .error, "unexpected MODIFIER at 4, expected END"⟩
    let route : Route := ⟨"/:c+*", 5, 2⟩
    (checkRoutes {} source).toOption = some [⟨3, 10, 1, .error, "missing parameter name at 7"⟩,
        ⟨4, 3, 1, .error, "unexpected CLOSE at 2, expected END"⟩, problem] ∧
      route.PointsAt "\t/:c+* ".toList 6 (.grammatical ⟨4, .ending, .modifier, none⟩) := by
  intro source problem route
  have hproblems : (checkRoutes {} source).toOption = some
      [⟨3, 10, 1, .error, "missing parameter name at 7"⟩,
        ⟨4, 3, 1, .error, "unexpected CLOSE at 2, expected END"⟩, problem] := by
    decide +kernel
  have hroutes : readRoutes source = [⟨"/users/:", 3, 3⟩, ⟨"/a\x7d/b", 4, 1⟩, route] := by
    decide +kernel
  have hlines : splitLines source.toList
      = ["# routes", "", "  /users/:", "/a\x7d/b", "\t/:c+* "].map String.toList := by
    decide +kernel
  obtain ⟨found, hmem, hline, text, htext, _, hpoints⟩ :=
    (positions_faithful {} source).2 _ (toOption_eq_some.mp hproblems) problem (by simp)
  have hfound : found = route := by
    rw [hroutes] at hmem
    simp only [List.mem_cons, List.not_mem_nil, or_false] at hmem
    obtain rfl | rfl | rfl := hmem
    · cases hline
    · cases hline
    · rfl
  rw [hlines] at htext
  obtain rfl : "\t/:c+* ".toList = text := Option.some.inj htext
  subst hfound
  have herror : parse {} route.pattern = .error (.grammatical ⟨4, .ending, .modifier, none⟩) := by
    decide +kernel
  exact ⟨hproblems, (hpoints _ herror).2⟩

end RoutePattern
