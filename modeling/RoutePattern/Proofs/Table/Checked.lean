import RoutePattern.Match
import RoutePattern.Proofs.Expr.CaselessReader
import RoutePattern.Table

/-!
# What the checking of a table tells

A table is checked in one pass, with the expressions of the sound routes so far. `Route.problem?` is
what each route deserves, said about matching: the error that its pattern has there, or a warning if
an earlier route matches by the same expression. `problemsFrom_eq` says that the pass finds just
that, and `checkRoutes_exact` is the main result. Checking does not ignore case where matching may,
but whether an expression can be read does not depend on that.
-/

namespace RoutePattern

variable {options : Options} {route : Route}

/-! ## Matching and checking a route -/

/-- The text that is written for some parts can be read under no flags if it can be compiled, and
with the same fault if not. -/
theorem groups_read_partsSource (options : Options) (parts : List Part) :
    (Expression.read (partsSource options parts) {}).map Expression.groups =
      (compileParts options parts).map Expression.groups :=
  Expression.groups_read_eq _ rfl

namespace Route

/-- The pattern of a route is matched by an expression with the given text. -/
def CompilesTo (options : Options) (route : Route) (source : String) : Prop :=
  ∃ matcher, Matcher.ofPath options (.pattern route.pattern) = .ok matcher ∧
    matcher.expression.source = source

/-- The problem of a route whose pattern cannot be compiled. -/
def complaint (route : Route) : CompileError → Problem
  | .pattern _ error =>
      ⟨route.line, (route.column + error.index).toNat, 1, .error, error.description⟩
  | .expression fault =>
      ⟨route.line, route.column, route.pattern.length, .error,
        "invalid capture pattern: " ++ fault.message⟩

/-- The pattern of a route has a matcher, or the error in it is one that is reported. -/
def Reported (options : Options) (route : Route) : Prop :=
  ∀ fault, Matcher.ofPath options (.pattern route.pattern) = .error (.expression fault) →
    fault.isReported = true

instance (options : Options) (route : Route) : Decidable (route.Reported options) :=
  decidable_of_iff ((match Matcher.ofPath options (.pattern route.pattern) with
    | .error (.expression fault) => fault.isReported
    | _ => true) = true) <| by
    unfold Reported
    split
    · next h => simp [h]
    · next h => exact iff_of_true rfl fun fault hfault => absurd hfault (h fault)

/-- Checking a route tells what compiling it for matching gives: the text of the expression, or the
error, unless that is a fault which is not reported. -/
theorem check_eq (options : Options) (route : Route) : route.check options =
    match Matcher.ofPath options (.pattern route.pattern) with
    | .ok matcher => .ok (.inl matcher.expression.source)
    | .error (.pattern source error) => .ok (.inr (route.complaint (.pattern source error)))
    | .error (.expression fault) =>
        if fault.isReported then .ok (.inr (route.complaint (.expression fault)))
        else .error fault := by
  unfold check Matcher.ofPath
  cases hparse : parse options route.pattern with
  | error error =>
      rw [Path.compile_pattern_error hparse]
      rfl
  | ok parts =>
      rw [Path.compile_pattern hparse]
      have hsame := groups_read_partsSource options parts
      cases hcompile : compileParts options parts with
      | error fault =>
          rw [hcompile] at hsame
          cases hread : Expression.read (partsSource options parts) {} with
          | ok _ => simp [hread, Except.map] at hsame
          | error found =>
              obtain rfl : found = fault := by simpa [hread, Except.map] using hsame
              simp [hread, complaint]
      | ok expression =>
          obtain ⟨_, _, _, _, _, _, rfl⟩ := Expression.read_eq_ok.mp hcompile
          rw [hcompile] at hsame
          cases hread : Expression.read (partsSource options parts) {} with
          | error fault => simp [hread, Except.map] at hsame
          | ok _ => simp [hread]

/-- A route with an error in its pattern is checked with just that error. -/
theorem check_of_error {error : CompileError}
    (h : Matcher.ofPath options (.pattern route.pattern) = .error error)
    (hreported : route.Reported options) :
    route.check options = .ok (.inr (route.complaint error)) := by
  rw [check_eq, h]
  cases error with
  | pattern source error => rfl
  | expression fault => exact if_pos (hreported fault h)

/-- The text of the expression that a route is matched by, if there is one. -/
def source? (options : Options) (route : Route) : Option String :=
  (Matcher.ofPath options (.pattern route.pattern)).toOption.map (·.expression.source)

/-- Which text that is. -/
theorem source?_eq_some {source : String} :
    route.source? options = some source ↔ route.CompilesTo options source := by
  simp [source?, CompilesTo, Option.map_eq_some_iff, toOption_eq_some]

/-- The first route that is matched by an expression with a given text. -/
def first? (options : Options) (routes : List Route) (source : String) : Option Route :=
  routes.find? fun route => route.source? options == some source

/-- The problem of a route that stands below others. -/
def problem? (options : Options) (earlier : List Route) (route : Route) : Option Problem :=
  match Matcher.ofPath options (.pattern route.pattern) with
  | .error error => some (route.complaint error)
  | .ok matcher => (first? options earlier matcher.expression.source).map route.duplicate

end Route

/-- The problems of routes that stand below others. -/
def routeProblems (options : Options) (earlier : List Route) : List Route → List Problem
  | [] => []
  | route :: rest =>
      (route.problem? options earlier).toList ++ routeProblems options (earlier ++ [route]) rest

/-! ## One pass -/

/-- The expressions met so far are those of the routes so far, each with the first route that has
it. -/
def Recalls (options : Options) (earlier : List Route) (seen : List (String × Route)) : Prop :=
  ∀ source, seen.lookup source = Route.first? options earlier source

namespace Recalls

variable {earlier : List Route} {seen : List (String × Route)}

/-- A route without an expression is not met. -/
theorem skip (h : Recalls options earlier seen) (hroute : route.source? options = none) :
    Recalls options (earlier ++ [route]) seen := by
  intro source
  rw [h, Route.first?, Route.first?, List.find?_append]
  simp [hroute]

/-- A route with an expression that has been met is not the first one with it. -/
theorem again (h : Recalls options earlier seen) {source : String} {first : Route}
    (hroute : route.source? options = some source) (hseen : seen.lookup source = some first) :
    Recalls options (earlier ++ [route]) seen := by
  intro other
  rw [h, Route.first?, Route.first?, List.find?_append]
  by_cases hother : source = other
  · subst hother
    rw [h, Route.first?] at hseen
    simp [hseen]
  · simp [hroute, hother]

/-- A route with another expression is met. -/
theorem meet (h : Recalls options earlier seen) {source : String}
    (hroute : route.source? options = some source) (hseen : seen.lookup source = none) :
    Recalls options (earlier ++ [route]) (seen ++ [(source, route)]) := by
  intro other
  rw [Route.first?, List.find?_append, ← Route.first?, ← h, List.lookup_append]
  by_cases hother : source = other
  · subst hother
    simp [hroute, hseen]
  · have hbeq : (other == source) = false := beq_eq_false_iff_ne.mpr fun h => hother h.symm
    simp [hroute, hother, List.lookup_cons, hbeq]

end Recalls

/-- The pass finds the problem of each route. -/
theorem problemsFrom_eq {earlier routes : List Route} {seen : List (String × Route)}
    (hseen : Recalls options earlier seen) (hreported : ∀ route ∈ routes, route.Reported options) :
    problemsFrom options seen routes = .ok (routeProblems options earlier routes) := by
  induction routes generalizing earlier seen with
  | nil => rfl
  | cons route rest ih =>
      obtain ⟨hroute, hrest⟩ := List.forall_mem_cons.mp hreported
      rw [problemsFrom, routeProblems, Route.problem?]
      cases hmatcher : Matcher.ofPath options (.pattern route.pattern) with
      | error error =>
          have hnone : route.source? options = none := by
            simp [Route.source?, hmatcher, Except.toOption]
          rw [Route.check_of_error hmatcher hroute]
          simp [bind, Except.bind, ih (hseen.skip hnone) hrest, pure, Except.pure]
      | ok matcher =>
          have hcompiles : route.CompilesTo options matcher.expression.source :=
            ⟨matcher, hmatcher, rfl⟩
          have hsome := Route.source?_eq_some.mpr hcompiles
          rw [Route.check_eq, hmatcher]
          dsimp only
          rw [← hseen matcher.expression.source]
          cases hlookup : seen.lookup matcher.expression.source with
          | none => simp [bind, Except.bind, ih (hseen.meet hsome hlookup) hrest, hlookup]
          | some first =>
              simp [bind, Except.bind, ih (hseen.again hsome hlookup) hrest, hlookup, pure,
                Except.pure]

/-! ## Lines -/

/-- The lines of routes go up, from a given one on. -/
theorem lines_routesFrom (line : Nat) (texts : List (List Char)) :
    ((routesFrom line texts).map Route.line).Pairwise (· < ·) ∧
      ∀ route ∈ routesFrom line texts, line ≤ route.line := by
  induction texts generalizing line with
  | nil => exact ⟨.nil, by simp [routesFrom]⟩
  | cons text rest ih =>
      obtain ⟨hpairwise, hleast⟩ := ih (line + 1)
      have hrest : ∀ route ∈ routesFrom (line + 1) rest, line ≤ route.line := fun route hroute =>
        Nat.le_of_succ_le (hleast route hroute)
      have hline : ∀ route ∈ Route.ofLine? line text, route.line = line := by
        intro route hroute
        unfold Route.ofLine? at hroute
        split at hroute <;> cases hroute
        rfl
      rw [routesFrom]
      cases hfound : Route.ofLine? line text with
      | none => exact ⟨hpairwise, hrest⟩
      | some found =>
          have hfound := hline found hfound
          refine ⟨List.pairwise_cons.mpr ⟨?_, hpairwise⟩, List.forall_mem_cons.mpr ⟨?_, hrest⟩⟩
          · intro later hlater
            obtain ⟨route, hroute, rfl⟩ := List.mem_map.mp hlater
            have hroute := hleast route hroute
            omega
          · exact Nat.le_of_eq hfound.symm

/-- A problem stands on the line of its route. -/
theorem line_of_problem? {earlier : List Route} {problem : Problem}
    (h : route.problem? options earlier = some problem) : problem.line = route.line := by
  unfold Route.problem? at h
  split at h
  · next error _ =>
    cases error <;> cases h <;> rfl
  · obtain ⟨first, _, rfl⟩ := Option.map_eq_some_iff.mp h
    rfl

/-- The lines of problems are among those of their routes, in the same order. -/
theorem lines_routeProblems (earlier routes : List Route) :
    ((routeProblems options earlier routes).map Problem.line).Sublist (routes.map Route.line) := by
  induction routes generalizing earlier with
  | nil => exact .slnil
  | cons route rest ih =>
      rw [routeProblems]
      cases hproblem : route.problem? options earlier with
      | none => exact (ih _).cons _
      | some problem =>
          rw [List.map_cons, ← line_of_problem? hproblem]
          exact (ih _).cons_cons _

/-- The problems of routes in a row. -/
theorem routeProblems_append (earlier first second : List Route) :
    routeProblems options earlier (first ++ second) =
      routeProblems options earlier first ++ routeProblems options (earlier ++ first) second := by
  induction first generalizing earlier with
  | nil => simp [routeProblems]
  | cons route rest ih => simp [routeProblems, ih]

/-- Problems stand on the lines of their routes. -/
theorem line_mem_of_routeProblems {earlier routes : List Route} {problem : Problem}
    (h : problem ∈ routeProblems options earlier routes) :
    ∃ route ∈ routes, route.line = problem.line :=
  List.mem_map.mp ((lines_routeProblems earlier routes).subset (List.mem_map_of_mem h))

/-- The problems on the line of a route are that of the route, if it has one. -/
theorem mem_routeProblems {earlier later : List Route} {problem : Problem}
    (hlines : ((earlier ++ route :: later).map Route.line).Pairwise (· < ·)) :
    (problem ∈ routeProblems options [] (earlier ++ route :: later) ∧
      problem.line = route.line) ↔ route.problem? options earlier = some problem := by
  rw [List.map_append, List.map_cons, List.pairwise_append] at hlines
  obtain ⟨_, hlater, hearlier⟩ := hlines
  have hlater := (List.pairwise_cons.mp hlater).1
  rw [routeProblems_append, routeProblems, List.nil_append]
  constructor
  · rintro ⟨hmem, hline⟩
    rcases List.mem_append.mp hmem with hmem | hmem
    · obtain ⟨other, hother, hsame⟩ := line_mem_of_routeProblems hmem
      have hless := hearlier _ (List.mem_map_of_mem hother) _ List.mem_cons_self
      omega
    rcases List.mem_append.mp hmem with hmem | hmem
    · exact Option.mem_toList.mp hmem
    · obtain ⟨other, hother, hsame⟩ := line_mem_of_routeProblems hmem
      have hless := hlater _ (List.mem_map_of_mem hother)
      omega
  · intro h
    exact ⟨by simp [h], line_of_problem? h⟩

/-! ## Tables -/

/-- Problems are just those that the routes of a table deserve: each stands on the line of one, in
their order, an error where the pattern cannot be compiled, and a warning where an earlier route is
matched by the same expression, about the first of those. -/
structure ProblemsMatch (options : Options) (routes : List Route) (problems : List Problem) :
    Prop where
  increasing : (problems.map Problem.line).Pairwise (· < ·)
  placed : ∀ problem ∈ problems, ∃ route ∈ routes, route.line = problem.line
  error_iff : ∀ route ∈ routes,
    ((∃ problem ∈ problems, problem.line = route.line ∧ problem.severity = .error) ↔
      ∃ error, Matcher.ofPath options (.pattern route.pattern) = .error error)
  complaint : ∀ route ∈ routes, ∀ error,
    Matcher.ofPath options (.pattern route.pattern) = .error error →
      route.complaint error ∈ problems
  warning_iff : ∀ earlier route later, routes = earlier ++ route :: later →
    ((∃ problem ∈ problems, problem.line = route.line ∧ problem.severity = .warning) ↔
      ∃ source, route.CompilesTo options source ∧
        ∃ other ∈ earlier, other.CompilesTo options source)
  duplicate : ∀ front first middle route later source,
    routes = front ++ first :: middle ++ route :: later → route.CompilesTo options source →
      first.CompilesTo options source → (∀ other ∈ front, ¬ other.CompilesTo options source) →
        route.duplicate first ∈ problems

/-- A route that cannot be compiled has an error, and any other has none. -/
theorem error_of_problem? {earlier : List Route} :
    (∃ problem, route.problem? options earlier = some problem ∧ problem.severity = .error) ↔
      ∃ error, Matcher.ofPath options (.pattern route.pattern) = .error error := by
  unfold Route.problem?
  cases Matcher.ofPath options (.pattern route.pattern) with
  | error error =>
      refine iff_of_true ⟨_, rfl, ?_⟩ ⟨error, rfl⟩
      cases error <;> rfl
  | ok matcher =>
      refine iff_of_false ?_ (by simp)
      rintro ⟨problem, hproblem, hseverity⟩
      obtain ⟨first, _, rfl⟩ := Option.map_eq_some_iff.mp hproblem
      cases hseverity

/-- A route has a warning if an earlier one is matched by the same expression, and only then. -/
theorem warning_of_problem? {earlier : List Route} :
    (∃ problem, route.problem? options earlier = some problem ∧ problem.severity = .warning) ↔
      ∃ source, route.CompilesTo options source ∧
        ∃ other ∈ earlier, other.CompilesTo options source := by
  unfold Route.problem?
  constructor
  · rintro ⟨problem, hproblem, hseverity⟩
    split at hproblem
    · next error _ =>
      cases hproblem
      cases error <;> cases hseverity
    · next matcher hmatcher =>
      obtain ⟨first, hfirst, _⟩ := Option.map_eq_some_iff.mp hproblem
      have hsame := List.find?_some hfirst
      exact ⟨_, ⟨matcher, hmatcher, rfl⟩, first, List.mem_of_find?_eq_some hfirst,
        Route.source?_eq_some.mp (eq_of_beq hsame)⟩
  · rintro ⟨source, ⟨matcher, hmatcher, rfl⟩, other, hother, hcompiles⟩
    have hsome : (Route.first? options earlier matcher.expression.source).isSome = true :=
      List.find?_isSome.mpr ⟨other, hother, beq_iff_eq.mpr (Route.source?_eq_some.mpr hcompiles)⟩
    obtain ⟨first, hfirst⟩ := Option.isSome_iff_exists.mp hsome
    exact ⟨route.duplicate first, by rw [hmatcher]; simp [hfirst], rfl⟩

/-- The warning is about the first of the routes that are matched by the same expression. -/
theorem duplicate_of_problem? {front middle : List Route} {first : Route} {source : String}
    (hroute : route.CompilesTo options source) (hfirst : first.CompilesTo options source)
    (hfront : ∀ other ∈ front, ¬ other.CompilesTo options source) :
    route.problem? options (front ++ first :: middle) = some (route.duplicate first) := by
  obtain ⟨matcher, hmatcher, rfl⟩ := hroute
  have hfound : Route.first? options (front ++ first :: middle) matcher.expression.source =
      some first := by
    refine List.find?_eq_some_iff_append.mpr ⟨?_, front, middle, rfl, fun other hother => ?_⟩
    · exact beq_iff_eq.mpr (Route.source?_eq_some.mpr hfirst)
    · simpa using fun h => hfront other hother (Route.source?_eq_some.mp h)
  simp [Route.problem?, hmatcher, hfound]

/-- What stands on the line of a route is the problem that it deserves, if it deserves one. -/
theorem exists_routeProblems {routes earlier later : List Route} {P : Problem → Prop}
    (hlines : (routes.map Route.line).Pairwise (· < ·))
    (hroutes : routes = earlier ++ route :: later) :
    (∃ problem ∈ routeProblems options [] routes, problem.line = route.line ∧ P problem) ↔
      ∃ problem, route.problem? options earlier = some problem ∧ P problem := by
  subst hroutes
  refine exists_congr fun problem => ?_
  rw [← and_assoc, mem_routeProblems hlines]

/-- The problems that routes deserve, where their lines go up. -/
theorem problemsMatch_routeProblems {routes : List Route}
    (hlines : (routes.map Route.line).Pairwise (· < ·)) :
    ProblemsMatch options routes (routeProblems options [] routes) where
  increasing := hlines.sublist (lines_routeProblems [] routes)
  placed _ := line_mem_of_routeProblems
  error_iff route hroute := by
    obtain ⟨earlier, later, hroutes⟩ := List.append_of_mem hroute
    exact (exists_routeProblems hlines hroutes).trans error_of_problem?
  complaint route hroute error herror := by
    obtain ⟨earlier, later, rfl⟩ := List.append_of_mem hroute
    exact ((mem_routeProblems hlines).mpr (by simp [Route.problem?, herror])).1
  warning_iff earlier route later hroutes :=
    (exists_routeProblems hlines hroutes).trans warning_of_problem?
  duplicate front first middle route later source hroutes hroute hfirst hfront := by
    subst hroutes
    exact ((mem_routeProblems hlines).mpr (duplicate_of_problem? hroute hfirst hfront)).1

/-- If every error in the pattern of a route is one that is reported, then checking a table tells
exactly the problems that its routes deserve. -/
theorem checkRoutes_exact {text : String}
    (hreported : ∀ route ∈ readRoutes text, route.Reported options) :
    ∃ problems, checkRoutes options text = .ok problems ∧
      ProblemsMatch options (readRoutes text) problems :=
  ⟨_, problemsFrom_eq (fun _ => rfl) hreported,
    problemsMatch_routeProblems (lines_routesFrom 1 _).1⟩

/-- A table with errors of both kinds, and with a route that two later ones repeat. -/
theorem checkRoutes_exact_mixed :
    let text := "# routes\n/a/:x\n/:\n  /a/:y\n/:id([a-)\n/a/:z\n"
    (∀ route ∈ readRoutes text, route.Reported {}) ∧
      ∃ problems, checkRoutes {} text = .ok problems ∧ ProblemsMatch {} (readRoutes text) problems ∧
        problems.map Problem.line = [3, 4, 5, 6] := by
  intro text
  have hreported : ∀ route ∈ readRoutes text, route.Reported {} := by decide +kernel
  obtain ⟨problems, hproblems, hexact⟩ := checkRoutes_exact hreported
  have hlines : ((checkRoutes {} text).toOption.map (·.map Problem.line)) = some [3, 4, 5, 6] := by
    decide +kernel
  rw [hproblems] at hlines
  exact ⟨hreported, problems, hproblems, hexact, Option.some.inj hlines⟩

/-- A look-behind may look back too far for any expression. That is not an error in the pattern, and
it is not that a repetition is too large, but the checking of a table ends with it. -/
theorem checkRoutes_behind :
    let text := "((?<=x\x7b2147483648\x7d))"
    (∀ route ∈ readRoutes text, Matcher.ofPath {} (.pattern route.pattern) ≠
      .error (.expression .repetitionTooLarge)) ∧
    ∀ problems, checkRoutes {} text ≠ .ok problems := by
  intro text
  constructor
  · have hfault : ∀ route ∈ readRoutes text,
        (match Matcher.ofPath {} (.pattern route.pattern) with
          | .error (.expression fault) => some fault
          | _ => none) = some .behindTooFar := by decide +kernel
    intro route hroute h
    have hfault := hfault route hroute
    rw [h] at hfault
    cases hfault
  · have hnone : (checkRoutes {} text).toOption.isNone = true := by decide +kernel
    intro problems h
    simp [h, Except.toOption] at hnone

end RoutePattern
