import RoutePattern.Proofs.Pattern.FirstMatch
import RoutePattern.Proofs.Pattern.Relaxed

/-!
# What a path of patterns accepts

A path made of patterns accepts what one of its patterns accepts, and nothing else, unless there is an
empty list in it: the union of nothing is an expression that matches anything, where it should match
nothing. `Path.OfPatterns.run_union` is the main result.
-/

namespace RoutePattern

open RoutePattern.Expr

variable {options : Options} {matcher : Matcher} {text : String}

/-! ## Answers -/

/-- A matcher that finds something does not refuse the text. -/
theorem Matcher.run_ne_none {found : Found}
    (hsearch : matcher.expression.search text = .ok (some found)) : matcher.run text ≠ .ok none := by
  rcases Matcher.run_of_found hsearch with ⟨_, hrun⟩ | ⟨_, hrun⟩ <;> simp [hrun]

/-- A matcher with an answer that does not refuse a text matches it. -/
theorem Matcher.exists_of_ne_none (hanswers : ∃ answer, matcher.run text = .ok answer)
    (hne : matcher.run text ≠ .ok none) : ∃ result, matcher.run text = .ok (some result) := by
  obtain ⟨answer, hrun⟩ := hanswers
  cases answer with
  | none => exact absurd hrun hne
  | some result => exact ⟨result, hrun⟩

section

variable {expression : Expression} {keys : List Key} {items : Nat → List Expr}

/-- What has been compiled has its groups numbered in order. -/
theorem Compiled.numbered (h : Compiled options expression keys items) :
    expression.expr.Numbered false 0 keys.length := by
  rw [h.expr]
  exact Expression.read_numbered (h.reads.read (h.granted 0))

/-- A search for what has been compiled has an answer if it is orderly. -/
theorem Compiled.search_ok (h : Compiled options expression keys items)
    (horderly : ∀ e ∈ items 0, e.Orderly) (text : String) :
    ∃ result, expression.search text = .ok result :=
  Expression.search_ok_of_orderly h.numbered (h.expr ▸ orderly_ofList.mpr horderly) text

/-- A path with an empty list in it refuses no text. -/
theorem Path.Joined.run_ne_none {path : Path} (h : Path.Joined options path items)
    (hcompiled : Compiled options expression keys items) (hempty : path.hasEmpty = true)
    (text : String) : Matcher.run ⟨expression, keys, options⟩ text ≠ .ok none := by
  have horderly : expression.expr.Orderly := hcompiled.expr ▸ orderly_ofList.mpr (h.orderly 0)
  obtain ⟨found, hsearch, _⟩ := Expression.search_of_vacant hcompiled.expr (h.vacant hempty 0)
    hcompiled.numbered horderly text
  exact Matcher.run_ne_none hsearch

/-- A choice among patterns that does not refuse a text answers as one of them. -/
theorem Merged.exists_run_eq {members : List (List Part)} (h : Merged options members items)
    (hmembers : ∀ parts ∈ members, Blends options parts)
    (hcompiled : Compiled options expression (members.flatMap capturingKeys) items)
    (hne : Matcher.run ⟨expression, members.flatMap capturingKeys, options⟩ text ≠ .ok none) :
    ∃ leaf ∈ members.map (partsMatcher options),
      Matcher.run ⟨expression, members.flatMap capturingKeys, options⟩ text = leaf.run text := by
  have hsome : ∃ leaf ∈ members.map (partsMatcher options), leaf.begins? text ≠ none := by
    by_contra hall
    simp only [not_exists, not_and, not_not, List.forall_mem_map] at hall
    refine hne ((h.run_eq_none_iff hmembers hcompiled).mpr (List.forall_mem_map.mpr ?_))
    exact fun parts hparts => (hmembers parts hparts).run_eq_none_iff.mpr (hall parts hparts)
  obtain ⟨leaf, hfirst⟩ := Matcher.exists_isFirst hsome
  have hmem : leaf ∈ members.map (partsMatcher options) := by
    obtain ⟨front, behind, _, hsplit, _⟩ := hfirst
    rw [hsplit]
    simp
  exact ⟨leaf, hmem, h.run_eq_of_isFirst hmembers hcompiled hfirst⟩

end

/-- A path made of patterns that may be joined accepts what one of the patterns accepts and nothing
else, unless there is an empty list in it: then it accepts everything. A match of the path is one of
those of its patterns, and what cannot be decoded is all that can keep it from an answer. -/
theorem Path.OfPatterns.run_union {path : Path} (hpath : path.OfPatterns) {leaves : List Matcher}
    (hleaves : List.Forall₂ (fun source leaf =>
      Matcher.ofPath options (.pattern source) = .ok leaf) path.sources leaves)
    (hjoin : ∀ leaf ∈ leaves, leaf.Joinable) :
    ∃ matcher, Matcher.ofPath options path = .ok matcher ∧ ∀ text,
      (matcher.run text = .ok none ↔
        path.hasEmpty = false ∧ ∀ leaf ∈ leaves, leaf.run text = .ok none) ∧
      (path.hasEmpty = false → ∀ result, matcher.run text = .ok (some result) →
        ∃ leaf ∈ leaves, leaf.run text = .ok (some result)) ∧
      ((∀ captured, ∃ value, options.decode captured = .ok value) →
        ((∃ result, matcher.run text = .ok (some result)) ↔ path.hasEmpty = true ∨
          ∃ leaf ∈ leaves, ∃ result, leaf.run text = .ok (some result))) := by
  obtain ⟨hblends, rfl⟩ := blends_of_leaves hleaves hjoin
  obtain ⟨expression, items, hcompile, hcompiled, hjoined⟩ := hpath.compiled hblends []
  have hmembers : ∀ parts ∈ path.sources.map (partsOf options), Blends options parts :=
    List.forall_mem_map.mpr fun source hsource => (hblends source hsource).2
  have hmatcher : Matcher.ofPath options path = .ok ⟨expression,
      (path.sources.map (partsOf options)).flatMap capturingKeys, options⟩ :=
    Matcher.ofPath_of_compile (Path.compile_of_compileInto hcompile)
  refine ⟨_, hmatcher, fun text => ?_⟩
  have hnone : Matcher.run ⟨expression, (path.sources.map (partsOf options)).flatMap capturingKeys,
      options⟩ text = .ok none ↔ path.hasEmpty = false ∧
        ∀ leaf ∈ (path.sources.map (partsOf options)).map (partsMatcher options),
          leaf.run text = .ok none := by
    cases hempty : path.hasEmpty with
    | true => simp [hjoined.run_ne_none hcompiled hempty text]
    | false => simp only [(hjoined.merged hempty).run_eq_none_iff hmembers hcompiled, true_and]
  have hsome (hempty : path.hasEmpty = false) (result : Match)
      (hrun : Matcher.run ⟨expression, (path.sources.map (partsOf options)).flatMap capturingKeys,
        options⟩ text = .ok (some result)) :
      ∃ leaf ∈ (path.sources.map (partsOf options)).map (partsMatcher options),
        leaf.run text = .ok (some result) := by
    obtain ⟨leaf, hleaf, heq⟩ := @Merged.exists_run_eq _ text _ _ _ (hjoined.merged hempty) hmembers
      hcompiled (by simp [hrun])
    exact ⟨leaf, hleaf, heq.symm.trans hrun⟩
  refine ⟨hnone, hsome, fun hdecode => ⟨?_, fun haccepts => ?_⟩⟩
  · rintro ⟨result, hrun⟩
    cases hempty : path.hasEmpty with
    | true => exact .inl rfl
    | false =>
        obtain ⟨leaf, hleaf, hmatch⟩ := hsome hempty result hrun
        exact .inr ⟨leaf, hleaf, result, hmatch⟩
  · refine Matcher.exists_of_ne_none (Matcher.exists_run
      (hcompiled.search_ok (hjoined.orderly 0) text) hdecode) fun hrun => ?_
    obtain ⟨hempty, hall⟩ := hnone.mp hrun
    rcases haccepts with hempty' | ⟨leaf, hleaf, result, hmatch⟩
    · simp [hempty] at hempty'
    · cases (hall leaf hleaf).symm.trans hmatch

/-- Of two patterns in lists within lists the one behind accepts a text, and so does the path. With an
empty list beside it a pattern accepts a text that it refuses by itself. -/
theorem Path.OfPatterns.run_union_digits :
    (∃ matcher, Matcher.ofPath anywhere (.anyOf [.pattern "b:n(\\d+)",
        .anyOf [.pattern "a:x(\\d+)"]]) = .ok matcher ∧
      ∃ result, matcher.run "a1" = .ok (some result)) ∧
    (partsMatcher anywhere (digitsBehind "b" "n")).run "a1" = .ok none ∧
    ∃ matcher, Matcher.ofPath anywhere (.anyOf [.pattern "b:n(\\d+)", .anyOf []]) = .ok matcher ∧
      ∃ result, matcher.run "a1" = .ok (some result) := by
  obtain ⟨hfirst, hfirst'⟩ := @ofPath_digitsBehind "b:n(\\d+)" "b" "n"
    (toOption_eq_some.mp (by decide +kernel))
  obtain ⟨hsecond, hsecond'⟩ := @ofPath_digitsBehind "a:x(\\d+)" "a" "x"
    (toOption_eq_some.mp (by decide +kernel))
  have hdecode : ∀ captured, ∃ value, anywhere.decode captured = .ok value := fun _ => ⟨_, rfl⟩
  have haccepts : ∃ result, (partsMatcher anywhere (digitsBehind "a" "x")).run "a1" =
      .ok (some result) := by
    have hsome : ((partsMatcher anywhere (digitsBehind "a" "x")).run "a1").toOption.join.isSome =
        true := by
      decide +kernel
    exact (Option.isSome_iff_exists.mp hsome).imp fun _ hresult =>
      toOption_eq_some.mp (Option.join_eq_some_iff.mp hresult)
  have hrefuses : (partsMatcher anywhere (digitsBehind "b" "n")).run "a1" = .ok none := by
    have hnone : ((partsMatcher anywhere (digitsBehind "b" "n")).run "a1").toOption.map
        Option.isNone = some true := by
      decide +kernel
    obtain ⟨answer, hanswer, hempty⟩ := Option.map_eq_some_iff.mp hnone
    rw [toOption_eq_some.mp hanswer, Option.isNone_iff_eq_none.mp hempty]
  refine ⟨?_, hrefuses, ?_⟩
  · obtain ⟨matcher, hmatcher, hrun⟩ := @Path.OfPatterns.run_union anywhere
      (.anyOf [.pattern "b:n(\\d+)", .anyOf [.pattern "a:x(\\d+)"]])
      (by simp [Path.OfPatterns, Path.AllOfPatterns]) _ (.cons hfirst (.cons hsecond .nil)) (by
        simp only [List.forall_mem_cons]
        exact ⟨hfirst' (by decide +kernel), hsecond' (by decide +kernel), by simp⟩)
    exact ⟨matcher, hmatcher, ((hrun "a1").2.2 hdecode).mpr
      (.inr ⟨_, List.mem_cons_of_mem _ List.mem_cons_self, haccepts⟩)⟩
  · obtain ⟨matcher, hmatcher, hrun⟩ := @Path.OfPatterns.run_union anywhere
      (.anyOf [.pattern "b:n(\\d+)", .anyOf []])
      (by simp [Path.OfPatterns, Path.AllOfPatterns]) _ (.cons hfirst .nil) (by
        simp only [List.forall_mem_cons]
        exact ⟨hfirst' (by decide +kernel), by simp⟩)
    exact ⟨matcher, hmatcher, ((hrun "a1").2.2 hdecode).mpr (.inl (by decide))⟩

-- A path without any pattern should accept nothing.
example : Path.matched? {} (.anyOf []) "x" = some (some "") := by
  decide +kernel

end RoutePattern
