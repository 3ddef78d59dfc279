import RoutePattern.Proofs.Expr.Vacancy
import RoutePattern.Proofs.Pattern.Alternative

/-!
# Patterns in lists within lists

A path that is made of patterns is compiled to one expression with all their groups. `Merged` says
what that expression stands for if no list is empty: the patterns of the path in a row, each behind
the groups of those in front of it, of which the first one that matches counts. Lists within lists do
not matter then, only the patterns from left to right do. An empty list anywhere makes the expression
vacant, so it matches anything. `Path.OfPatterns.compiled` is the main result.
-/

namespace RoutePattern

open RoutePattern.Expr

variable {options : Options}

/-! ## The patterns of a path -/

namespace Path

mutual

/-- The patterns of a path, from left to right. -/
def sources : Path → List String
  | .pattern source => [source]
  | .expression _ => []
  | .anyOf paths => allSources paths

/-- The patterns of some paths, from left to right. -/
def allSources : List Path → List String
  | [] => []
  | path :: rest => path.sources ++ allSources rest

end

mutual

/-- A path is a pattern, or it is made of such paths. -/
def OfPatterns : Path → Prop
  | .pattern _ => True
  | .expression _ => False
  | .anyOf paths => AllOfPatterns paths

/-- Every one of some paths is made of patterns. -/
def AllOfPatterns : List Path → Prop
  | [] => True
  | path :: rest => path.OfPatterns ∧ AllOfPatterns rest

end

mutual

/-- Whether a path is an empty list, or has one in it. -/
def hasEmpty : Path → Bool
  | .pattern _ => false
  | .expression _ => false
  | .anyOf paths => paths.isEmpty || anyHasEmpty paths

/-- Whether any of some paths is an empty list, or has one in it. -/
def anyHasEmpty : List Path → Bool
  | [] => false
  | path :: rest => path.hasEmpty || anyHasEmpty rest

end

mutual

/-- A path is a pattern, or it is made of such paths and not empty. -/
def Nested : Path → Prop
  | .pattern _ => True
  | .expression _ => False
  | .anyOf paths => paths ≠ [] ∧ AllNested paths

/-- Every one of some paths is made of patterns and has no empty list in it. -/
def AllNested : List Path → Prop
  | [] => True
  | path :: rest => path.Nested ∧ AllNested rest

end

mutual

/-- A path is made of lists that are not empty if it is made of patterns and has no empty list. -/
theorem nested_iff : ∀ {path : Path}, path.Nested ↔ path.OfPatterns ∧ path.hasEmpty = false
  | .pattern _ => by simp [Nested, OfPatterns, hasEmpty]
  | .expression _ => by simp [Nested, OfPatterns]
  | .anyOf paths => by
      rw [Nested, OfPatterns, hasEmpty, allNested_iff, Bool.or_eq_false_iff,
        List.isEmpty_eq_false_iff]
      tauto

/-- Paths are made of lists that are not empty if they are made of patterns and have no empty
list. -/
theorem allNested_iff : ∀ {paths : List Path},
    AllNested paths ↔ AllOfPatterns paths ∧ anyHasEmpty paths = false
  | [] => by simp [AllNested, AllOfPatterns, anyHasEmpty]
  | path :: rest => by
      rw [AllNested, AllOfPatterns, anyHasEmpty, nested_iff, allNested_iff, Bool.or_eq_false_iff]
      tauto

end

end Path

/-- The parts of a pattern, if it can be read. -/
def partsOf (options : Options) (source : String) : List Part :=
  (parse options source).toOption.getD []

/-- A pattern can be read, and it may be put together with others. -/
def SourceBlends (options : Options) (source : String) : Prop :=
  parse options source = .ok (partsOf options source) ∧ Blends options (partsOf options source)

/-- The number of groups of some patterns. -/
def allGroups (members : List (List Part)) : Nat :=
  (members.map partsGroups).sum

/-- The expressions of some patterns, each behind the groups of those in front of it. -/
def memberItems (options : Options) (opened : Nat) : List (List Part) → List (List Expr)
  | [] => []
  | parts :: rest =>
      sourceItems options parts opened :: memberItems options (opened + partsGroups parts) rest

/-- There are as many groups as keys that capture. -/
theorem allGroups_eq (members : List (List Part)) :
    allGroups members = (members.flatMap capturingKeys).length := by
  induction members with
  | nil => rfl
  | cons parts rest ih =>
      rw [List.flatMap_cons, List.length_append, ← ih, ← partsGroups_eq]
      rfl

/-- The expressions of patterns in a row. -/
theorem memberItems_append (opened : Nat) (first second : List (List Part)) :
    memberItems options opened (first ++ second) = memberItems options opened first ++
      memberItems options (opened + allGroups first) second := by
  induction first generalizing opened with
  | nil => rfl
  | cons parts rest ih =>
      rw [List.cons_append, memberItems, ih, memberItems, List.cons_append, Nat.add_assoc]
      rfl

/-! ## Putting patterns together -/

/-- The first match from a place on, out of those of some alternatives. -/
def firstOf? (branches : List (List Expr)) (place : Place) : Option Memory :=
  branches.findSome? fun branch => (ofList branch).hit? place

/-- Expressions that stand for a choice among some patterns. -/
structure Merged (options : Options) (members : List (List Part)) (items : Nat → List Expr) :
    Prop where
  joins : ∀ opened, Alternation.Joins options.flags.fold (items opened)
  forward : ∀ opened, ∀ e ∈ items opened, e.Forward
  screened : ∀ opened, (ofList (items opened)).Screened
  hit : ∀ opened, (ofList (items opened)).hit? = firstOf? (memberItems options opened members)

/-- Alternatives that stand for a choice among some patterns. -/
structure MergedAll (options : Options) (members : List (List Part))
    (branches : Nat → List (List Expr)) : Prop where
  joins : ∀ opened, ∀ branch ∈ branches opened, Alternation.Joins options.flags.fold branch
  forward : ∀ opened, ∀ branch ∈ branches opened, ∀ e ∈ branch, e.Forward
  screened : ∀ opened, ∀ branch ∈ branches opened, (ofList branch).Screened
  hit : ∀ opened, firstOf? (branches opened) = firstOf? (memberItems options opened members)

/-- A pattern that may be put together with others stands for itself. -/
theorem Blends.merged {parts : List Part} (h : Blends options parts) :
    Merged options [parts] (sourceItems options parts) where
  joins := h.joins
  forward opened := hereditary_forward.sourceItems h.forward opened
  screened opened := screened_sourceItems h.screened opened
  hit opened := by
    funext place
    simp [firstOf?, memberItems]

/-- A choice among patterns in front of others. -/
theorem Merged.cons {first second : List (List Part)} {items : Nat → List Expr}
    {branches : Nat → List (List Expr)} (h : Merged options first items)
    (hrest : MergedAll options second branches) :
    MergedAll options (first ++ second) fun opened =>
      items opened :: branches (opened + allGroups first) where
  joins opened := List.forall_mem_cons.mpr ⟨h.joins opened, hrest.joins _⟩
  forward opened := List.forall_mem_cons.mpr ⟨h.forward opened, hrest.forward _⟩
  screened opened := List.forall_mem_cons.mpr ⟨h.screened opened, hrest.screened _⟩
  hit opened := by
    funext place
    have hsecond := congrFun (hrest.hit (opened + allGroups first)) place
    rw [firstOf?, List.findSome?_cons, h.hit, memberItems_append, firstOf?, firstOf?,
      List.findSome?_append]
    rw [firstOf?, firstOf?] at hsecond
    rw [hsecond]
    cases (memberItems options opened first).findSome? fun branch =>
      (ofList branch).hit? place <;> rfl

/-- Alternatives put together stand for a choice among their patterns. -/
theorem MergedAll.union {members : List (List Part)} {branches : Nat → List (List Expr)}
    (h : MergedAll options members branches) (hne : ∀ opened, branches opened ≠ []) :
    Merged options members fun opened =>
      Alternation.ofBranches options.flags.fold (branches opened) where
  joins opened := Alternation.joins_ofBranches (fold_ne_ascii options) (h.joins opened)
  forward opened := forward_ofBranches _ (h.forward opened)
  screened opened := screened_ofBranches (fold_ne_ascii options) (h.joins opened)
    (h.screened opened)
  hit opened := by
    rw [← h.hit opened]
    funext place
    exact Alternation.hit?_ofBranches (fold_ne_ascii options) (hne opened) (h.joins opened) place

/-- The expressions of a pattern that may be put together with others are orderly. -/
theorem Blends.orderly {parts : List Part} (h : Blends options parts) (opened : Nat) :
    ∀ e ∈ sourceItems options parts opened, e.Orderly := by
  refine hereditary_orderly.sourceItems (fun key hkey hcaptures e he => ?_) opened
  exact (key.groupfree_readItems hcaptures (h.readable.keys key hkey) e he).orderly
    (h.forward key hkey hcaptures e he)

/-! ## Compiling -/

/-- What a path made of patterns is compiled to: orderly expressions that are vacant if there is an
empty list in the path, and that stand for a choice among the patterns otherwise. -/
structure Path.Joined (options : Options) (path : Path) (items : Nat → List Expr) : Prop where
  orderly : ∀ opened, ∀ e ∈ items opened, e.Orderly
  vacant : path.hasEmpty = true → ∀ opened, Vacant (items opened)
  merged : path.hasEmpty = false → Merged options (path.sources.map (partsOf options)) items

/-- What paths made of patterns are compiled to: alternatives, one of them vacant if there is an empty
list in one of the paths. -/
structure Path.AllJoined (options : Options) (paths : List Path)
    (branches : Nat → List (List Expr)) : Prop where
  orderly : ∀ opened, ∀ branch ∈ branches opened, ∀ e ∈ branch, e.Orderly
  vacant : Path.anyHasEmpty paths = true → ∀ opened, ∃ branch ∈ branches opened, Vacant branch
  merged : Path.anyHasEmpty paths = false →
    MergedAll options ((Path.allSources paths).map (partsOf options)) branches
  length : ∀ opened, (branches opened).length = paths.length

/-- A pattern by itself. -/
theorem Path.Joined.pattern {source : String} (h : SourceBlends options source) :
    Path.Joined options (.pattern source) (sourceItems options (partsOf options source)) where
  orderly := h.2.orderly
  vacant hempty := by simp [Path.hasEmpty] at hempty
  merged _ := h.2.merged

/-- A path in front of others. -/
theorem Path.Joined.cons {path : Path} {rest : List Path} {items : Nat → List Expr}
    {branches : Nat → List (List Expr)} (h : Path.Joined options path items)
    (hrest : Path.AllJoined options rest branches) :
    Path.AllJoined options (path :: rest) fun opened => items opened ::
      branches (opened + allGroups (path.sources.map (partsOf options))) where
  orderly opened := List.forall_mem_cons.mpr ⟨h.orderly opened, hrest.orderly _⟩
  vacant hempty opened := by
    rw [Path.anyHasEmpty, Bool.or_eq_true] at hempty
    rcases hempty with hempty | hempty
    · exact ⟨_, List.mem_cons_self, h.vacant hempty opened⟩
    · obtain ⟨branch, hbranch, hvacant⟩ := hrest.vacant hempty _
      exact ⟨branch, List.mem_cons_of_mem _ hbranch, hvacant⟩
  merged hempty := by
    rw [Path.anyHasEmpty, Bool.or_eq_false_iff] at hempty
    rw [Path.allSources, List.map_append]
    exact (h.merged hempty.1).cons (hrest.merged hempty.2)
  length opened := by rw [List.length_cons, hrest.length, List.length_cons]

/-- Paths in a list. -/
theorem Path.AllJoined.anyOf {paths : List Path} {branches : Nat → List (List Expr)}
    (h : Path.AllJoined options paths branches) :
    Path.Joined options (.anyOf paths) fun opened =>
      Alternation.ofBranches options.flags.fold (branches opened) where
  orderly opened := orderly_ofBranches _ (h.orderly opened)
  vacant hempty opened := by
    rw [Path.hasEmpty, Bool.or_eq_true, List.isEmpty_iff] at hempty
    rcases hempty with rfl | hempty
    · rw [List.eq_nil_of_length_eq_zero (h.length opened)]
      exact .nothing
    · obtain ⟨branch, hbranch, hvacant⟩ := h.vacant hempty opened
      exact hvacant.ofBranches _ hbranch
  merged hempty := by
    rw [Path.hasEmpty, Bool.or_eq_false_iff, List.isEmpty_eq_false_iff] at hempty
    refine (h.merged hempty.2).union fun opened hnil => hempty.1 ?_
    exact List.eq_nil_of_length_eq_zero (by rw [← h.length opened, hnil]; rfl)

mutual

/-- A path made of patterns is compiled, and the keys of all of them are appended. -/
theorem Path.OfPatterns.compiled : ∀ {path : Path}, path.OfPatterns →
    (∀ source ∈ path.sources, SourceBlends options source) → ∀ keys, ∃ expression items,
      path.compileInto options (some keys) = (.ok expression,
        some (keys ++ (path.sources.map (partsOf options)).flatMap capturingKeys)) ∧
      Compiled options expression ((path.sources.map (partsOf options)).flatMap capturingKeys)
        items ∧
      Path.Joined options path items
  | .pattern source, _, h, keys => by
      obtain ⟨hparse, hblends⟩ := h source (by simp [Path.sources])
      obtain ⟨expression, hcompile, hcompiled⟩ := compiled_parts hblends.readable
      refine ⟨expression, _, ?_, ?_, .pattern ⟨hparse, hblends⟩⟩
      · simp only [Path.compileInto, Path.compilePatternInto, hparse, hcompile, Path.sources]
        simp [KeySink.append]
      · simpa [Path.sources] using hcompiled
  | .expression _, h, _, _ => by simp [Path.OfPatterns] at h
  | .anyOf paths, hpath, h, keys => by
      rw [Path.OfPatterns] at hpath
      rw [Path.sources] at h ⊢
      obtain ⟨sources, branches, hcompile, hcompiled, hjoined⟩ :=
        Path.AllOfPatterns.compiled hpath h keys
      obtain ⟨expression, hunion, hread⟩ := hcompiled.union
      refine ⟨expression, _, ?_, hread, hjoined.anyOf⟩
      simp only [Path.compileInto, hcompile]
      exact congrArg (·, _) hunion

/-- Paths made of patterns are compiled one after the other. -/
theorem Path.AllOfPatterns.compiled : ∀ {paths : List Path}, Path.AllOfPatterns paths →
    (∀ source ∈ Path.allSources paths, SourceBlends options source) → ∀ keys, ∃ sources branches,
      Path.compileAllInto options (some keys) paths = (.ok sources,
        some (keys ++ ((Path.allSources paths).map (partsOf options)).flatMap capturingKeys)) ∧
      CompiledAll options sources
        (((Path.allSources paths).map (partsOf options)).flatMap capturingKeys) branches ∧
      Path.AllJoined options paths branches
  | [], _, _, keys => by
      refine ⟨[], fun _ => [], by simp [Path.compileAllInto, Path.allSources], ?_, ?_⟩
      · exact ⟨fun h => absurd rfl h, by simp, fun _ => rfl, by simp [Path.allSources],
          fun _ => ⟨rfl, rfl⟩⟩
      · exact ⟨by simp, by simp [Path.anyHasEmpty],
          fun _ => ⟨by simp, by simp, by simp, fun _ => rfl⟩, fun _ => rfl⟩
  | path :: rest, hpaths, h, keys => by
      rw [Path.AllOfPatterns] at hpaths
      rw [Path.allSources] at h ⊢
      rw [List.forall_mem_append] at h
      obtain ⟨expression, items, hcompile, hcompiled, hjoined⟩ :=
        Path.OfPatterns.compiled hpaths.1 h.1 keys
      obtain ⟨sources, branches, hrest, hall, hothers⟩ :=
        Path.AllOfPatterns.compiled hpaths.2 h.2
          (keys ++ (path.sources.map (partsOf options)).flatMap capturingKeys)
      rw [List.map_append, List.flatMap_append]
      have hlists := hjoined.cons hothers
      rw [allGroups_eq] at hlists
      refine ⟨expression.source :: sources, _, ?_, hcompiled.cons hall, hlists⟩
      simp only [Path.compileAllInto, hcompile, hrest]
      rw [List.append_assoc]
      rfl

end

/-- A path made of patterns without empty lists is compiled to a choice among them. -/
theorem Path.Nested.compiled {path : Path} (hpath : path.Nested)
    (h : ∀ source ∈ path.sources, SourceBlends options source) (keys : List Key) :
    ∃ expression items,
      path.compile options keys = (.ok expression,
        keys ++ (path.sources.map (partsOf options)).flatMap capturingKeys) ∧
      Compiled options expression ((path.sources.map (partsOf options)).flatMap capturingKeys)
        items ∧
      Merged options (path.sources.map (partsOf options)) items := by
  obtain ⟨hpatterns, hempty⟩ := Path.nested_iff.mp hpath
  obtain ⟨expression, items, hcompile, hcompiled, hjoined⟩ := hpatterns.compiled h keys
  exact ⟨expression, items, Path.compile_of_compileInto hcompile, hcompiled,
    hjoined.merged hempty⟩

end RoutePattern
