import RoutePattern.Path
import RoutePattern.Proofs.Pattern.Parse
import RoutePattern.Proofs.Pattern.Source

/-!
# Groups and keys

A compiled pattern has one capture group for each of its keys, in the order of the keys, and what is
inside the group is what was written for the key. `groups_match_keys` is the main result. It holds
for token lists and for choices among patterns, however deeply they are nested, because each
pattern is a stretch of text that reads the same wherever it stands.
-/

namespace RoutePattern

variable {options : Options}

/-! ## The groups of a pattern -/

/-- The groups of some keys, the first of which has the number after `opened`. -/
def keyGroups (options : Options) (opened : Nat) : List Key → List (Nat × Expr)
  | [] => []
  | key :: rest => (opened + 1, .ofList (key.inner options)) :: keyGroups options (opened + 1) rest

/-- There is one group for each key. -/
theorem length_keyGroups (options : Options) (opened : Nat) (keys : List Key) :
    (keyGroups options opened keys).length = keys.length := by
  induction keys generalizing opened with
  | nil => rfl
  | cons key rest ih => simp [keyGroups, ih]

/-- The groups have the numbers of their keys. -/
theorem getElem?_keyGroups {opened n : Nat} {keys : List Key} {key : Key}
    (h : keys[n]? = some key) : (keyGroups options opened keys)[n]? =
      some (opened + n + 1, .ofList (key.inner options)) := by
  induction keys generalizing opened n with
  | nil => simp at h
  | cons first rest ih =>
      cases n with
      | zero =>
          simp only [List.getElem?_cons_zero, Option.some.injEq] at h
          simp [keyGroups, h]
      | succ n =>
          rw [List.getElem?_cons_succ] at h
          rw [keyGroups, List.getElem?_cons_succ, ih h]
          simp only [Option.some.injEq, Prod.mk.injEq, and_true]
          omega

/-- The groups of keys in a row. -/
theorem keyGroups_append (opened : Nat) (first second : List Key) :
    keyGroups options opened (first ++ second) =
      keyGroups options opened first ++ keyGroups options (opened + first.length) second := by
  induction first generalizing opened with
  | nil => rfl
  | cons key rest ih =>
      simp only [List.cons_append, keyGroups, ih, List.length_cons]
      rw [Nat.add_assoc opened 1, Nat.add_comm 1]

/-- Literal text has no groups. -/
theorem capturesAll_literal (options : Options) (text : String) :
    capturesAll (options.literal text) = [] := by
  rw [capturesAll_eq_nil]
  simp only [Options.literal, literalItems, List.mem_map]
  rintro e ⟨c, _, rfl⟩
  rfl

/-- A mark keeps the groups in front of it. -/
theorem capturesAll_markItems (modifier : String) (items : List Expr) :
    capturesAll (markItems modifier items) = capturesAll items := by
  unfold markItems
  split
  · simp [Expr.captures, captures_ofList]
  split
  · simp [Expr.captures, captures_ofList]
  split
  · simp [Expr.captures, captures_ofList]
  · rfl

/-- There is no further group inside the group of a key. -/
theorem Key.capturesAll_inner {key : Key} (hcaptures : key.captures = true)
    (h : key.Readable options) : capturesAll (key.inner options) = [] := by
  have hpattern := (h.2 hcaptures).capturesAll_readItems
  unfold Key.inner
  split
  · simp [Expr.captures, captures_ofList, capturesAll_literal, hpattern]
  · exact hpattern

/-- The groups of some parts are those of their keys. -/
theorem capturesAll_partsItems {parts : List Part}
    (h : ∀ key, Part.key key ∈ parts → key.Readable options) (opened : Nat) :
    capturesAll (partsItems options opened parts) =
      keyGroups options opened (capturingKeys parts) := by
  induction parts generalizing opened with
  | nil => rfl
  | cons part rest ih =>
      have hrest := ih (fun key hkey => h key (by simp [hkey])) (opened + part.groups)
      rw [partsItems, capturesAll_append, hrest]
      cases part with
      | text literal => simp [Part.items, capturesAll_literal, capturingKeys, Part.groups]
      | key k =>
          have hmiddle : capturesAll (k.items options opened) =
              capturesAll (k.group options opened) := by
            simp [Key.items, capturesAll_markItems, capturesAll_literal]
          rw [Part.items, hmiddle]
          cases hcaptures : k.captures with
          | false => simp [Key.group, Part.groups, Key.groups, hcaptures, capturingKeys]
          | true =>
              have hinner := k.capturesAll_inner hcaptures (h k (by simp))
              simp [Key.group, Part.groups, Key.groups, hcaptures, capturingKeys, Expr.captures,
                captures_ofList, hinner, keyGroups]

/-- There are no groups in the end of a pattern. -/
theorem captures_lookFor (options : Options) {branches : List (List Expr)}
    (h : ∀ branch ∈ branches, capturesAll branch = []) :
    (options.lookFor branches).captures = [] := by
  simp only [Options.lookFor, Expr.captures, captures_ofList, Alternation.captures_ofBranches,
    List.flatMap_eq_nil_iff]
  exact h

/-- There are no groups behind the parts. -/
theorem capturesAll_ending (options : Options) (parts : List Part) :
    capturesAll (if options.anchorEnd then options.closedItems
      else options.openItems (endsDelimited options parts)) = [] := by
  have hbranches : ∀ branch ∈ options.endBranches, capturesAll branch = [] := by
    unfold Options.endBranches
    split <;> simp [Expr.captures]
  have hlook := captures_lookFor options hbranches
  have hdelimiter : ∀ branch ∈ [.char options.delimiterTest] :: options.endBranches,
      capturesAll branch = [] :=
    List.forall_mem_cons.mpr ⟨rfl, hbranches⟩
  have hlookFirst := captures_lookFor options hdelimiter
  split
  · unfold Options.closedItems
    split <;> split <;> simp [Expr.captures, hlook]
  · unfold Options.openItems
    split <;> split <;> simp [Expr.captures, captures_ofList, hlook, hlookFirst]

/-- There are no groups in front of the parts. -/
theorem capturesAll_beginning (options : Options) :
    capturesAll (if options.anchorStart then [.anchor .textStart] else []) = [] := by
  split <;> rfl

/-- The groups of a pattern are those of its keys. -/
theorem capturesAll_sourceItems {parts : List Part}
    (h : ∀ key, Part.key key ∈ parts → key.Readable options) (opened : Nat) :
    capturesAll (sourceItems options parts opened) =
      keyGroups options opened (capturingKeys parts) := by
  rw [sourceItems, capturesAll_append, capturesAll_append, capturesAll_beginning,
    capturesAll_ending, capturesAll_partsItems h opened]
  simp

/-! ## Compiled patterns -/

/-- A compiled pattern with the keys of its groups: a stretch of text that reads the same wherever
it stands, with the groups of the keys. -/
structure Compiled (options : Options) (expression : Expression) (keys : List Key)
    (items : Nat → List Expr) : Prop where
  reads : Stretch options.flags expression.source.toList keys.length items
  granted : ∀ opened, ∀ e ∈ items opened, e.Granted false
  captures : ∀ opened, capturesAll (items opened) = keyGroups options opened keys
  expr : expression.expr = .ofList (items 0)
  flags : expression.flags = options.flags
  groups : expression.groups = keys.length
  readable : ∀ key ∈ keys, key.captures = true ∧ key.Readable options

/-- The keys that capture are among the keys of the parts. -/
theorem mem_capturingKeys {parts : List Part} {key : Key} :
    key ∈ capturingKeys parts ↔ Part.key key ∈ parts ∧ key.captures = true := by
  simp only [capturingKeys, List.mem_filterMap]
  constructor
  · rintro ⟨part, hpart, h⟩
    cases part with
    | text literal => simp at h
    | key k =>
        simp only [Option.ite_none_right_eq_some, Option.some.injEq] at h
        obtain ⟨hcaptures, rfl⟩ := h
        exact ⟨hpart, hcaptures⟩
  · rintro ⟨hpart, hcaptures⟩
    exact ⟨.key key, hpart, by simp [hcaptures]⟩

/-- Parts that can be read are compiled. -/
theorem compiled_parts {parts : List Part} (h : SourceReadable options parts) :
    ∃ expression, compileParts options parts = .ok expression ∧
      Compiled options expression (capturingKeys parts) (sourceItems options parts) := by
  refine ⟨_, compileParts_eq h, ?_, granted_sourceItems h.keys, capturesAll_sourceItems h.keys,
    rfl, rfl, partsGroups_eq parts, ?_⟩
  · rw [← partsGroups_eq]
    exact h.reads
  · intro key hkey
    obtain ⟨hpart, hcaptures⟩ := mem_capturingKeys.mp hkey
    exact ⟨hcaptures, h.keys key hpart⟩

/-! ## Choices among patterns -/

/-- Compiled patterns one after the other: alternatives that fill a group. -/
structure CompiledAll (options : Options) (sources : List String) (keys : List Key)
    (branches : Nat → List (List Expr)) : Prop where
  reads : sources ≠ [] →
    Choice options.flags ("|".intercalate sources).toList keys.length branches
  granted : ∀ opened, ∀ branch ∈ branches opened, ∀ e ∈ branch, e.Granted false
  captures : ∀ opened, (branches opened).flatMap capturesAll = keyGroups options opened keys
  readable : ∀ key ∈ keys, key.captures = true ∧ key.Readable options
  empty : sources = [] → keys = [] ∧ branches = fun _ => []

/-- A compiled pattern in front of others. -/
theorem Compiled.cons {expression : Expression} {first second : List Key}
    {items : Nat → List Expr} {sources : List String} {branches : Nat → List (List Expr)}
    (h : Compiled options expression first items)
    (hrest : CompiledAll options sources second branches) :
    CompiledAll options (expression.source :: sources) (first ++ second) fun opened =>
      items opened :: branches (opened + first.length) where
  reads _ := by
    cases sources with
    | nil =>
        obtain ⟨rfl, rfl⟩ := hrest.empty rfl
        simpa using h.reads.choice
    | cons source rest =>
        have hall := h.reads.orElse rfl (hrest.reads (by simp))
        simpa using hall
  granted opened := List.forall_mem_cons.mpr ⟨h.granted opened, hrest.granted _⟩
  captures opened := by
    rw [List.flatMap_cons, h.captures, hrest.captures, keyGroups_append]
  readable key hkey := by
    rcases List.mem_append.mp hkey with hfirst | hsecond
    · exact h.readable key hfirst
    · exact hrest.readable key hsecond
  empty hempty := by simp at hempty

/-- A choice among compiled patterns is compiled. -/
theorem CompiledAll.union {sources : List String} {keys : List Key}
    {branches : Nat → List (List Expr)} (h : CompiledAll options sources keys branches) :
    ∃ expression, Path.union options sources = .ok expression ∧
      Compiled options expression keys fun opened =>
        Alternation.ofBranches options.flags.fold (branches opened) := by
  have hcontent : Content options.flags ("|".intercalate sources).toList keys.length fun opened =>
      Alternation.ofBranches options.flags.fold (branches opened) := by
    cases sources with
    | nil =>
        obtain ⟨rfl, rfl⟩ := h.empty rfl
        exact Stretch.nil.content rfl
    | cons source rest => exact (h.reads (by simp)).content rfl
  have hgranted (opened : Nat) :=
    Alternation.granted_ofBranches options.flags.fold (h.granted opened)
  have hreads : Stretch options.flags ("(?:" ++ "|".intercalate sources ++ ")").toList keys.length
      fun opened => Alternation.ofBranches options.flags.fold (branches opened) := by
    simpa [Term.items] using (hcontent.bare rfl).stretch
  have hread : Path.union options sources = .ok ⟨"(?:" ++ "|".intercalate sources ++ ")",
      options.flags, .ofList (Alternation.ofBranches options.flags.fold (branches 0)),
      keys.length⟩ := by
    rw [Path.union, hreads.read (hgranted 0)]
    rfl
  refine ⟨_, hread, hreads, hgranted, ?_, rfl, rfl, rfl, h.readable⟩
  intro opened
  rw [Alternation.captures_ofBranches, h.captures]

mutual

/-- A pattern, or patterns in lists within lists, each with keys that can be read. -/
def Path.Readable (options : Options) : Path → Prop
  | .pattern source => ∃ parts, parse options source = .ok parts ∧
      ∀ key, Part.key key ∈ parts → key.captures = true → Embeddable options.flags key.pattern
  | .expression _ => False
  | .anyOf paths => Path.AllReadable options paths

/-- Every one of some paths is made of patterns with keys that can be read. -/
def Path.AllReadable (options : Options) : List Path → Prop
  | [] => True
  | path :: rest => Path.Readable options path ∧ Path.AllReadable options rest

end

/-- Neither the delimiters nor the further ends hold a dash, which would make a range of them. -/
def Options.Dashless (options : Options) : Prop :=
  '-' ∉ options.delimiter.toList ∧ '-' ∉ options.endsWith.toList

/-- Without dashes the sets of the options can be read. -/
theorem Options.Dashless.sourceReadable (h : options.Dashless) {parts : List Part}
    (hkeys : ∀ key, Part.key key ∈ parts → key.Readable options) :
    SourceReadable options parts where
  keys := hkeys
  delimiter _ := ⟨_, readSet_plain _ _ (dashAtEnds_of_notMem h.1)⟩
  endsWith _ := ⟨_, readSet_plain _ _ (dashAtEnds_of_notMem h.2)⟩

mutual

/-- A path made of patterns is compiled, and the keys of its groups are appended. -/
theorem Path.Readable.compiled (hdash : options.Dashless) : ∀ {path : Path},
    path.Readable options → ∀ keys, ∃ expression appended items,
      path.compileInto options (some keys) = (.ok expression, some (keys ++ appended)) ∧
        Compiled options expression appended items
  | .pattern source, h, keys => by
      obtain ⟨parts, hparse, hpatterns⟩ := h
      have hmodifiers := isModifier_of_parse hparse
      obtain ⟨expression, hcompile, hcompiled⟩ := compiled_parts
        (hdash.sourceReadable fun key hkey => ⟨hmodifiers key hkey, hpatterns key hkey⟩)
      refine ⟨expression, capturingKeys parts, _, ?_, hcompiled⟩
      simp only [Path.compileInto, Path.compilePatternInto, hparse, hcompile]
      rfl
  | .expression _, h, _ => by simp [Path.Readable] at h
  | .anyOf paths, h, keys => by
      obtain ⟨sources, appended, branches, hcompile, hall⟩ :=
        Path.AllReadable.compiled hdash (Path.Readable.eq_3 options paths ▸ h) keys
      obtain ⟨expression, hunion, hcompiled⟩ := hall.union
      refine ⟨expression, appended, _, ?_, hcompiled⟩
      simp only [Path.compileInto, hcompile]
      exact congrArg (·, some (keys ++ appended)) hunion

/-- Paths made of patterns are compiled one after the other. -/
theorem Path.AllReadable.compiled (hdash : options.Dashless) : ∀ {paths : List Path},
    Path.AllReadable options paths → ∀ keys, ∃ sources appended branches,
      Path.compileAllInto options (some keys) paths = (.ok sources, some (keys ++ appended)) ∧
        CompiledAll options sources appended branches
  | [], _, keys => by
      refine ⟨[], [], fun _ => [], by simp [Path.compileAllInto], ?_⟩
      exact ⟨fun h => absurd rfl h, by simp, fun _ => rfl, by simp, fun _ => ⟨rfl, rfl⟩⟩
  | path :: rest, h, keys => by
      rw [Path.AllReadable] at h
      obtain ⟨expression, first, items, hcompile, hcompiled⟩ :=
        Path.Readable.compiled hdash h.1 keys
      obtain ⟨sources, second, branches, hrest, hall⟩ :=
        Path.AllReadable.compiled hdash h.2 (keys ++ first)
      refine ⟨expression.source :: sources, first ++ second, _, ?_, hcompiled.cons hall⟩
      simp only [Path.compileAllInto, hcompile, hrest]
      rw [List.append_assoc]
      rfl

end

/-! ## Groups and keys -/

/-- An expression has one group for each of some keys, in their order, and what is inside the group
of a key is what the text written for it says by itself. -/
structure GroupsMatch (options : Options) (expression : Expression) (keys : List Key) : Prop where
  groups : expression.groups = keys.length
  captures : expression.expr.captures.length = keys.length
  content : ∀ (n : Nat) (key : Key), keys[n]? = some key → ∃ inner,
    Expression.read (key.content options) options.flags = .ok inner ∧
      expression.expr.captures[n]? = some (n + 1, inner.expr)

/-- The groups of a compiled pattern match its keys. -/
theorem Compiled.groupsMatch {expression : Expression} {keys : List Key} {items : Nat → List Expr}
    (h : Compiled options expression keys items) : GroupsMatch options expression keys where
  groups := h.groups
  captures := by rw [h.expr, captures_ofList, h.captures, length_keyGroups]
  content n key hkey := by
    obtain ⟨hcaptures, hreadable⟩ := h.readable key (List.mem_of_getElem? hkey)
    refine ⟨_, key.read_content hcaptures hreadable, ?_⟩
    rw [h.expr, captures_ofList, h.captures, getElem?_keyGroups hkey, Nat.zero_add]

/-- Capture groups and keys line up, both for a list of parts and for patterns in lists within
lists. -/
theorem groups_match_keys (options : Options) (hdash : options.Dashless) :
    (∀ parts, (∀ key, Part.key key ∈ parts → key.Readable options) →
      ∃ expression, compileParts options parts = .ok expression ∧
        GroupsMatch options expression (capturingKeys parts)) ∧
    ∀ (path : Path) (keys : List Key), path.Readable options →
      ∃ expression appended,
        path.compile options keys = (.ok expression, keys ++ appended) ∧
          GroupsMatch options expression appended := by
  constructor
  · intro parts hkeys
    obtain ⟨expression, hcompile, hcompiled⟩ := compiled_parts (hdash.sourceReadable hkeys)
    exact ⟨expression, hcompile, hcompiled.groupsMatch⟩
  · intro path keys hpath
    obtain ⟨expression, appended, items, hcompile, hcompiled⟩ := hpath.compiled hdash keys
    exact ⟨expression, appended, Path.compile_of_compileInto hcompile, hcompiled.groupsMatch⟩

/-- The groups and keys of a list with a repeated key, and of patterns in a list within a list. -/
theorem groups_match_keys_nested :
    (∃ expression, compileParts {} [.text "/a", .key
        { name := .named "b", before := "/", after := "|", pattern := "x+|[)]", modifier := "*" }] =
          .ok expression ∧
      GroupsMatch {} expression
        [{ name := .named "b", before := "/", after := "|", pattern := "x+|[)]", modifier := "*" }]) ∧
    ∃ expression appended,
      Path.compile {} [] (.anyOf [.pattern "/:a(\\d+)", .anyOf [.pattern "(x)"]]) =
        (.ok expression, appended) ∧ GroupsMatch {} expression appended := by
  obtain ⟨hparts, hpaths⟩ := groups_match_keys {} ⟨by decide, by decide⟩
  refine ⟨hparts _ ?_, hpaths _ [] ⟨?_, ?_, trivial⟩⟩
  · intro key hkey
    simp only [List.mem_cons, reduceCtorEq, Part.key.injEq, List.not_mem_nil, or_false,
      false_or] at hkey
    subst hkey
    decide +kernel
  · refine ⟨[.key { name := .named "a", before := "/", pattern := "\\d+" }],
      toOption_eq_some.mp (by decide +kernel), ?_⟩
    simp only [List.mem_singleton, Part.key.injEq, forall_eq]
    decide +kernel
  · refine ⟨⟨[.key { name := .positional 0, pattern := "x" }],
      toOption_eq_some.mp (by decide +kernel), ?_⟩, trivial⟩
    simp only [List.mem_singleton, Part.key.injEq, forall_eq]
    decide +kernel

end RoutePattern
