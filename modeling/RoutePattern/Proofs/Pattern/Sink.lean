import RoutePattern.Path
import RoutePattern.Proofs.Expr.Running

/-!
# What compiling a path puts into a sink

Keys are only ever appended to a sink, and nothing that is compiled depends on it. `Accounts` tells
for which leaves of a path the keys have been appended when its compilation ends, with success or
with an error. `Path.compileInto_spec` is what one call does, by induction over the path;
`Path.compileInto_appends` is the main result.
-/

namespace RoutePattern

variable {options : Options} {α β : Type}

/-! ## Sinks -/

namespace KeySink

@[simp] theorem append_nil (sink : KeySink) : sink.append [] = sink := by
  cases sink <;> simp [append]

@[simp] theorem append_append (sink : KeySink) (first second : List Key) :
    (sink.append first).append second = sink.append (first ++ second) := by
  cases sink <;> simp [append]

end KeySink

namespace Path

mutual

/-- The patterns and expressions of a path, from left to right. -/
def leaves : Path → List Path
  | pattern source => [pattern source]
  | expression e => [expression e]
  | anyOf paths => allLeaves paths

/-- The patterns and expressions of some paths, from left to right. -/
def allLeaves : List Path → List Path
  | [] => []
  | path :: rest => path.leaves ++ allLeaves rest

end

/-- The keys that a path appends to an empty sink. -/
def ownKeys (options : Options) (path : Path) : List Key :=
  (path.compileInto options (some [])).2.getD []

/-- A path can be compiled. -/
def Compiles (options : Options) (path : Path) : Prop :=
  ∃ expression, (path.compileInto options none).1 = .ok expression

/-! ## The leaves that are accounted for -/

/-- The leaves whose keys a sink has got when the compilation of leaves ends with a result. On
success these are all of them. If a pattern cannot be read, they are those in front of it. -/
structure Accounts (options : Options) (result : Except CompileError α) (leaves front : List Path) :
    Prop where
  initial : front <+: leaves
  complete : ∀ a, result = .ok a → front = leaves
  stopped : ∀ source error, result = .error (.pattern source error) →
    ∃ behind, leaves = front ++ pattern source :: behind ∧ parse options source = .error error
  compiled : (∀ fault, result ≠ .error (.expression fault)) → ∀ leaf ∈ front, leaf.Compiles options

namespace Accounts

/-- No leaves are all accounted for. -/
theorem nil (a : α) : Accounts options (.ok a) [] [] :=
  ⟨List.nil_prefix, fun _ _ => rfl, nofun, by simp⟩

/-- After an error the leaves behind are not looked at. -/
theorem more {error : CompileError} {leaves front : List Path}
    (h : Accounts options (.error error : Except CompileError α) leaves front)
    (others : List Path) :
    Accounts options (.error error : Except CompileError β) (leaves ++ others) front where
  initial := h.initial.trans (List.prefix_append leaves others)
  complete := nofun
  stopped source fault herror := by
    obtain ⟨behind, hleaves, hparse⟩ := h.stopped source fault (by cases herror; rfl)
    exact ⟨behind ++ others, by simp [hleaves], hparse⟩
  compiled hno := h.compiled fun fault herror => hno fault (by cases herror; rfl)

/-- Leaves behind others that have all been compiled. -/
theorem append {a : α} {result : Except CompileError β} {leaves front others further : List Path}
    (h : Accounts options (.ok a) leaves front) (hothers : Accounts options result others further) :
    Accounts options result (leaves ++ others) (front ++ further) := by
  have hfront := h.complete a rfl
  subst hfront
  exact {
    initial := (List.prefix_append_right_inj front).mpr hothers.initial
    complete := fun b hb => by rw [hothers.complete b hb]
    stopped := fun source error herror => by
      obtain ⟨behind, hleaves, hparse⟩ := hothers.stopped source error herror
      exact ⟨behind, by simp [hleaves], hparse⟩
    compiled := fun hno leaf hleaf => by
      rcases List.mem_append.mp hleaf with hleaf | hleaf
      · exact h.compiled nofun leaf hleaf
      · exact hothers.compiled hno leaf hleaf }

/-- Something more that has nothing to do with patterns is made of what has been compiled. -/
theorem bind {result : Except CompileError α} {leaves front : List Path}
    (h : Accounts options result leaves front) {next : α → Except CompileError β}
    (hnext : ∀ a source error, next a ≠ .error (.pattern source error)) :
    Accounts options (result.bind next) leaves front := by
  cases result with
  | error error =>
      have herror : Accounts options (.error error : Except CompileError β) (leaves ++ []) front :=
        h.more []
      rwa [List.append_nil] at herror
  | ok a =>
      exact {
        initial := h.initial
        complete := fun _ _ => h.complete a rfl
        stopped := fun source error herror => absurd herror (hnext a source error)
        compiled := fun _ => h.compiled nofun }

/-- What comes out may be put to use. -/
theorem map {result : Except CompileError α} {leaves front : List Path}
    (h : Accounts options result leaves front) (use : α → β) :
    Accounts options (result.map use) leaves front := by
  have hbind := h.bind fun a source error =>
    (nofun : (.ok (use a) : Except CompileError β) ≠ .error (.pattern source error))
  cases result <;> exact hbind

end Accounts

/-- The expression for a choice fails for no pattern. -/
theorem union_ne_pattern (options : Options) (sources : List String) (source : String)
    (error : PatternError) : union options sources ≠ .error (.pattern source error) := by
  unfold union
  cases Expression.read ("(?:" ++ "|".intercalate sources ++ ")") options.flags <;> simp

/-! ## What one call does -/

/-- What compiling a pattern does to a sink. -/
theorem compilePatternInto_spec (options : Options) (source : String) : ∃ result front,
    (∀ sink, (pattern source).compileInto options sink =
      (result, sink.append (front.flatMap (ownKeys options)))) ∧
    Accounts options result [pattern source] front := by
  cases hparse : parse options source with
  | error error =>
      refine ⟨.error (.pattern source error), [], fun sink => ?_, List.nil_prefix, nofun, ?_, ?_⟩
      · simp [compileInto, compilePatternInto, hparse]
      · rintro source' error' ⟨⟩
        exact ⟨[], rfl, hparse⟩
      · simp
  | ok parts =>
      have hkeys : ownKeys options (pattern source) = capturingKeys parts := by
        simp [ownKeys, compileInto, compilePatternInto, hparse, KeySink.append]
      refine ⟨(compileParts options parts).mapError .expression, [pattern source], fun sink => ?_,
        List.prefix_rfl, fun _ _ => rfl, ?_, ?_⟩
      · simp [compileInto, compilePatternInto, hparse, hkeys]
      · cases compileParts options parts <;> simp
      · intro hno leaf hleaf
        obtain rfl := List.mem_singleton.mp hleaf
        cases hcompile : compileParts options parts with
        | error fault => exact absurd (by rw [hcompile]; rfl) (hno fault)
        | ok e => exact ⟨e, by simp [compileInto, compilePatternInto, hparse, hcompile]⟩

mutual

/-- What compiling a path does to a sink: the result does not depend on it, and it gets the keys of
the leaves that are accounted for. -/
theorem compileInto_spec (options : Options) : ∀ path : Path, ∃ result front,
    (∀ sink, path.compileInto options sink =
      (result, sink.append (front.flatMap (ownKeys options)))) ∧
    Accounts options result path.leaves front
  | pattern source => compilePatternInto_spec options source
  | expression e => by
      have hkeys : ownKeys options (expression e) = e.keys := by
        simp [ownKeys, compileInto, KeySink.append]
      refine ⟨.ok e, [expression e], fun sink => by simp [compileInto, hkeys],
        List.prefix_rfl, fun _ _ => rfl, nofun, ?_⟩
      rintro - leaf hleaf
      obtain rfl := List.mem_singleton.mp hleaf
      exact ⟨e, by simp [compileInto]⟩
  | anyOf paths => by
      obtain ⟨sources, front, hcompile, haccounts⟩ := compileAllInto_spec options paths
      refine ⟨sources.bind (union options), front, fun sink => ?_, ?_⟩
      · simp only [compileInto, hcompile]
      · rw [leaves]
        exact haccounts.bind (union_ne_pattern options)

/-- What compiling paths one after the other does to a sink. -/
theorem compileAllInto_spec (options : Options) : ∀ paths : List Path, ∃ result front,
    (∀ sink, compileAllInto options sink paths =
      (result, sink.append (front.flatMap (ownKeys options)))) ∧
    Accounts options result (allLeaves paths) front
  | [] => ⟨.ok [], [], fun sink => by simp [compileAllInto], .nil []⟩
  | path :: rest => by
      obtain ⟨result, front, hcompile, haccounts⟩ := compileInto_spec options path
      obtain ⟨sources, further, hrest, hothers⟩ := compileAllInto_spec options rest
      rw [allLeaves]
      cases result with
      | error error =>
          exact ⟨.error error, front, fun sink => by simp only [compileAllInto, hcompile],
            haccounts.more (allLeaves rest)⟩
      | ok e =>
          refine ⟨sources.map (e.source :: ·), front ++ further, fun sink => ?_, ?_⟩
          · simp only [compileAllInto, hcompile, hrest, KeySink.append_append, List.flatMap_append]
          · exact (haccounts.append hothers).map (e.source :: ·)

end

/-! ## The sink of a caller -/

/-- The sink is only ever appended to and has no influence. The expression is the same with every
sink and with none. On success the sink gets the keys of all leaves from left to right, each of them
those that it gives by itself. If a pattern cannot be read, it gets the keys of the leaves in front of
that pattern, and no error but that one comes from any of them. In every case it gets the keys of the
leaves up to some place. -/
theorem compileInto_appends (options : Options) (path : Path) : ∃ front, front <+: path.leaves ∧
    ∀ sink : KeySink,
      (path.compileInto options sink).1 = (path.compileInto options none).1 ∧
      (path.compileInto options sink).2 = sink.append (front.flatMap (ownKeys options)) ∧
      (∀ expression, (path.compileInto options sink).1 = .ok expression →
        (path.compileInto options sink).2 =
          sink.append (path.leaves.flatMap (ownKeys options))) ∧
      ∀ source error, (path.compileInto options sink).1 = .error (.pattern source error) →
        ∃ behind, path.leaves = front ++ pattern source :: behind ∧
          parse options source = .error error ∧ ∀ leaf ∈ front, leaf.Compiles options := by
  obtain ⟨result, front, hcompile, haccounts⟩ := compileInto_spec options path
  refine ⟨front, haccounts.initial, fun sink => ?_⟩
  rw [hcompile sink, hcompile none]
  refine ⟨rfl, rfl, fun expression hok => ?_, fun source error herror => ?_⟩
  · exact congrArg (fun front => sink.append (front.flatMap (ownKeys options)))
      (haccounts.complete expression hok)
  · obtain ⟨behind, hleaves, hparse⟩ := haccounts.stopped source error herror
    refine ⟨behind, hleaves, hparse, haccounts.compiled fun fault hfault => ?_⟩
    cases herror.symm.trans hfault

/-- The keys of lists within lists go behind those that are there. If a pattern cannot be read, those
of the patterns in front of it do. -/
theorem compileInto_appends_lists :
    (∃ expression, ((anyOf [pattern "/:a", anyOf [pattern "/:b"]]).compileInto {}
        (some [{ name := .positional 0 }])).1 = .ok expression) ∧
    ((anyOf [pattern "/:a", anyOf [pattern "/:b"]]).compileInto {}
        (some [{ name := .positional 0 }])).2 =
      some ({ name := .positional 0 } :: (ownKeys {} (pattern "/:a") ++ ownKeys {} (pattern "/:b"))) ∧
    ((anyOf [pattern "/:a", anyOf [pattern "/:"]]).compileInto {} (some [])).2 =
      some (ownKeys {} (pattern "/:a")) := by
  obtain ⟨_, -, hsinks⟩ := compileInto_appends {} (anyOf [pattern "/:a", anyOf [pattern "/:b"]])
  obtain ⟨-, -, hok, -⟩ := hsinks (some [{ name := .positional 0 }])
  obtain ⟨expression, hexpression⟩ : ∃ expression, ((anyOf [pattern "/:a",
      anyOf [pattern "/:b"]]).compileInto {} (some [{ name := .positional 0 }])).1 =
        .ok expression :=
    (Option.isSome_iff_exists.mp (by decide +kernel)).imp fun _ => toOption_eq_some.mp
  refine ⟨⟨expression, hexpression⟩, ?_, ?_⟩
  · simpa [leaves, allLeaves, KeySink.append] using hok expression hexpression
  · obtain ⟨front, -, hsinks⟩ :=
      compileInto_appends {} (anyOf [pattern "/:a", anyOf [pattern "/:"]])
    obtain ⟨-, hsink, -, hstopped⟩ := hsinks (some [])
    obtain ⟨error, hresult⟩ : ∃ error, ((anyOf [pattern "/:a", anyOf [pattern "/:"]]).compileInto {}
        (some [])).1 = .error (.pattern "/:" error) := by
      have hfirst : ((pattern "/:a").compileInto {} (some [])).1.toOption.isSome = true := by
        decide +kernel
      have hsecond : (parse {} "/:").toOption = none := by decide +kernel
      rcases hcompile : (pattern "/:a").compileInto {} (some []) with ⟨_ | e, sink⟩
      · simp [hcompile, Except.toOption] at hfirst
      · cases hparse : parse {} "/:" with
        | ok parts => simp [hparse, Except.toOption] at hsecond
        | error error =>
            refine ⟨error, ?_⟩
            rw [compileInto, compileAllInto, hcompile]
            simp [compileInto, compileAllInto, compilePatternInto, hparse, Except.bind, Except.map]
    obtain ⟨behind, hleaves, -, -⟩ := hstopped "/:" error hresult
    have hfront : front = [pattern "/:a"] := by
      rcases front with _ | ⟨first, _ | ⟨second, further⟩⟩
      · simp [leaves, allLeaves] at hleaves
      · simp only [leaves, allLeaves, List.append_nil, List.cons_append, List.nil_append,
          List.cons.injEq] at hleaves
        rw [hleaves.1]
      · simp [leaves, allLeaves] at hleaves
    simpa [hfront, KeySink.append] using hsink

end Path

end RoutePattern
