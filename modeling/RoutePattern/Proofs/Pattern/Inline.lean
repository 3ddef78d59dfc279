import RoutePattern.Proofs.Expr.Named
import RoutePattern.Proofs.Pattern.Groups
import RoutePattern.Proofs.Pattern.Readable

/-!
# Groups inside the expressions of keys

The scan of a pattern takes an opening parenthesis inside an expression only with a question mark
behind it, whatever the parentheses are in the expression: those of groups, of a set or of a
comment. What is opened there captures nothing, unless it is a named group, which the scan lets
pass. `groups_of_inline` is the main result: the groups inside an expression are among its namings,
and without any a pattern has as many groups as keys.
-/

namespace RoutePattern

variable {options : Options}

/-- A key has no expression of its own, or one that can be read by itself and names no group. -/
def Key.Unnaming (options : Options) (key : Key) : Prop :=
  key.pattern = defaultPattern options.delimiter ∨
    (∃ expression, Expression.read key.pattern options.flags = .ok expression) ∧
      namings (Piece.ofText key.pattern.toList) = 0

/-- An expression that a pattern can hold has no groups but those that are named in it. -/
theorem Lexable.groups_le {pattern : String} (h : Lexable pattern) {flags : Flags}
    {expression : Expression} (hread : Expression.read pattern flags = .ok expression) :
    expression.groups ≤ namings (Piece.ofText pattern.toList) :=
  have ⟨_, _, hbalanced⟩ := lexable_iff.mp h
  Expression.groups_le_namings hbalanced.guarded hread

/-- A key that names no group inside its expression stands alone. -/
theorem Key.Unnaming.standsAlone {key : Key} (h : key.Unnaming options)
    (hlexable : Lexable key.pattern) : key.StandsAlone options := by
  rcases h with hstandard | ⟨⟨expression, hread⟩, hnone⟩
  · exact .inl hstandard
  · have hgroups := hlexable.groups_le hread
    exact .inr ⟨expression, hread, by omega⟩

/-- Where the keys stand alone, a pattern that is compiled has one group for each of them. -/
theorem groups_of_compile {source : String} {parts : List Part}
    (hparse : parse options source = .ok parts)
    (hkeys : ∀ key ∈ capturingKeys parts, key.StandsAlone options) {expression : Expression}
    {keys : List Key} (h : Path.compile options [] (.pattern source) = (.ok expression, keys)) :
    keys = capturingKeys parts ∧ expression.groups = keys.length := by
  simp only [Path.compile_pattern hparse, List.nil_append, Prod.mk.injEq, mapError_eq_ok] at h
  obtain ⟨hcompile, rfl⟩ := h
  have hreadable := sourceReadable_of_compile hcompile (isModifier_of_parse hparse)
    fun key hpart hcaptures => (hkeys key (mem_capturingKeys.mpr ⟨hpart, hcaptures⟩)).telling
  obtain rfl := Except.ok.inj ((compileParts_eq hreadable).symm.trans hcompile)
  exact ⟨rfl, partsGroups_eq parts⟩

/-- The expressions that the scan of a pattern finds have no groups but those that are named in
them. If the expressions of a pattern can be read by themselves and name no groups, then the pattern
has as many groups as keys whenever it is compiled. -/
theorem groups_of_inline (source : String) :
    (∀ lexemes, scan source = .ok lexemes → ∀ lexeme ∈ lexemes, lexeme.kind = .pattern →
      ∀ flags expression, Expression.read lexeme.value flags = .ok expression →
        expression.groups ≤ namings (Piece.ofText lexeme.value.toList)) ∧
    ∀ (options : Options) (parts : List Part), parse options source = .ok parts →
      (∀ key ∈ capturingKeys parts, key.Unnaming options) →
        ∀ expression keys, Path.compile options [] (.pattern source) = (.ok expression, keys) →
          keys = capturingKeys parts ∧ expression.groups = keys.length := by
  constructor
  · intro lexemes hscan lexeme hmem hkind flags expression hread
    exact Lexable.groups_le ⟨source, lexemes, hscan, lexeme, hmem, hkind, rfl⟩ hread
  · intro options parts hparse hkeys expression keys hcompile
    refine groups_of_compile hparse (fun key hkey => ?_) hcompile
    obtain ⟨hpart, hcaptures⟩ := mem_capturingKeys.mp hkey
    exact (hkeys key hkey).standsAlone (lexable_of_parse hparse hpart hcaptures)

/-- Parentheses of a set, of a look-ahead and of a group within a group, and escaped ones. -/
theorem groups_of_inline_nested :
    let source := "/:a([(?:)]+(?=\\/))/:b((?:x(?i:\\(|y))*)"
    let first : Key := { name := .named "a", before := "/", pattern := "[(?:)]+(?=\\/)" }
    let second : Key := { name := .named "b", before := "/", pattern := "(?:x(?i:\\(|y))*" }
    (∃ lexemes, scan source = .ok lexemes ∧
      ∃ lexeme ∈ lexemes, lexeme.kind = .pattern ∧ lexeme.value = second.pattern ∧
        ∃ alone, Expression.read second.pattern {} = .ok alone ∧
          alone.groups ≤ namings (Piece.ofText second.pattern.toList)) ∧
    ∃ expression, Path.compile {} [] (.pattern source) = (.ok expression, [first, second]) ∧
      expression.groups = 2 := by
  intro source first second
  obtain ⟨hinline, hgroups⟩ := groups_of_inline source
  have hparse : parse {} source = .ok [.key first, .key second] :=
    toOption_eq_some.mp (by decide +kernel)
  have hreads : ∀ key ∈ [first, second], ∃ alone,
      Expression.read key.pattern (Options.flags {}) = .ok alone := by
    have hsome : ∀ key ∈ [first, second],
        (Expression.read key.pattern (Options.flags {})).toOption.isSome = true := by decide +kernel
    intro key hkey
    obtain ⟨alone, halone⟩ := Option.isSome_iff_exists.mp (hsome key hkey)
    exact ⟨alone, toOption_eq_some.mp halone⟩
  constructor
  · let lexeme : Lexeme := ⟨.pattern, 21, second.pattern⟩
    have hany : (scan source).toOption.any (lexeme ∈ ·) = true := by decide +kernel
    obtain ⟨lexemes, hlexemes, hmem⟩ := (Option.any_eq_true _ _).mp hany
    have hscan := toOption_eq_some.mp hlexemes
    have hmem := of_decide_eq_true hmem
    have hsome : (Expression.read second.pattern {}).toOption.isSome = true := by decide +kernel
    obtain ⟨alone, halone⟩ := Option.isSome_iff_exists.mp hsome
    have halone := toOption_eq_some.mp halone
    exact ⟨lexemes, hscan, lexeme, hmem, rfl, rfl, alone, halone,
      hinline lexemes hscan lexeme hmem rfl {} alone halone⟩
  · have hsome : (Path.compile {} [] (.pattern source)).1.toOption.isSome = true := by
      decide +kernel
    obtain ⟨expression, hexpression⟩ := Option.isSome_iff_exists.mp hsome
    obtain ⟨hkeys, hcount⟩ := hgroups {} _ hparse
      (fun key hkey => .inr ⟨hreads key hkey, by revert key; decide +kernel⟩) expression _
      (Prod.ext (toOption_eq_some.mp hexpression) rfl)
    have htwo : capturingKeys [.key first, .key second] = [first, second] := rfl
    refine ⟨expression, Prod.ext (toOption_eq_some.mp hexpression) (hkeys.trans htwo), ?_⟩
    rw [hcount, hkeys, htwo]
    rfl

/-- A named group is scanned like the others. It is one more group without a key. -/
example : ((scan "/:a((?P<n>x))").toOption.map (·.map (·.value))) =
      some ["/", "a", "(?P<n>x)", ""] ∧
    (Expression.read "(?P<n>x)" {}).toOption.map (·.groups) = some 1 ∧
    (Path.compile {} [] (.pattern "/:a((?P<n>x))")).1.toOption.map (·.groups) = some 2 := by
  decide +kernel

end RoutePattern
