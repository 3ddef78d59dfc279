import RoutePattern.Proofs.Expr.Containment
import RoutePattern.Proofs.Pattern.Ready

/-!
# Patterns that are accepted

A pattern is put together to one expression for matching, and the expression of each key is read in
a group of its own for building. `compiles_iff_builds` is the main result: if the expressions of the
keys keep to themselves, either both succeed or both fail.
-/

namespace RoutePattern

open ExprReader

variable {options : Options} {source : String} {parts : List Part}

/-- An expression that keeps to itself and that a pattern can hold may stand in a group if it can be
read there. -/
theorem SelfContained.telling {key : Key} (h : SelfContained options.flags key.pattern)
    (hlexable : Lexable key.pattern) : key.Telling options :=
  have ⟨_, hhead, hbalanced⟩ := lexable_iff.mp hlexable
  ⟨h.fills rfl hbalanced.whole, hhead⟩

/-- With the standard delimiters, parts can be compiled if their keys can be read, and only then. -/
theorem compileParts_isOk_iff (hdelimiter : options.delimiter = standardDelimiter)
    (hends : options.endsWith = "")
    (hmodifiers : ∀ key, Part.key key ∈ parts → IsModifier key.modifier)
    (hkeys : ∀ key, Part.key key ∈ parts → key.captures = true → key.Telling options) :
    (∃ expression, compileParts options parts = .ok expression) ↔
      ∀ key, Part.key key ∈ parts → key.Readable options := by
  constructor
  · rintro ⟨_, hcompile⟩
    exact (sourceReadable_of_compile hcompile hmodifiers hkeys).keys
  · intro hreadable
    exact ⟨_, compileParts_eq (sourceReadable_of_segments hends hdelimiter hreadable)⟩

/-- Parts can be made ready for building if their keys can be read, and only then. -/
theorem ofParts_isOk_iff (hmodifiers : ∀ key, Part.key key ∈ parts → IsModifier key.modifier)
    (hkeys : ∀ key, Part.key key ∈ parts → key.captures = true → key.Telling options) :
    (∃ builder, Builder.ofParts options parts = .ok builder) ↔
      ∀ key, Part.key key ∈ parts → key.Readable options := by
  constructor
  · rintro ⟨_, hbuilder⟩ key hkey
    exact ⟨hmodifiers key hkey, fun _ => embeddable_of_ofParts hkeys hbuilder key hkey⟩
  · intro hreadable
    exact ⟨_, ofParts_eq fun key hkey => (hreadable key hkey).embeddable⟩

/-- A pattern whose expressions keep to themselves can be compiled for matching if it can be made
ready for building, and only then. -/
theorem compiles_iff_builds (hdelimiter : options.delimiter = standardDelimiter)
    (hends : options.endsWith = "") (hparse : parse options source = .ok parts)
    (hkeys : ∀ key, Part.key key ∈ parts → key.captures = true →
      SelfContained options.flags key.pattern) (keys : List Key) :
    (∃ expression, (Path.compile options keys (.pattern source)).1 = .ok expression) ↔
      ∃ builder, Builder.ofPattern options source = .ok builder := by
  have hmodifiers := isModifier_of_parse hparse
  have htelling : ∀ key, Part.key key ∈ parts → key.captures = true → key.Telling options :=
    fun key hkey hcaptures =>
      (hkeys key hkey hcaptures).telling (lexable_of_parse hparse hkey hcaptures)
  simp only [Path.compile_pattern hparse, Builder.ofPattern, hparse, mapError_eq_ok]
  rw [compileParts_isOk_iff hdelimiter hends hmodifiers htelling,
    ofParts_isOk_iff hmodifiers htelling]

/-- A look-behind for a single character and a repetition with bounds: there is an expression, and
so there is a builder. -/
theorem compiles_iff_builds_behind :
    let source := "/:id(\\d\x7b2,3\x7d)/:rest((?<!-)[a-z]+)"
    let id : Key := { name := .named "id", before := "/", pattern := "\\d\x7b2,3\x7d" }
    let rest : Key := { name := .named "rest", before := "/", pattern := "(?<!-)[a-z]+" }
    parse {} source = .ok [.key id, .key rest] ∧ SelfContained (Options.flags {}) id.pattern ∧
      SelfContained (Options.flags {}) rest.pattern ∧
      ∃ builder, Builder.ofPattern {} source = .ok builder := by
  intro source id rest
  have hparse : parse {} source = .ok [.key id, .key rest] :=
    toOption_eq_some.mp (by decide +kernel)
  have hid : SelfContained (Options.flags {}) id.pattern := by decide +kernel
  have hrest : SelfContained (Options.flags {}) rest.pattern := by decide +kernel
  have hsome : ((Path.compile {} [] (.pattern source)).1.toOption).isSome = true := by
    decide +kernel
  obtain ⟨expression, hcompile⟩ := Option.isSome_iff_exists.mp hsome
  refine ⟨hparse, hid, hrest, (compiles_iff_builds rfl rfl hparse ?_ []).mp
    ⟨expression, toOption_eq_some.mp hcompile⟩⟩
  intro key hkey _
  obtain rfl | rfl : key = id ∨ key = rest := by simpa using hkey
  · exact hid
  · exact hrest

/-- A repeated key with a named group has a builder, but its expression names the group twice. -/
example : ¬ SelfContained (Options.flags {}) "(?P<n>x)" ∧
    (Builder.ofPattern {} "\x7b/:a((?P<n>x))\x7d*").toOption.isSome = true ∧
    (Path.compile {} [] (.pattern "\x7b/:a((?P<n>x))\x7d*")).1.toOption.isSome = false := by
  decide +kernel

end RoutePattern
