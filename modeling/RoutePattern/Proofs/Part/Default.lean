import RoutePattern.Proofs.Part.Conserved

/-!
# Patterns without expressions

A pattern that has no expression in parentheses leaves its keys nothing but the standard one
(`pattern_of_withoutExpressions`).
-/

namespace RoutePattern

/-- No lexeme of a pattern is an expression in parentheses. -/
def WithoutExpressions (source : String) : Prop :=
  ∀ lexemes, scan source = .ok lexemes → ∀ lexeme ∈ lexemes, lexeme.kind ≠ .pattern

instance (source : String) : Decidable (WithoutExpressions source) :=
  decidable_of_iff ((scan source).toOption.all fun lexemes =>
      lexemes.all fun lexeme => lexeme.kind ≠ .pattern) <| by
    cases h : scan source <;> simp [WithoutExpressions, h, Except.toOption]

/-- Where no expression is given, each place for a value has the standard one. -/
theorem pattern_of_mem_contentsFrom {standard pattern : String} {unnamed : Nat}
    {lexemes : List Lexeme} {name : KeyName}
    (hlexemes : ∀ lexeme ∈ lexemes, lexeme.kind ≠ .pattern)
    (h : .mark name pattern ∈ contentsFrom standard unnamed lexemes) : pattern = standard := by
  induction unnamed, lexemes using contentsFrom.induct with
  | case1 => simp [contentsFrom] at h
  | case2 => simp at hlexemes
  | case3 unnamed index value rest hnext ih =>
      rw [contentsFrom.eq_3 _ _ _ _ _ hnext] at h
      rcases List.mem_cons.mp h with heq | hrest
      · cases heq
        rfl
      · exact ih (List.forall_mem_cons.mp hlexemes).2 hrest
  | case4 => simp at hlexemes
  | case5 unnamed index value rest ih | case6 unnamed index value rest ih =>
      rw [contentsFrom, List.mem_append] at h
      rcases h with hchar | hrest
      · simp [textContents] at hchar
      · exact ih (List.forall_mem_cons.mp hlexemes).2 hrest
  | case7 unnamed lexeme rest _ hname hpattern hchar hescaped ih =>
      rw [contentsFrom_cons] at h
      · exact ih (List.forall_mem_cons.mp hlexemes).2 h
      · obtain ⟨kind, index, value⟩ := lexeme
        cases kind <;> simp_all

/-- A key that captures in a pattern without expressions has the standard one. -/
theorem pattern_of_withoutExpressions {options : Options} {source : String} {parts : List Part}
    (hparse : parse options source = .ok parts) (hplain : WithoutExpressions source) (key : Key)
    (hpart : Part.key key ∈ parts) (hcaptures : key.captures = true) :
    key.pattern = defaultPattern options.delimiter := by
  obtain ⟨lexemes, hscan, hcontents, _⟩ := parse_conserves hparse
  have hmark : .mark key.name key.pattern ∈ parts.flatMap Part.contents :=
    List.mem_flatMap.mpr ⟨.key key, hpart, by simp [Part.contents, Key.contents, hcaptures]⟩
  rw [hcontents] at hmark
  exact pattern_of_mem_contentsFrom (hplain lexemes hscan) hmark

end RoutePattern
