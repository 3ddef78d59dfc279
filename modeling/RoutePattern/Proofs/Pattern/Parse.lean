import RoutePattern.Proofs.Part.Normal

/-!
# What a pattern is read as

`normal_of_parse` is the main result: whatever pattern is read, its parts are in normal form. So its
keys carry one of the three repetition marks or none (`isModifier_of_parse`), and a key that
captures has an expression that a pattern can hold (`lexable_of_parse`).
-/

namespace RoutePattern

/-- What is taken as a value is one that its kind may hold. -/
theorem AllValued.value {kind : Kind} {lexemes rest : List Lexeme} {value : Option String}
    (hvalued : AllValued lexemes) (h : Taken kind lexemes value rest) :
    ∀ text ∈ value, (Lexeme.mk kind 0 text).Valued := by
  intro text htext
  cases h with
  | absent _ => simp at htext
  | @present lexeme rest hkind =>
      obtain rfl : lexeme.value = text := by simpa using htext
      have hlexeme := hvalued lexeme (by simp)
      rw [Lexeme.Valued, hkind] at hlexeme
      exact hlexeme

/-- What is taken as a repetition mark is one. -/
theorem AllValued.isModifier {lexemes rest : List Lexeme} {value : Option String}
    (hvalued : AllValued lexemes) (h : Taken .modifier lexemes value rest) :
    IsModifier (value.getD "") := by
  have hvalue := hvalued.value h
  cases value with
  | none => exact .inl rfl
  | some text =>
      obtain h | h | h : text = "*" ∨ text = "+" ∨ text = "?" := hvalue text rfl
      · exact .inr (.inr (.inl h))
      · exact .inr (.inr (.inr h))
      · exact .inr (.inl h)

/-- Literal text in front of a key keeps parts in normal form. -/
theorem Normal.literal {standard : String} {unnamed : Nat} {key : Key} {rest : List Part}
    (text : String) (h : Normal standard unnamed (.key key :: rest)) :
    Normal standard unnamed (PartReader.literal text ++ .key key :: rest) := by
  unfold PartReader.literal
  split
  · exact h
  · next hne => exact .text (by simpa using hne) (by simp [Part.key?]) h

/-- The keys of parts in normal form are formed. -/
theorem Normal.formed {standard : String} {unnamed : Nat} {parts : List Part}
    (h : Normal standard unnamed parts) {key : Key} (hkey : Part.key key ∈ parts) :
    ∃ place, key.Formed standard place := by
  induction h with
  | nil => simp at hkey
  | text _ _ _ ih => exact ih (by simpa using hkey)
  | @key unnamed other rest hother _ ih =>
      rcases List.mem_cons.mp hkey with heq | hmem
      · cases heq
        exact ⟨unnamed, hother⟩
      · exact ih hmem

namespace PartReader

variable {context : ReadContext} {reader later : PartReader} {text : String}

/-- A key outside of groups is formed. -/
theorem formed_plainKey {unnamed : Nat} {c : String} {name pattern modifier : Option String}
    (hsome : name ≠ none ∨ pattern ≠ none) (hname : ∀ text ∈ name, (Lexeme.mk .name 0 text).Valued)
    (hpattern : ∀ text ∈ pattern, (Lexeme.mk .pattern 0 text).Valued)
    (hmodifier : IsModifier (modifier.getD "")) :
    (plainKey context unnamed c name pattern modifier).Formed context.standardPattern unnamed := by
  cases name with
  | some name =>
      obtain ⟨hne, hchars⟩ := hname name rfl
      cases pattern with
      | none => exact .named hne hchars (.inl rfl) hmodifier
      | some pattern =>
          exact .named hne hchars (.inr (lexable_iff.mpr (hpattern pattern rfl))) hmodifier
  | none =>
      cases pattern with
      | none => simp at hsome
      | some pattern => exact .positional (lexable_iff.mpr (hpattern pattern rfl)) hmodifier

/-- The key of a group is formed, and it takes the next number if it has no name. -/
theorem GroupRead.formed {opened : Int} {key : Key} (hvalued : AllValued reader.rest)
    (h : GroupRead context reader opened (.ok key) later) :
    key.Formed context.standardPattern reader.unnamed ∧
      later.unnamed = reader.unnamed + key.isUnnamed.toNat := by
  cases h with
  | @closed before after name pattern modifier closing afterBefore afterName afterPattern
      afterClosing rest hbefore hname hpattern hafter _ hmodifier =>
      have hafterBefore := hvalued.textTaken hbefore
      have hafterName := hafterBefore.taken hname
      have hmark := ((hafterName.taken hpattern).textTaken hafter).tail.isModifier hmodifier
      cases name with
      | some name =>
          obtain ⟨hne, hchars⟩ := hafterBefore.value hname name rfl
          refine ⟨?_, by simp [isNumbered, groupKey, Key.isUnnamed, hne]⟩
          cases pattern with
          | none =>
              have hkey : groupKey context reader.unnamed before after (some name) none modifier =
                  ⟨.named name, before, after, context.standardPattern, modifier.getD ""⟩ := by
                simp [groupKey, isNumbered, hne]
              rw [hkey]
              exact .named hne hchars (.inl rfl) hmark
          | some pattern =>
              have hlexable := lexable_iff.mpr (hafterName.value hpattern pattern rfl)
              have hkey : groupKey context reader.unnamed before after (some name) (some pattern)
                  modifier = ⟨.named name, before, after, pattern, modifier.getD ""⟩ := by
                simp [groupKey, isNumbered, hne, (lexable_iff.mp hlexable).1]
              rw [hkey]
              exact .named hne hchars (.inr hlexable) hmark
      | none =>
          cases pattern with
          | some pattern =>
              have hlexable := lexable_iff.mpr (hafterName.value hpattern pattern rfl)
              have hpresent := (lexable_iff.mp hlexable).1
              have hkey : groupKey context reader.unnamed before after none (some pattern)
                  modifier = ⟨.positional reader.unnamed, before, after, pattern,
                    modifier.getD ""⟩ := by
                simp [groupKey, isNumbered, hpresent]
              rw [hkey]
              exact ⟨.positional hlexable hmark, by simp [isNumbered, Key.isUnnamed, hpresent]⟩
          | none =>
              -- Without a name and an expression, the first text takes all there is.
              obtain ⟨rfl, _⟩ := hname.of_none
              obtain ⟨rfl, _⟩ := hpattern.of_none
              obtain ⟨hchar, hescaped⟩ := hbefore.notNext
              obtain ⟨rfl, _⟩ := hafter.eq_of_notNext hchar hescaped
              exact ⟨.group hmark, rfl⟩

/-- Parts that are read are in normal form. -/
theorem ReadsTo.normal {parts : List Part} (hvalued : AllValued reader.rest)
    (hlast : EndsLast reader.rest) (h : ReadsTo context reader text parts) :
    Normal context.standardPattern reader.unnamed parts := by
  induction h with
  | done => exact .nil
  | @more reader later text rest parts others _ hstep hrest ih =>
      obtain ⟨front, _, hfront, _⟩ := hstep.leads hlast
      have hothers := ih (hstep.allValued hvalued) (endsLast_of_append (hfront ▸ hlast))
      cases hstep with
      | @key char name pattern modifier _ _ _ _ hchar hname hpattern hsome hmodifier =>
          have hafterChar := hvalued.taken hchar
          have hafterName := hafterChar.taken hname
          have hformed := @formed_plainKey context reader.unnamed (char.getD "") _ _ _ hsome
            (hafterChar.value hname) (hafterName.value hpattern)
            ((hafterName.taken hpattern).isModifier hmodifier)
          have hunnamed : (if name.isSome then reader.unnamed else reader.unnamed + 1) =
              reader.unnamed + (plainKey context reader.unnamed (char.getD "") name pattern
                modifier).isUnnamed.toNat := by
            cases name <;> rfl
          rw [List.append_assoc]
          exact .literal _ (.key hformed (hunnamed ▸ hothers))
      | char | escaped => exact hothers
      | @group opening rest key _ hread _ hgroup =>
          rw [hread] at hvalued
          obtain ⟨hformed, hunnamed⟩ := hgroup.formed hvalued.tail
          rw [List.append_assoc]
          exact .literal _ (.key hformed (hunnamed ▸ hothers))
      | @ending lexeme rest hread hkind =>
          obtain rfl : rest = [] := (hlast [] lexeme rest hread).mp hkind
          cases hrest with
          | more hne => exact absurd rfl hne
          | done =>
              unfold literal
              split
              · exact .nil
              · next hne => exact .text (by simpa using hne) (by simp) .nil

end PartReader

variable {options : Options} {source : String} {parts : List Part}

/-- The parts of a pattern are in normal form. -/
theorem normal_of_parse (h : parse options source = .ok parts) :
    Normal (defaultPattern options.delimiter) 0 parts := by
  cases hscan : scan source with
  | error error => simp [parse, hscan] at h
  | ok lexemes =>
      have hread : readLexemes options lexemes = .ok parts := by
        simpa only [parse, hscan, mapError_eq_ok] using h
      exact ((PartReader.readOut _ _ _).readsTo hread).normal (allValued_of_scan hscan)
        (endsLast_of_scan hscan).1

/-- The keys of a pattern carry a repetition mark or none. -/
theorem isModifier_of_parse (h : parse options source = .ok parts) :
    ∀ key, Part.key key ∈ parts → IsModifier key.modifier := by
  intro key hkey
  obtain ⟨_, hformed⟩ := (normal_of_parse h).formed hkey
  cases hformed <;> assumption

/-- A key that captures has an expression that a pattern can hold. -/
theorem lexable_of_parse (h : parse options source = .ok parts) {key : Key}
    (hkey : Part.key key ∈ parts) (hcaptures : key.captures = true) : Lexable key.pattern := by
  obtain ⟨_, hformed⟩ := (normal_of_parse h).formed hkey
  exact hformed.lexable_pattern (by simpa [Key.captures] using hcaptures)

end RoutePattern
