import Mathlib.Computability.RegularExpressions
import RoutePattern.Lexeme

/-!
# The grammar of patterns

`patternGrammar` is the regular expression over kinds of lexemes that patterns have to match, and
`Viable` lists can be carried on to a sentence of it. `Spot` gives the places within a sentence, each
with the language of what may still come. `mem_language_iff` and `viable_iff` are the main results:
following a list of kinds from place to place decides both.
-/

namespace RoutePattern

open RegularExpression (star char)

/-! ## Sentences -/

/-- An expression or nothing. -/
def optionally (expression : RegularExpression Kind) : RegularExpression Kind :=
  1 + expression

/-- A literal character. -/
def textGrammar : RegularExpression Kind :=
  char .char + char .escapedChar

/-- A key outside of groups. -/
def keyGrammar : RegularExpression Kind :=
  (char .name * optionally (char .pattern) + char .pattern) * optionally (char .modifier)

/-- A group in braces. -/
def groupGrammar : RegularExpression Kind :=
  char .opening * (star textGrammar * (optionally (char .name) * (optionally (char .pattern) *
    (star textGrammar * (char .closing * optionally (char .modifier))))))

/-- A whole pattern. -/
def patternGrammar : RegularExpression Kind :=
  star (textGrammar + keyGrammar + groupGrammar) * char .ending

/-- The kinds of lexemes that form a pattern. -/
def sentences : Language Kind :=
  patternGrammar.matches'

/-- A list of kinds that some sentence begins with. -/
def Viable (kinds : List Kind) : Prop :=
  ∃ later, kinds ++ later ∈ sentences

/-! ## Places -/

/-- A place within a sentence. -/
inductive Spot where
  /-- Between two items. -/
  | top
  /-- After a name outside of groups. -/
  | named
  /-- Where only the mark of a key may still come. -/
  | captured
  /-- In a group, in front of its name and its expression. -/
  | inText
  /-- In a group, after its name. -/
  | inName
  /-- In a group, after its expression or with text after its name. -/
  | inRest
  /-- After the end. -/
  | done
deriving DecidableEq, Repr

namespace Spot

/-- The place after the first lexeme of an item, or after the end. -/
def enter : Kind → Option Spot
  | .char | .escapedChar => some top
  | .name => some named
  | .pattern => some captured
  | .opening => some inText
  | .ending => some done
  | .closing | .modifier => none

/-- The place after one more lexeme of a kind, if one may come. -/
def follow : Spot → Kind → Option Spot
  | top, kind => enter kind
  | named, kind | captured, kind => if kind = .modifier then some top else enter kind
  | inText, .char | inText, .escapedChar => some inText
  | inText, .name => some inName
  | inName, .char | inName, .escapedChar | inRest, .char | inRest, .escapedChar => some inRest
  | inText, .pattern | inName, .pattern => some inRest
  | inText, .closing | inName, .closing | inRest, .closing => some captured
  | _, _ => none

/-- The place after some more lexemes. -/
def run (spot : Spot) (kinds : List Kind) : Option Spot :=
  kinds.foldlM follow spot

/-- A place within a group. -/
def InGroup (spot : Spot) : Prop :=
  spot = inText ∨ spot = inName ∨ spot = inRest

/-- What may come after a key. -/
def afterKey : Language Kind :=
  (optionally (char .modifier)).matches' * sentences

/-- What may come in a group, after its expression. -/
def afterExpression : Language Kind :=
  (star textGrammar).matches' * ((char .closing).matches' * afterKey)

/-- What may come in a group, after its name. -/
def afterName : Language Kind :=
  (optionally (char .pattern)).matches' * afterExpression

/-- What may come at a place. -/
def language : Spot → Language Kind
  | top => sentences
  | named => (optionally (char .pattern)).matches' * afterKey
  | captured => afterKey
  | inText => (star textGrammar).matches' * ((optionally (char .name)).matches' * afterName)
  | inName => afterName
  | inRest => afterExpression
  | done => 1

end Spot

section Languages

variable {kind wanted : Kind} {kinds : List Kind} {expression : RegularExpression Kind}
  {rest : Language Kind}

theorem mem_char : kinds ∈ (char wanted).matches' ↔ kinds = [wanted] :=
  Iff.rfl

/-- What begins with a lexeme of a kind. -/
theorem cons_mem_char_mul :
    kind :: kinds ∈ (char wanted).matches' * rest ↔ kind = wanted ∧ kinds ∈ rest := by
  simp only [Language.mem_mul, mem_char, exists_eq_left, List.singleton_append, List.cons.injEq]
  constructor
  · rintro ⟨_, hrest, rfl, rfl⟩
    exact ⟨rfl, hrest⟩
  · rintro ⟨rfl, hrest⟩
    exact ⟨kinds, hrest, rfl, rfl⟩

theorem nil_notMem_char_mul : [] ∉ (char wanted).matches' * rest := by
  simp only [Language.mem_mul, mem_char, exists_eq_left, List.singleton_append, reduceCtorEq,
    and_false, exists_false, not_false_eq_true]

/-- What may begin with a match of an expression. -/
theorem mem_optionally_mul :
    kinds ∈ (optionally expression).matches' * rest ↔
      kinds ∈ rest ∨ kinds ∈ expression.matches' * rest := by
  rw [optionally, RegularExpression.matches'_add, RegularExpression.matches'_epsilon, add_mul,
    one_mul, Language.mem_add]

/-- What may begin with any number of matches of an expression. -/
theorem mem_star_mul :
    kinds ∈ (star expression).matches' * rest ↔
      kinds ∈ rest ∨ kinds ∈ expression.matches' * ((star expression).matches' * rest) := by
  rw [RegularExpression.matches'_star, ← mul_assoc, ← Language.mem_add]
  nth_rewrite 1 [← Language.one_add_self_mul_kstar_eq_kstar]
  rw [add_mul, one_mul]

/-- What begins with a literal character. -/
theorem cons_mem_text_mul :
    kind :: kinds ∈ textGrammar.matches' * rest ↔
      (kind = .char ∨ kind = .escapedChar) ∧ kinds ∈ rest := by
  rw [textGrammar, RegularExpression.matches'_add, add_mul, Language.mem_add, cons_mem_char_mul,
    cons_mem_char_mul, or_and_right]

theorem nil_notMem_text_mul : [] ∉ textGrammar.matches' * rest := by
  rw [textGrammar, RegularExpression.matches'_add, add_mul, Language.mem_add]
  exact not_or.mpr ⟨nil_notMem_char_mul, nil_notMem_char_mul⟩

end Languages

namespace Spot

/-- A pattern is its end, or an item and a pattern. -/
theorem mem_sentences {kinds : List Kind} :
    kinds ∈ sentences ↔
      kinds = [.ending] ∨ kinds ∈ textGrammar.matches' * sentences ∨
        kinds ∈ (char .name).matches' * language named ∨
        kinds ∈ (char .pattern).matches' * afterKey ∨
        kinds ∈ (char .opening).matches' * language inText := by
  have hkey : keyGrammar.matches' * sentences
      = (char .name).matches' * language named + (char .pattern).matches' * afterKey := by
    rw [keyGrammar, RegularExpression.matches'_mul, mul_assoc, ← afterKey,
      RegularExpression.matches'_add, RegularExpression.matches'_mul, add_mul, mul_assoc, language]
  have hgroup : groupGrammar.matches' * sentences
      = (char .opening).matches' * language inText := by
    simp only [groupGrammar, RegularExpression.matches'_mul, mul_assoc, language, afterName,
      afterExpression, afterKey]
  have hitem : (textGrammar + keyGrammar + groupGrammar).matches' * sentences
      = textGrammar.matches' * sentences + (char .name).matches' * language named
        + (char .pattern).matches' * afterKey + (char .opening).matches' * language inText := by
    rw [RegularExpression.matches'_add, RegularExpression.matches'_add, add_mul, add_mul, hkey,
      hgroup, ← add_assoc]
  rw [← mem_char]
  nth_rewrite 1 [sentences]
  rw [patternGrammar, RegularExpression.matches'_mul, mem_star_mul,
    ← RegularExpression.matches'_mul, ← patternGrammar, ← sentences, hitem]
  simp only [Language.mem_add, or_assoc]

/-- What a pattern begins with. -/
theorem cons_mem_sentences {kind : Kind} {kinds : List Kind} :
    kind :: kinds ∈ sentences ↔ ∃ next, enter kind = some next ∧ kinds ∈ next.language := by
  rw [mem_sentences, cons_mem_text_mul, cons_mem_char_mul, cons_mem_char_mul, cons_mem_char_mul]
  cases kind <;> simp [enter, language, Language.mem_one]

/-- What comes after a key is a mark and a pattern, or a pattern. -/
theorem cons_mem_afterKey {kind : Kind} {kinds : List Kind} :
    kind :: kinds ∈ afterKey ↔
      ∃ next, (if kind = .modifier then some top else enter kind) = some next
        ∧ kinds ∈ next.language := by
  rw [afterKey, mem_optionally_mul, cons_mem_char_mul, cons_mem_sentences]
  cases kind <;> simp [enter, language]

/-- What comes in a group after its expression. -/
theorem cons_mem_afterExpression {kind : Kind} {kinds : List Kind} :
    kind :: kinds ∈ afterExpression ↔
      (kind = .closing ∧ kinds ∈ afterKey) ∨
        (kind = .char ∨ kind = .escapedChar) ∧ kinds ∈ afterExpression := by
  rw [afterExpression, mem_star_mul, cons_mem_char_mul, cons_mem_text_mul]

/-- What comes in a group after its name. -/
theorem cons_mem_afterName {kind : Kind} {kinds : List Kind} :
    kind :: kinds ∈ afterName ↔
      kind :: kinds ∈ afterExpression ∨ kind = .pattern ∧ kinds ∈ afterExpression := by
  rw [afterName, mem_optionally_mul, cons_mem_char_mul]

/-- What comes in a group. -/
theorem cons_mem_inText {kind : Kind} {kinds : List Kind} :
    kind :: kinds ∈ language inText ↔
      (kind :: kinds ∈ afterName ∨ kind = .name ∧ kinds ∈ afterName) ∨
        (kind = .char ∨ kind = .escapedChar) ∧ kinds ∈ language inText := by
  rw [language, mem_star_mul, mem_optionally_mul, cons_mem_char_mul, cons_mem_text_mul]

/-- In a group everything up to its end may be left out. -/
theorem mem_inText_of_mem_afterExpression (kinds : List Kind) (h : kinds ∈ afterExpression) :
    kinds ∈ language inText := by
  rw [language, mem_star_mul, mem_optionally_mul, afterName, mem_optionally_mul]
  exact .inl (.inl (.inl h))

/-- What may come at a place begins with a lexeme that leads to another place. -/
theorem cons_mem_language {spot : Spot} {kind : Kind} {kinds : List Kind} :
    kind :: kinds ∈ spot.language ↔ ∃ next, spot.follow kind = some next ∧ kinds ∈ next.language := by
  cases spot with
  | top => exact cons_mem_sentences
  | captured => exact cons_mem_afterKey
  | named =>
      rw [language, mem_optionally_mul, cons_mem_char_mul, cons_mem_afterKey]
      cases kind <;> simp [follow, enter, language]
  | inText =>
      have habsorb := mem_inText_of_mem_afterExpression kinds
      rw [cons_mem_inText, cons_mem_afterName, cons_mem_afterExpression]
      cases kind with
      | char | escapedChar => simpa [follow] using habsorb
      | _ => simp [follow, language]
  | inName =>
      rw [language, cons_mem_afterName, cons_mem_afterExpression]
      cases kind <;> simp [follow, language]
  | inRest =>
      rw [language, cons_mem_afterExpression]
      cases kind <;> simp [follow, language]
  | done => simp [language, follow, Language.mem_one]

/-- A pattern has an end. -/
theorem nil_notMem_sentences : [] ∉ sentences := by
  simp only [mem_sentences, nil_notMem_text_mul, nil_notMem_char_mul, List.nil_eq, reduceCtorEq,
    or_self, not_false_eq_true]

theorem nil_notMem_afterKey : [] ∉ afterKey := by
  rw [afterKey, mem_optionally_mul]
  exact not_or.mpr ⟨nil_notMem_sentences, nil_notMem_char_mul⟩

theorem nil_notMem_afterExpression : [] ∉ afterExpression := by
  rw [afterExpression, mem_star_mul]
  exact not_or.mpr ⟨nil_notMem_char_mul, nil_notMem_text_mul⟩

theorem nil_notMem_afterName : [] ∉ afterName := by
  rw [afterName, mem_optionally_mul]
  exact not_or.mpr ⟨nil_notMem_afterExpression, nil_notMem_char_mul⟩

/-- Nothing more may come after the end only. -/
theorem nil_mem_language {spot : Spot} : [] ∈ spot.language ↔ spot = done := by
  cases spot with
  | top => simp only [language, nil_notMem_sentences, reduceCtorEq]
  | named =>
      simp only [language, mem_optionally_mul, nil_notMem_afterKey, nil_notMem_char_mul, or_self,
        reduceCtorEq]
  | captured => simp only [language, nil_notMem_afterKey, reduceCtorEq]
  | inText =>
      simp only [language, mem_star_mul, mem_optionally_mul, nil_notMem_afterName,
        nil_notMem_char_mul, nil_notMem_text_mul, or_self, reduceCtorEq]
  | inName => simp only [language, nil_notMem_afterName, reduceCtorEq]
  | inRest => simp only [language, nil_notMem_afterExpression, reduceCtorEq]
  | done => simp only [language, Language.mem_one]

/-- What may come at a place is what leads from there to the end. -/
theorem mem_language_iff {spot : Spot} {kinds : List Kind} :
    kinds ∈ spot.language ↔ spot.run kinds = some done := by
  induction kinds generalizing spot with
  | nil => simp [nil_mem_language, run]
  | cons kind kinds ih =>
      rw [cons_mem_language, run, List.foldlM_cons]
      simp only [ih, run, bind, Option.bind_eq_some_iff]

/-- A sentence can be ended from every place. -/
theorem exists_mem_language (spot : Spot) : ∃ kinds, kinds ∈ spot.language := by
  simp only [mem_language_iff]
  cases spot with
  | top | named | captured => exact ⟨[.ending], rfl⟩
  | inText | inName | inRest => exact ⟨[.closing, .ending], rfl⟩
  | done => exact ⟨[], rfl⟩

end Spot

/-- Sentences are what leads to the end. -/
theorem mem_sentences_iff {kinds : List Kind} :
    kinds ∈ sentences ↔ Spot.top.run kinds = some .done :=
  @Spot.mem_language_iff .top kinds

/-- Sentences begin with what leads anywhere. -/
theorem viable_iff {kinds : List Kind} :
    Viable kinds ↔ ∃ spot, Spot.top.run kinds = some spot := by
  simp only [Viable, mem_sentences_iff, Spot.run, List.foldlM_append, bind,
    Option.bind_eq_some_iff]
  constructor
  · rintro ⟨later, spot, hspot, _⟩
    exact ⟨spot, hspot⟩
  · rintro ⟨spot, hspot⟩
    obtain ⟨later, hlater⟩ := Spot.exists_mem_language spot
    exact ⟨later, spot, hspot, Spot.mem_language_iff.mp hlater⟩

end RoutePattern
