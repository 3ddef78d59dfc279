import Mathlib.Data.List.Chain
import Mathlib.Data.List.TakeWhile
import RoutePattern.Expr.CharTest
import RoutePattern.Proofs.Text.Case

/-!
# Classes of characters and case

`holds_lowerCode` is the main result: no class of characters tells a character from its lower-case
form. `CodeSet.sweep` goes once through a set and some code points in increasing order, so that all
characters with a case are checked in one pass.
-/

namespace RoutePattern

/-! ## Sets of code points -/

/-- Whether all of some increasing code points are in a set or, given `outside`, out of it. -/
def CodeSet.sweep (outside : Bool) : CodeSet → List Nat → Bool
  | [], points => outside || points.isEmpty
  | bound :: rest, points =>
      (outside || (points.takeWhile (Nat.blt · bound)).isEmpty) &&
        CodeSet.sweep (!outside) rest (points.dropWhile (Nat.blt · bound))

/-- After a sweep the membership of its points is known. -/
theorem CodeSet.holds_of_sweep {set : CodeSet} {outside : Bool} {points : List Nat}
    (h : CodeSet.sweep outside set points = true) (hsorted : points.Pairwise (· ≤ ·)) {n : Nat}
    (hmem : n ∈ points) : CodeSet.holds set n = !outside := by
  induction set generalizing outside points with
  | nil =>
      rw [sweep, Bool.or_eq_true, List.isEmpty_iff] at h
      rcases h with rfl | rfl
      · rfl
      · simp at hmem
  | cons bound rest ih =>
      rw [sweep, Bool.and_eq_true, Bool.or_eq_true, List.isEmpty_iff] at h
      rw [holds]
      by_cases hlt : n < bound
      · -- In front of the bound nothing is in the set.
        have hfront : points.takeWhile (Nat.blt · bound) ≠ [] := by
          cases points with
          | nil => simp at hmem
          | cons first later =>
              have hle : first ≤ n := by
                rcases List.mem_cons.mp hmem with rfl | hlater
                · exact Nat.le_refl _
                · exact List.rel_of_pairwise_cons hsorted hlater
              have hblt : Nat.blt first bound = true := by
                rw [Nat.blt_eq]
                omega
              rw [List.takeWhile_cons, hblt]
              simp
        rw [h.1.resolve_right hfront]
        simp [Nat.not_le.mpr hlt]
      · have hback : n ∈ points.dropWhile (Nat.blt · bound) := by
          rw [← List.takeWhile_append_dropWhile (p := (Nat.blt · bound)) (l := points)] at hmem
          rcases List.mem_append.mp hmem with hfront | hback
          · have hblt := List.mem_takeWhile_imp hfront
            rw [Nat.blt_eq] at hblt
            exact absurd hblt hlt
          · exact hback
        rw [ih h.2 (hsorted.sublist (List.dropWhile_sublist _)) hback]
        simp [Nat.not_lt.mp hlt]

/-- Where zeros are ten apart or more, the digits that follow them are the set between the zeros and
what comes after the nines. -/
theorem holds_of_digit {zeros : List Nat} (hsorted : zeros.Pairwise fun a b => a + 10 ≤ b)
    {n base : Nat} (hbase : base ∈ zeros) (hle : base ≤ n) (hlt : n < base + 10) :
    CodeSet.holds (zeros.flatMap fun base => [base, base + 10]) n = true := by
  induction zeros with
  | nil => simp at hbase
  | cons first rest ih =>
      obtain ⟨hahead, hrest⟩ := List.pairwise_cons.mp hsorted
      simp only [List.flatMap_cons, List.cons_append, List.nil_append, CodeSet.holds]
      rcases List.mem_cons.mp hbase with rfl | hlater
      · simp [hle, Nat.not_le.mpr hlt]
      · have hfirst := hahead base hlater
        rw [ih hrest hlater]
        simp [show first ≤ n by omega, show first + 10 ≤ n by omega]

/-! ## Characters with a case -/

/-- The code points with another lower-case form. -/
def lowerPoints : List Nat :=
  lowerRuns.flatMap CaseRun.points

/-- The code points with another upper-case form. -/
def upperPoints : List Nat :=
  upperRuns.flatMap CaseRun.points

/-- The letters with another lower-case form. -/
def lowerLetters : List Nat :=
  (lowerRuns.filter fun run => !unlettered.contains run.first).flatMap CaseRun.points

/-- The letters with another upper-case form. -/
def upperLetters : List Nat :=
  (upperRuns.filter fun run => !unlettered.contains run.first).flatMap CaseRun.points

/-- What one pass through the sets shows of the code points with a case. -/
structure SetTables : Prop where
  lower_sorted : lowerPoints.IsChain (· ≤ ·)
  upper_sorted : upperPoints.IsChain (· ≤ ·)
  lowerLetters_sorted : lowerLetters.IsChain (· ≤ ·)
  upperLetters_sorted : upperLetters.IsChain (· ≤ ·)
  /-- Within ASCII the letters are those of the set, too. -/
  letters : ∀ n < 128, isLetter n = CodeSet.holds letterSet n
  /-- Within ASCII the numerals are those of the set, too. -/
  numerals : ∀ n < 128, isNumeral n = CodeSet.holds numeralSet n
  lower_letters : CodeSet.sweep false letterSet lowerLetters = true
  upper_letters : CodeSet.sweep false letterSet upperLetters = true
  /-- Besides letters only Roman numerals and encircled letters have a lower-case form. -/
  unlettered : ∀ source ∈ lowerRuns, unlettered.contains source.first = true →
    source = ⟨8544, 8559, 1, 16⟩ ∨ source = ⟨9398, 9423, 1, 26⟩
  roman : CodeSet.sweep false numeralSet (List.range' 8544 32) = true
  encircled : CodeSet.sweep true letterSet (List.range' 9398 52) = true
  encircled_numerals : CodeSet.sweep true numeralSet (List.range' 9398 52) = true
  digits_apart : digitZeros.Pairwise fun a b => a + 10 ≤ b
  lower_digits :
    CodeSet.sweep true (digitZeros.flatMap fun base => [base, base + 10]) lowerPoints = true
  upper_digits :
    CodeSet.sweep true (digitZeros.flatMap fun base => [base, base + 10]) upperPoints = true
  lower_blanks : CodeSet.sweep true blankSet lowerPoints = true
  upper_blanks : CodeSet.sweep true blankSet upperPoints = true

/-- The sets are as they should be. -/
theorem setTables : SetTables where
  lower_sorted := by decide +kernel
  upper_sorted := by decide +kernel
  lowerLetters_sorted := by decide +kernel
  upperLetters_sorted := by decide +kernel
  letters := by decide +kernel
  numerals := by decide +kernel
  lower_letters := by decide +kernel
  upper_letters := by decide +kernel
  unlettered := by decide +kernel
  roman := by decide +kernel
  encircled := by decide +kernel
  encircled_numerals := by decide +kernel
  digits_apart := by decide +kernel
  lower_digits := by decide +kernel
  upper_digits := by decide +kernel
  lower_blanks := by decide +kernel
  upper_blanks := by decide +kernel

/-- Code points with another lower-case form have points for it, and so do those forms. -/
theorem mem_points_of_lowerCode {n : Nat} (h : lowerCode n ≠ n) :
    n ∈ lowerPoints ∧ lowerCode n ∈ upperPoints := by
  obtain ⟨source, hsource, run, hrun, hholds, _, hform, _⟩ := exists_runs_of_lowerCode h
  exact ⟨List.mem_flatMap.mpr ⟨source, hsource, CaseRun.mem_points hholds⟩,
    List.mem_flatMap.mpr ⟨run, hrun, CaseRun.mem_points hform⟩⟩

/-- A set out of which all these code points are does not tell a code point from its lower-case
form. -/
theorem holds_lowerCode_of_sweep {set : CodeSet} (hlower : CodeSet.sweep true set lowerPoints = true)
    (hupper : CodeSet.sweep true set upperPoints = true) {n : Nat} (h : lowerCode n ≠ n) :
    CodeSet.holds set n = false ∧ CodeSet.holds set (lowerCode n) = false := by
  have htables := setTables
  obtain ⟨hn, hform⟩ := mem_points_of_lowerCode h
  exact ⟨CodeSet.holds_of_sweep hlower htables.lower_sorted.pairwise hn,
    CodeSet.holds_of_sweep hupper htables.upper_sorted.pairwise hform⟩

/-- Within ASCII the letters are those of the set, too. -/
theorem isLetter_eq (n : Nat) : isLetter n = CodeSet.holds letterSet n := by
  have htables := setTables
  by_cases hlt : n < 128
  · exact htables.letters n hlt
  · rw [isLetter, if_neg hlt]

/-- Within ASCII the numerals are those of the set, too. -/
theorem isNumeral_eq (n : Nat) : isNumeral n = CodeSet.holds numeralSet n := by
  have htables := setTables
  by_cases hlt : n < 128
  · exact htables.numerals n hlt
  · rw [isNumeral, if_neg hlt]

/-- A code point and its lower-case form are either both word characters or both none. -/
theorem isWord_lowerCode (n : Nat) : isWord (lowerCode n) = isWord n := by
  have htables := setTables
  by_cases h : lowerCode n = n
  · rw [h]
  obtain ⟨source, hsource, run, hrun, hholds, hlower, hform, hlettered⟩ :=
    exists_runs_of_lowerCode h
  cases hfirst : unlettered.contains source.first with
  | false =>
      -- Letters have letters as their forms.
      have hrunfirst : unlettered.contains run.first = false := by
        rcases hlettered with htrue | hfalse
        · rw [hfirst] at htrue
          simp at htrue
        · exact hfalse
      have hn : n ∈ lowerLetters := List.mem_flatMap.mpr
        ⟨source, List.mem_filter.mpr ⟨hsource, by rw [hfirst]; rfl⟩, CaseRun.mem_points hholds⟩
      have hm : lowerCode n ∈ upperLetters := List.mem_flatMap.mpr
        ⟨run, List.mem_filter.mpr ⟨hrun, by rw [hrunfirst]; rfl⟩, CaseRun.mem_points hform⟩
      have hletter := CodeSet.holds_of_sweep htables.lower_letters
        htables.lowerLetters_sorted.pairwise hn
      have hletter' := CodeSet.holds_of_sweep htables.upper_letters
        htables.upperLetters_sorted.pairwise hm
      simp [isWord, isLetter_eq, hletter, hletter']
  | true =>
      rcases htables.unlettered source hsource hfirst with rfl | rfl
      · -- Both are numerals.
        have hnumeral (m : Nat) (hm : m ∈ List.range' 8544 32) :
            CodeSet.holds numeralSet m = true :=
          CodeSet.holds_of_sweep htables.roman (List.pairwise_le_range' 1) hm
        simp only [CaseRun.holds, Bool.and_eq_true, decide_eq_true_eq] at hholds
        have hm : lowerCode n = n + 16 := by rw [hlower]; dsimp only; omega
        simp only [isWord, isNumeral_eq, hm]
        rw [hnumeral n (by simp; omega), hnumeral (n + 16) (by simp; omega)]
        simp
      · -- Both are symbols.
        have hsymbol (m : Nat) (hm : m ∈ List.range' 9398 52) :
            CodeSet.holds letterSet m = false ∧ CodeSet.holds numeralSet m = false :=
          ⟨CodeSet.holds_of_sweep htables.encircled (List.pairwise_le_range' 1) hm,
            CodeSet.holds_of_sweep htables.encircled_numerals (List.pairwise_le_range' 1) hm⟩
        simp only [CaseRun.holds, Bool.and_eq_true, decide_eq_true_eq] at hholds
        have hm : lowerCode n = n + 26 := by rw [hlower]; dsimp only; omega
        have hn := hsymbol n (by simp; omega)
        have hn' := hsymbol (n + 26) (by simp; omega)
        simp only [isWord, isLetter_eq, isNumeral_eq, hm, hn, hn']
        simp
        omega

/-- Out of the set between the zeros and what comes after the nines there are no decimal digits. -/
theorem isDecimalDigit_eq_false {n : Nat} (h : CodeSet.holds
    (digitZeros.flatMap fun base => [base, base + 10]) n = false) : isDecimalDigit n = false := by
  have htables := setTables
  rw [← Bool.not_eq_true] at h ⊢
  intro hdigit
  rw [isDecimalDigit, digitValue?, Option.isSome_map, List.find?_isSome] at hdigit
  obtain ⟨base, hbase, hrange⟩ := hdigit
  rw [Bool.and_eq_true, decide_eq_true_eq, decide_eq_true_eq] at hrange
  exact h (holds_of_digit htables.digits_apart hbase hrange.1 hrange.2)

/-- No class tells a character from its lower-case form. -/
theorem CharClass.holds_lowerCode (name : CharClass) (n : Nat) :
    name.holds false (lowerCode n) = name.holds false n := by
  have htables := setTables
  by_cases h : lowerCode n = n
  · rw [h]
  cases name with
  | digit =>
      obtain ⟨hn, hform⟩ :=
        holds_lowerCode_of_sweep htables.lower_digits htables.upper_digits h
      simp [holds, isDecimalDigit_eq_false hn, isDecimalDigit_eq_false hform]
  | blank =>
      obtain ⟨hn, hform⟩ :=
        holds_lowerCode_of_sweep htables.lower_blanks htables.upper_blanks h
      simp [holds, isBlankCode, hn, hform]
  | word => simp [holds, isWord_lowerCode]

end RoutePattern
