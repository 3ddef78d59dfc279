import Mathlib.Data.List.Basic

/-!
# Whole numbers in a text

A whole number is shown with digits and perhaps a sign. `numeral_inj` is the main result: where such
a number ends at a mark that is none of these, the text tells which number it is.
-/

namespace RoutePattern

/-- A natural number is shown with digits only. -/
theorem isDigit_of_mem_natural {n : Nat} {c : Char} (h : c ∈ n.repr.toList) : c.isDigit = true := by
  rw [Nat.repr_eq_ofList_toDigits, String.toList_ofList] at h
  exact Nat.isDigit_of_mem_toDigits (by omega) (by omega) h

/-- Reading the digits of a natural number gives the number back. -/
theorem natural_inj {m n : Nat} (h : m.repr.toList = n.repr.toList) : m = n := by
  have hread := congrArg (Nat.ofDigitChars 10 · 0) h
  simpa [Nat.repr_eq_ofList_toDigits] using hread

/-- A natural number is shown without a sign in front. -/
theorem natural_ne_negative {n : Nat} {digits : List Char} : n.repr.toList ≠ '-' :: digits := by
  intro h
  have hsign : '-'.isDigit = true := isDigit_of_mem_natural (h ▸ List.mem_cons_self)
  exact absurd hsign (by decide)

/-- A number that is not negative is shown like a natural number, and a negative one with a sign in
front. -/
theorem numeral_eq (n : Int) :
    n.repr.toList = if 0 ≤ n then n.toNat.repr.toList else '-' :: (-n).toNat.repr.toList := by
  rw [Int.repr_eq_if]
  split <;> simp

/-- A whole number is shown with digits and a sign only. -/
theorem mem_numeral {n : Int} {c : Char} (h : c ∈ n.repr.toList) :
    c = '-' ∨ c.isDigit = true := by
  rw [numeral_eq] at h
  split at h
  · exact .inr (isDigit_of_mem_natural h)
  · exact (List.mem_cons.mp h).imp_right isDigit_of_mem_natural

/-- A mark that is neither a sign nor a digit is not in a number. -/
theorem not_mem_numeral {mark : Char} (hsign : mark ≠ '-') (hdigit : mark.isDigit = false) (n : Int) :
    mark ∉ n.repr.toList := by
  intro h
  obtain rfl | h := mem_numeral h
  · exact hsign rfl
  · rw [hdigit] at h
    cases h

/-- Numbers that end at the same mark are the same. -/
theorem numeral_inj {mark : Char} (hsign : mark ≠ '-') (hdigit : mark.isDigit = false) {m n : Int}
    {back : List Char} (h : m.repr.toList ++ [mark] = n.repr.toList ++ mark :: back) :
    m = n := by
  have hnumbers : m.repr.toList = n.repr.toList :=
    ((List.append_cons_inj_of_notMem (not_mem_numeral hsign hdigit m) List.not_mem_nil).mp h).1
  rw [numeral_eq, numeral_eq] at hnumbers
  split at hnumbers <;> split at hnumbers
  · have := natural_inj hnumbers
    omega
  · exact absurd hnumbers natural_ne_negative
  · exact absurd hnumbers.symm natural_ne_negative
  · have := natural_inj (List.cons.inj hnumbers).2
    omega

end RoutePattern
