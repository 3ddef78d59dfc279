import RoutePattern.Proofs.Lexeme.Defect

/-!
# The character at fault

A scan that fails points at one character of the pattern, and the fault tells which character that
is. `culprit_of_scan` is the main result: the character stands in the pattern, at the offset of the
error.
-/

namespace RoutePattern

/-- The character that a fault is about. -/
def ScanFault.culprit : ScanFault → Char
  | danglingEscape => '\\'
  | missingName => ':'
  | leadingQuestion => '?'
  | capturingGroup | unbalanced | missingPattern => '('

/-- No two faults have one message. -/
theorem ScanFault.message_injective {fault other : ScanFault} (h : fault.message = other.message) :
    fault = other := by
  cases fault <;> cases other <;> simp [message] at h ⊢

/-- A character of a text that is not blanked is one of the text. -/
theorem getElem?_of_blankEscapes {c : Char} (hc : c ≠ ' ') {text : List Char} {place : Nat}
    (h : (blankEscapes text)[place]? = some c) : text[place]? = some c := by
  fun_induction blankEscapes text generalizing place with
  | case1 => simp at h
  | case2 =>
      cases place with
      | zero => exact absurd (by simpa using h.symm) hc
      | succ place => simp at h
  | case3 _ rest ih =>
      obtain _ | _ | place := place
      · exact absurd (by simpa using h.symm) hc
      · exact absurd (by simpa using h.symm) hc
      · exact ih h
  | case4 first rest _ _ ih =>
      cases place with
      | zero => exact h
      | succ place => exact ih h

/-- A defect points at the character that its message is about. -/
theorem Defect.culprit {text : List Char} {message : String} {ahead : Nat}
    (h : Defect text message ahead) :
    ∃ fault : ScanFault, fault.message = message ∧ text[ahead]? = some fault.culprit := by
  cases h with
  | missingName htext => exact ⟨.missingName, rfl, by rw [htext]; rfl⟩
  | danglingEscape htext => exact ⟨.danglingEscape, rfl, by rw [htext]; rfl⟩
  | leadingQuestion htext => exact ⟨.leadingQuestion, rfl, by rw [htext]; rfl⟩
  | missingPattern htext => exact ⟨.missingPattern, rfl, by rw [htext]; rfl⟩
  | unbalanced htext => exact ⟨.unbalanced, rfl, by rw [htext]; rfl⟩
  | capturingGroup htext _ hfirst =>
      refine ⟨.capturingGroup, rfl, ?_⟩
      rw [htext, Nat.add_comm, List.getElem?_cons_succ]
      exact getElem?_of_blankEscapes (by decide) hfirst.captures.opens

/-- A pattern that cannot be scanned has the character at fault at the offset of the error. -/
theorem culprit_of_scan {source : String} {error : ScanError} (h : scan source = .error error) :
    source.toList[error.index]? = some error.fault.culprit := by
  obtain ⟨front, found, c, rest, inner, hhalts, rfl⟩ := exists_haltsBefore h
  obtain ⟨fault, hmessage, hculprit⟩ := (defect_of_read hhalts.read).culprit
  obtain rfl := ScanFault.message_injective hmessage
  rw [hhalts.text, ScanError.moved, Nat.add_comm, List.getElem?_append_right (Nat.le_add_right _ _),
    Nat.add_sub_cancel_left, hculprit]

end RoutePattern
