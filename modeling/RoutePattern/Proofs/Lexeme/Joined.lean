import RoutePattern.Proofs.Lexeme.Rendering

/-!
# Scanning one text after another

A scan reads its text from left to right and never comes back to a lexeme, so a text may be scanned
in two stretches. `scan_append` is the main result: where a text can be scanned, a text behind it
is scanned as if it stood alone, with every offset moved on. The one exception is a name that the
second text would make longer.
-/

namespace RoutePattern

/-- A lexeme with `count` more characters in front of it. -/
def Lexeme.moved (count : Nat) (lexeme : Lexeme) : Lexeme :=
  { lexeme with index := lexeme.index + count }

/-- An error with `count` more characters in front of it. -/
def ScanError.moved (count : Nat) (error : ScanError) : ScanError :=
  { error with index := error.index + count }

/-- How far a scan got, with `count` more characters in front of its text. -/
def Progress.moved (count : Nat) (progress : Progress) : Progress :=
  { progress with
    lexemes := progress.lexemes.map (·.moved count)
    error := progress.error.map (·.moved count) }

/-- Where a text begins only moves the offsets of what is found in it. -/
theorem ofText_add (position count : Nat) (text : List Char) :
    Progress.ofText (position + count) text = (Progress.ofText position text).moved count := by
  fun_induction Progress.ofText position text with
  | case1 => rw [Progress.ofText]; rfl
  | case2 position c rest error hread =>
      have hindex : position + count + error.index = position + error.index + count := by omega
      rw [Progress.ofText, hread]
      dsimp only
      rw [hindex]
      rfl
  | case3 position c rest head hread later lexeme ih =>
      have hplace : position + count + 1 + head.extra = position + 1 + head.extra + count := by omega
      have hlexeme : lexeme.moved count
          = ⟨head.kind, (position + count : Nat), String.ofList head.value⟩ := by
        rw [Lexeme.moved, Int.natCast_add]
      rw [Progress.ofText, hread]
      dsimp only
      rw [hplace, ih, ← hlexeme]
      rfl

/-- A text behind one that can be scanned is scanned as if it stood alone, with its offsets moved
on, unless it makes a name at the end of the first one longer. -/
theorem scan_append {first second : String} {lexemes : List Lexeme} (h : scan first = .ok lexemes)
    (huncut : ∀ last ∈ lexemes.dropLast.getLast?, last.kind = .name → NoNameChar second.toList) :
    scan (first ++ second) = match scan second with
      | .ok later => .ok (lexemes.dropLast ++ later.map (·.moved first.length))
      | .error error => .error (error.moved first.length) := by
  obtain ⟨found, hspelled, rfl⟩ := scan_eq_ok_iff_spelled.mp h
  rw [List.dropLast_concat] at huncut ⊢
  have hmoved : Progress.ofText (0 + first.toList.length) second.toList
      = (Progress.ofText 0 second.toList).moved first.length := by
    rw [ofText_add, String.length_toList]
  have hjoined := hspelled.ofText_append huncut
  rw [hmoved] at hjoined
  rw [scan_eq, scan_eq, String.toList_append, hjoined]
  cases herror : (Progress.ofText 0 second.toList).error with
  | some error => simp [Progress.moved, herror]
  | none => simp [Progress.moved, herror, Lexeme.moved, Int.add_comm]

/-- Behind a name a text that does not go on with it is scanned, and fails, on its own. -/
theorem scan_append_name :
    let found : List Lexeme := [⟨.char, 0, "/"⟩, ⟨.name, 1, "id"⟩, ⟨.ending, 4, ""⟩]
    scan "/:id" = .ok found ∧
      (∀ last ∈ found.dropLast.getLast?, last.kind = .name → NoNameChar "-\\((x(y))".toList) ∧
      scan "-\\((x(y))" = .error ⟨.capturingGroup, 5⟩ ∧
      scan ("/:id" ++ "-\\((x(y))") = .error ⟨.capturingGroup, 9⟩ ∧
      scan ("/:id" ++ ".*") = .ok [⟨.char, 0, "/"⟩, ⟨.name, 1, "id"⟩, ⟨.char, 4, "."⟩,
        ⟨.modifier, 5, "*"⟩, ⟨.ending, 6, ""⟩] := by
  intro found
  have hfirst : scan "/:id" = .ok found := by decide +kernel
  have hcut {text : String} (htext : NoNameChar text.toList) :
      ∀ last ∈ found.dropLast.getLast?, last.kind = .name → NoNameChar text.toList :=
    fun _ _ _ => htext
  have hfails : scan "-\\((x(y))" = .error ⟨.capturingGroup, 5⟩ := by decide +kernel
  have hends : scan ".*" = .ok [⟨.char, 0, "."⟩, ⟨.modifier, 1, "*"⟩, ⟨.ending, 2, ""⟩] := by
    decide +kernel
  have hdash : NoNameChar "-\\((x(y))".toList := by simp [NoNameChar, isNameChar]
  have hdot : NoNameChar ".*".toList := by simp [NoNameChar, isNameChar]
  have hjoined := scan_append hfirst (hcut hdash)
  have hjoined' := scan_append hfirst (hcut hdot)
  rw [hfails] at hjoined
  rw [hends] at hjoined'
  exact ⟨hfirst, hcut hdash, hfails, hjoined, hjoined'⟩

/-- A name that the second text goes on with is a single lexeme. -/
example : (scan (":a" ++ "b")).toOption = some [⟨.name, 0, "ab"⟩, ⟨.ending, 3, ""⟩] := by
  decide +kernel

end RoutePattern
