import Mathlib.Logic.Function.Iterate
import RoutePattern.Proofs.Lexeme.Defect

/-!
# Running a scan again

A scan may be run any number of times. `runs_stable` is the main result: after a run that succeeds
every further one only notes the end once more, and after a run that fails every further one fails
in the same way and leaves the scan as it is, in front of the construct at fault and with the lexemes
that stand before it.
-/

namespace RoutePattern

namespace Scanner

/-- A scan after it has been run a number of times. -/
def after (calls : Nat) (scanner : Scanner) : Scanner :=
  (fun scanner => scanner.run.2)^[calls] scanner

/-- A scan that has come to the end of its pattern notes the end once more. -/
theorem run_ended (lexemes : List Lexeme) (position : Nat) :
    run ⟨lexemes, position, []⟩
      = (.ok (lexemes ++ [⟨.ending, position, ""⟩]),
          ⟨lexemes ++ [⟨.ending, position, ""⟩], position, []⟩) := by
  simp [run, Progress.ofText]

/-- A scan in front of a text without a first lexeme stays there. -/
theorem run_stuck {c : Char} {rest : List Char} {error : ScanError}
    (h : Head.read c rest = .error error) (lexemes : List Lexeme) (position : Nat) :
    run ⟨lexemes, position, c :: rest⟩
      = (.error (error.moved position), ⟨lexemes, position, c :: rest⟩) := by
  simp [run, Progress.ofText, h, ScanError.moved, Nat.add_comm]

/-- The answers of a scan that has come to the end of its pattern. -/
theorem runs_ended (count : Nat) (lexemes : List Lexeme) (position : Nat) :
    runs count ⟨lexemes, position, []⟩
      = (List.range count).map fun earlier =>
          .ok (lexemes ++ List.replicate (earlier + 1) ⟨.ending, position, ""⟩) := by
  induction count generalizing lexemes with
  | zero => rfl
  | succ count ih =>
      rw [runs, run_ended, List.range_succ_eq_map, List.map_cons, List.map_map]
      dsimp only
      rw [ih]
      simp [Function.comp_def, List.replicate_succ]

/-- The answers of a scan in front of a text without a first lexeme. -/
theorem runs_stuck {c : Char} {rest : List Char} {error : ScanError}
    (h : Head.read c rest = .error error) (count : Nat) (lexemes : List Lexeme) (position : Nat) :
    runs count ⟨lexemes, position, c :: rest⟩
      = List.replicate count (.error (error.moved position)) := by
  induction count with
  | zero => rfl
  | succ count ih =>
      rw [runs, run_stuck h, List.replicate_succ]
      dsimp only
      rw [ih]

/-- The first run over a pattern that can be scanned. -/
theorem run_start {source : String} {lexemes : List Lexeme} (h : scan source = .ok lexemes) :
    run (start source) = (.ok lexemes, ⟨lexemes, source.length, []⟩) := by
  obtain ⟨found, hspelled, rfl⟩ := scan_eq_ok_iff_spelled.mp h
  simp [run, start, hspelled.ofText, String.length_toList]

end Scanner

open Scanner

/-- The first run over a pattern that cannot be scanned. -/
theorem HaltsBefore.run_start {source : String} {front rest : List Char} {found : List Lexeme}
    {c : Char} {error : ScanError} (h : HaltsBefore source front found c rest error) :
    run (start source) = (.error (error.moved front.length), ⟨found, front.length, c :: rest⟩) := by
  have hlength : source.toList.length - (c :: rest).length = front.length := by
    rw [h.text, List.length_append, Nat.add_sub_cancel]
  rw [run, start]
  dsimp only
  rw [h.ofText, hlength, Nat.zero_add, List.nil_append]

/-- A run that succeeds is repeated with the end noted once more each time; a run that fails is
repeated as it is, and leaves the scan in front of the construct at fault with the lexemes found
before it. -/
theorem runs_stable (source : String) (count : Nat) :
    (∀ lexemes, scan source = .ok lexemes →
      runs count (start source) = (List.range count).map fun earlier =>
        .ok (lexemes ++ List.replicate earlier ⟨.ending, source.length, ""⟩)) ∧
      ∀ error, scan source = .error error →
        runs count (start source) = List.replicate count (.error error) ∧
          ∃ begins found ahead,
            scan (String.ofList (source.toList.take begins)) = .ok (found ++ [⟨.ending, begins, ""⟩]) ∧
            Defect (source.toList.drop begins) error.fault.message ahead ∧
            error.index = begins + ahead ∧
            ∀ calls, 0 < calls →
              (start source).after calls = ⟨found, begins, source.toList.drop begins⟩ := by
  constructor
  · intro lexemes h
    cases count with
    | zero => rfl
    | succ count =>
        rw [runs, run_start h, List.range_succ_eq_map, List.map_cons, List.map_map]
        dsimp only
        rw [runs_ended, List.replicate_zero, List.append_nil]
        rfl
  · intro error h
    obtain ⟨front, found, c, rest, fault, hhalts, rfl⟩ := exists_haltsBefore h
    refine ⟨?_, front.length, found, fault.index, hhalts.scan_front, ?_, Nat.add_comm _ _, ?_⟩
    · cases count with
      | zero => rfl
      | succ count =>
          rw [runs, hhalts.run_start, List.replicate_succ]
          dsimp only
          rw [runs_stuck hhalts.read]
    · rw [hhalts.drop_eq]
      exact defect_of_read hhalts.read
    · intro calls hcalls
      obtain ⟨later, rfl⟩ := Nat.exists_eq_succ_of_ne_zero (Nat.ne_of_gt hcalls)
      have hstays : (run ⟨found, front.length, c :: rest⟩).2 = ⟨found, front.length, c :: rest⟩ := by
        rw [run_stuck hhalts.read]
      rw [Scanner.after, Function.iterate_succ_apply, hhalts.run_start, hhalts.drop_eq]
      exact Function.iterate_fixed hstays later

/-- Every run over `:a` notes the end once more; every run over an expression that is not closed
fails in front of it. -/
theorem runs_stable_unbalanced :
    let source := "\\:(a\\)"
    runs 3 (start ":a")
        = (List.range 3).map (fun earlier =>
          .ok ([⟨.name, 0, "a"⟩, ⟨.ending, 2, ""⟩] ++ List.replicate earlier ⟨.ending, 2, ""⟩)) ∧
      scan source = .error ⟨.unbalanced, 2⟩ ∧
      runs 3 (start source) = List.replicate 3 (.error ⟨.unbalanced, 2⟩) ∧
      ∃ begins found ahead,
        scan (String.ofList (source.toList.take begins)) = .ok (found ++ [⟨.ending, begins, ""⟩]) ∧
        Defect (source.toList.drop begins) "unbalanced pattern" ahead ∧ 2 = begins + ahead ∧
        ∀ calls, 0 < calls →
          (start source).after calls = ⟨found, begins, source.toList.drop begins⟩ := by
  have hends : scan ":a" = .ok [⟨.name, 0, "a"⟩, ⟨.ending, 2, ""⟩] := by decide +kernel
  have hscan : scan "\\:(a\\)" = .error ⟨.unbalanced, 2⟩ := by decide +kernel
  exact ⟨(runs_stable ":a" 3).1 _ hends, hscan, (runs_stable _ 3).2 _ hscan⟩

end RoutePattern
