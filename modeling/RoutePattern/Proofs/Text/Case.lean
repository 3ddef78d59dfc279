import RoutePattern.Text.Case

/-!
# Characters with a case

A code point has a case exactly if one of the runs holds it. The lower-case form of a code point
that differs from it has a case as well (`isCased_lowerCode`), and so has a form that shares its
upper-case form with others (`isCased_of_mem_sharing`). A range without a case of its own holds no
cased code point (`isCased_of_anyCased`).
-/

namespace RoutePattern

/-! ## Runs -/

/-- A run that holds a code point of a range meets that range. -/
theorem CaseRun.meets_of_holds {run : CaseRun} {n low high : Nat} (h : run.holds n = true)
    (hlow : low ≤ n) (hhigh : n ≤ high) : run.meets low high = true := by
  simp only [holds, Bool.and_eq_true, decide_eq_true_eq, beq_iff_eq] at h
  obtain ⟨⟨hfirst, hlast⟩, hstep⟩ := h
  obtain ⟨ahead, hahead⟩ : ∃ ahead, max low run.first = run.first + ahead :=
    Nat.exists_eq_add_of_le (Nat.le_max_right ..)
  obtain ⟨extra, hextra⟩ : ∃ extra, n = max low run.first + extra :=
    Nat.exists_eq_add_of_le (Nat.max_le.mpr ⟨hlow, hfirst⟩)
  -- From the beginning of the range on, the code point comes first that completes a step.
  have hnext : (run.step - ahead % run.step) % run.step ≤ extra := by
    have hsum : (ahead + extra) % run.step = 0 := by
      rwa [hextra, hahead, Nat.add_assoc, Nat.add_sub_cancel_left] at hstep
    rcases Nat.eq_zero_or_pos run.step with hzero | hpos
    · simp only [hzero, Nat.mod_zero] at hsum ⊢
      omega
    · rw [Nat.add_mod] at hsum
      have hahead := Nat.mod_lt ahead hpos
      have hmod := Nat.mod_lt extra hpos
      obtain ⟨count, hcount⟩ := Nat.dvd_of_mod_eq_zero hsum
      have hfew : count < 2 := by
        refine Nat.lt_of_not_le fun hmany => ?_
        have := Nat.mul_le_mul_left run.step hmany
        omega
      have hle := Nat.mod_le extra run.step
      obtain rfl | rfl : count = 0 ∨ count = 1 := by omega
      · rw [show ahead % run.step = 0 by omega, Nat.sub_zero, Nat.mod_self]
        exact Nat.zero_le _
      · exact Nat.le_trans (Nat.mod_le ..) (by omega)
  simp only [meets, hahead, Nat.add_sub_cancel_left, Bool.and_eq_true, decide_eq_true_eq]
  omega

/-- A form that differs comes from a run. -/
theorem exists_run_of_caseForm {runs : List CaseRun} {n : Nat} (h : caseForm runs n ≠ n) :
    ∃ run ∈ runs, run.holds n = true ∧ caseForm runs n = (n + run.shift).toNat := by
  unfold caseForm at h ⊢
  split at h
  · next run hfind =>
    have hholds : run.holds n = true := by simpa using List.find?_some hfind
    exact ⟨run, List.mem_of_find?_eq_some hfind, hholds, rfl⟩
  · exact absurd rfl h

/-- Where every run really shifts what it holds, a code point in a run differs from its form. -/
theorem caseForm_ne {runs : List CaseRun} (hshift : ∀ run ∈ runs, run.shift ≠ 0 ∧
    0 ≤ run.first + run.shift) {run : CaseRun} {n : Nat} (hmem : run ∈ runs)
    (hholds : run.holds n = true) : caseForm runs n ≠ n := by
  unfold caseForm
  split
  · next other hfind =>
    have hother := List.find?_some hfind
    obtain ⟨hne, hpos⟩ := hshift other (List.mem_of_find?_eq_some hfind)
    simp only [CaseRun.holds, Bool.and_eq_true, decide_eq_true_eq] at hother
    omega
  · next hnone =>
    exact absurd hholds (by simpa using List.find?_eq_none.mp hnone run hmem)

/-! ## Forms -/

/-- A lower-case form that differs comes from a run. -/
theorem exists_run_of_lowerCode {n : Nat} (h : lowerCode n ≠ n) :
    ∃ run ∈ lowerRuns, run.holds n = true ∧ lowerCode n = (n + run.shift).toNat := by
  unfold lowerCode at h ⊢
  split at h
  · next hascii =>
    -- Within ASCII the first run says the same.
    unfold asciiLower at h ⊢
    split at h
    · next hupper =>
      rw [Bool.and_eq_true, decide_eq_true_eq, decide_eq_true_eq] at hupper
      refine ⟨⟨65, 90, 1, 32⟩, List.mem_cons_self .., ?_, ?_⟩
      · simp [CaseRun.holds, hupper, Nat.mod_one]
      · rw [if_pos hascii, if_pos (by simpa using hupper)]
        exact (Int.toNat_natCast (n + 32)).symm
    · exact absurd rfl h
  · next hwide =>
    rw [if_neg hwide]
    exact exists_run_of_caseForm h

/-- An upper-case form that differs comes from a run. -/
theorem exists_run_of_upperCode {n : Nat} (h : upperCode n ≠ n) :
    ∃ run ∈ upperRuns, run.holds n = true := by
  unfold upperCode at h
  split at h
  · unfold asciiUpper at h
    split at h
    · next hlower =>
      rw [Bool.and_eq_true, decide_eq_true_eq, decide_eq_true_eq] at hlower
      exact ⟨⟨97, 122, 1, -32⟩, List.mem_cons_self .., by simp [CaseRun.holds, hlower, Nat.mod_one]⟩
    · exact absurd rfl h
  · obtain ⟨run, hmem, hholds, _⟩ := exists_run_of_caseForm h
    exact ⟨run, hmem, hholds⟩

/-- A range that holds a code point with a case has one. -/
theorem isCased_of_anyCased {n low high : Nat} (h : anyCased low high = false) (hlow : low ≤ n)
    (hhigh : n ≤ high) : isCased n = false := by
  rw [← Bool.not_eq_true] at h ⊢
  intro hcased
  refine h ?_
  rw [isCased, Bool.or_eq_true, bne_iff_ne, bne_iff_ne] at hcased
  rw [anyCased, Bool.or_eq_true, List.any_eq_true, List.any_eq_true]
  rcases hcased with hlower | hupper
  · obtain ⟨run, hmem, hholds, _⟩ := exists_run_of_lowerCode hlower
    exact .inl ⟨run, hmem, CaseRun.meets_of_holds hholds hlow hhigh⟩
  · obtain ⟨run, hmem, hholds⟩ := exists_run_of_upperCode hupper
    exact .inr ⟨run, hmem, CaseRun.meets_of_holds hholds hlow hhigh⟩

/-- A code point of a range without a case is the lower-case form of no other one than itself. -/
theorem eq_of_mem_lowerSources {form source low high : Nat} (hcased : anyCased low high = false)
    (hlow : low ≤ source) (hhigh : source ≤ high) (h : source ∈ lowerSources form) :
    source = form := by
  unfold lowerSources at h
  have hshifted : source ∉ lowerRuns.filterMap fun run =>
      if 0 ≤ (form : Int) - run.shift && run.holds ((form : Int) - run.shift).toNat then
        some ((form : Int) - run.shift).toNat else none := by
    intro hmem
    obtain ⟨run, hrun, hif⟩ := List.mem_filterMap.mp hmem
    split at hif
    · next hboth =>
      cases hif
      rw [Bool.and_eq_true] at hboth
      have hmeets := CaseRun.meets_of_holds hboth.2 hlow hhigh
      rw [anyCased, Bool.or_eq_false_iff, List.any_eq_false] at hcased
      exact hcased.1 run hrun hmeets
    · simp at hif
  dsimp only at h
  split at h
  · exact (List.mem_cons.mp h).resolve_right hshifted
  · exact absurd h hshifted

/-- The code points that a run holds. -/
def CaseRun.points (run : CaseRun) : List Nat :=
  (List.range ((run.last - run.first) / run.step + 1)).map fun index => run.first + run.step * index

/-- What a run holds is among its points. -/
theorem CaseRun.mem_points {run : CaseRun} {n : Nat} (h : run.holds n = true) :
    n ∈ run.points := by
  simp only [holds, Bool.and_eq_true, decide_eq_true_eq, beq_iff_eq] at h
  obtain ⟨⟨hfirst, hlast⟩, hstep⟩ := h
  refine List.mem_map.mpr ⟨(n - run.first) / run.step, ?_, ?_⟩
  · exact List.mem_range.mpr (Nat.lt_succ_of_le (Nat.div_le_div_right (by omega)))
  · rw [Nat.mul_div_cancel' (Nat.dvd_of_mod_eq_zero hstep)]
    omega

/-- Whether a run holds what another one shifts its code points to. -/
def CaseRun.takes (run source : CaseRun) : Bool :=
  let first := (source.first + source.shift).toNat
  Nat.ble (source.last + source.shift).toNat run.last && Nat.ble run.first first &&
    (run.step == 1 || (run.step == source.step && (first - run.first) % run.step == 0))

/-- A run that takes another one holds what that one shifts. -/
theorem CaseRun.holds_of_takes {run source : CaseRun} (h : run.takes source = true) {n : Nat}
    (hpos : 0 ≤ source.first + source.shift) (hholds : source.holds n = true) :
    run.holds (n + source.shift).toNat = true := by
  simp only [holds, takes, Bool.and_eq_true, Bool.or_eq_true, decide_eq_true_eq, Nat.ble_eq,
    beq_iff_eq] at h hholds ⊢
  obtain ⟨⟨hlast, hfirst⟩, hstep⟩ := h
  obtain ⟨⟨hfrom, hto⟩, hcount⟩ := hholds
  refine ⟨⟨by omega, by omega⟩, ?_⟩
  rcases hstep with hone | ⟨hsame, hrest⟩
  · rw [hone, Nat.mod_one]
  · rw [← hsame] at hcount
    rw [show (n + source.shift).toNat - run.first =
      ((source.first + source.shift).toNat - run.first) + (n - source.first) by omega, Nat.add_mod,
      hrest, hcount, Nat.zero_add, Nat.zero_mod]

/-- The first code points of the runs that hold no letters: numerals and symbols with another form,
and a mark that is written below letters. -/
def unlettered : List Nat :=
  [837, 8544, 8560, 9398, 9424]

/-- What one pass through the tables of forms shows. -/
structure CaseTables : Prop where
  /-- Each run of code points with an upper-case form really shifts them. -/
  shifted : ∀ run ∈ upperRuns, run.shift ≠ 0 ∧ 0 ≤ run.first + run.shift
  /-- Within ASCII only the letters have one. -/
  ascii : ∀ run ∈ upperRuns, run.first < 128 → run = ⟨97, 122, 1, -32⟩
  lower : ∀ run ∈ lowerRuns, 0 ≤ run.first + run.shift
  /-- Each run of code points with a lower-case form is shifted into one of those with an upper-case
  form, or point by point into several, and letters to letters. -/
  taken : (lowerRuns.all fun source =>
    (upperRuns.any fun run => run.takes source &&
      (unlettered.contains source.first || !unlettered.contains run.first)) ||
    source.points.all fun n => upperRuns.any fun run => run.holds (n + source.shift).toNat &&
      (unlettered.contains source.first || !unlettered.contains run.first)) = true
  /-- Forms that share their upper-case form have a case. -/
  shared : ∀ forms ∈ sharedForms, ∀ n ∈ forms, (upperRuns.any fun run => run.holds n) = true

/-- The tables of forms are as they should be. -/
theorem caseTables : CaseTables where
  shifted := by decide +kernel
  ascii := by decide +kernel
  lower := by decide +kernel
  taken := by decide +kernel
  shared := by decide +kernel

/-- A code point in a run of those with an upper-case form differs from that. -/
theorem upperCode_ne {run : CaseRun} {n : Nat} (hmem : run ∈ upperRuns)
    (hholds : run.holds n = true) : upperCode n ≠ n := by
  have htables := caseTables
  unfold upperCode
  split
  · next hlt =>
    have hbounds := hholds
    simp only [CaseRun.holds, Bool.and_eq_true, decide_eq_true_eq] at hbounds
    obtain rfl := htables.ascii run hmem (by omega)
    obtain ⟨⟨hfirst, hlast⟩, _⟩ := hbounds
    rw [asciiUpper, if_pos (by simp [hfirst, hlast])]
    dsimp only at hfirst
    omega
  · exact caseForm_ne htables.shifted hmem hholds

/-- A lower-case form that differs is in a run of its own, which has letters for letters. -/
theorem exists_runs_of_lowerCode {n : Nat} (h : lowerCode n ≠ n) :
    ∃ source ∈ lowerRuns, ∃ run ∈ upperRuns, source.holds n = true ∧
      lowerCode n = (n + source.shift).toNat ∧ run.holds (lowerCode n) = true ∧
        (unlettered.contains source.first = true ∨ unlettered.contains run.first = false) := by
  have htables := caseTables
  obtain ⟨source, hsource, hholds, hlower⟩ := exists_run_of_lowerCode h
  have htaken := List.all_eq_true.mp htables.taken source hsource
  rw [Bool.or_eq_true, List.any_eq_true, List.all_eq_true] at htaken
  refine ⟨source, hsource, ?_⟩
  rw [hlower]
  rcases htaken with ⟨run, hrun, htakes⟩ | hpoints
  · rw [Bool.and_eq_true, Bool.or_eq_true, Bool.not_eq_true'] at htakes
    exact ⟨run, hrun, hholds, rfl,
      CaseRun.holds_of_takes htakes.1 (htables.lower source hsource) hholds, htakes.2⟩
  · obtain ⟨run, hrun, htakes⟩ := List.any_eq_true.mp (hpoints n (CaseRun.mem_points hholds))
    rw [Bool.and_eq_true, Bool.or_eq_true, Bool.not_eq_true'] at htakes
    exact ⟨run, hrun, hholds, rfl, htakes⟩

/-- A lower-case form that differs has a case itself. -/
theorem isCased_lowerCode {n : Nat} (h : lowerCode n ≠ n) : isCased (lowerCode n) = true := by
  obtain ⟨_, _, run, hrun, _, _, hholds, _⟩ := exists_runs_of_lowerCode h
  rw [isCased, Bool.or_eq_true, bne_iff_ne, bne_iff_ne]
  exact .inr (upperCode_ne hrun hholds)

/-- Only a code point without a case is the lower-case form of nothing else. -/
theorem lowerCode_eq_iff {n x : Nat} (h : isCased n = false) : lowerCode x = n ↔ x = n := by
  constructor
  · intro hlower
    by_cases heq : lowerCode x = x
    · exact heq.symm.trans hlower
    · have hcased := isCased_lowerCode heq
      rw [hlower, h] at hcased
      simp at hcased
  · rintro rfl
    simp only [isCased, Bool.or_eq_false_iff, bne_eq_false_iff_eq] at h
    exact h.1

/-- A code point that shares its upper-case form has a case, and so have the others. -/
theorem isCased_of_mem_sharing {n other : Nat} (h : other ∈ sharing n) :
    isCased n = true ∧ isCased other = true := by
  have htables := caseTables
  have hcased {forms : List Nat} (hforms : forms ∈ sharedForms) {m : Nat} (hm : m ∈ forms) :
      isCased m = true := by
    obtain ⟨run, hrun, hholds⟩ := List.any_eq_true.mp (htables.shared forms hforms m hm)
    rw [isCased, Bool.or_eq_true, bne_iff_ne, bne_iff_ne]
    exact .inr (upperCode_ne hrun hholds)
  unfold sharing at h
  split at h
  · next forms hfind =>
    have hforms := List.mem_of_find?_eq_some hfind
    have hn : forms.contains n = true := by simpa using List.find?_some hfind
    exact ⟨hcased hforms (List.contains_iff_mem.mp hn), hcased hforms (List.mem_of_mem_erase h)⟩
  · simp at h

end RoutePattern
