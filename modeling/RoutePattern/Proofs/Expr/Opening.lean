import RoutePattern.Proofs.Expr.Regular
import RoutePattern.Proofs.Text.CaseSets

/-!
# The test that a search begins with

A search puts a test to the next character before it tries a place, if the expression begins with a
set. `isSome_step_of_searchTest?` says that the test passes wherever a regular expression leads
anywhere: a set without characters that have a case holds the same characters whether case matters
or not (`amongMembers_eq`), and taken within all scripts a set accepts no less
(`accepts_of_screened`), as long as it does not list the complement of a class limited to ASCII.
-/

namespace RoutePattern

/-- A character without a case is held where its lower-case form is. -/
theorem Member.holdsFolded_code {n : Nat} (h : isCased n = false) (x : Nat) :
    (code n).holdsFolded .unicode (lowerCode x) = (code n).holds x := by
  have hsame : (lowerCode x == n) = (x == n) := by
    rw [Bool.eq_iff_iff, beq_iff_eq, beq_iff_eq, lowerCode_eq_iff h]
  have hlower : lowerCode n = n := (lowerCode_eq_iff h).mpr rfl
  have hothers : (sharing n).contains (lowerCode x) = false := by
    rw [← Bool.not_eq_true, List.contains_iff_mem]
    intro hmem
    rw [(isCased_of_mem_sharing hmem).1] at h
    simp at h
  rw [holdsFolded, holds]
  split
  · exact hsame
  · simp only [Fold.lower, Fold.others, hlower, hothers, hsame, Bool.or_false]

/-- So are the characters of a range without a case. -/
theorem Member.holdsFolded_range {low high : Nat} (hhigh : high < firstSupplementary)
    (hcased : anyCased low high = false) (x : Nat) :
    (range low high).holdsFolded .unicode (lowerCode x) = (range low high).holds x := by
  rw [Bool.eq_iff_iff]
  simp only [holdsFolded, holds, Nat.not_le.mpr hhigh, decide_false, Bool.false_and,
    Bool.or_false, List.any_eq_true, Bool.and_eq_true, decide_eq_true_eq, Fold.others,
    Fold.sources]
  constructor
  · rintro ⟨form, hform, source, hsource, _, hlow, hle⟩
    -- Nothing in the range has another form, so the source is the character itself.
    have hrange := isCased_of_anyCased hcased hlow hle
    obtain rfl := eq_of_mem_lowerSources hcased hlow hle hsource
    rcases List.mem_cons.mp hform with hx | hshared
    · obtain rfl := (lowerCode_eq_iff hrange).mp hx.symm
      exact ⟨hlow, hle⟩
    · rw [(isCased_of_mem_sharing hshared).2] at hrange
      simp at hrange
  · rintro ⟨hlow, hle⟩
    have hlower := (lowerCode_eq_iff (isCased_of_anyCased hcased hlow hle)).mpr rfl
    refine ⟨x, by rw [hlower]; exact List.mem_cons_self .., x, ?_, by omega, hlow, hle⟩
    simp [lowerSources, hlower]

/-- A member without a case holds a character where it holds the lower-case form of that. -/
theorem Member.holdsFolded_lowerCode {member : Member} (hplain : member.isPlain .unicode = true)
    (hbroad : member.takeClass false = member) (x : Nat) :
    member.holdsFolded .unicode (lowerCode x) = member.holds x := by
  cases member with
  | code n => exact holdsFolded_code (by simpa [isPlain, Fold.cased] using hplain) x
  | range low high =>
      simp only [isPlain, Fold.anyCased, Bool.or_eq_true, beq_iff_eq, reduceCtorEq, false_or,
        Bool.and_eq_true, decide_eq_true_eq, Bool.not_eq_true'] at hplain
      exact holdsFolded_range hplain.1 hplain.2 x
  | cls name asciiOnly negated =>
      obtain rfl : asciiOnly = false := by
        simp only [takeClass, Member.cls.injEq] at hbroad
        exact hbroad.2.1.symm
      simp [holdsFolded, holds, CharClass.holds_lowerCode]

/-- No class tells a character from its lower-case form, whatever case means. -/
theorem CharClass.holds_lower (name : CharClass) (fold : Fold) (n : Nat) :
    name.holds false (fold.lower n) = name.holds false n := by
  cases fold with
  | keep => rfl
  | ascii =>
      by_cases hascii : n < 128
      · have hlower := name.holds_lowerCode n
        rwa [lowerCode, if_pos hascii] at hlower
      · rw [Fold.lower, asciiLower, if_neg (by simp; omega)]
  | unicode => exact name.holds_lowerCode n

/-- Within ASCII, too, a member without a case holds a character where it holds the lower-case form
of that. -/
theorem Member.holdsFolded_asciiLower {member : Member} (hplain : member.isPlain .ascii = true)
    (hbroad : member.takeClass false = member) (x : Nat) :
    member.holdsFolded .ascii (asciiLower x) = member.holds x := by
  cases member with
  | code n =>
      simp only [isPlain, Fold.cased, Bool.not_eq_true', Bool.or_eq_false_iff,
        bne_eq_false_iff_eq] at hplain
      have hsame : (asciiLower x == n) = (x == n) := by
        rw [Bool.eq_iff_iff, beq_iff_eq, beq_iff_eq]
        simp only [asciiLower, asciiUpper, Bool.and_eq_true, decide_eq_true_eq] at hplain ⊢
        split <;> split at hplain <;> split at hplain <;> omega
      simp only [holdsFolded, holds, Fold.lower, Fold.others, hplain.1, hsame, List.contains_nil,
        Bool.or_false, ite_self]
  | range low high =>
      simp only [isPlain, Fold.anyCased, Bool.or_eq_true, beq_iff_eq, reduceCtorEq, false_or,
        Bool.and_eq_true, decide_eq_true_eq, Bool.not_eq_true', Bool.or_eq_false_iff,
        decide_eq_false_iff_not] at hplain
      obtain ⟨hhigh, hupper, hlower⟩ := hplain
      rw [Bool.eq_iff_iff]
      simp only [holdsFolded, holds, Nat.not_le.mpr hhigh, decide_false, Bool.false_and,
        Bool.or_false, List.any_eq_true, Bool.and_eq_true, decide_eq_true_eq, Fold.others,
        Fold.sources, List.mem_filter, List.mem_cons, List.not_mem_nil, or_false, beq_iff_eq,
        exists_eq_left]
      simp only [asciiLower, asciiUpper, Bool.and_eq_true, decide_eq_true_eq]
      constructor
      · rintro ⟨source, ⟨hsource, hform⟩, _, hlow, hle⟩
        split at hform <;> split at hform <;> split at hsource <;> omega
      · rintro ⟨hlow, hle⟩
        refine ⟨x, ⟨?_, rfl⟩, by omega, hlow, hle⟩
        split <;> split <;> omega
  | cls name asciiOnly negated =>
      obtain rfl : asciiOnly = false := by
        simp only [takeClass, Member.cls.injEq] at hbroad
        exact hbroad.2.1.symm
      rw [holdsFolded, holds, show asciiLower x = Fold.ascii.lower x from rfl, name.holds_lower]

/-- In a class limited to ASCII are only characters that are in the class anyway. -/
theorem CharClass.holds_of_ascii {name : CharClass} {n : Nat} (h : name.holds true n = true) :
    name.holds false n = true := by
  cases name with
  | digit =>
      have hdigits : ∀ n < 128, CharClass.digit.holds true n = true →
          CharClass.digit.holds false n = true := by decide +kernel
      refine hdigits n ?_ h
      simp only [holds, ↓reduceIte, Bool.and_eq_true, decide_eq_true_eq] at h
      omega
  | blank =>
      have hblanks : ∀ n < 128, CharClass.blank.holds true n = true →
          CharClass.blank.holds false n = true := by decide +kernel
      refine hblanks n ?_ h
      simp only [holds, ↓reduceIte, Bool.or_eq_true, Bool.and_eq_true, decide_eq_true_eq,
        beq_iff_eq] at h
      omega
  | word =>
      simp only [holds, Bool.and_eq_true] at h ⊢
      exact ⟨rfl, h.2⟩

namespace Member

/-- Taken within all scripts, a member holds more, unless it is the complement of a class that is
limited to ASCII. -/
theorem holds_takeClass {member : Member} (h : ∀ name, member ≠ .cls name true true) (fold : Fold)
    (x : Nat) : (member.holds x = true → (member.takeClass false).holds x = true) ∧
      (member.holdsFolded fold x = true → (member.takeClass false).holdsFolded fold x = true) := by
  cases member with
  | cls name asciiOnly negated =>
      cases asciiOnly <;> cases negated
      case true.false => simpa [holds, holdsFolded, takeClass] using name.holds_of_ascii
      case true.true => exact absurd rfl (h name)
      all_goals exact ⟨id, id⟩
  | _ => exact ⟨id, id⟩

/-- Taken within all scripts, a member holds less, unless it is a class that is limited to ASCII. -/
theorem holds_of_takeClass {member : Member} (h : ∀ name, member ≠ .cls name true false)
    (fold : Fold) (x : Nat) : ((member.takeClass false).holds x = true → member.holds x = true) ∧
      ((member.takeClass false).holdsFolded fold x = true → member.holdsFolded fold x = true) := by
  cases member with
  | cls name asciiOnly negated =>
      cases asciiOnly <;> cases negated
      case true.false => exact absurd rfl (h name)
      case true.true =>
        have hless : name.holds false x = false → name.holds true x = false := by
          rw [← Bool.not_eq_true, ← Bool.not_eq_true]
          exact mt name.holds_of_ascii
        simpa [holds, holdsFolded, takeClass] using hless
      all_goals exact ⟨id, id⟩
  | _ => exact ⟨id, id⟩

end Member

namespace CharTest

/-- A set of members without a case holds the same characters whether case matters or not. -/
theorem amongMembers_eq {fold : Fold} {members : List Member}
    (hplain : ∀ member ∈ members, member.isPlain fold = true)
    (hbroad : ∀ member ∈ members, member.takeClass false = member) (x : Nat) :
    amongMembers fold members x = members.any (·.holds x) := by
  unfold amongMembers
  split
  · next hfolds =>
    rw [Bool.eq_iff_iff, List.any_eq_true, List.any_eq_true]
    refine exists_congr fun member => and_congr_right fun hmem => ?_
    cases fold with
    | keep =>
        obtain ⟨member, _, hmember⟩ := List.any_eq_true.mp hfolds
        cases member <;> simp [Member.folds] at hmember
    | ascii =>
        rw [show Fold.lower .ascii x = asciiLower x from rfl,
          Member.holdsFolded_asciiLower (hplain member hmem) (hbroad member hmem)]
    | unicode =>
        rw [show Fold.lower .unicode x = lowerCode x from rfl,
          Member.holdsFolded_lowerCode (hplain member hmem) (hbroad member hmem)]
  · rfl

/-- A class limited to ASCII is in a set only as itself, or as its complement in the complement of a
set. -/
def Screened : CharTest → Prop
  | set members negated _ =>
      ∀ name inverted, .cls name true inverted ∈ members → inverted = negated
  | _ => True

/-- What is not limited to ASCII has no class that is. -/
theorem screened_of_isBroad {test : CharTest} (h : test.isBroad = true) : test.Screened := by
  cases test with
  | set members negated fold =>
      intro name inverted hmem
      simp only [isBroad, Bool.and_eq_true, List.all_eq_true, beq_iff_eq] at h
      have hbroad := h.2 _ hmem
      simp [Member.takeClass] at hbroad
  | _ => trivial

/-- What holds for each member holds for the members of a set. -/
theorem amongMembers_mono {fold : Fold} {members others : List Member} {x : Nat}
    (hfolds : foldsMembers fold members = foldsMembers fold others)
    (h : ∀ member ∈ members, ∃ other ∈ others, ∀ y, (member.holds y = true → other.holds y = true) ∧
      (member.holdsFolded fold y = true → other.holdsFolded fold y = true))
    (hmembers : amongMembers fold members x = true) : amongMembers fold others x = true := by
  unfold amongMembers at hmembers ⊢
  rw [hfolds] at hmembers
  split at hmembers <;> obtain ⟨member, hmem, hholds⟩ := List.any_eq_true.mp hmembers <;>
    obtain ⟨other, hother, himplies⟩ := h member hmem
  · next hif =>
    rw [if_pos hif]
    exact List.any_eq_true.mpr ⟨other, hother, (himplies _).2 hholds⟩
  · next hif =>
    rw [if_neg hif]
    exact List.any_eq_true.mpr ⟨other, hother, (himplies _).1 hholds⟩

/-- A screened set of members without a case accepts no more than the set that a search puts in its
place. -/
theorem accepts_of_screened {members : List Member} {negated : Bool} {fold : Fold}
    (hplain : ∀ member ∈ members, member.isPlain fold = true)
    (h : (CharTest.set members negated fold).Screened) {c : Char}
    (haccepts : (CharTest.set members negated fold).accepts c = true) :
    (CharTest.set (members.map (·.takeClass false)) negated .keep).accepts c = true := by
  have hbroad : ∀ member ∈ members.map (·.takeClass false), member.takeClass false = member := by
    intro member hmem
    obtain ⟨member, _, rfl⟩ := List.mem_map.mp hmem
    cases member <;> rfl
  have hplain' : ∀ member ∈ members.map (·.takeClass false), member.isPlain fold = true := by
    intro member hmem
    obtain ⟨source, hsource, rfl⟩ := List.mem_map.mp hmem
    have := hplain source hsource
    cases source <;> exact this
  have hkept : ∀ member ∈ members.map (·.takeClass false), member.isPlain .keep = true := by
    intro member _
    cases member <;> rfl
  have hfolds : foldsMembers fold members =
      foldsMembers fold (members.map (·.takeClass false)) := by
    rw [foldsMembers, foldsMembers, List.any_map]
    congr 1
    funext member
    cases member <;> rfl
  rw [accepts, amongMembers_eq hkept hbroad, ← amongMembers_eq hplain' hbroad]
  cases negated with
  | false =>
      rw [accepts, Bool.false_bne] at haccepts
      rw [Bool.false_bne]
      refine amongMembers_mono hfolds (fun member hmem => ?_) haccepts
      refine ⟨_, List.mem_map_of_mem hmem, member.holds_takeClass (fun name heq => ?_) fold⟩
      simpa using h name true (heq ▸ hmem)
  | true =>
      rw [accepts, Bool.true_bne, Bool.not_eq_true', ← Bool.not_eq_true] at haccepts
      rw [Bool.true_bne, Bool.not_eq_true', ← Bool.not_eq_true]
      refine mt (amongMembers_mono hfolds.symm fun member hmem => ?_) haccepts
      obtain ⟨source, hsource, rfl⟩ := List.mem_map.mp hmem
      refine ⟨source, hsource, source.holds_of_takeClass (fun name heq => ?_) fold⟩
      simpa using h name false (heq ▸ hsource)

end CharTest

namespace Expr

variable {e : Expr} {p q : Place} {M N : Marks} {test : CharTest}

/-- Where a regular expression leads on, the set it begins with holds the next character. -/
theorem isSome_step_of_openingSet? (h : e.Regular) (hpasses : e.Passes p M q N)
    (htest : e.openingSet? false = some test) : (p.step test).isSome = true := by
  fun_induction openingSet? false e generalizing p M q N with
  | case1 members negated fold hplain =>
      cases htest
      obtain ⟨c, haccepts, hreaches⟩ := Place.step_eq_some_iff.mp hpasses.1
      refine Option.isSome_iff_exists.mpr ⟨q, Place.step_eq_some_iff.mpr ⟨c, ?_, hreaches⟩⟩
      exact CharTest.accepts_of_screened (List.all_eq_true.mp hplain) (CharTest.screened_of_isBroad h)
        haccepts
  | case2 => simp at htest
  | case3 second ih =>
      obtain ⟨r, L, ⟨rfl, rfl⟩, hsecond⟩ := hpasses
      exact ih h.2 hsecond htest
  | case4 first second hne ih =>
      obtain ⟨r, L, hfirst, _⟩ := hpasses
      exact ih h.1 hfirst htest
  | case5 number body ih =>
      obtain ⟨L, hbody, _⟩ := hpasses
      exact ih h hbody htest
  | case6 => simp at htest

/-- Where a regular expression leads on, a search that begins with a test tries it. -/
theorem isSome_step_of_searchTest? (h : e.Regular) (hpasses : e.Passes p M q N)
    (htest : e.searchTest? false = some test) : (p.step test).isSome = true := by
  unfold searchTest? at htest
  split at htest
  · simp at htest
  · exact isSome_step_of_openingSet? h hpasses htest

end Expr

end RoutePattern
