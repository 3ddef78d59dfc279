import RoutePattern.Proofs.Expr.Alternatives
import RoutePattern.Proofs.Expr.Forward

/-!
# The first place that matches

A search tries the places of a text one after the other, but it leaves out those where the next
character cannot begin a match or where too few characters are left. `search_eq` says when it is
right to do so: a search then ends at the first of all places from which the expression matches.
The one thing that can go wrong with the next character is a class that is limited to ASCII. The
search puts the class of all scripts in its place, and the complement of that one holds less.
-/

namespace RoutePattern

namespace Expr

/-! ## What a search leaves out -/

/-- If an expression begins with a set, the set may be put in front of a search. -/
def Screened : Expr → Prop
  | char test => test.Screened
  | seq empty second => second.Screened
  | seq first _ => first.Screened
  | group _ body => body.Screened
  | _ => True

/-- Where nothing comes before an expression, that expression decides about a row of them. -/
theorem screened_ofList_cons {e : Expr} {rest : List Expr} :
    (ofList (e :: rest)).Screened ↔ if e = empty then (ofList rest).Screened else e.Screened := by
  split
  · next hempty =>
    subst hempty
    cases rest <;> rfl
  · next hne =>
    cases rest with
    | nil => rfl
    | cons next rest =>
        rw [ofList, Screened.eq_3 _ _ (by simpa using hne)]
        simp

/-- Two rows of expressions may be searched for if each of them may. -/
theorem screened_ofList_append {first second : List Expr} (hfirst : (ofList first).Screened)
    (hsecond : (ofList second).Screened) : (ofList (first ++ second)).Screened := by
  induction first with
  | nil => exact hsecond
  | cons e rest ih =>
      rw [screened_ofList_cons] at hfirst
      rw [List.cons_append, screened_ofList_cons]
      split
      · next hempty =>
        rw [if_pos hempty] at hfirst
        exact ih hfirst
      · next hne =>
        rwa [if_neg hne] at hfirst

/-- What begins with a test or a condition depends only on that. -/
theorem screened_lead {e : Expr} {lead rest others : List Expr}
    (hsimple : Alternation.isSimple e = true) :
    (ofList (e :: lead ++ rest)).Screened ↔ (ofList (e :: lead ++ others)).Screened := by
  have hne : e ≠ empty := by
    rintro rfl
    simp [Alternation.isSimple] at hsimple
  rw [List.cons_append, List.cons_append, screened_ofList_cons, screened_ofList_cons, if_neg hne,
    if_neg hne]

/-- Alternatives put together may be searched for if each of them may. -/
theorem screened_ofBranches {fold : Fold} (hfold : fold ≠ .ascii) {branches : List (List Expr)}
    (hjoins : ∀ branch ∈ branches, Alternation.Joins fold branch)
    (h : ∀ branch ∈ branches, (ofList branch).Screened) :
    (ofList (Alternation.ofBranches fold branches)).Screened := by
  unfold Alternation.ofBranches
  split
  · trivial
  · exact h _ (by simp)
  · next first others _ =>
    cases hsplit : Alternation.splitLead first others with
    | mk lead tails =>
        obtain ⟨hbranches, hsimple⟩ := Alternation.splitLead_eq hsplit
        rw [hbranches] at h hjoins
        dsimp only
        cases lead with
        | cons e lead =>
            -- The first branch begins with the same test or condition.
            obtain ⟨tail, htail⟩ := Alternation.exists_mem_of_splitLead hsplit
            have hbranch := h _ (List.mem_map_of_mem htail)
            split <;> exact (screened_lead (hsimple e (by simp))).mp hbranch
        | nil =>
            split
            · next members hmembers =>
              obtain ⟨_, hcodes⟩ := Alternation.merges_of_allMembers? hfold hmembers
                fun tail htail => (hjoins _ (List.mem_map_of_mem htail)).tail
              intro name inverted hmem
              obtain ⟨n, hcode, _⟩ := hcodes _ hmem
              simp at hcode
            · cases tails <;> trivial

/-- Where the set in front of a search does not hold the next character, there is no match. -/
theorem run_of_openingSet? {e : Expr} (h : e.Screened) {test : CharTest}
    (htest : e.openingSet? false = some test) {place : Place} (hstep : place.step test = none)
    (looped : Bool) (next : Option CharTest) (memory : Memory) (k : Continuation) :
    (e.run looped next place memory k).found? = none := by
  fun_induction openingSet? false e generalizing next memory k with
  | case1 members negated fold hplain =>
      cases htest
      rw [run]
      have hnone : place.step (.set members negated fold) = none := by
        rw [Place.step] at hstep ⊢
        cases hnext : place.next? with
        | none => rfl
        | some after =>
            simp only [hnext, ite_eq_right_iff, reduceCtorEq, imp_false] at hstep ⊢
            exact mt (CharTest.accepts_of_screened (List.all_eq_true.mp hplain) h) hstep
      rw [hnone]
      rfl
  | case2 => simp at htest
  | case3 second ih => exact ih h htest _ _ _
  | case4 first second hne ih =>
      rw [run]
      refine ih ?_ htest _ _ _
      rwa [Screened.eq_3 _ _ hne] at h
  | case5 number body ih =>
      rw [run]
      exact ih h htest _ _ _
  | case6 => simp at htest

/-- Where the test in front of a search fails, there is no match. -/
theorem hit?_of_searchTest? {e : Expr} (h : e.Screened) {test : CharTest}
    (htest : e.searchTest? false = some test) {place : Place} (hstep : place.step test = none) :
    e.hit? place = none := by
  rw [searchTest?, Option.ite_none_left_eq_some] at htest
  exact run_of_openingSet? h htest.2 hstep _ _ _ _

/-- A search leaves out only places without a match. -/
theorem hit?_of_left_out {e : Expr} (h : e.Screened) {place : Place}
    (htest : ¬((e.searchTest? false).all fun test => (place.step test).isSome) = true) :
    e.hit? place = none := by
  cases hsearch : e.searchTest? false with
  | none => simp [hsearch] at htest
  | some test =>
      simp only [hsearch, Option.all_some, Bool.not_eq_true, Option.isSome_eq_false_iff,
        Option.isNone_iff_eq_none] at htest
      exact hit?_of_searchTest? h hsearch htest

/-- Where fewer characters are left than the width says, there is no match. -/
theorem hit?_of_left {e : Expr} (href : e.Unreferring) (h : e.Forward) {place : Place}
    (hleft : place.left < e.width.least) : e.hit? place = none := by
  have hplace : place.Beyond place.whole 0 := ⟨rfl, Nat.zero_le _⟩
  have hadvances := run_advances href h false none (.inl rfl) place { cursor := place }
    Matching.accept (place.offset + e.width.least) hplace hplace fun q later hq _ => hq
  rw [hit?]
  cases hrun : e.run false none place { cursor := place } Matching.accept with
  | failed later => rfl
  | found later =>
      -- A match would end beyond the end of the text.
      rw [hrun] at hadvances
      have hlow : place.offset + e.width.least ≤ later.cursor.offset := Place.Beyond.low hadvances
      have hwhole : later.cursor.whole = place.whole := Place.Beyond.whole hadvances
      have hroom := place.offset_add_left
      have hcursor := later.cursor.offset_add_left
      rw [hwhole] at hcursor
      omega

/-! ## The first match in a text -/

end Expr

/-- A place and as many places behind it as there are, up to a number. -/
def Place.onward : Nat → Place → List Place
  | 0, place => [place]
  | count + 1, place =>
      match place.next? with
      | some (_, later) => place :: onward count later
      | none => [place]

/-- The match from a place, as a search finds it. -/
def Found.at (place : Place) (memory : Memory) : Found :=
  ⟨place.offset, memory.cursor.textSince place, memory⟩

namespace Expr

/-- The match from the first place of a text from which an expression matches. -/
def firstHit? (e : Expr) (text : List Char) : Option Found :=
  ((Place.start text).onward text.length).findSome? fun place =>
    (e.hit? place).map (Found.at place)

/-- The places from a place on are reached from there. -/
theorem reaches_of_mem_onward {count : Nat} {place q : Place} (h : q ∈ place.onward count) :
    ∃ text, place.Reaches q text := by
  induction count generalizing place with
  | zero =>
      rw [Place.onward, List.mem_singleton] at h
      exact ⟨[], Place.reaches_nil_iff.mpr h.symm⟩
  | succ count ih =>
      rw [Place.onward] at h
      cases hnext : place.next? with
      | none =>
          simp only [hnext, List.mem_singleton] at h
          exact ⟨[], Place.reaches_nil_iff.mpr h.symm⟩
      | some after =>
          simp only [hnext, List.mem_cons] at h
          rcases h with rfl | h
          · exact ⟨[], Place.reaches_nil_iff.mpr rfl⟩
          · obtain ⟨text, hreaches⟩ := ih h
            exact ⟨_, (Place.next?_eq_some_iff.mp hnext).trans hreaches⟩

/-- There are fewer characters left behind later places. -/
theorem left_of_mem_onward {count : Nat} {place q : Place} (h : q ∈ place.onward count) :
    q.left ≤ place.left := by
  obtain ⟨text, hreaches⟩ := reaches_of_mem_onward h
  have hleft := hreaches.left
  omega

/-- The places from a place on are further and further ahead. -/
theorem pairwise_onward (count : Nat) (place : Place) :
    (place.onward count).Pairwise fun p q => p.offset < q.offset := by
  induction count generalizing place with
  | zero => exact List.pairwise_singleton _ _
  | succ count ih =>
      rw [Place.onward]
      cases hnext : place.next? with
      | none => exact List.pairwise_singleton _ _
      | some after =>
          refine List.pairwise_cons.mpr ⟨fun q hq => ?_, ih after.2⟩
          obtain ⟨text, hreaches⟩ := reaches_of_mem_onward hq
          have hnear := (Place.next?_eq_some_iff.mp hnext).offset
          have hfar := hreaches.offset
          rw [List.length_singleton] at hnear
          omega

/-- There is no first match if there is none from any place. -/
theorem firstHit?_eq_none_iff {e : Expr} {text : List Char} : e.firstHit? text = none ↔
    ∀ place ∈ (Place.start text).onward text.length, e.hit? place = none := by
  simp only [firstHit?, List.findSome?_eq_none_iff, Option.map_eq_none_iff]

/-- The first match is the one from a place with none from the places in front of it. -/
theorem firstHit?_eq_some_iff {e : Expr} {text : List Char} {found : Found} :
    e.firstHit? text = some found ↔ ∃ front place behind memory,
      (Place.start text).onward text.length = front ++ place :: behind ∧
        (∀ q ∈ front, e.hit? q = none) ∧ e.hit? place = some memory ∧
          found = Found.at place memory := by
  rw [firstHit?, List.findSome?_eq_some_iff]
  simp only [Option.map_eq_some_iff, Option.map_eq_none_iff]
  constructor
  · rintro ⟨front, place, behind, hsplit, ⟨memory, hhit, rfl⟩, hnone⟩
    exact ⟨front, place, behind, memory, hsplit, hnone, hhit, rfl⟩
  · rintro ⟨front, place, behind, memory, hsplit, hnone, hhit, rfl⟩
    exact ⟨front, place, behind, hsplit, ⟨memory, hhit, rfl⟩, hnone⟩

/-- The first match does not begin behind any other. -/
theorem index_le_of_firstHit? {e : Expr} {text : List Char} {place : Place} {memory : Memory}
    (hplace : place ∈ (Place.start text).onward text.length)
    (hhit : e.hit? place = some memory) :
    ∃ found, e.firstHit? text = some found ∧ found.index ≤ place.offset := by
  cases hfirst : e.firstHit? text with
  | none => simp [firstHit?_eq_none_iff.mp hfirst place hplace] at hhit
  | some found =>
      obtain ⟨front, other, behind, later, hsplit, hnone, _, rfl⟩ := firstHit?_eq_some_iff.mp hfirst
      refine ⟨_, rfl, ?_⟩
      have hordered := pairwise_onward text.length (Place.start text)
      rw [hsplit] at hplace hordered
      rcases List.mem_append.mp hplace with hmem | hmem
      · simp [hnone place hmem] at hhit
      rcases List.mem_cons.mp hmem with rfl | hmem
      · exact Nat.le_refl _
      · have hrest := (List.pairwise_append.mp hordered).2.1
        exact Nat.le_of_lt ((List.pairwise_cons.mp hrest).1 place hmem)

/-- An expression in front of which a search leaves out only what does not match. -/
structure Searchable (e : Expr) : Prop where
  unreferring : e.Unreferring
  forward : e.Forward
  screened : e.Screened

variable {e : Expr}

/-- A search from a place on finds the first match from there. -/
theorem Searchable.findFrom_eq (h : e.Searchable) (count : Nat) (place : Place) :
    e.findFrom (e.searchTest? false) e.roomNeeded count place =
      (place.onward count).findSome? fun place => (e.hit? place).map (Found.at place) := by
  have hattempt (place : Place) : (if (e.searchTest? false).all fun test =>
      (place.step test).isSome then e.run false none place { cursor := place } Matching.accept
        else .failed { cursor := place } : Attempt).found? = e.hit? place := by
    split
    · rfl
    · next htest =>
      rw [hit?_of_left_out h.screened htest]
      rfl
  have hroom : e.roomNeeded ≤ max 1 e.width.least := by
    unfold roomNeeded
    split <;> omega
  induction count generalizing place with
  | zero =>
      unfold findFrom
      dsimp only
      rw [Place.onward, List.findSome?_singleton, ← hattempt]
      split
      · next memory hfound =>
        rw [hfound]
        rfl
      · next memory hfailed =>
        rw [hfailed]
        rfl
  | succ count ih =>
      unfold findFrom
      dsimp only
      have hfirst := hattempt place
      rw [Place.onward]
      split
      · next memory hfound =>
        rw [hfound] at hfirst
        cases place.next? <;> simp [← hfirst, Attempt.found?, Found.at]
      · next memory hfailed =>
        rw [hfailed] at hfirst
        cases hnext : place.next? with
        | none => simp [← hfirst, Attempt.found?]
        | some after =>
            have hleft := (Place.next?_eq_some_iff.mp hnext).left
            simp only [List.findSome?_cons, ← hfirst, Attempt.found?, Option.map_none]
            split
            · exact ih after.2
            · symm
              rw [List.findSome?_eq_none_iff]
              intro q hq
              have hfew := left_of_mem_onward hq
              rw [hit?_of_left h.unreferring h.forward (by simp at hleft; omega)]
              rfl

/-- A search ends at the first place of a text from which the expression matches. -/
theorem search_eq {expression : Expression} (h : expression.expr.Searchable)
    (hflags : expression.flags.asciiOnly = false) (text : String) :
    expression.search text =
      match expression.expr.firstHit? text.toList with
      | none => .ok none
      | some found =>
          if expression.hasCrossedGroup found.memory then .error .crossedGroup
          else .ok (some found) := by
  have hleft : (Place.start text.toList).left = text.toList.length := rfl
  unfold Expression.search
  dsimp only
  rw [hflags, h.findFrom_eq, hleft]
  split
  · rfl
  · next hshort =>
    have hnone : expression.expr.firstHit? text.toList = none := by
      rw [firstHit?_eq_none_iff]
      intro place hplace
      have hfew := left_of_mem_onward hplace
      rw [String.length_toList] at hleft
      exact hit?_of_left h.unreferring h.forward (by omega)
    rw [hnone]

end Expr

end RoutePattern
