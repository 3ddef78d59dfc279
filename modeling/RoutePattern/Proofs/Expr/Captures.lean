import RoutePattern.Expr.Alternation

/-!
# The capture groups of an expression

`Expr.captures` lists the capture groups of an expression, each with its number and what is inside
it, in the order of their opening parentheses. `captures_ofBranches` says that putting alternatives
together keeps their groups and the order of them. `Expr.Unreferring` says that no group is referred
to.
-/

namespace RoutePattern

/-- The capture groups of an expression with their bodies, a group in front of those inside it. -/
def Expr.captures : Expr → List (Nat × Expr)
  | .empty | .never | .char _ | .anchor _ | .backref _ _ _ => []
  | .seq first second | .either first second => first.captures ++ second.captures
  | .group number body => (number, body) :: body.captures
  | .loop _ _ _ body | .atomic body | .ahead _ body | .behind _ _ body => body.captures
  | .ifGroup _ yes no => yes.captures ++ no.captures

/-- The capture groups of expressions in a row. -/
def capturesAll (items : List Expr) : List (Nat × Expr) :=
  items.flatMap Expr.captures

/-- No expressions have no groups. -/
@[simp]
theorem capturesAll_nil : capturesAll [] = [] :=
  rfl

/-- The groups of the first expression come first. -/
@[simp]
theorem capturesAll_cons (e : Expr) (rest : List Expr) :
    capturesAll (e :: rest) = e.captures ++ capturesAll rest :=
  rfl

/-- Expressions put in a row have the groups of each of them. -/
theorem captures_ofList (items : List Expr) : (Expr.ofList items).captures = capturesAll items := by
  unfold capturesAll
  fun_induction Expr.ofList items with
  | case1 => rfl
  | case2 e => simp
  | case3 e rest _ ih => simp [Expr.captures, ih]

/-- Two rows of expressions have the groups of the first and then those of the second. -/
@[simp]
theorem capturesAll_append (first second : List Expr) :
    capturesAll (first ++ second) = capturesAll first ++ capturesAll second := by
  simp [capturesAll]

/-- Expressions without capture groups in a row have none. -/
theorem capturesAll_eq_nil {items : List Expr} :
    capturesAll items = [] ↔ ∀ e ∈ items, e.captures = [] := by
  simp [capturesAll]

namespace Expr

/-- What holds of two expressions in a row just if it holds of both holds of a row of any length just
if it holds of all of them. -/
theorem forall_ofList {P : Expr → Prop} (hempty : P empty)
    (hseq : ∀ first second, P (seq first second) ↔ P first ∧ P second) {items : List Expr} :
    P (ofList items) ↔ ∀ e ∈ items, P e := by
  fun_induction ofList items with
  | case1 => simp [hempty]
  | case2 e => simp
  | case3 e rest _ ih => rw [hseq, ih, List.forall_mem_cons]

/-- An expression does not refer to groups, and its own are numbered from one. -/
def Unreferring : Expr → Prop
  | empty | never | char _ | anchor _ => True
  | seq first second | either first second => first.Unreferring ∧ second.Unreferring
  | group number body => 0 < number ∧ body.Unreferring
  | loop _ _ _ body | atomic body | ahead _ body | behind _ _ body => body.Unreferring
  | backref _ _ _ | ifGroup _ _ _ => False

/-- Expressions in a row do not refer to groups if none of them does. -/
theorem unreferring_ofList {items : List Expr} :
    (ofList items).Unreferring ↔ ∀ e ∈ items, e.Unreferring :=
  forall_ofList trivial fun _ _ => Iff.rfl

/-- An expression has no capture groups and refers to none. -/
def Groupfree (e : Expr) : Prop :=
  e.captures = [] ∧ e.Unreferring

/-- A test on a character is free of groups. -/
theorem groupfree_char (test : CharTest) : (char test).Groupfree :=
  ⟨rfl, trivial⟩

/-- A repetition is free of groups if its body is. -/
theorem groupfree_loop {greed : Greed} {least : Nat} {most : Option Nat} {body : Expr} :
    (loop greed least most body).Groupfree ↔ body.Groupfree :=
  Iff.rfl

/-- Expressions in a row are free of groups if each of them is. -/
theorem groupfree_ofList {items : List Expr} :
    (ofList items).Groupfree ↔ ∀ e ∈ items, e.Groupfree := by
  rw [Groupfree, captures_ofList, capturesAll_eq_nil, unreferring_ofList]
  exact ⟨fun h e he => ⟨h.1 e he, h.2 e he⟩, fun h => ⟨fun e he => (h e he).1, fun e he => (h e he).2⟩⟩

end Expr

namespace Alternation

/-- What may be taken out of alternatives has no capture group. -/
theorem captures_of_isSimple {e : Expr} (h : isSimple e = true) : e.captures = [] := by
  cases e with
  | char | anchor | backref => rfl
  | _ => simp [isSimple] at h

/-- What lists of expressions begin with stands in front of what is left of each. -/
theorem splitLead_eq {first : List Expr} {others tails : List (List Expr)} {lead : List Expr}
    (h : splitLead first others = (lead, tails)) :
    first :: others = tails.map (lead ++ ·) ∧ ∀ e ∈ lead, isSimple e = true := by
  fun_induction splitLead first others generalizing lead tails with
  | case1 others =>
      cases h
      simp
  | case2 e rest others hsimple lead' tails' hsplit ih =>
      cases h
      rw [Bool.and_eq_true, List.all_eq_true] at hsimple
      obtain ⟨htails, hlead⟩ := ih hsplit
      refine ⟨?_, List.forall_mem_cons.mpr ⟨hsimple.1, hlead⟩⟩
      have hothers : (others.map List.tail).map (e :: ·) = others := by
        rw [List.map_map]
        refine (List.map_congr_left (g := id) fun other hother => ?_).trans (List.map_id others)
        have hhead := hsimple.2 other hother
        cases other with
        | nil => simp at hhead
        | cons first rest =>
            obtain rfl : first = e := by simpa using hhead
            rfl
      calc (e :: rest) :: others
          _ = (rest :: others.map List.tail).map (e :: ·) := by rw [List.map_cons, hothers]
          _ = tails'.map (e :: lead' ++ ·) := by rw [htails, List.map_map]; rfl
  | case3 e rest others _ =>
      cases h
      simp

/-- Something is left of each list of expressions, and so there is something left. -/
theorem exists_mem_of_splitLead {first : List Expr} {others tails : List (List Expr)}
    {lead : List Expr} (h : splitLead first others = (lead, tails)) : ∃ tail, tail ∈ tails := by
  have hbranches := (splitLead_eq h).1
  cases tails with
  | nil => simp at hbranches
  | cons tail rest => exact ⟨tail, List.mem_cons_self⟩

/-- What lists of expressions begin with has no capture groups, and what is left of each has the
same groups as before. -/
theorem capturesAll_splitLead {first : List Expr} {others tails : List (List Expr)}
    {lead : List Expr} (h : splitLead first others = (lead, tails)) :
    capturesAll lead = [] ∧ tails.map capturesAll = (first :: others).map capturesAll := by
  obtain ⟨hbranches, hsimple⟩ := splitLead_eq h
  have hlead : capturesAll lead = [] :=
    capturesAll_eq_nil.mpr fun e he => captures_of_isSimple (hsimple e he)
  refine ⟨hlead, ?_⟩
  rw [hbranches, List.map_map]
  exact List.map_congr_left fun tail _ => by simp [hlead]

/-- What lists of expressions begin with, and what is left of each, comes from them. -/
theorem splitLead_subset {first : List Expr} {others tails : List (List Expr)} {lead : List Expr}
    (h : splitLead first others = (lead, tails)) :
    (∀ e ∈ lead, e ∈ first) ∧
      ∀ tail ∈ tails, ∃ branch ∈ first :: others, ∀ e ∈ tail, e ∈ branch := by
  obtain ⟨hbranches, _⟩ := splitLead_eq h
  constructor
  · obtain ⟨tail, _, hfirst⟩ := List.mem_map.mp (hbranches ▸ List.mem_cons_self (a := first))
    exact fun e he => hfirst ▸ List.mem_append_left tail he
  · intro tail htail
    exact ⟨lead ++ tail, hbranches ▸ List.mem_map_of_mem htail, fun e => List.mem_append_right lead⟩

/-- What holds of every expression in some alternatives holds of those that they are put together
to, if it holds of a set for single characters and of a choice. -/
theorem forall_mem_ofBranches {P : Expr → Prop} (fold : Fold) {branches : List (List Expr)}
    (hset : ∀ tails members, (∀ tail ∈ tails, ∀ e ∈ tail, P e) → allMembers? tails = some members →
      P (.char (.set members.eraseDups false fold)))
    (hchoice : ∀ tails, (∀ tail ∈ tails, ∀ e ∈ tail, P e) → P (choice tails))
    (h : ∀ branch ∈ branches, ∀ e ∈ branch, P e) : ∀ e ∈ ofBranches fold branches, P e := by
  unfold ofBranches
  split
  · simp
  · exact (List.forall_mem_cons.mp h).1
  · next first others _ =>
    cases hsplit : splitLead first others with
    | mk lead tails =>
        obtain ⟨hlead, htails⟩ := splitLead_subset hsplit
        have hfirst : ∀ e ∈ lead, P e := fun e he => h first (by simp) e (hlead e he)
        have hrest : ∀ tail ∈ tails, ∀ e ∈ tail, P e := by
          intro tail htail e he
          obtain ⟨branch, hbranch, hmem⟩ := htails tail htail
          exact h branch hbranch e (hmem e he)
        dsimp only
        split
        · next members hmembers =>
          exact List.forall_mem_append.mpr ⟨hfirst, by simpa using hset tails members hrest hmembers⟩
        · exact List.forall_mem_append.mpr ⟨hfirst, by simpa using hchoice tails hrest⟩

/-- What holds of two alternatives if it holds of both holds of a choice if it holds of each of its
branches. -/
theorem choice_of_branches {P : Expr → Prop} (hnever : P .never)
    (heither : ∀ first second, P first → P second → P (.either first second))
    {branches : List (List Expr)} (h : ∀ branch ∈ branches, P (.ofList branch)) :
    P (choice branches) := by
  induction branches with
  | nil => exact hnever
  | cons branch rest ih =>
      obtain ⟨hbranch, hrest⟩ := List.forall_mem_cons.mp h
      exact heither _ _ hbranch (ih hrest)

/-- A choice refers to no groups if none of its branches does. -/
theorem unreferring_choice {branches : List (List Expr)}
    (h : ∀ branch ∈ branches, ∀ e ∈ branch, e.Unreferring) : (choice branches).Unreferring :=
  choice_of_branches trivial (fun _ _ => And.intro) fun branch hbranch =>
    Expr.unreferring_ofList.mpr (h branch hbranch)

/-- Single characters and sets have no capture groups. -/
theorem capturesAll_of_members? {branch : List Expr} {members : List Member}
    (h : members? branch = some members) : capturesAll branch = [] := by
  unfold members? at h
  split at h
  · rfl
  · rfl
  · simp at h

/-- Alternatives that are single characters and sets have no capture groups. -/
theorem capturesAll_of_allMembers? {branches : List (List Expr)} {members : List Member}
    (h : allMembers? branches = some members) : branches.flatMap capturesAll = [] := by
  induction branches generalizing members with
  | nil => rfl
  | cons branch rest ih =>
      simp only [allMembers?, Option.pure_def, Option.bind_eq_bind, Option.bind_eq_some_iff] at h
      obtain ⟨first, hfirst, second, hsecond, _⟩ := h
      simp [capturesAll_of_members? hfirst, ih hsecond]

/-- A choice has the groups of each of its branches. -/
theorem captures_choice (branches : List (List Expr)) :
    (choice branches).captures = branches.flatMap capturesAll := by
  induction branches with
  | nil => rfl
  | cons branch rest ih => simp [choice, Expr.captures, captures_ofList, ih]

/-- Alternatives put together have the groups of each of them. -/
theorem captures_ofBranches (fold : Fold) (branches : List (List Expr)) :
    capturesAll (ofBranches fold branches) = branches.flatMap capturesAll := by
  unfold ofBranches
  split
  · rfl
  · simp
  · next first others _ =>
    cases hsplit : splitLead first others with
    | mk lead tails =>
        obtain ⟨hlead, htails⟩ := capturesAll_splitLead hsplit
        have hall : tails.flatMap capturesAll = (first :: others).flatMap capturesAll := by
          rw [List.flatMap_def, htails, ← List.flatMap_def]
        dsimp only
        split
        · next members hmembers =>
          rw [← hall, capturesAll_of_allMembers? hmembers, capturesAll_append, hlead]
          rfl
        · rw [← hall, capturesAll_append, hlead]
          simp [capturesAll, captures_choice]

/-- Alternatives put together are free of groups if each of them is. -/
theorem groupfree_ofBranches (fold : Fold) {branches : List (List Expr)}
    (h : ∀ branch ∈ branches, ∀ e ∈ branch, e.Groupfree) :
    ∀ e ∈ ofBranches fold branches, e.Groupfree := by
  refine forall_mem_ofBranches fold (fun _ _ _ _ => ⟨rfl, trivial⟩) (fun tails htails => ⟨?_, ?_⟩) h
  · rw [captures_choice, List.flatMap_eq_nil_iff]
    exact fun tail htail => capturesAll_eq_nil.mpr fun e he => (htails tail htail e he).1
  · exact unreferring_choice fun tail htail e he => (htails tail htail e he).2

end Alternation

end RoutePattern
