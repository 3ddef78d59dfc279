import RoutePattern.Proofs.Expr.Leftmost
import RoutePattern.Proofs.Expr.Ordering
import RoutePattern.Proofs.Pattern.Groups

/-!
# A pattern as an alternative

Behind the groups of other patterns a pattern stands for the same expressions with other numbers
(`sourceItems_eq_shift`). `Blends` says when it may be put together with others, so that it matches
there as it does alone: what its keys are written as does not mislead a search, and the pattern does
not end in a single letter for which a set would have no character.
-/

namespace RoutePattern

open RoutePattern.Expr

variable {options : Options} {parts : List Part}

/-! ## Properties that patterns keep -/

/-- Not referring to groups is kept. -/
theorem hereditary_unreferring : Hereditary Unreferring where
  row := unreferring_ofList.mpr
  char _ := trivial
  anchor _ := trivial
  group number _ h := ⟨Nat.succ_pos number, h⟩
  loop _ _ _ h := h
  ahead h := h
  branches _ _ h := Alternation.forall_mem_ofBranches _ (fun _ _ _ _ => trivial)
    (fun _ => Alternation.unreferring_choice) h

/-- Not looking back in possessive repetitions is kept. -/
theorem hereditary_forward : Hereditary Forward where
  row := forward_ofList.mpr
  char _ := trivial
  anchor _ := trivial
  group _ _ h := h
  loop _ _ _ h := ⟨by simp, h⟩
  ahead h := h
  branches _ _ h := forward_ofBranches _ h

/-- Being orderly is kept. -/
theorem hereditary_orderly : Hereditary Orderly where
  row := orderly_ofList.mpr
  char _ := trivial
  anchor _ := trivial
  group _ _ h := h
  loop _ _ _ h := ⟨by simp, h⟩
  ahead h := h
  branches _ _ h := orderly_ofBranches _ h

/-! ## Behind other groups -/

/-- Expressions without groups stay as they are behind other groups. -/
theorem map_shift_eq {items : List Expr} (h : ∀ e ∈ items, e.Groupfree) (count : Nat) :
    items.map (shift count) = items :=
  (List.map_congr_left fun e he => shift_of_captures (h e he).2 (h e he).1 count).trans
    (List.map_id' items)

/-- Literal text has no groups. -/
theorem groupfree_literal (options : Options) (text : String) :
    ∀ e ∈ options.literal text, e.Groupfree :=
  fun e he => ⟨capturesAll_eq_nil.mp (capturesAll_literal options text) e he,
    hereditary_unreferring.literal text e he⟩

/-- The beginning of a pattern has no groups. -/
theorem groupfree_beginning (options : Options) :
    ∀ e ∈ (if options.anchorStart then [Expr.anchor .textStart] else []), e.Groupfree :=
  fun e he => ⟨capturesAll_eq_nil.mp (capturesAll_beginning options) e he,
    hereditary_unreferring.beginning e he⟩

/-- The end of a pattern has no groups. -/
theorem groupfree_ending (options : Options) (parts : List Part) :
    ∀ e ∈ (if options.anchorEnd then options.closedItems
      else options.openItems (endsDelimited options parts)), e.Groupfree :=
  fun e he => ⟨capturesAll_eq_nil.mp (capturesAll_ending options parts) e he,
    hereditary_unreferring.ending e he⟩

/-- A mark behind expressions is the same behind other groups. -/
theorem map_shift_markItems (modifier : String) (items : List Expr) (count : Nat) :
    (markItems modifier items).map (shift count) =
      markItems modifier (items.map (shift count)) := by
  unfold markItems
  split
  · simp [shift, shift_ofList]
  split
  · simp [shift, shift_ofList]
  split
  · simp [shift, shift_ofList]
  · rfl

/-- The expression of a key that captures has no groups and refers to none. -/
theorem Key.groupfree_readItems {key : Key} (hcaptures : key.captures = true)
    (h : key.Readable options) : ∀ e ∈ readItems options.flags key.pattern, e.Groupfree :=
  (h.2 hcaptures).groupfree_readItems

/-- There are no groups inside the group of a key. -/
theorem Key.groupfree_inner {key : Key} (hcaptures : key.captures = true)
    (h : key.Readable options) : (ofList (key.inner options)).Groupfree := by
  have hitems := key.groupfree_readItems hcaptures h
  rw [groupfree_ofList]
  unfold Key.inner
  split
  · refine List.forall_mem_append.mpr ⟨hitems, ?_⟩
    simp only [List.mem_singleton, forall_eq]
    rw [groupfree_loop, groupfree_ofList]
    simp only [List.forall_mem_append]
    exact ⟨⟨groupfree_literal _ _, groupfree_literal _ _⟩, hitems⟩
  · exact hitems

/-- A key behind other groups. -/
theorem Key.map_shift_items {key : Key} (h : key.Readable options) (count opened : Nat) :
    (key.items options opened).map (shift count) = key.items options (count + opened) := by
  have hgroup : (key.group options opened).map (shift count) =
      key.group options (count + opened) := by
    unfold Key.group
    split
    · next hcaptures =>
      obtain ⟨hnone, href⟩ := key.groupfree_inner hcaptures h
      simp [shift, shift_of_captures href hnone, Nat.add_assoc]
    · rfl
  rw [Key.items, map_shift_markItems, List.map_append, List.map_append,
    map_shift_eq (groupfree_literal _ _), map_shift_eq (groupfree_literal _ _), hgroup]
  rfl

/-- Parts behind other groups. -/
theorem map_shift_partsItems (h : ∀ key, Part.key key ∈ parts → key.Readable options)
    (count opened : Nat) : (partsItems options opened parts).map (shift count) =
      partsItems options (count + opened) parts := by
  induction parts generalizing opened with
  | nil => rfl
  | cons part rest ih =>
      have hrest := ih (fun key hkey => h key (by simp [hkey])) (opened + part.groups)
      rw [partsItems, List.map_append, hrest, partsItems, Nat.add_assoc]
      cases part with
      | text literal => rw [Part.items, map_shift_eq (groupfree_literal _ _), Part.items]
      | key k => rw [Part.items, k.map_shift_items (h k (by simp)), Part.items]

/-- A pattern behind other groups. -/
theorem sourceItems_eq_shift (h : ∀ key, Part.key key ∈ parts → key.Readable options)
    (opened : Nat) : sourceItems options parts opened =
      (sourceItems options parts 0).map (shift opened) := by
  have hbeginning := map_shift_eq (groupfree_beginning options) opened
  have hending := map_shift_eq (groupfree_ending options parts) opened
  rw [sourceItems, sourceItems, List.map_append, List.map_append, hbeginning, hending,
    map_shift_partsItems h opened 0, Nat.add_zero]

/-! ## What a search may be put in front of -/

/-- Expressions in a row may be searched for if each of them may. -/
theorem screened_ofList {items : List Expr} (h : ∀ e ∈ items, e.Screened) :
    (ofList items).Screened := by
  induction items with
  | nil => trivial
  | cons e rest ih =>
      obtain ⟨he, hrest⟩ := List.forall_mem_cons.mp h
      rw [screened_ofList_cons]
      split
      · exact ih hrest
      · exact he

/-- Literal text may be searched for. -/
theorem screened_literal (options : Options) (text : String) :
    (ofList (options.literal text)).Screened := by
  refine screened_ofList ?_
  simp only [Options.literal, literalItems, List.mem_map]
  rintro e ⟨c, _, rfl⟩
  trivial

/-- A key may be searched for if its expression may. -/
theorem Key.screened_items {key : Key}
    (h : key.captures = true → (ofList (readItems options.flags key.pattern)).Screened)
    (opened : Nat) : (ofList (key.items options opened)).Screened := by
  have hgroup : (ofList (key.group options opened)).Screened := by
    unfold Key.group
    split
    · next hcaptures =>
      show (ofList (key.inner options)).Screened
      unfold Key.inner
      split
      · exact screened_ofList_append (h hcaptures) trivial
      · exact h hcaptures
    · trivial
  unfold Key.items markItems
  split
  · trivial
  split
  · trivial
  split
  · trivial
  · exact screened_ofList_append (screened_ofList_append (screened_literal _ _) hgroup)
      (screened_literal _ _)

/-- Parts may be searched for if the expressions of their keys may. -/
theorem screened_partsItems (h : ∀ key, Part.key key ∈ parts → key.captures = true →
      (ofList (readItems options.flags key.pattern)).Screened) (opened : Nat) :
    (ofList (partsItems options opened parts)).Screened := by
  induction parts generalizing opened with
  | nil => trivial
  | cons part rest ih =>
      refine screened_ofList_append ?_ (ih (fun key hkey => h key (by simp [hkey])) _)
      cases part with
      | text literal => exact screened_literal options literal
      | key k => exact k.screened_items (h k (by simp)) opened

/-- Only conditions, look-aheads and repetitions stand behind the parts. -/
theorem mem_ending {e : Expr} (h : e ∈ if options.anchorEnd then options.closedItems
      else options.openItems (endsDelimited options parts)) :
    (∃ place, e = .anchor place) ∨ (∃ body, e = .ahead true body) ∨
      ∃ body, e = .loop .greedy 0 (some 1) body := by
  unfold Options.closedItems Options.openItems Options.lookFor at h
  split at h <;> rcases List.mem_append.mp h with h | h <;> split at h <;> simp_all

/-- A pattern may be searched for if it begins at the start of the text, or if the expressions of
its keys may be. -/
theorem screened_sourceItems (h : options.anchorStart = true ∨ ∀ key, Part.key key ∈ parts →
      key.captures = true → (ofList (readItems options.flags key.pattern)).Screened)
    (opened : Nat) : (ofList (sourceItems options parts opened)).Screened := by
  unfold sourceItems
  cases hstart : options.anchorStart with
  | true =>
      rw [if_pos rfl, List.append_assoc, List.singleton_append, screened_ofList_cons]
      exact trivial
  | false =>
      refine screened_ofList_append
        (screened_partsItems (h.resolve_left (by simp [hstart])) opened)
        (screened_ofList fun e he => ?_)
      obtain ⟨_, rfl⟩ | ⟨_, rfl⟩ | ⟨_, rfl⟩ := mem_ending he <;> trivial

/-- A pattern that can be read refers to no groups. -/
theorem unreferring_sourceItems (h : ∀ key, Part.key key ∈ parts → key.Readable options)
    (opened : Nat) : ∀ e ∈ sourceItems options parts opened, e.Unreferring :=
  hereditary_unreferring.sourceItems (fun key hkey hcaptures e he =>
    (key.groupfree_readItems hcaptures (h key hkey) e he).2) opened

/-- A search for a pattern ends at its first match if the expressions of its keys look ahead only
and may be searched for. -/
theorem searchable_sourceItems (h : ∀ key, Part.key key ∈ parts → key.Readable options)
    (hforward : ∀ key, Part.key key ∈ parts → key.captures = true →
      ∀ e ∈ readItems options.flags key.pattern, e.Forward)
    (hscreened : options.anchorStart = true ∨ ∀ key, Part.key key ∈ parts → key.captures = true →
      (ofList (readItems options.flags key.pattern)).Screened) :
    (ofList (sourceItems options parts 0)).Searchable where
  unreferring := unreferring_ofList.mpr (unreferring_sourceItems h 0)
  forward := forward_ofList.mpr (hereditary_forward.sourceItems hforward 0)
  screened := screened_sourceItems hscreened 0

/-! ## Putting patterns together -/

/-- Single tests among literal text are for its characters. -/
theorem mem_literal {text : String} {test : CharTest} (h : .char test ∈ options.literal text) :
    ∃ code, test = .literal code false options.flags.fold := by
  simp only [Options.literal, literalItems, List.mem_map, Expr.char.injEq] at h
  obtain ⟨c, _, rfl⟩ := h
  exact ⟨_, rfl⟩

/-- Single tests in a key are for the characters of its texts. -/
theorem Key.mem_items {key : Key} {opened : Nat} {test : CharTest}
    (h : .char test ∈ key.items options opened) :
    ∃ code, test = .literal code false options.flags.fold := by
  unfold Key.items markItems at h
  split at h
  · simp at h
  split at h
  · simp at h
  split at h
  · simp at h
  · rcases List.mem_append.mp h with h | h
    · rcases List.mem_append.mp h with h | h
      · exact mem_literal h
      · unfold Key.group at h
        split at h <;> simp at h
    · exact mem_literal h

/-- Single tests in parts are for literal characters. -/
theorem mem_partsItems {opened : Nat} {test : CharTest}
    (h : .char test ∈ partsItems options opened parts) :
    ∃ code, test = .literal code false options.flags.fold := by
  induction parts generalizing opened with
  | nil => simp [partsItems] at h
  | cons part rest ih =>
      rcases List.mem_append.mp h with h | h
      · cases part with
        | text literal => exact mem_literal h
        | key k => exact k.mem_items h
      · exact ih h

/-- Single tests in a pattern are for literal characters. -/
theorem mem_sourceItems {opened : Nat} {test : CharTest}
    (h : .char test ∈ sourceItems options parts opened) :
    ∃ code, test = .literal code false options.flags.fold := by
  rcases List.mem_append.mp h with h | h
  · rcases List.mem_append.mp h with h | h
    · split at h <;> simp at h
    · exact mem_partsItems h
  · obtain ⟨_, heq⟩ | ⟨_, heq⟩ | ⟨_, heq⟩ := mem_ending h <;> simp at heq

/-- A pattern that may be put together with others. -/
structure Blends (options : Options) (parts : List Part) : Prop where
  readable : SourceReadable options parts
  forward : ∀ key, Part.key key ∈ parts → key.captures = true →
    ∀ e ∈ readItems options.flags key.pattern, e.Forward
  screened : options.anchorStart = true ∨ ∀ key, Part.key key ∈ parts → key.captures = true →
    (ofList (readItems options.flags key.pattern)).Screened
  settled : ∀ code, (sourceItems options parts 0).getLast? =
    some (.char (.literal code false options.flags.fold)) →
      CharTest.Settled options.flags.fold code

namespace Blends

/-- A pattern that may be put together with others matches in a choice as it does alone. -/
theorem joins (h : Blends options parts) (opened : Nat) :
    Alternation.Joins options.flags.fold (sourceItems options parts opened) where
  unreferring := unreferring_sourceItems h.readable.keys opened
  merges test htest := by
    obtain ⟨code, rfl⟩ := mem_sourceItems (List.mem_of_getLast? htest)
    refine ⟨rfl, h.settled code ?_⟩
    rw [sourceItems_eq_shift h.readable.keys, List.getLast?_map, Option.map_eq_some_iff] at htest
    obtain ⟨e, hlast, hshift⟩ := htest
    cases e with
    | char test =>
        rw [shift, Expr.char.injEq] at hshift
        rw [hlast, hshift]
    | _ => simp [shift] at hshift

/-- A search for a pattern that may be put together with others ends at its first match. -/
theorem searchable (h : Blends options parts) :
    (ofList (sourceItems options parts 0)).Searchable :=
  searchable_sourceItems h.readable.keys h.forward h.screened

end Blends

end RoutePattern
