import RoutePattern.Proofs.Expr.Folding
import RoutePattern.Proofs.Expr.Plain
import RoutePattern.Proofs.Pattern.Ending
import RoutePattern.Proofs.Pattern.Params
import RoutePattern.Proofs.Pattern.Readable

/-!
# What the expression of a pattern spells

Where the expressions of its keys are plain, the expression of a whole pattern is regular
(`regular_sourceItems`). A key spells its values between its texts: one value, or several in a row
if it is repeated, or nothing if it is optional (`Key.spells_items`).
-/

namespace RoutePattern

open RoutePattern.Expr SetReader

variable {options : Options}

/-! ## Regular expressions of patterns -/

/-- Being regular is kept. -/
theorem hereditary_regular : Hereditary Regular where
  row := regular_ofList.mpr
  char h := h
  anchor _ := trivial
  group _ _ h := h
  loop _ _ _ h := ⟨by simp, h⟩
  ahead h := ⟨rfl, h⟩
  branches hfold _ h := regular_ofBranches hfold h

/-- The expression of a pattern whose keys have plain expressions is regular. -/
theorem regular_sourceItems {parts : List Part} (h : ∀ key, Part.key key ∈ parts →
    key.captures = true → (ofList (readItems options.flags key.pattern)).isPlain = true) :
    (ofList (sourceItems options parts 0)).Regular :=
  regular_ofList.mpr <| hereditary_regular.sourceItems (fun key hkey hcaptures =>
    regular_ofList.mp (regular_of_isPlain (h key hkey hcaptures))) 0

/-! ## Keys -/

/-- The expression of a key is the standard one, or by itself it is a plain expression without
capture groups. -/
def Key.Plain (options : Options) (key : Key) : Prop :=
  key.pattern = defaultPattern options.delimiter ∨
    ∃ expression, Expression.read key.pattern options.flags = .ok expression ∧
      expression.groups = 0 ∧ expression.expr.isPlain = true

instance (options : Options) (key : Key) : Decidable (key.Plain options) :=
  decidable_of_iff (key.pattern = defaultPattern options.delimiter ∨
      ((Expression.read key.pattern options.flags).toOption.any fun expression =>
        expression.groups == 0 && expression.expr.isPlain) = true) <| by
    simp only [Key.Plain, Option.any_eq_true, toOption_eq_some, Bool.and_eq_true, beq_iff_eq]

/-- A key with a plain expression stands alone. -/
theorem Key.Plain.standsAlone {key : Key} (h : key.Plain options) : key.StandsAlone options := by
  rcases h with hdefault | ⟨expression, hread, hgroups, _⟩
  · exact .inl hdefault
  · exact .inr ⟨expression, hread, hgroups⟩

/-- Where the standard expression can be read, so can its set. -/
theorem exists_readSet_of_read {expression : Expression}
    (h : Expression.read (defaultPattern options.delimiter) options.flags = .ok expression) :
    ∃ test, readSet options.flags.fold true options.delimiter.toList = .ok test := by
  obtain ⟨reading, _, hrun, _⟩ := Expression.read_eq_ok.mp h
  have hset := (@Demands.set options.flags rfl true _
    (toList_ne_nil options.isEmpty_delimiter)).more ['+', '?']
  rw [← toList_defaultPattern] at hset
  refine hset (ExprReader.start options.flags) reading [] (.inl rfl) rfl ?_
  rwa [List.append_nil]

/-- Where the standard expression may stand in a group, it repeats a test that is not limited to
ASCII. -/
theorem exists_standard_test
    (hembed : Embeddable options.flags (defaultPattern options.delimiter)) :
    ∃ test : CharTest, test.isBroad = true ∧
      ofList (readItems options.flags (defaultPattern options.delimiter)) =
        .loop .lazy 1 none (.char test) := by
  obtain ⟨test, htest⟩ := exists_readSet_of_read hembed.read_eq
  exact ⟨test, isBroad_of_readSet (fold_ne_ascii options) htest,
    readItems_defaultPattern options htest⟩

/-- The expressions of a key with a plain expression are plain. -/
theorem Key.Plain.isPlain {key : Key} (h : key.Plain options)
    (hembed : Embeddable options.flags key.pattern) :
    (ofList (readItems options.flags key.pattern)).isPlain = true := by
  rcases h with hdefault | ⟨expression, hplain, _, hexpr⟩
  · rw [hdefault] at hembed ⊢
    obtain ⟨test, hbroad, heq⟩ := exists_standard_test hembed
    rw [heq]
    simp [Expr.isPlain, hbroad]
  · cases hplain.symm.trans hembed.read_eq
    exact hexpr

/-! ## What keys spell -/

/-- Every text compares as equal to itself. -/
theorem sameText_refl (fold : Fold) (text : List Char) : SameText fold text text :=
  List.forall₂_same.mpr fun c _ => CharTest.sameCode_self fold c.toNat

/-- Literal text spells itself if it compares as equal to what it is encoded as. -/
theorem spells_literal_of_sameText {text : String}
    (h : SameText options.flags.fold (options.encode text).toList text.toList) :
    (ofList (options.literal text)).Spells text.toList := by
  intro p q hreaches M
  exact ⟨M, passes_literalItems.mpr ⟨rfl, text.toList, hreaches, h⟩⟩

/-- Literal text that is encoded as it is spells itself. -/
theorem spells_literal {text : String} (h : options.encode text = text) :
    (ofList (options.literal text)).Spells text.toList :=
  spells_literal_of_sameText (by rw [h]; exact sameText_refl _ _)

/-- Expressions with a mark behind them spell as many texts in a row as the mark allows. -/
theorem spells_markItems {modifier : String} (hmodifier : IsModifier modifier) {items : List Expr}
    {pieces : List (List Char)} (h : ∀ piece ∈ pieces, (ofList items).Spells piece)
    (hnone : pieces = [] → modifier = "?" ∨ modifier = "*")
    (hmany : 1 < pieces.length → modifier = "*" ∨ modifier = "+") :
    (ofList (markItems modifier items)).Spells pieces.flatten := by
  have hpos (hne : pieces ≠ []) : 1 ≤ pieces.length := List.length_pos_iff.mpr hne
  rcases hmodifier with rfl | rfl | rfl | rfl
  · have hne : pieces ≠ [] := fun hnil => by simpa using hnone hnil
    have hone : ¬1 < pieces.length := fun hlt => by simpa using hmany hlt
    obtain ⟨piece, rfl⟩ := List.length_eq_one_iff.mp
      (Nat.le_antisymm (Nat.not_lt.mp hone) (hpos hne))
    simpa [markItems] using h
  · have hone : ¬1 < pieces.length := fun hlt => by simpa using hmany hlt
    refine spells_loop (by simp) ⟨Nat.zero_le _, ?_⟩ h
    rintro m ⟨⟩
    exact .inl (Nat.not_lt.mp hone)
  · exact spells_loop (by simp) ⟨Nat.zero_le _, by simp⟩ h
  · have hne : pieces ≠ [] := fun hnil => by simpa using hnone hnil
    exact spells_loop (by simp) ⟨hpos hne, by simp⟩ h

/-- Texts with a separator between two of them are the first one and each of the others behind a
separator. -/
theorem intercalate_eq_append (separator first : List Char) (rest : List (List Char)) :
    separator.intercalate (first :: rest) = first ++ (rest.map (separator ++ ·)).flatten := by
  induction rest generalizing first with
  | nil => simp
  | cons second rest ih =>
      rw [List.intercalate_cons_cons, ih]
      simp

/-- Inside of its group a key spells texts of its expression, several of them with the texts of the
key between two. -/
theorem Key.spells_inner {key : Key} (hbefore : options.encode key.before = key.before)
    (hafter : options.encode key.after = key.after) {first : List Char} {rest : List (List Char)}
    (h : ∀ piece ∈ first :: rest, (ofList (readItems options.flags key.pattern)).Spells piece)
    (hgathers : rest ≠ [] → key.gathers options = true) :
    (ofList (key.inner options)).Spells
      ((key.after.toList ++ key.before.toList).intercalate (first :: rest)) := by
  obtain ⟨hfirst, hrest⟩ := List.forall_mem_cons.mp h
  unfold Key.inner
  cases hmany : key.gathers options with
  | false =>
      have hnil : rest = [] := by
        by_contra hne
        simp [hgathers hne] at hmany
      subst hnil
      simpa using hfirst
  | true =>
      rw [intercalate_eq_append]
      refine spells_append hfirst ?_
      refine spells_loop (by simp) ⟨Nat.zero_le _, by simp⟩ ?_
      intro piece hpiece
      obtain ⟨value, hvalue, rfl⟩ := List.mem_map.mp hpiece
      exact spells_append (spells_append (spells_literal hafter) (spells_literal hbefore))
        (hrest value hvalue)

/-- The group of a key between its texts spells what the group spells between these texts. -/
theorem Key.spells_row {key : Key} (hcaptures : key.captures = true)
    (hbefore : options.encode key.before = key.before)
    (hafter : options.encode key.after = key.after) {middle : List Char}
    (h : (ofList (key.inner options)).Spells middle) (opened : Nat) :
    (ofList (options.literal key.before ++ key.group options opened ++
      options.literal key.after)).Spells
        (key.before.toList ++ middle ++ key.after.toList) := by
  refine spells_append (spells_append (spells_literal hbefore) ?_) (spells_literal hafter)
  rw [Key.group, if_pos hcaptures]
  exact h.group _

/-- A key spells texts of its expression between its own: one of them, none if the key is optional,
or several if it is repeated. -/
theorem Key.spells_items {key : Key} (hcaptures : key.captures = true)
    (hmodifier : IsModifier key.modifier) (hbefore : options.encode key.before = key.before)
    (hafter : options.encode key.after = key.after) {pieces : List (List Char)}
    (h : ∀ piece ∈ pieces, (ofList (readItems options.flags key.pattern)).Spells piece)
    (hnone : pieces = [] → key.optional = true) (hmany : 1 < pieces.length → key.repeated = true)
    (opened : Nat) : (ofList (key.items options opened)).Spells
      (pieces.flatMap fun piece => key.before.toList ++ piece ++ key.after.toList) := by
  have hoptional (hnil : pieces = []) : key.modifier = "?" ∨ key.modifier = "*" := by
    simpa [Key.optional] using hnone hnil
  have hrepeated (hlong : 1 < pieces.length) : key.modifier = "*" ∨ key.modifier = "+" := by
    simpa [Key.repeated, or_comm] using hmany hlong
  unfold Key.items
  cases hgathers : key.gathers options with
  | false =>
      -- Each text has a group of its own.
      have hmark : key.mark options = key.modifier := by simp [Key.mark, hgathers]
      rw [hmark, List.flatMap_def]
      refine spells_markItems hmodifier ?_ (fun hnil => hoptional (by simpa using hnil))
        (fun hlong => hrepeated (by simpa using hlong))
      intro row hrow
      obtain ⟨piece, hpiece, rfl⟩ := List.mem_map.mp hrow
      have hinner := @Key.spells_inner options key hbefore hafter piece []
        (by simpa using h piece hpiece) (by simp)
      rw [List.intercalate_singleton] at hinner
      exact key.spells_row hcaptures hbefore hafter hinner opened
  | true =>
      cases pieces with
      | nil =>
          have hmark : key.mark options = "?" := by
            have hrepeated : key.repeated = true := by
              simp only [Key.gathers, Bool.and_eq_true] at hgathers
              exact hgathers.1
            rcases hoptional rfl with hmark | hmark
            · simp [Key.repeated, hmark] at hrepeated
            · simp [Key.mark, hcaptures, hgathers, hmark]
          rw [hmark]
          exact @spells_markItems "?" (.inr (.inl rfl)) _ [] (by simp) (by simp) (by simp)
      | cons first rest =>
          have hinner := key.spells_inner hbefore hafter h (fun _ => hgathers)
          have hrow := key.spells_row hcaptures hbefore hafter hinner opened
          rw [flatMap_surround _ _ (List.cons_ne_nil first rest)]
          have hmark : IsModifier (key.mark options) := by
            simp only [Key.mark, hcaptures, hgathers, Bool.and_self, if_true]
            split
            · exact .inr (.inl rfl)
            · exact .inl rfl
          have hall := @spells_markItems _ hmark _ [_] (by simpa using hrow) (by simp) (by simp)
          simpa using hall

end RoutePattern
