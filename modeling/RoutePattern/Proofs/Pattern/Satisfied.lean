import RoutePattern.Build
import RoutePattern.Proofs.Expr.Numbering
import RoutePattern.Proofs.Expr.Ordering

/-!
# Which values are built in

A key is satisfied by a value of the right shape whose encoded texts pass its check
(`Key.Satisfied`). `build_iff_satisfied` is the main result: a path is built just if every key is
satisfied, otherwise the first key that is not is to blame (`Key.Blamed`), and without validation
nothing but the check is left out.
-/

namespace RoutePattern

/-! ## Elements in a row -/

section Rows

variable {ε α β : Type} {f : α → Except ε β} {items front rest : List α} {item : α} {error : ε}

/-- Elements in a row succeed if each of them does, with their results in a row. -/
theorem mapM_eq_ok {results : List β} : items.mapM f = .ok results ↔
    List.Forall₂ (fun item result => f item = .ok result) items results := by
  induction items generalizing results with
  | nil =>
      rw [List.mapM_nil, List.forall₂_nil_left_iff]
      exact ⟨fun h => (Except.ok.inj h).symm, fun h => h ▸ rfl⟩
  | cons item rest ih =>
      rw [List.mapM_cons, bind_eq_ok, List.forall₂_cons_left_iff]
      constructor
      · rintro ⟨result, hfirst, hrest⟩
        obtain ⟨others, hothers, h⟩ := bind_eq_ok.mp hrest
        exact ⟨result, others, hfirst, ih.mp hothers, (Except.ok.inj h).symm⟩
      · rintro ⟨result, others, hfirst, hothers, rfl⟩
        exact ⟨result, hfirst, bind_eq_ok.mpr ⟨others, ih.mpr hothers, rfl⟩⟩

/-- The first element that fails decides the error. -/
theorem mapM_eq_error (hfront : ∀ item ∈ front, ∃ result, f item = .ok result)
    (h : f item = .error error) : (front ++ item :: rest).mapM f = .error error := by
  induction front with
  | nil =>
      rw [List.nil_append, List.mapM_cons, h]
      rfl
  | cons first front ih =>
      obtain ⟨⟨result, hfirst⟩, hfront⟩ := List.forall_mem_cons.mp hfront
      rw [List.cons_append, List.mapM_cons, hfirst, ih hfront]
      rfl

/-- Elements in a row succeed, or one of them is the first to fail. -/
theorem mapM_ends (f : α → Except ε β) (items : List α) :
    (∃ results, items.mapM f = .ok results ∧ ∀ item ∈ items, ∃ result, f item = .ok result) ∨
      ∃ front item rest error, items = front ++ item :: rest ∧
        (∀ item ∈ front, ∃ result, f item = .ok result) ∧ f item = .error error ∧
          items.mapM f = .error error := by
  induction items with
  | nil => exact .inl ⟨[], rfl, by simp⟩
  | cons first rest ih =>
      cases hfirst : f first with
      | error error =>
          have hnone : ∀ item ∈ ([] : List α), ∃ result, f item = .ok result := by simp
          exact .inr ⟨[], first, rest, error, rfl, hnone, hfirst, mapM_eq_error hnone hfirst⟩
      | ok result =>
          rcases ih with ⟨results, hrest, hall⟩ | ⟨front, item, later, error, rfl, hfront, hitem, _⟩
          · exact .inl ⟨result :: results, mapM_eq_ok.mpr (.cons hfirst (mapM_eq_ok.mp hrest)),
              List.forall_mem_cons.mpr ⟨⟨result, hfirst⟩, hall⟩⟩
          · have hfront' := List.forall_mem_cons.mpr ⟨⟨result, hfirst⟩, hfront⟩
            exact .inr ⟨first :: front, item, later, error, rfl, hfront', hitem,
              mapM_eq_error hfront' hitem⟩

/-- Elements in a row succeed just if each of them does. -/
theorem exists_mapM_iff : (∃ results, items.mapM f = .ok results) ↔
    ∀ item ∈ items, ∃ result, f item = .ok result := by
  rcases mapM_ends f items with ⟨results, hok, hall⟩ | ⟨front, item, rest, error, rfl, _, hitem, herror⟩
  · exact ⟨fun _ => hall, fun _ => ⟨results, hok⟩⟩
  · constructor
    · rintro ⟨results, hok⟩
      simp [herror] at hok
    · intro hall
      obtain ⟨result, hok⟩ := hall item (by simp)
      simp [hitem] at hok

end Rows

/-! ## Satisfied keys -/

namespace Key

variable (options : Options) (key : Key)

/-- The value that is given for a key. -/
def given (params : Params) : Value :=
  (params.lookup key.name).getD .null

/-- The check of an encoded text against the expression of a key. -/
def check (text : String) : Except SearchFault Bool :=
  match Expression.read ("(?:" ++ key.pattern ++ ")") options.flags with
  | .ok expression => Builder.accepts options expression text
  | .error _ => .ok false

/-- The encoded text of a value passes the check. -/
def Approves (value : Value) : Prop :=
  key.check options (options.encode value.toText) = .ok true

/-- A value has the shape that a key takes, and its encoded texts pass the check. -/
def Satisfied (value : Value) : Prop :=
  match value.elements? with
  | some items => key.repeated = true ∧
      (items = [] ∧ key.optional = true ∨
        items ≠ [] ∧ ∀ item ∈ items, key.Approves options item)
  | none => if value.isScalar then key.Approves options value else key.optional = true

instance (value : Value) : Decidable (key.Approves options value) :=
  decidable_of_iff ((key.check options (options.encode value.toText)).toOption = some true)
    toOption_eq_some

instance (value : Value) : Decidable (key.Satisfied options value) :=
  match h : value.elements? with
  | some items => decidable_of_iff (key.repeated = true ∧
      (items = [] ∧ key.optional = true ∨
        items ≠ [] ∧ ∀ item ∈ items, key.Approves options item)) (by rw [Satisfied, h])
  | none => decidable_of_iff
      (if value.isScalar then key.Approves options value else key.optional = true)
      (by rw [Satisfied, h])

/-- How a text is refused: it does not pass, or its check has no answer. -/
inductive Refuses (every : Bool) (text : String) : BuildFailure → Prop where
  | mismatch (h : key.check options text = .ok false) :
      Refuses every text (.rejected ⟨.mismatch every key.pattern text, key.name, .text text⟩)
  | fault {fault : SearchFault} (h : key.check options text = .error fault) :
      Refuses every text (.search fault)

/-- What a key is blamed for, with the failure that this leads to. In a list it is the first text
that does not pass. -/
inductive Blamed : Value → BuildFailure → Prop where
  | notRepeated {value : Value} {items : List Value} (helements : value.elements? = some items)
      (h : key.repeated = false) : Blamed value (.rejected ⟨.notRepeated, key.name, value⟩)
  | emptyList {value : Value} (helements : value.elements? = some [])
      (hrepeated : key.repeated = true) (h : key.optional = false) :
      Blamed value (.rejected ⟨.emptyList, key.name, value⟩)
  | element {value item : Value} {front rest : List Value} {failure : BuildFailure}
      (helements : value.elements? = some (front ++ item :: rest))
      (hrepeated : key.repeated = true) (hfront : ∀ other ∈ front, key.Approves options other)
      (h : key.Refuses options true (options.encode item.toText) failure) : Blamed value failure
  | scalar {value : Value} {failure : BuildFailure} (helements : value.elements? = none)
      (hscalar : value.isScalar = true)
      (h : key.Refuses options false (options.encode value.toText) failure) : Blamed value failure
  | missing {value : Value} (helements : value.elements? = none)
      (hscalar : value.isScalar = false) (h : key.optional = false) :
      Blamed value (.rejected ⟨.missing key.repeated, key.name, value⟩)

variable {options : Options} {key : Key} {value : Value} {failure : BuildFailure}

/-- A text that is refused does not pass. -/
theorem Refuses.not_approves {every : Bool}
    (h : key.Refuses options every (options.encode value.toText) failure) :
    ¬ key.Approves options value := by
  unfold Approves
  cases h with
  | mismatch h => simp [h]
  | fault h => simp [h]

/-- A key is not blamed for a value that satisfies it. -/
theorem Blamed.not_satisfied (h : key.Blamed options value failure) :
    ¬ key.Satisfied options value := by
  unfold Satisfied
  cases h with
  | notRepeated helements h => simp [helements, h]
  | emptyList helements _ h => simp [helements, h]
  | element helements _ _ h =>
      rw [helements]
      rintro ⟨_, ⟨hnil, _⟩ | ⟨_, hall⟩⟩
      · simp at hnil
      · exact h.not_approves (hall _ (by simp))
  | scalar helements hscalar h => simpa [helements, hscalar] using h.not_approves
  | missing helements hscalar h => simp [helements, hscalar, h]

/-- What a key is blamed with bears its name, unless a check has no answer. Then the expression of
the key has a possessive repetition. -/
theorem Blamed.named (h : key.Blamed options value failure) :
    (∃ error, failure = .rejected error ∧ error.name = key.name) ∨
      ∃ fault expression, failure = .search fault ∧
        Expression.read ("(?:" ++ key.pattern ++ ")") options.flags = .ok expression ∧
          expression.expr.hasPossessive = true := by
  have hrefused {every : Bool} {text : String} (hrefuses : key.Refuses options every text failure) :
      (∃ error, failure = .rejected error ∧ error.name = key.name) ∨
        ∃ fault expression, failure = .search fault ∧
          Expression.read ("(?:" ++ key.pattern ++ ")") options.flags = .ok expression ∧
            expression.expr.hasPossessive = true := by
    cases hrefuses with
    | mismatch _ => exact .inl ⟨_, rfl, rfl⟩
    | @fault fault hcheck =>
        unfold check at hcheck
        split at hcheck
        · next expression hread =>
          refine .inr ⟨fault, expression, rfl, hread, ?_⟩
          by_contra hpossessive
          obtain ⟨answer, hanswer⟩ := Expression.fullMatch_ok_of_numbered
            (Expression.read_numbered hread) (by simpa using hpossessive) text
          rw [Builder.accepts, hanswer] at hcheck
          split at hcheck <;> simp at hcheck
        · simp at hcheck
  cases h with
  | notRepeated | emptyList | missing => exact .inl ⟨_, rfl, rfl⟩
  | element _ _ _ hrefuses | scalar _ _ hrefuses => exact hrefused hrefuses

end Key

/-! ## Building -/

section Building

variable {options : Options} {params : Params} {key : Key} {expression : Expression} {value : Value}

/-- One value is written if its text passes, and otherwise the text is refused. -/
theorem Key.segment_ends
    (hread : Expression.read ("(?:" ++ key.pattern ++ ")") options.flags = .ok expression)
    (every : Bool) (value : Value) :
    (∃ text, Builder.segment options key expression every value = .ok text) ∧
        key.Approves options value ∨
      ∃ failure, Builder.segment options key expression every value = .error failure ∧
        key.Refuses options every (options.encode value.toText) failure := by
  have hcheck : key.check options (options.encode value.toText) =
      Builder.accepts options expression (options.encode value.toText) := by
    rw [Key.check, hread]
  unfold Builder.segment
  dsimp only
  cases haccepts : Builder.accepts options expression (options.encode value.toText) with
  | error fault => exact .inr ⟨_, rfl, .fault (hcheck.trans haccepts)⟩
  | ok passed =>
      cases passed with
      | true => exact .inl ⟨⟨_, rfl⟩, hcheck.trans haccepts⟩
      | false => exact .inr ⟨_, rfl, .mismatch (hcheck.trans haccepts)⟩

/-- A key that captures is built just if it is satisfied, and otherwise blamed. -/
theorem Key.capturing_ends
    (hread : Expression.read ("(?:" ++ key.pattern ++ ")") options.flags = .ok expression)
    (value : Value) :
    (∃ text, Builder.capturing options key expression value = .ok text) ∧
        key.Satisfied options value ∨
      ∃ failure, Builder.capturing options key expression value = .error failure ∧
        key.Blamed options value failure := by
  have hpasses {every : Bool} {item : Value} {text : String}
      (h : Builder.segment options key expression every item = .ok text) :
      key.Approves options item := by
    rcases Key.segment_ends hread every item with ⟨_, hitem⟩ | ⟨_, herror, _⟩
    · exact hitem
    · simp [h] at herror
  unfold Builder.capturing Key.Satisfied
  dsimp only
  cases helements : value.elements? with
  | some items =>
      dsimp only
      cases hrepeated : key.repeated with
      | false => exact .inr ⟨_, rfl, .notRepeated helements hrepeated⟩
      | true =>
          rw [if_neg (by simp)]
          rcases mapM_ends (Builder.segment options key expression true) items with
            ⟨texts, htexts, hall⟩ | ⟨front, item, rest, failure, rfl, hfront, hitem, herror⟩
          · cases hempty : items.isEmpty && !key.optional with
            | true =>
                obtain ⟨hnil, hoptional⟩ := Bool.and_eq_true_iff.mp hempty
                obtain rfl := List.isEmpty_iff.mp hnil
                exact .inr ⟨_, rfl, .emptyList helements hrepeated (by simpa using hoptional)⟩
            | false =>
                rw [if_neg (by simp), htexts]
                refine .inl ⟨⟨_, rfl⟩, rfl, ?_⟩
                cases items with
                | nil => exact .inl ⟨rfl, by simpa using hempty⟩
                | cons item rest => exact .inr ⟨by simp, fun other hother =>
                    (hall other hother).elim fun _ => hpasses⟩
          · rw [if_neg (by simp), herror]
            rcases Key.segment_ends hread true item with ⟨⟨_, hok⟩, _⟩ | ⟨_, herror', hrefuses⟩
            · simp [hitem] at hok
            · obtain rfl := Except.error.inj (hitem.symm.trans herror')
              exact .inr ⟨_, rfl, .element helements hrepeated
                (fun other hother => (hfront other hother).elim fun _ => hpasses) hrefuses⟩
  | none =>
      dsimp only
      cases hscalar : value.isScalar with
      | true =>
          rw [if_pos rfl]
          exact (Key.segment_ends hread false value).imp id fun ⟨failure, herror, hrefuses⟩ =>
            ⟨failure, herror, .scalar helements hscalar hrefuses⟩
      | false =>
          cases hoptional : key.optional with
          | true => exact .inl ⟨⟨_, rfl⟩, rfl⟩
          | false => exact .inr ⟨_, rfl, .missing helements hscalar hoptional⟩

/-- A part has what is needed to build it. -/
def Part.Satisfied (options : Options) (params : Params) : Part → Prop
  | .text _ => True
  | .key k => k.captures = true → k.Satisfied options (k.given params)

/-- A part is built just if it is satisfied, and otherwise it is a key, which is blamed. -/
theorem Part.build_ends {part : Part} {built : BuildPart}
    (hbuilt : Builder.ofPart options part = .ok built) :
    (∃ text, Builder.part options params built = .ok text) ∧ part.Satisfied options params ∨
      ∃ key failure, part = .key key ∧ key.captures = true ∧
        Builder.part options params built = .error failure ∧
          key.Blamed options (key.given params) failure := by
  cases part with
  | text literal =>
      cases hbuilt
      exact .inl ⟨⟨_, rfl⟩, trivial⟩
  | key k =>
      obtain ⟨expression, hread, h⟩ := bind_eq_ok.mp hbuilt
      cases h
      rw [Builder.part]
      split
      · next hcaptures =>
        rcases Key.capturing_ends hread (k.given params) with ⟨hok, hsatisfied⟩ |
          ⟨failure, herror, hblamed⟩
        · exact .inl ⟨hok, fun _ => hsatisfied⟩
        · exact .inr ⟨k, failure, rfl, hcaptures, herror, hblamed⟩
      · next hcaptures => exact .inl ⟨⟨_, rfl⟩, fun h => absurd h hcaptures⟩

/-- A part is built just if it is satisfied. -/
theorem Part.exists_build_iff {part : Part} {built : BuildPart}
    (hbuilt : Builder.ofPart options part = .ok built) :
    (∃ text, Builder.part options params built = .ok text) ↔ part.Satisfied options params := by
  rcases Part.build_ends hbuilt with ⟨hok, hsatisfied⟩ | ⟨k, failure, rfl, hcaptures, herror, hblamed⟩
  · exact ⟨fun _ => hsatisfied, fun _ => hok⟩
  · constructor
    · rintro ⟨text, htext⟩
      simp [herror] at htext
    · exact fun hsatisfied => absurd (hsatisfied hcaptures) hblamed.not_satisfied

/-- Parts are built just if all of them are satisfied. -/
theorem exists_build_iff {parts : List Part} {made : List BuildPart}
    (hmade : parts.mapM (Builder.ofPart options) = .ok made) :
    (∃ texts, made.mapM (Builder.part options params) = .ok texts) ↔
      ∀ part ∈ parts, part.Satisfied options params := by
  rw [exists_mapM_iff]
  have hparts := mapM_eq_ok.mp hmade
  clear hmade
  induction hparts with
  | nil => simp
  | cons hbuilt _ ih =>
      rw [List.forall_mem_cons, List.forall_mem_cons]
      exact and_congr (Part.exists_build_iff hbuilt) ih

/-- All parts are satisfied if all keys that capture are. -/
theorem forall_satisfied_iff {parts : List Part} :
    (∀ part ∈ parts, part.Satisfied options params) ↔
      ∀ key, Part.key key ∈ parts → key.captures = true →
        key.Satisfied options (key.given params) := by
  refine ⟨fun h key hkey => h (.key key) hkey, fun h part hpart => ?_⟩
  cases part with
  | text literal => trivial
  | key k => exact h k hpart

/-- Where a key is the first that is not satisfied, building fails with what the key is blamed for.
-/
theorem build_blames {front rest : List Part} {made : List BuildPart}
    (hmade : (front ++ .key key :: rest).mapM (Builder.ofPart options) = .ok made)
    (hfront : ∀ part ∈ front, part.Satisfied options params) (hcaptures : key.captures = true)
    (hunsatisfied : ¬ key.Satisfied options (key.given params)) :
    ∃ failure, made.mapM (Builder.part options params) = .error failure ∧
      key.Blamed options (key.given params) failure := by
  rw [List.mapM_append] at hmade
  obtain ⟨ahead, hahead, h⟩ := bind_eq_ok.mp hmade
  obtain ⟨behind, hbehind, h⟩ := bind_eq_ok.mp h
  cases h
  rw [List.mapM_cons] at hbehind
  obtain ⟨built, hbuilt, h⟩ := bind_eq_ok.mp hbehind
  obtain ⟨others, _, h⟩ := bind_eq_ok.mp h
  cases h
  have hbuilds := exists_mapM_iff.mp ((exists_build_iff hahead).mpr hfront)
  rcases @Part.build_ends options params _ _ hbuilt with ⟨_, hsatisfied⟩ |
    ⟨other, failure, hother, _, herror, hblamed⟩
  · exact absurd (hsatisfied hcaptures) hunsatisfied
  · cases hother
    exact ⟨failure, mapM_eq_error hbuilds herror, hblamed⟩

end Building

/-! ## Without validation -/

section Lenient

variable {options : Options} {params : Params} {key : Key} {expression : Expression} {value : Value}
  {text : String}

/-- What is written for a value is written without validation, too. -/
theorem Builder.segment_lenient {every : Bool}
    (h : segment options key expression every value = .ok text) :
    segment { options with validate := false } key expression every value = .ok text := by
  unfold segment at h
  dsimp only at h
  obtain ⟨passed, _, h⟩ := bind_eq_ok.mp h
  split at h
  · exact h
  · simp at h

/-- What is built for a key is built without validation, too. -/
theorem Builder.capturing_lenient (h : capturing options key expression value = .ok text) :
    capturing { options with validate := false } key expression value = .ok text := by
  unfold capturing at h ⊢
  dsimp only at h ⊢
  split
  · next items helements =>
    rw [helements] at h
    dsimp only at h
    split at h
    · simp at h
    · next hrepeated =>
      rw [if_neg hrepeated]
      split at h
      · simp at h
      · next hempty =>
        rw [if_neg hempty]
        obtain ⟨texts, htexts, h⟩ := bind_eq_ok.mp h
        refine bind_eq_ok.mpr ⟨texts, mapM_eq_ok.mpr ?_, h⟩
        exact (mapM_eq_ok.mp htexts).imp fun _ _ => segment_lenient
  · next helements =>
    rw [helements] at h
    dsimp only at h
    split at h
    · next hscalar =>
      rw [if_pos hscalar]
      exact segment_lenient h
    · next hscalar =>
      rw [if_neg hscalar]
      exact h

/-- What is built for a part is built without validation, too. -/
theorem Builder.part_lenient {built : BuildPart} (h : part options params built = .ok text) :
    part { options with validate := false } params built = .ok text := by
  cases built with
  | text literal => exact h
  | key k expression =>
      rw [part] at h ⊢
      split
      · next hcaptures =>
        rw [if_pos hcaptures] at h
        exact capturing_lenient h
      · next hcaptures =>
        rw [if_neg hcaptures] at h
        exact h

end Lenient

/-- A path is built just if every key that captures is satisfied. Otherwise the first key that is not
satisfied is to blame: the error bears its name, unless the check of the first of its texts that
does not pass has no answer, which takes a possessive repetition in its expression. Without
validation the same paths are built, and it fails only where it fails with validation. -/
theorem build_iff_satisfied {options : Options} {parts : List Part} {builder : Builder}
    (hbuilder : Builder.ofParts options parts = .ok builder) (params : Params) :
    ((∃ path, builder.build params = .ok path) ↔
      ∀ key, Part.key key ∈ parts → key.captures = true →
        key.Satisfied options (key.given params)) ∧
    (∀ front key rest, parts = front ++ .key key :: rest →
      (∀ other, Part.key other ∈ front → other.captures = true →
        other.Satisfied options (other.given params)) →
      key.captures = true → ¬ key.Satisfied options (key.given params) →
      ∃ failure, builder.build params = .error failure ∧
        key.Blamed options (key.given params) failure ∧
        ((∃ error, failure = .rejected error ∧ error.name = key.name) ∨
          ∃ fault expression, failure = .search fault ∧
            Expression.read ("(?:" ++ key.pattern ++ ")") options.flags = .ok expression ∧
              expression.expr.hasPossessive = true)) ∧
    ∃ lenient, Builder.ofParts { options with validate := false } parts = .ok lenient ∧
      (∀ path, builder.build params = .ok path → lenient.build params = .ok path) ∧
      ∀ failure, lenient.build params = .error failure →
        ∃ failure', builder.build params = .error failure' := by
  obtain ⟨made, hmade, h⟩ := bind_eq_ok.mp hbuilder
  cases h
  have hlenient (path : String) (hpath : Builder.build ⟨made, options⟩ params = .ok path) :
      Builder.build ⟨made, { options with validate := false }⟩ params = .ok path := by
    obtain ⟨texts, htexts, h⟩ := bind_eq_ok.mp hpath
    refine bind_eq_ok.mpr ⟨texts, mapM_eq_ok.mpr ?_, h⟩
    exact (mapM_eq_ok.mp htexts).imp fun _ _ => Builder.part_lenient
  refine ⟨?_, ?_, ⟨made, { options with validate := false }⟩, ?_, hlenient, ?_⟩
  · rw [← forall_satisfied_iff, ← exists_build_iff hmade]
    constructor
    · rintro ⟨path, hpath⟩
      obtain ⟨texts, htexts, _⟩ := bind_eq_ok.mp hpath
      exact ⟨texts, htexts⟩
    · rintro ⟨texts, htexts⟩
      exact ⟨_, bind_eq_ok.mpr ⟨texts, htexts, rfl⟩⟩
  · rintro front key rest rfl hfront hcaptures hunsatisfied
    obtain ⟨failure, herror, hblamed⟩ :=
      build_blames hmade (forall_satisfied_iff.mpr hfront) hcaptures hunsatisfied
    refine ⟨failure, ?_, hblamed, hblamed.named⟩
    rw [Builder.build, herror]
    rfl
  · exact bind_eq_ok.mpr ⟨made, hmade, rfl⟩
  · intro failure hfailure
    cases hbuild : Builder.build ⟨made, options⟩ params with
    | error failure' => exact ⟨failure', rfl⟩
    | ok path => simp [hlenient path hbuild] at hfailure

/-- Values that satisfy all keys, and a list whose second element is to blame in front of a truth
value, which no key takes. -/
theorem build_iff_satisfied_element :
    let year : Key := { name := .named "year", before := "/", pattern := "\\d+" }
    let tag : Key := { name := .positional 0, before := "-", pattern := "x|yz", modifier := "*" }
    let page : Key := { name := .named "page", pattern := "." }
    let parts : List Part := [.text "/v", .key year, .key tag, .key page]
    let good : Params := [(.positional 0, .list [.text "x", .text "yz"]), (.named "page", .int 7),
      (.named "year", .int 2024)]
    let bad : Params := [(.positional 0, .tuple [.text "x", .text "q"]), (.named "page", .bool true),
      (.named "year", .int 2024)]
    ∃ builder lenient path failure, Builder.ofParts {} parts = .ok builder ∧
      Builder.ofParts { validate := false } parts = .ok lenient ∧
      builder.build good = .ok path ∧ lenient.build good = .ok path ∧
      builder.build bad = .error failure ∧ tag.Blamed {} (tag.given bad) failure := by
  intro year tag page parts good bad
  have hmade : (Builder.ofParts {} parts).toOption.isSome = true := by decide +kernel
  obtain ⟨builder, hbuilder⟩ := Option.isSome_iff_exists.mp hmade
  have hbuilder' := toOption_eq_some.mp hbuilder
  obtain ⟨hiff, _, lenient, hlenient, hsame, _⟩ := build_iff_satisfied hbuilder' good
  obtain ⟨path, hpath⟩ := hiff.mpr (by
    simp only [parts, List.mem_cons, Part.key.injEq, reduceCtorEq, List.not_mem_nil, or_false,
      false_or, forall_eq_or_imp, forall_eq]
    decide +kernel)
  obtain ⟨_, hfirst, _⟩ := build_iff_satisfied hbuilder' bad
  obtain ⟨failure, hfailure, hblamed, _⟩ := hfirst [.text "/v", .key year] tag [.key page] rfl
    (by
      simp only [List.mem_cons, Part.key.injEq, reduceCtorEq, List.not_mem_nil, or_false, false_or,
        forall_eq]
      decide +kernel)
    rfl (by decide +kernel)
  exact ⟨builder, lenient, path, failure, hbuilder', hlenient, hpath, hsame path hpath, hfailure,
    hblamed⟩

/-- Where a possessive repetition goes back to an earlier iteration, a group of it may end before it
begins. Then the check has no answer, and there is neither a path nor an error that names the key. -/
theorem build_unanswered :
    let key : Key := { name := .named "a", pattern := "(?:(?:(?P<n>ab)|ac)*+)" }
    ∃ builder, Builder.ofParts {} [.key key] = .ok builder ∧
      (¬ ∃ path, builder.build [(.named "a", .text "abacac")] = .ok path) ∧
      ¬ ∃ error, builder.build [(.named "a", .text "abacac")] = .error (.rejected error) := by
  intro key
  have hsome : ((Builder.ofParts {} [.key key]).toOption.map fun builder =>
      match builder.build [(.named "a", .text "abacac")] with
      | .error (.search .crossedGroup) => true
      | _ => false) = some true := by
    decide +kernel
  obtain ⟨builder, hbuilder, hfault⟩ := Option.map_eq_some_iff.mp hsome
  refine ⟨builder, toOption_eq_some.mp hbuilder, ?_, ?_⟩
  · rintro ⟨path, hpath⟩
    simp [hpath] at hfault
  · rintro ⟨error, herror⟩
    simp [herror] at hfault

end RoutePattern
