import RoutePattern.Proofs.Part.Conserved
import RoutePattern.Proofs.Pattern.Framing
import RoutePattern.Proofs.Pattern.Groups
import RoutePattern.Proofs.Pattern.Params
import RoutePattern.Proofs.Pattern.Ready

/-!
# Groups without marks

Where no key carries a mark of repetition, it does not matter how the characters of a pattern are
shared out among literal text and the texts around the keys. `Part.scatter` takes a part to pieces,
one for each character and a key without texts around it. The pieces say the same as the part
(`restates_scattered`), and what is built from them is the same text (`join_build_scattered`), so two
patterns that are made of the same have the same matches and build the same paths:
`grouping_immaterial` is the main result.
-/

namespace RoutePattern

variable {options : Options} {parts parts' : List Part}

/-! ## Pieces of a part -/

/-- An ingredient as a part by itself. -/
def Ingredient.part : Ingredient → Part
  | char c => .text (String.singleton c)
  | mark name pattern => .key { name, pattern }

/-- The pieces of a part. -/
def Part.scatter (part : Part) : List Part :=
  part.contents.map Ingredient.part

/-- No mark of repetition on any key, and each key that captures has a valid expression. -/
def Unmarked (options : Options) (parts : List Part) : Prop :=
  ∀ key, Part.key key ∈ parts → key.modifier = "" ∧ key.Valid options

/-- The pieces of the parts are what the parts are made of, one by one. -/
theorem flatMap_scatter (parts : List Part) :
    parts.flatMap Part.scatter = (parts.flatMap Part.contents).map Ingredient.part := by
  rw [List.map_flatMap]
  rfl

/-! ## What the pieces say -/

/-- The texts of parts in a row. -/
theorem middleText_append (options : Options) (first second : List Part) :
    options.middleText (first ++ second) = options.middleText first ++ options.middleText second := by
  simp [Options.middleText]

/-- The text of one part. -/
theorem middleText_singleton (options : Options) (part : Part) :
    options.middleText [part] = (part.source options).toList := by
  simp [Options.middleText]

/-- Literal text says what its characters say one by one. -/
theorem middleText_textContents (hencode : ∀ text, options.encode text = text) (text : String) :
    options.middleText ((textContents text).map Ingredient.part) =
      (escape (options.encode text)).toList := by
  rw [hencode, toList_escape, textContents]
  induction text.toList with
  | nil => rfl
  | cons c rest ih =>
      have hcons : escapeChars (c :: rest) = escapeChars [c] ++ escapeChars rest := by
        simp [escapeChars]
      have hpart : (Part.source options (Ingredient.char c).part).toList = escapeChars [c] := by
        simp [Ingredient.part, Part.source, hencode, toList_escape]
      rw [List.map_cons, List.map_cons, ← List.singleton_append, middleText_append, ih,
        middleText_singleton, hpart, hcons]

namespace Key

variable {key : Key}

/-- The group of a key, if it captures. -/
def groupText (key : Key) : List Char :=
  if key.captures then '(' :: key.pattern.toList ++ [')'] else []

/-- The pieces of a key say its texts with its group between them. -/
theorem middleText_scatter (hencode : ∀ text, options.encode text = text) (key : Key) :
    options.middleText (Part.scatter (.key key)) =
      (escape (options.encode key.before)).toList ++ key.groupText ++
        (escape (options.encode key.after)).toList := by
  have hgroup : options.middleText
      ((if key.captures then [.mark key.name key.pattern] else []).map Ingredient.part) =
        key.groupText := by
    unfold groupText
    split
    · next hcaptures =>
      have hempty : (options.encode "").isEmpty = true := by rw [hencode]; rfl
      have hcaptures : (⟨key.name, "", "", key.pattern, ""⟩ : Key).captures = true := hcaptures
      rw [List.map_cons, List.map_nil, middleText_singleton]
      simp [Ingredient.part, Part.source, Key.source, hcaptures, isEmpty_escape, hempty]
    · rfl
  rw [Part.scatter, Part.contents, contents, List.map_append, List.map_append, middleText_append,
    middleText_append, middleText_textContents hencode, middleText_textContents hencode, hgroup]

/-- The group of a valid key says the same wherever it stands. -/
theorem restates_groupText (h : key.Valid options) :
    Restates options.flags key.groupText key.groupText := by
  unfold groupText
  split
  · next hcaptures =>
    obtain ⟨expression, hread⟩ := h.2 hcaptures
    obtain ⟨_, _, hrun, _⟩ := Expression.read_eq_ok.mp hread
    have hhead := ExprReader.head?_of_run rfl hrun
    exact ((Refills.of_read rfl hread).capture rfl hhead hhead).restates
  · exact .nil

/-- Without a mark the text of a key is its group between its texts, perhaps in a group that captures
nothing. -/
theorem source_of_unmarked (hmodifier : key.modifier = "") (before after : String) :
    let row := before.toList ++ key.groupText ++ after.toList
    (key.source before after).toList = row ∨
      (key.source before after).toList = "(?:".toList ++ row ++ [')'] := by
  unfold source groupText
  cases hcaptures : key.captures with
  | false => exact .inr (by simp [hmodifier])
  | true =>
      cases hempty : before.isEmpty && after.isEmpty with
      | true =>
          rw [Bool.and_eq_true, String.isEmpty_iff, String.isEmpty_iff] at hempty
          obtain ⟨rfl, rfl⟩ := hempty
          exact .inl (by simp [hmodifier])
      | false => exact .inr (by simp [hmodifier, repeated])

end Key

/-- A part without a mark says the same as its pieces, and its pieces say the same as the part. -/
theorem Part.restates_scatter (hencode : ∀ text, options.encode text = text) {part : Part}
    (h : ∀ key, part = .key key → key.modifier = "" ∧ key.Valid options) :
    Restates options.flags (part.source options).toList (options.middleText part.scatter) ∧
      Restates options.flags (options.middleText part.scatter) (part.source options).toList := by
  cases part with
  | text literal =>
      have htext := restates_escape options literal
      rw [scatter, contents, middleText_textContents hencode]
      exact ⟨htext, htext⟩
  | key k =>
      obtain ⟨hmodifier, hvalid⟩ := h k rfl
      have hrow := ((restates_escape options k.before).append (Key.restates_groupText hvalid)).append
        (restates_escape options k.after)
      rw [Key.middleText_scatter hencode, source]
      rcases Key.source_of_unmarked hmodifier (escape (options.encode k.before))
        (escape (options.encode k.after)) with hsource | hsource <;> rw [hsource]
      · exact ⟨hrow, hrow⟩
      · exact ⟨hrow.unwrap rfl, hrow.wrap rfl⟩

/-- Parts without marks say the same as their pieces, and their pieces say the same as the parts. -/
theorem restates_scattered (hencode : ∀ text, options.encode text = text)
    (h : Unmarked options parts) :
    Restates options.flags (options.middleText parts)
        (options.middleText (parts.flatMap Part.scatter)) ∧
      Restates options.flags (options.middleText (parts.flatMap Part.scatter))
        (options.middleText parts) := by
  induction parts with
  | nil => exact ⟨.nil, .nil⟩
  | cons part rest ih =>
      obtain ⟨hfirst, hfirst'⟩ := part.restates_scatter hencode fun key hkey => h key (by simp [hkey])
      obtain ⟨hrest, hrest'⟩ := ih fun key hkey => h key (by simp [hkey])
      rw [List.flatMap_cons, middleText_append, ← List.singleton_append, middleText_append,
        middleText_singleton]
      exact ⟨hfirst.append hrest, hfirst'.append hrest'⟩

/-- Parts without marks that are made of the same say the same. -/
theorem restates_of_contents (hencode : ∀ text, options.encode text = text)
    (h : Unmarked options parts) (h' : Unmarked options parts')
    (hcontents : parts'.flatMap Part.contents = parts.flatMap Part.contents) :
    Restates options.flags (options.middleText parts) (options.middleText parts') := by
  have hscatter : parts'.flatMap Part.scatter = parts.flatMap Part.scatter := by
    rw [flatMap_scatter, flatMap_scatter, hcontents]
  have hpieces := (restates_scattered hencode h').2
  rw [hscatter] at hpieces
  exact (restates_scattered hencode h).1.trans hpieces

/-! ## What is matched -/

/-- The name of an ingredient. -/
def Ingredient.name? : Ingredient → Option KeyName
  | char _ => none
  | mark name _ => some name

/-- Characters have no names. -/
theorem filterMap_name?_textContents (text : String) :
    (textContents text).filterMap Ingredient.name? = [] := by
  simp [textContents, List.filterMap_map, Function.comp_def, Ingredient.name?]

/-- The keys that capture have the names that the parts are made of. -/
theorem map_name_capturingKeys (parts : List Part) : (capturingKeys parts).map Key.name =
    (parts.flatMap Part.contents).filterMap Ingredient.name? := by
  induction parts with
  | nil => rfl
  | cons part rest ih =>
      rw [List.flatMap_cons, List.filterMap_append, ← ih]
      cases part with
      | text literal =>
          rw [Part.contents, filterMap_name?_textContents]
          rfl
      | key k =>
          rw [Part.contents, Key.contents, List.filterMap_append, List.filterMap_append,
            filterMap_name?_textContents, filterMap_name?_textContents]
          cases hcaptures : k.captures <;> simp [capturingKeys, hcaptures, Ingredient.name?]

/-- The values of keys that are not repeated depend on their names only. -/
theorem bindParams_congr {options' : Options} (hdecode : options'.decode = options.decode)
    {keys keys' : List Key} (hnames : keys'.map Key.name = keys.map Key.name)
    (h : ∀ key ∈ keys, key.modifier = "") (h' : ∀ key ∈ keys', key.modifier = "")
    (params : Params) (groups : List (Option String)) :
    bindParams options' params keys' groups = bindParams options params keys groups := by
  refine bindParams_of_forall₂ ?_ params groups
  induction keys generalizing keys' with
  | nil =>
      rw [List.map_nil, List.map_eq_nil_iff] at hnames
      subst hnames
      exact .nil
  | cons key keys ih =>
      obtain ⟨key', others, rfl, hname, hothers⟩ := List.map_eq_cons_iff.mp hnames
      have hvalue (text : String) : key'.value options' text = key.value options text := by
        have hkey := h key (by simp)
        have hkey' := h' key' (by simp)
        simp [Key.value, Key.repeated, hkey, hkey', hdecode]
      exact .cons ⟨hname, hvalue⟩ (ih hothers (fun key hkey => h key (by simp [hkey]))
        fun key hkey => h' key (by simp [hkey]))

/-- Matchers whose expressions say the same, with keys of the same names that are not repeated, match
the same. -/
theorem Matcher.run_congr {matcher matcher' : Matcher}
    (hdecode : matcher'.options.decode = matcher.options.decode)
    (hexpr : matcher'.expression.expr = matcher.expression.expr)
    (hflags : matcher'.expression.flags = matcher.expression.flags)
    (hgroups : matcher'.expression.groups = matcher.expression.groups)
    (hnames : matcher'.keys.map Key.name = matcher.keys.map Key.name)
    (h : ∀ key ∈ matcher.keys, key.modifier = "") (h' : ∀ key ∈ matcher'.keys, key.modifier = "")
    (text : String) : matcher'.run text = matcher.run text := by
  obtain ⟨⟨source, flags, expr, groups⟩, keys, options⟩ := matcher
  obtain ⟨⟨source', flags', expr', groups'⟩, keys', options'⟩ := matcher'
  dsimp only at hexpr hflags hgroups
  subst hexpr hflags hgroups
  have hbind := @bindParams_congr options options' hdecode keys keys' hnames h h'
  unfold Matcher.run
  simp only [hbind]
  rfl

/-- The keys that capture are keys of the parts. -/
theorem Unmarked.capturingKeys (h : Unmarked options parts) :
    ∀ key ∈ capturingKeys parts, key.modifier = "" :=
  fun key hkey => (h key (mem_capturingKeys.mp hkey).1).1

/-- Patterns without marks that are made of the same match the same. -/
theorem run_of_contents {options' : Options} (hdecode : options'.decode = options.decode)
    (hend : options.anchorEnd = true)
    (hencode : ∀ text, options.encode text = text) (h : Unmarked options parts)
    (h' : Unmarked options parts')
    (hcontents : parts'.flatMap Part.contents = parts.flatMap Part.contents)
    {expression expression' : Expression} (hcompile : compileParts options parts = .ok expression)
    (hcompile' : compileParts options parts' = .ok expression') (text : String) :
    Matcher.run ⟨expression', capturingKeys parts', options'⟩ text =
      Matcher.run ⟨expression, capturingKeys parts, options⟩ text := by
  -- Where a match has to reach the end, the text behind the parts does not depend on them.
  have htail : Trails options.flags (options.tailText parts') (options.tailItems parts) := by
    have hsame : options.tailText parts' = options.tailText parts := by
      simp [Options.tailText, hend]
    rw [hsame]
    exact trails_tailText options parts
  obtain ⟨between, hexpr, hexpr', hflags, hflags', hgroups⟩ :=
    (restates_of_contents hencode h h' hcontents).framed rfl (trails_tailText options parts) htail
      (toList_partsSource options parts) (toList_partsSource options parts') hcompile hcompile'
  refine Matcher.run_congr hdecode (hexpr'.trans hexpr.symm) (hflags'.trans hflags.symm) hgroups ?_
    h.capturingKeys h'.capturingKeys text
  show (capturingKeys parts').map Key.name = (capturingKeys parts).map Key.name
  rw [map_name_capturingKeys, map_name_capturingKeys, hcontents]

/-! ## What is built -/

/-- The characters of a text as parts by themselves. -/
def literalPieces (text : String) : List BuildPart :=
  text.toList.map fun c => .text (String.singleton c)

/-- The pieces of a part that is ready for building. -/
def BuildPart.scatter : BuildPart → List BuildPart
  | .text literal => literalPieces literal
  | .key k expression =>
      literalPieces k.before
        ++ (if k.captures then [.key { name := k.name, pattern := k.pattern } expression] else [])
        ++ literalPieces k.after

/-- Characters are ready for building. -/
theorem mapM_ofPart_textContents (options : Options) (text : String) :
    ((textContents text).map Ingredient.part).mapM (Builder.ofPart options) =
      .ok (literalPieces text) := by
  rw [textContents, literalPieces]
  induction text.toList with
  | nil => rfl
  | cons c rest ih =>
      rw [List.map_cons, List.map_cons, List.mapM_cons, ih]
      rfl

/-- The pieces of a part are made ready as the part is. -/
theorem mapM_ofPart_scatter (options : Options) (part : Part) :
    part.scatter.mapM (Builder.ofPart options) =
      (Builder.ofPart options part).map BuildPart.scatter := by
  cases part with
  | text literal =>
      rw [Part.scatter, Part.contents, mapM_ofPart_textContents]
      rfl
  | key k =>
      rw [Part.scatter, Part.contents, Key.contents, List.map_append, List.map_append,
        List.mapM_append, List.mapM_append, mapM_ofPart_textContents, mapM_ofPart_textContents]
      cases hcaptures : k.captures with
      | true =>
          simp only [↓reduceIte, List.map_cons, List.map_nil, List.mapM_cons, List.mapM_nil,
            Ingredient.part, Builder.ofPart]
          cases Expression.read ("(?:" ++ k.pattern ++ ")") options.flags with
          | error fault => rfl
          | ok expression =>
              show Except.ok _ = Except.ok _
              rw [BuildPart.scatter, hcaptures]
              rfl
      | false =>
          -- The expression of a key that captures nothing is always ready.
          rw [Builder.ofPart, read_wrapped (embeddable_of_not_captures hcaptures)]
          show Except.ok _ = Except.ok _
          rw [BuildPart.scatter, hcaptures]
          rfl

/-- The pieces of parts are made ready as the parts are. -/
theorem mapM_ofPart_scattered (options : Options) (parts : List Part) :
    (parts.flatMap Part.scatter).mapM (Builder.ofPart options) =
      (parts.mapM (Builder.ofPart options)).map (List.flatMap BuildPart.scatter) := by
  induction parts with
  | nil => rfl
  | cons part rest ih =>
      rw [List.flatMap_cons, List.mapM_append, mapM_ofPart_scatter, ih, List.mapM_cons]
      cases Builder.ofPart options part with
      | error fault => rfl
      | ok first => cases rest.mapM (Builder.ofPart options) <;> rfl

variable {params : Params}

/-- Characters are built as they are. -/
theorem join_build_literalPieces (options : Options) (params : Params) (text : String) :
    ((literalPieces text).mapM (Builder.part options params)) =
      .ok (text.toList.map String.singleton) := by
  rw [literalPieces]
  induction text.toList with
  | nil => rfl
  | cons c rest ih =>
      rw [List.map_cons, List.mapM_cons, ih]
      rfl

/-- The characters of a text make it up. -/
theorem join_map_singleton (text : String) : String.join (text.toList.map String.singleton) = text := by
  rw [← String.toList_inj, String.toList_join, List.flatMap_map]
  simp

/-- A value stands between the texts of its key. -/
theorem segment_eq_map (options : Options) (key : Key) (expression : Expression) (every : Bool)
    (value : Value) : Builder.segment options key expression every value =
      (Builder.segment options { name := key.name, pattern := key.pattern } expression every
        value).map fun text => key.before ++ text ++ key.after := by
  unfold Builder.segment
  dsimp only
  generalize Builder.accepts options expression (options.encode value.toText) = accepted
  cases accepted with
  | error fault => rfl
  | ok accepted =>
      cases accepted with
      | false => rfl
      | true =>
          show Except.ok _ = Except.ok _
          simp

/-- A key without a mark builds its value between its texts. -/
theorem capturing_of_unmarked {key : Key} (hmodifier : key.modifier = "") (expression : Expression)
    (value : Value) : Builder.capturing options key expression value =
      (Builder.capturing options { name := key.name, pattern := key.pattern } expression value).map
        fun text => key.before ++ text ++ key.after := by
  have hrepeated : key.repeated = false := by simp [Key.repeated, hmodifier]
  have hoptional : key.optional = false := by simp [Key.optional, hmodifier]
  unfold Builder.capturing
  cases value.elements? with
  | some items =>
      simp only [hrepeated]
      rfl
  | none =>
      simp only [hoptional, hrepeated]
      cases value.isScalar with
      | false => rfl
      | true => exact segment_eq_map options key expression false value

/-- What is built from the pieces of a part makes up what is built from the part. -/
theorem join_build_scatter {part : BuildPart}
    (h : ∀ key expression, part = .key key expression → key.modifier = "") :
    (part.scatter.mapM (Builder.part options params)).map String.join =
      Builder.part options params part := by
  cases part with
  | text literal =>
      rw [BuildPart.scatter, join_build_literalPieces]
      show Except.ok _ = Except.ok _
      rw [join_map_singleton]
  | key key expression =>
      have hmodifier := h key expression rfl
      have hoptional : key.optional = false := by simp [Key.optional, hmodifier]
      have hjoin (texts : List String) : String.join (key.before.toList.map String.singleton ++
          texts ++ key.after.toList.map String.singleton) =
            key.before ++ String.join texts ++ key.after := by
        rw [String.join_append, String.join_append, join_map_singleton, join_map_singleton]
      rw [BuildPart.scatter, List.mapM_append, List.mapM_append, join_build_literalPieces,
        join_build_literalPieces, Builder.part]
      cases hcaptures : key.captures with
      | false =>
          rw [hoptional]
          show Except.ok _ = Except.ok _
          rw [hjoin]
          simp
      | true =>
          have hpiece : Builder.part options params
              (.key { name := key.name, pattern := key.pattern } expression) =
                Builder.capturing options { name := key.name, pattern := key.pattern } expression
                  ((params.lookup key.name).getD .null) := by
            have hbare : (⟨key.name, "", "", key.pattern, ""⟩ : Key).captures = true := hcaptures
            rw [Builder.part, if_pos hbare]
          simp only [↓reduceIte, List.mapM_cons, List.mapM_nil, hpiece,
            capturing_of_unmarked hmodifier]
          cases Builder.capturing options { name := key.name, pattern := key.pattern } expression
              ((params.lookup key.name).getD .null) with
          | error failure => rfl
          | ok text =>
              show Except.ok _ = Except.ok _
              rw [hjoin]
              simp

/-- What is built from the pieces of parts makes up what is built from the parts. -/
theorem join_build_scattered {parts : List BuildPart}
    (h : ∀ key expression, BuildPart.key key expression ∈ parts → key.modifier = "") :
    ((parts.flatMap BuildPart.scatter).mapM (Builder.part options params)).map String.join =
      (parts.mapM (Builder.part options params)).map String.join := by
  induction parts with
  | nil => rfl
  | cons part rest ih =>
      have hrest := ih fun key expression hkey => h key expression (by simp [hkey])
      have hpart : (part.scatter.mapM (Builder.part options params)).map String.join =
          Builder.part options params part :=
        join_build_scatter fun key expression hkey => h key expression (by simp [hkey])
      have hpieces (first others : Except BuildFailure (List String)) :
          (do return (← first) ++ (← others)).map String.join =
            (do return (← first.map String.join) ++ (← others.map String.join)) := by
        cases first with
        | error failure => rfl
        | ok first =>
            cases others with
            | error failure => rfl
            | ok others =>
                show Except.ok _ = Except.ok _
                rw [String.join_append]
      have hwhole (first : Except BuildFailure String) (others : Except BuildFailure (List String)) :
          (do return (← first) :: (← others)).map String.join =
            (do return (← first) ++ (← others.map String.join)) := by
        cases first with
        | error failure => rfl
        | ok first =>
            cases others with
            | error failure => rfl
            | ok others =>
                show Except.ok _ = Except.ok _
                rw [String.join_cons]
      rw [List.flatMap_cons, List.mapM_append, List.mapM_cons, hpieces, hwhole, hpart, hrest]

/-- Making parts ready keeps their keys. -/
theorem modifier_of_mapM_ofPart (h : ∀ key, Part.key key ∈ parts → key.modifier = "")
    {made : List BuildPart} (hmade : parts.mapM (Builder.ofPart options) = .ok made) :
    ∀ key expression, BuildPart.key key expression ∈ made → key.modifier = "" := by
  induction parts generalizing made with
  | nil =>
      cases hmade
      simp
  | cons part rest ih =>
      rw [List.mapM_cons] at hmade
      obtain ⟨first, hfirst, hmade⟩ := bind_eq_ok.mp hmade
      obtain ⟨others, hothers, hmade⟩ := bind_eq_ok.mp hmade
      cases hmade
      intro key expression hkey
      rcases List.mem_cons.mp hkey with rfl | hrest
      · cases part with
        | text literal => cases hfirst
        | key k =>
            obtain ⟨_, _, heq⟩ := bind_eq_ok.mp hfirst
            cases heq
            exact h key (by simp)
      · exact ih (fun key hkey => h key (by simp [hkey])) hothers key expression hrest

/-- Parts without marks build what their pieces build. -/
theorem build_scattered (h : ∀ key, Part.key key ∈ parts → key.modifier = "") (params : Params) :
    (Builder.ofParts options (parts.flatMap Part.scatter)).map (·.build params) =
      (Builder.ofParts options parts).map (·.build params) := by
  unfold Builder.ofParts
  rw [mapM_ofPart_scattered]
  cases hmade : parts.mapM (Builder.ofPart options) with
  | error fault => rfl
  | ok made =>
      show Except.ok _ = Except.ok _
      unfold Builder.build
      have hjoin := @join_build_scattered options params made (modifier_of_mapM_ofPart h hmade)
      exact congrArg Except.ok hjoin

/-- Patterns without marks that are made of the same build the same. -/
theorem build_of_contents (h : ∀ key, Part.key key ∈ parts → key.modifier = "")
    (h' : ∀ key, Part.key key ∈ parts' → key.modifier = "")
    (hcontents : parts'.flatMap Part.contents = parts.flatMap Part.contents) (params : Params) :
    (Builder.ofParts options parts').map (·.build params) =
      (Builder.ofParts options parts).map (·.build params) := by
  rw [← build_scattered h, ← build_scattered h', flatMap_scatter, flatMap_scatter, hcontents]

/-! ## Patterns -/

section Patterns

variable {source : String} {lexemes : List Lexeme} {prefixes : String}

/-- A pattern without marks of repetition, with valid expressions, is read as parts of that kind. -/
theorem unmarked_of_parse (hscan : scan source = .ok lexemes)
    (hlexemes : ∀ lexeme ∈ lexemes, lexeme.kind ≠ .modifier)
    (hvalid : ∀ name pattern,
      .mark name pattern ∈ contentsFrom (defaultPattern options.delimiter) 0 lexemes →
        ∃ expression, Expression.read pattern options.flags = .ok expression)
    (hparse : parse options source = .ok parts) : Unmarked options parts := by
  intro key hkey
  have hmodifier := modifier_of_parse hparse hscan hlexemes hkey
  refine ⟨hmodifier, .inl hmodifier, fun hcaptures => hvalid key.name key.pattern ?_⟩
  rw [← contents_of_parse hparse hscan, List.mem_flatMap]
  exact ⟨.key key, hkey, by simp [Part.contents, Key.contents, hcaptures]⟩

/-- A pattern with a matcher can be read. -/
theorem Matcher.parse_of_ofPath {matcher : Matcher}
    (h : Matcher.ofPath options (.pattern source) = .ok matcher) :
    ∃ parts, parse options source = .ok parts := by
  cases hparse : parse options source with
  | ok parts => exact ⟨parts, rfl⟩
  | error error =>
      rw [Matcher.ofPath, Path.compile_pattern_error hparse] at h
      cases h

/-- A pattern with a builder can be read, and its parts can be made ready. -/
theorem Builder.ofParts_of_ofPattern {builder : Builder}
    (h : Builder.ofPattern options source = .ok builder) :
    ∃ parts, parse options source = .ok parts ∧ Builder.ofParts options parts = .ok builder := by
  unfold Builder.ofPattern at h
  split at h
  · cases h
  · next parts hparse => exact ⟨parts, hparse, mapError_eq_ok.mp h⟩

/-- What is built does not depend on the prefixes. -/
theorem Builder.build_prefixes (options : Options) (prefixes : String) (parts : List Part)
    (params : Params) :
    (Builder.ofParts { options with prefixes } parts).map (·.build params) =
      (Builder.ofParts options parts).map (·.build params) := by
  unfold Builder.ofParts
  rw [show Builder.ofPart { options with prefixes } = Builder.ofPart options from rfl]
  cases parts.mapM (Builder.ofPart options) <;> rfl

end Patterns

/-- Without marks of repetition, and where a match has to reach the end, grouping is immaterial. Lists
of parts that are made of the same match the same and build the same, with the same failures. The
same holds of patterns, whatever their braces and prefixes are. -/
theorem grouping_immaterial {options : Options} (hend : options.anchorEnd = true)
    (hencode : ∀ text, options.encode text = text) :
    (∀ parts parts', Unmarked options parts → Unmarked options parts' →
      parts'.flatMap Part.contents = parts.flatMap Part.contents →
      (∀ expression expression', compileParts options parts = .ok expression →
        compileParts options parts' = .ok expression' → ∀ text,
          Matcher.run ⟨expression', capturingKeys parts', options⟩ text =
            Matcher.run ⟨expression, capturingKeys parts, options⟩ text) ∧
      ∀ params, (Builder.ofParts options parts').map (·.build params) =
        (Builder.ofParts options parts).map (·.build params)) ∧
    ∀ source source' lexemes lexemes' prefixes prefixes', scan source = .ok lexemes →
      scan source' = .ok lexemes' → (∀ lexeme ∈ lexemes, lexeme.kind ≠ .modifier) →
      (∀ lexeme ∈ lexemes', lexeme.kind ≠ .modifier) →
      contentsFrom (defaultPattern options.delimiter) 0 lexemes' =
        contentsFrom (defaultPattern options.delimiter) 0 lexemes →
      (∀ name pattern,
        .mark name pattern ∈ contentsFrom (defaultPattern options.delimiter) 0 lexemes →
          ∃ expression, Expression.read pattern options.flags = .ok expression) →
      (∀ matcher matcher',
        Matcher.ofPath { options with prefixes } (.pattern source) = .ok matcher →
        Matcher.ofPath { options with prefixes := prefixes' } (.pattern source') = .ok matcher' →
          ∀ text, matcher'.run text = matcher.run text) ∧
      ∀ builder builder', Builder.ofPattern { options with prefixes } source = .ok builder →
        Builder.ofPattern { options with prefixes := prefixes' } source' = .ok builder' →
          ∀ params, builder'.build params = builder.build params := by
  refine ⟨fun parts parts' h h' hcontents => ⟨fun expression expression' hcompile hcompile' =>
    run_of_contents rfl hend hencode h h' hcontents hcompile hcompile', fun params =>
      build_of_contents (fun key hkey => (h key hkey).1) (fun key hkey => (h' key hkey).1)
        hcontents params⟩, ?_⟩
  intro source source' lexemes lexemes' prefixes prefixes' hscan hscan' hlexemes hlexemes' hcontents
    hvalid
  have hvalid' := hvalid
  rw [← hcontents] at hvalid'
  constructor
  · intro matcher matcher' hmatcher hmatcher' text
    obtain ⟨parts, hparse⟩ := Matcher.parse_of_ofPath hmatcher
    obtain ⟨parts', hparse'⟩ := Matcher.parse_of_ofPath hmatcher'
    obtain ⟨expression, hcompile, rfl⟩ := Matcher.ofPath_pattern hparse hmatcher
    obtain ⟨expression', hcompile', rfl⟩ := Matcher.ofPath_pattern hparse' hmatcher'
    have hsame : parts'.flatMap Part.contents = parts.flatMap Part.contents := by
      rw [contents_of_parse hparse hscan, contents_of_parse hparse' hscan']
      exact hcontents
    -- Prefixes matter only to how a pattern is read into parts.
    have hunmarked := @unmarked_of_parse { options with prefixes } parts source lexemes hscan
      hlexemes hvalid hparse
    have hunmarked' := @unmarked_of_parse { options with prefixes := prefixes' } parts' source'
      lexemes' hscan' hlexemes' hvalid' hparse'
    exact @run_of_contents { options with prefixes } parts parts'
      { options with prefixes := prefixes' } rfl hend hencode hunmarked hunmarked' hsame expression
      expression' hcompile hcompile' text
  · intro builder builder' hbuilder hbuilder' params
    obtain ⟨parts, hparse, hmade⟩ := Builder.ofParts_of_ofPattern hbuilder
    obtain ⟨parts', hparse', hmade'⟩ := Builder.ofParts_of_ofPattern hbuilder'
    have hsame : parts'.flatMap Part.contents = parts.flatMap Part.contents := by
      rw [contents_of_parse hparse hscan, contents_of_parse hparse' hscan']
      exact hcontents
    have hbuild := @build_of_contents options parts parts'
      (fun key hkey => modifier_of_parse hparse hscan hlexemes hkey)
      (fun key hkey => modifier_of_parse hparse' hscan' hlexemes' hkey) hsame params
    rw [← Builder.build_prefixes options prefixes parts,
      ← Builder.build_prefixes options prefixes' parts', hmade, hmade'] at hbuild
    exact Except.ok.inj hbuild

/-- A key between texts, once with the texts beside it and once with groups around them: it is matched
and built in the same way, and so are the patterns that are written with and without braces. -/
theorem grouping_immaterial_braced :
    let options : Options := { anchorStart := false }
    let key : Key := { name := .named "b", before := "-", after := ".", pattern := "\\d+|(?=x)\\w" }
    let parts := [.text "/a", .key key]
    let parts' := [.key { name := .named "", before := "/a", after := "-" },
      .key { key with before := "", after := "" }, .text "."]
    let source := "/a-:b(\\d+|(?=x)\\w)."
    let source' := "\x7b/a-\x7d\x7b:b(\\d+|(?=x)\\w).\x7d"
    (∃ expression expression', compileParts options parts = .ok expression ∧
      compileParts options parts' = .ok expression' ∧
        Matcher.run ⟨expression', capturingKeys parts', options⟩ "/a-12." =
          Matcher.run ⟨expression, capturingKeys parts, options⟩ "/a-12." ∧
        (Builder.ofParts options parts').map (·.build [(.named "b", .int 7)]) =
          (Builder.ofParts options parts).map (·.build [(.named "b", .int 7)])) ∧
    (∃ matcher matcher',
      Matcher.ofPath { options with prefixes := "-" } (.pattern source) = .ok matcher ∧
      Matcher.ofPath { options with prefixes := "" } (.pattern source') = .ok matcher' ∧
        matcher'.run "/a-x." = matcher.run "/a-x.") ∧
    ∃ builder builder', Builder.ofPattern { options with prefixes := "-" } source = .ok builder ∧
      Builder.ofPattern { options with prefixes := "" } source' = .ok builder' ∧
        builder'.build [] = builder.build [] := by
  intro options key parts parts' source source'
  have hok {ε α : Type} {x : Except ε α} (h : x.toOption.isSome = true) : ∃ a, x = .ok a := by
    obtain ⟨a, ha⟩ := Option.isSome_iff_exists.mp h
    exact ⟨a, toOption_eq_some.mp ha⟩
  have hscan : scan source = .ok [⟨.char, 0, "/"⟩, ⟨.char, 1, "a"⟩, ⟨.char, 2, "-"⟩, ⟨.name, 3, "b"⟩,
      ⟨.pattern, 5, "\\d+|(?=x)\\w"⟩, ⟨.char, 18, "."⟩, ⟨.ending, 19, ""⟩] :=
    toOption_eq_some.mp (by decide +kernel)
  have hscan' : scan source' = .ok [⟨.opening, 0, "\x7b"⟩, ⟨.char, 1, "/"⟩, ⟨.char, 2, "a"⟩,
      ⟨.char, 3, "-"⟩, ⟨.closing, 4, "\x7d"⟩, ⟨.opening, 5, "\x7b"⟩, ⟨.name, 6, "b"⟩,
      ⟨.pattern, 8, "\\d+|(?=x)\\w"⟩, ⟨.char, 21, "."⟩, ⟨.closing, 22, "\x7d"⟩, ⟨.ending, 23, ""⟩] :=
    toOption_eq_some.mp (by decide +kernel)
  have hunmarked : Unmarked options parts := by
    simp only [Unmarked, parts, List.mem_cons, reduceCtorEq, Part.key.injEq, List.not_mem_nil,
      or_false, false_or, forall_eq]
    decide +kernel
  have hunmarked' : Unmarked options parts' := by
    simp only [Unmarked, parts', List.mem_cons, reduceCtorEq, Part.key.injEq, List.not_mem_nil,
      or_false, forall_eq_or_imp, forall_eq]
    decide +kernel
  obtain ⟨hparts, hpatterns⟩ := @grouping_immaterial options rfl fun _ => rfl
  obtain ⟨hmatch, hbuild⟩ := hparts parts parts' hunmarked hunmarked' (by decide)
  obtain ⟨hmatch', hbuild'⟩ := hpatterns source source' _ _ "-" "" hscan hscan' (by decide)
    (by decide) (by decide +kernel) (by
      intro name pattern hmark
      obtain ⟨_, rfl⟩ : name = .named "b" ∧ pattern = "\\d+|(?=x)\\w" := by
        simpa [contentsFrom, textContents] using hmark
      exact hok (by decide +kernel))
  obtain ⟨expression, hcompile⟩ := hok (show (compileParts options parts).toOption.isSome by
    decide +kernel)
  obtain ⟨expression', hcompile'⟩ := hok (show (compileParts options parts').toOption.isSome by
    decide +kernel)
  obtain ⟨matcher, hmatcher⟩ := hok (show (Matcher.ofPath { options with prefixes := "-" }
    (.pattern source)).toOption.isSome by decide +kernel)
  obtain ⟨matcher', hmatcher'⟩ := hok (show (Matcher.ofPath { options with prefixes := "" }
    (.pattern source')).toOption.isSome by decide +kernel)
  obtain ⟨builder, hbuilder⟩ := hok (show (Builder.ofPattern { options with prefixes := "-" }
    source).toOption.isSome by decide +kernel)
  obtain ⟨builder', hbuilder'⟩ := hok (show (Builder.ofPattern { options with prefixes := "" }
    source').toOption.isSome by decide +kernel)
  exact ⟨⟨expression, expression', hcompile, hcompile', hmatch _ _ hcompile hcompile' _, hbuild _⟩,
    ⟨matcher, matcher', hmatcher, hmatcher', hmatch' _ _ hmatcher hmatcher' _⟩,
    builder, builder', hbuilder, hbuilder', hbuild' _ _ hbuilder hbuilder' _⟩

end RoutePattern
