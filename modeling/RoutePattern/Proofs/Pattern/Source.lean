import Mathlib.Algebra.GroupWithZero.Nat
import RoutePattern.Source
import RoutePattern.Proofs.Expr.Stretch

/-!
# What the expression of a pattern says

`sourceItems` writes down the expressions that the text of a pattern stands for: literal text
character by character, one capture group for each key that captures, and the conditions on the end.
`compileParts_eq` is the main result: if the expressions of the keys and the sets of the options can
be read, compiling the parts gives just these expressions. What rows, groups and repetitions keep
(`Expr.Hereditary`) holds of all of them if it holds of the expressions of the keys.
-/

namespace RoutePattern

open ExprReader

/-- Escaped text as characters. -/
theorem toList_escape (text : String) : (escape text).toList = escapeChars text.toList := by
  simp [escape]

/-- Only the empty text is empty when it is escaped. -/
theorem isEmpty_escape (text : String) : (escape text).isEmpty = text.isEmpty := by
  rw [Bool.eq_iff_iff, String.isEmpty_iff, String.isEmpty_iff, ← String.toList_inj,
    ← String.toList_inj, toList_escape, escapeChars]
  simp only [String.toList_empty, List.flatMap_eq_nil_iff]
  constructor
  · intro h
    cases htext : text.toList with
    | nil => rfl
    | cons c rest =>
        have hc := h c (by simp [htext])
        split at hc <;> simp at hc
  · intro h
    simp [h]

/-- The expressions of a pattern are not limited to ASCII. -/
theorem fold_ne_ascii (options : Options) : options.flags.fold ≠ .ascii := by
  unfold Options.flags Flags.fold
  cases options.sensitive <;> simp

/-- Where case matters, characters compare as they are. -/
theorem fold_of_sensitive {options : Options} (h : options.sensitive = true) :
    options.flags.fold = .keep := by
  simp [Options.flags, Flags.fold, h]

/-- The expressions of encoded literal text. -/
def Options.literal (options : Options) (text : String) : List Expr :=
  literalItems options.flags.fold (options.encode text).toList

/-! ## Keys and parts -/

namespace Key

/-- Whether the group of a key holds all repetitions with what stands between them. -/
def gathers (options : Options) (key : Key) : Bool :=
  key.repeated && !((options.encode key.before).isEmpty && (options.encode key.after).isEmpty)

/-- The text inside the group of a key: its expression, or that expression once and then again
behind the texts between two repetitions. -/
def content (options : Options) (key : Key) : String :=
  if key.gathers options then
    "(?:" ++ key.pattern ++ ")" ++ ("(?:" ++ escape (options.encode key.after)
      ++ escape (options.encode key.before) ++ "(?:" ++ key.pattern ++ "))*")
  else key.pattern

/-- The expressions inside the group of a key. -/
def inner (options : Options) (key : Key) : List Expr :=
  let items := readItems options.flags key.pattern
  if key.gathers options then
    items ++ [.loop .greedy 0 none
      (.ofList (options.literal key.after ++ options.literal key.before ++ items))]
  else items

/-- The number of groups of a key. -/
def groups (key : Key) : Nat :=
  if key.captures then 1 else 0

/-- The group of a key, if it captures. -/
def group (options : Options) (key : Key) (opened : Nat) : List Expr :=
  if key.captures then [.group (opened + 1) (.ofList (key.inner options))] else []

/-- The mark behind a key with its texts. Where the group holds all repetitions, the key as a whole
is only optional. -/
def mark (options : Options) (key : Key) : String :=
  if key.captures && key.gathers options then if key.modifier = "*" then "?" else ""
  else key.modifier

/-- The expressions of a key with its texts. -/
def items (options : Options) (key : Key) (opened : Nat) : List Expr :=
  markItems (key.mark options)
    (options.literal key.before ++ key.group options opened ++ options.literal key.after)

end Key

/-- The expressions of a part. -/
def Part.items (options : Options) (opened : Nat) : Part → List Expr
  | .text literal => options.literal literal
  | .key k => k.items options opened

/-- The number of groups of a part. -/
def Part.groups : Part → Nat
  | .text _ => 0
  | .key k => k.groups

/-- The number of groups of some parts. -/
def partsGroups (parts : List Part) : Nat :=
  (parts.map Part.groups).sum

/-- The expressions of some parts. -/
def partsItems (options : Options) (opened : Nat) : List Part → List Expr
  | [] => []
  | part :: rest => part.items options opened ++ partsItems options (opened + part.groups) rest

/-- The groups of the first part come first. -/
theorem partsGroups_cons (part : Part) (rest : List Part) :
    partsGroups (part :: rest) = part.groups + partsGroups rest := by
  rw [partsGroups, List.map_cons, List.sum_cons, partsGroups]

section Keys

variable {key : Key}

/-- A key that captures has one group. -/
theorem Part.groups_of_captures (h : key.captures = true) : (Part.key key).groups = 1 := by
  rw [Part.groups, Key.groups, if_pos h]

/-- A key that does not capture has no group. -/
theorem Part.groups_of_mute (h : key.captures = false) : (Part.key key).groups = 0 := by
  rw [Part.groups, Key.groups, h]
  rfl

/-- A key that captures comes before those behind it. -/
theorem capturingKeys_cons (h : key.captures = true) (rest : List Part) :
    capturingKeys (.key key :: rest) = key :: capturingKeys rest := by
  simp [capturingKeys, h]

/-- A key that does not capture is passed over. -/
theorem capturingKeys_cons_mute (h : key.captures = false) (rest : List Part) :
    capturingKeys (.key key :: rest) = capturingKeys rest := by
  simp [capturingKeys, h]

end Keys

/-- There are as many groups as keys that capture. -/
theorem partsGroups_eq (parts : List Part) :
    partsGroups parts = (capturingKeys parts).length := by
  induction parts with
  | nil => rfl
  | cons part rest ih =>
      rw [partsGroups_cons, ih]
      cases part with
      | text text => exact Nat.zero_add _
      | key key =>
          cases hcaptures : key.captures with
          | true =>
              rw [Part.groups_of_captures hcaptures, capturingKeys_cons hcaptures, List.length_cons,
                Nat.add_comm]
          | false =>
              rw [Part.groups_of_mute hcaptures, capturingKeys_cons_mute hcaptures, Nat.zero_add]

/-! ## The end of a pattern -/

namespace Options

/-- The test for one of the characters that bound a segment. -/
def delimiterTest (options : Options) : CharTest :=
  (readSet options.flags.fold false options.delimiter.toList).toOption.getD (.any true)

/-- The test for one of the further characters that count as an end. -/
def endTest (options : Options) : CharTest :=
  (readSet options.flags.fold false options.endsWith.toList).toOption.getD (.any true)

/-- The alternatives that count as the end of the text. -/
def endBranches (options : Options) : List (List Expr) :=
  (if options.endsWith.isEmpty then [] else [[.char options.endTest]]) ++ [[.anchor .textEnd]]

/-- A look-ahead for some alternatives. -/
def lookFor (options : Options) (branches : List (List Expr)) : Expr :=
  .ahead true (.ofList (Alternation.ofBranches options.flags.fold branches))

/-- The expressions behind the parts when a match has to reach the end. -/
def closedItems (options : Options) : List Expr :=
  (if options.strict then [] else [.loop .greedy 0 (some 1) (.char options.delimiterTest)])
    ++ (if options.endsWith.isEmpty then [.anchor .textEnd]
      else [options.lookFor options.endBranches])

/-- The expressions behind the parts when a match may end at any delimiter. -/
def openItems (options : Options) (isDelimited : Bool) : List Expr :=
  (if options.strict then []
    else [.loop .greedy 0 (some 1)
      (.ofList [.char options.delimiterTest, options.lookFor options.endBranches])])
    ++ (if isDelimited then []
      else [options.lookFor ([.char options.delimiterTest] :: options.endBranches)])

end Options

/-- The expressions of a pattern. -/
def sourceItems (options : Options) (parts : List Part) (opened : Nat) : List Expr :=
  (if options.anchorStart then [.anchor .textStart] else [])
    ++ partsItems options opened parts
    ++ (if options.anchorEnd then options.closedItems
      else options.openItems (endsDelimited options parts))

/-- Whether the delimiters occur in the expression of a pattern. -/
def usesDelimiter (options : Options) (parts : List Part) : Bool :=
  !options.strict || (!options.anchorEnd && !endsDelimited options parts)

/-- Whether the further ends occur in the expression of a pattern. -/
def usesEndsWith (options : Options) (parts : List Part) : Bool :=
  !options.endsWith.isEmpty && (options.anchorEnd || usesDelimiter options parts)

/-- The expression of a key can be read by itself and may stand inside of groups. -/
def Key.Readable (options : Options) (key : Key) : Prop :=
  IsModifier key.modifier ∧ (key.captures = true → Embeddable options.flags key.pattern)

instance (options : Options) (key : Key) : Decidable (key.Readable options) :=
  inferInstanceAs (Decidable (_ ∧ _))

/-- The expression of a key can be read inside of groups. -/
def Key.Nests (options : Options) (key : Key) : Prop :=
  IsModifier key.modifier ∧ (key.captures = true → Nestable options.flags key.pattern)

/-- What can be read by itself can be read inside of groups. -/
theorem Key.Readable.nests {options : Options} {key : Key} (h : key.Readable options) :
    key.Nests options :=
  ⟨h.1, fun hcaptures => (h.2 hcaptures).nestable⟩

/-- Everything that the expression of a pattern is put together from can be read. -/
structure SourceReadable (options : Options) (parts : List Part) : Prop where
  keys : ∀ key, Part.key key ∈ parts → key.Readable options
  delimiter : usesDelimiter options parts = true →
    ∃ test, readSet options.flags.fold false options.delimiter.toList = .ok test
  endsWith : usesEndsWith options parts = true →
    ∃ test, readSet options.flags.fold false options.endsWith.toList = .ok test

/-! ## Reading the text -/

section Reading

variable {options : Options}

/-- Encoded literal text is a stretch. -/
theorem stretch_literal (options : Options) (text : String) :
    Stretch options.flags (escape (options.encode text)).toList 0 fun _ =>
      options.literal text := by
  rw [toList_escape]
  exact .literal rfl _

/-- The empty text has no expressions. -/
theorem literal_of_isEmpty {text : String} (h : (options.encode text).isEmpty = true) :
    options.literal text = [] := by
  rw [String.isEmpty_iff] at h
  simp [Options.literal, h, literalItems]

/-- The text inside the group of a key that gathers its repetitions is a stretch. -/
theorem Key.gathered_reads {key : Key} (hcaptures : key.captures = true)
    (h : key.Nests options) (hgathers : key.gathers options = true) :
    Stretch options.flags (key.content options).toList 0 fun _ => key.inner options := by
  have honce := (((h.2 hcaptures).content rfl).bare rfl).stretch
  have hagain := (((stretch_literal options key.after).append
    (stretch_literal options key.before)).append honce).content rfl
  have hloop := (hagain.bare rfl).repeated rfl (fun _ => rfl) (.inr (.inl rfl))
  have hall := honce.append hloop.stretch
  simpa [Key.content, Key.inner, hgathers, Term.items, Term.body] using hall

/-- The text inside the group of a key fills it. -/
theorem Key.content_reads {key : Key} (hcaptures : key.captures = true)
    (h : key.Nests options) :
    Content options.flags (key.content options).toList 0 fun _ => key.inner options := by
  cases hgathers : key.gathers options with
  | true => exact (key.gathered_reads hcaptures h hgathers).content rfl
  | false => simpa [Key.content, Key.inner, hgathers] using (h.2 hcaptures).content rfl

/-- The text inside the group of a key does not begin with a question mark. -/
theorem Key.head?_content {key : Key} (hcaptures : key.captures = true)
    (h : key.Nests options) : (key.content options).toList.head? ≠ some '?' := by
  unfold Key.content
  split
  · simp
  · exact (h.2 hcaptures).head?_ne_question rfl

/-- The group of a key that captures is an atom. -/
theorem Key.group_reads {key : Key} (hcaptures : key.captures = true)
    (h : key.Nests options) :
    Atom options.flags ('(' :: (key.content options).toList ++ [')']) 1 fun opened =>
      .item (.group (opened + 1) (.ofList (key.inner options))) :=
  (key.content_reads hcaptures h).capture rfl (key.head?_content hcaptures h)

/-- The mark behind a key is one that a key may carry. -/
theorem Key.isModifier_mark (options : Options) {key : Key} (h : IsModifier key.modifier) :
    IsModifier (key.mark options) := by
  unfold Key.mark
  split
  · split
    · exact .inr (.inl rfl)
    · exact .inl rfl
  · exact h

/-- The text of a key that captures, by its group. -/
theorem Key.source_of_captures {key : Key} (hcaptures : key.captures = true) :
    key.source (escape (options.encode key.before)) (escape (options.encode key.after)) =
      if (options.encode key.before).isEmpty && (options.encode key.after).isEmpty then
        "(" ++ key.content options ++ ")" ++ key.mark options
      else "(?:" ++ escape (options.encode key.before) ++ "(" ++ key.content options ++ ")"
        ++ escape (options.encode key.after) ++ ")" ++ key.mark options := by
  unfold Key.source Key.mark Key.content Key.gathers
  simp only [hcaptures, isEmpty_escape, Bool.not_true, Bool.false_eq_true, ↓reduceIte,
    Bool.true_and]
  cases hempty : (options.encode key.before).isEmpty && (options.encode key.after).isEmpty with
  | true => simp
  | false =>
      cases hrepeated : key.repeated with
      | true =>
          rw [← String.toList_inj]
          simp
      | false => simp

/-- The text of a key stands for its expressions. -/
theorem Key.source_reads {key : Key} (h : key.Nests options) :
    Stretch options.flags (key.source (escape (options.encode key.before))
      (escape (options.encode key.after))).toList key.groups fun opened =>
        key.items options opened := by
  have hbefore := stretch_literal options key.before
  have hafter := stretch_literal options key.after
  cases hcaptures : key.captures with
  | false =>
      have hmark : key.mark options = key.modifier := by simp [Key.mark, hcaptures]
      have hall := (((hbefore.append hafter).content rfl).bare rfl).markedStretch rfl
        (fun _ => rfl) h.1
      simpa [Key.source, hcaptures, Key.groups, Key.items, hmark, Key.group, Term.items] using hall
  | true =>
      have hgroup := key.group_reads hcaptures h
      have hmark := key.isModifier_mark options h.1
      rw [key.source_of_captures hcaptures]
      split
      · next hempty =>
        rw [Bool.and_eq_true] at hempty
        have hall := hgroup.markedStretch rfl (fun _ => rfl) hmark
        simpa [Key.groups, hcaptures, Key.items, Key.group, literal_of_isEmpty hempty.1,
          literal_of_isEmpty hempty.2, Term.items] using hall
      · have hall := ((((hbefore.append hgroup.stretch).append hafter).content rfl).bare
          rfl).markedStretch rfl (fun _ => rfl) hmark
        simpa [Key.groups, hcaptures, Key.items, Key.group, Term.items] using hall

/-- The text of a part stands for its expressions. -/
theorem Part.source_reads {part : Part} (h : ∀ key, part = .key key → key.Nests options) :
    Stretch options.flags (part.source options).toList part.groups fun opened =>
      part.items options opened := by
  cases part with
  | text literal => exact stretch_literal options literal
  | key k => exact k.source_reads (h k rfl)

/-- The text of some parts stands for their expressions. -/
theorem joinedSource_reads {parts : List Part}
    (h : ∀ key, Part.key key ∈ parts → key.Nests options) :
    Stretch options.flags (String.join (parts.map (Part.source options))).toList
      (partsGroups parts) fun opened => partsItems options opened parts := by
  induction parts with
  | nil => exact .nil
  | cons part rest ih =>
      have hpart : ∀ key, part = .key key → key.Nests options :=
        fun key hkey => h key (by simp [hkey])
      have hall := (Part.source_reads hpart).append (ih fun key hkey => h key (by simp [hkey]))
      simpa [partsGroups, partsItems] using hall

/-- A set that can be read is an atom. -/
theorem oneOf_reads {chars : String} (hchars : chars.isEmpty = false)
    (h : ∃ test, readSet options.flags.fold false chars.toList = .ok test) :
    Atom options.flags (oneOf chars).toList 0 fun _ => .item (.char
      ((readSet options.flags.fold false chars.toList).toOption.getD (.any true))) := by
  obtain ⟨test, htest⟩ := h
  have hne : chars.toList ≠ [] := by
    intro hnil
    rw [String.toList_eq_nil_iff] at hnil
    simp [hnil] at hchars
  have hset := @Atom.set options.flags rfl false _ hne _ htest
  simpa [oneOf, toList_escape, setText, htest, Except.toOption] using hset

/-- There is always a character that bounds a segment. -/
theorem Options.isEmpty_delimiter (options : Options) : options.delimiter.isEmpty = false := by
  unfold Options.delimiter
  split
  · rfl
  · next h => simpa using h

/-- The text for the end stands for the alternatives that count as the end. -/
theorem endSource_reads (h : options.endsWith.isEmpty = false →
      ∃ test, readSet options.flags.fold false options.endsWith.toList = .ok test) :
    Choice options.flags options.endSource.toList 0 fun _ => options.endBranches := by
  have hend : Stretch options.flags ['\\', 'Z'] 0 fun _ => [.anchor .textEnd] :=
    Atom.textEnd.stretch
  unfold Options.endSource Options.endBranches
  cases hempty : options.endsWith.isEmpty with
  | true => simpa using hend.choice
  | false =>
      have hset := (oneOf_reads hempty (h hempty)).stretch
      simpa [Options.endTest, Term.items] using hset.orElse rfl hend.choice

/-- A look-ahead is a stretch. -/
theorem lookFor_reads {text : List Char} {branches : List (List Expr)}
    (h : Choice options.flags text 0 fun _ => branches) :
    Stretch options.flags ("(?=".toList ++ text ++ [')']) 0 fun _ => [options.lookFor branches] :=
  ((h.content rfl).ahead rfl).stretch

/-- An optional delimiter is a stretch. -/
theorem closedDelimiter_reads (h : options.strict = false →
      ∃ test, readSet options.flags.fold false options.delimiter.toList = .ok test) :
    Stretch options.flags (if options.strict then "" else oneOf options.delimiter ++ "?").toList 0
      fun _ => if options.strict then []
        else [.loop .greedy 0 (some 1) (.char options.delimiterTest)] := by
  cases hstrict : options.strict with
  | true => exact .nil
  | false =>
      have hset := (oneOf_reads options.isEmpty_delimiter (h hstrict)).repeated rfl
        (fun _ => rfl) (.inl rfl)
      simpa [Options.delimiterTest, Term.items, Term.body] using hset.stretch

/-- The text behind the parts stands for its expressions when a match has to reach the end. -/
theorem closedEnd_reads (hdelimiter : options.strict = false →
      ∃ test, readSet options.flags.fold false options.delimiter.toList = .ok test)
    (hends : options.endsWith.isEmpty = false →
      ∃ test, readSet options.flags.fold false options.endsWith.toList = .ok test) :
    Stretch options.flags options.closedEnd.toList 0 fun _ => options.closedItems := by
  have hsecond : Stretch options.flags (if options.endsWith.isEmpty then "\\Z"
      else "(?=" ++ options.endSource ++ ")").toList 0 fun _ =>
        if options.endsWith.isEmpty then [.anchor .textEnd]
        else [options.lookFor options.endBranches] := by
    cases hempty : options.endsWith.isEmpty with
    | true =>
        have hend : Stretch options.flags ['\\', 'Z'] 0 fun _ => [.anchor .textEnd] :=
          Atom.textEnd.stretch
        simpa using hend
    | false =>
        have hlook := lookFor_reads (endSource_reads hends)
        simpa using hlook
  have hall := (closedDelimiter_reads hdelimiter).append hsecond
  unfold Options.closedEnd Options.closedItems
  simpa using hall

/-- An optional delimiter in front of an end is a stretch. -/
theorem openDelimiter_reads (hdelimiter : options.strict = false →
      ∃ test, readSet options.flags.fold false options.delimiter.toList = .ok test)
    (hends : options.strict = false → options.endsWith.isEmpty = false →
      ∃ test, readSet options.flags.fold false options.endsWith.toList = .ok test) :
    Stretch options.flags (if options.strict then "" else "(?:" ++ oneOf options.delimiter ++ "(?="
      ++ options.endSource ++ "))?").toList 0 fun _ =>
        if options.strict then [] else [.loop .greedy 0 (some 1)
          (.ofList [.char options.delimiterTest, options.lookFor options.endBranches])] := by
  cases hstrict : options.strict with
  | true => exact .nil
  | false =>
      have hset := (oneOf_reads options.isEmpty_delimiter (hdelimiter hstrict)).stretch
      have hlook := lookFor_reads (endSource_reads (hends hstrict))
      have hloop := (((hset.append hlook).content rfl).bare rfl).repeated rfl (fun _ => rfl)
        (.inl rfl)
      simpa [Options.delimiterTest, Term.items, Term.body] using hloop.stretch

/-- The text behind the parts stands for its expressions when a match may end at any delimiter. -/
theorem openEnd_reads {isDelimited : Bool}
    (hdelimiter : options.strict = false ∨ isDelimited = false →
      ∃ test, readSet options.flags.fold false options.delimiter.toList = .ok test)
    (hends : options.strict = false ∨ isDelimited = false → options.endsWith.isEmpty = false →
      ∃ test, readSet options.flags.fold false options.endsWith.toList = .ok test) :
    Stretch options.flags (options.openEnd isDelimited).toList 0 fun _ =>
      options.openItems isDelimited := by
  have hfirst := openDelimiter_reads (fun hstrict => hdelimiter (.inl hstrict))
    (fun hstrict => hends (.inl hstrict))
  have hsecond : Stretch options.flags (if isDelimited then ""
      else "(?=" ++ oneOf options.delimiter ++ "|" ++ options.endSource ++ ")").toList 0 fun _ =>
        if isDelimited then []
        else [options.lookFor ([.char options.delimiterTest] :: options.endBranches)] := by
    cases hdelimited : isDelimited with
    | true => exact .nil
    | false =>
        have hset := (oneOf_reads options.isEmpty_delimiter (hdelimiter (.inr hdelimited))).stretch
        have hlook := lookFor_reads (hset.orElse rfl (endSource_reads (hends (.inr hdelimited))))
        simpa [Options.delimiterTest, Term.items] using hlook
  have hall := hfirst.append hsecond
  unfold Options.openEnd Options.openItems
  simpa using hall

/-- The beginning of a pattern is a stretch. -/
theorem anchorStart_reads (options : Options) :
    Stretch options.flags (if options.anchorStart then "^" else "").toList 0 fun _ =>
      if options.anchorStart then [.anchor .textStart] else [] := by
  cases options.anchorStart with
  | true => exact (Atom.textStart rfl rfl).stretch
  | false => exact .nil

/-- The text of a pattern stands for its expressions. -/
theorem partsSource_reads {parts : List Part}
    (hkeys : ∀ key, Part.key key ∈ parts → key.Nests options)
    (hdelimiter : usesDelimiter options parts = true →
      ∃ test, readSet options.flags.fold false options.delimiter.toList = .ok test)
    (hends : usesEndsWith options parts = true →
      ∃ test, readSet options.flags.fold false options.endsWith.toList = .ok test) :
    Stretch options.flags (partsSource options parts).toList (partsGroups parts) fun opened =>
      sourceItems options parts opened := by
  have hend : Stretch options.flags (if options.anchorEnd then options.closedEnd
      else options.openEnd (endsDelimited options parts)).toList 0 fun _ =>
        if options.anchorEnd then options.closedItems
        else options.openItems (endsDelimited options parts) := by
    unfold usesEndsWith at hends
    unfold usesDelimiter at hdelimiter hends
    cases hanchor : options.anchorEnd with
    | true =>
        exact closedEnd_reads (fun hstrict => hdelimiter (by simp [hstrict]))
          (fun hempty => hends (by simp [hempty, hanchor]))
    | false =>
        have huses (hneeded : options.strict = false ∨ endsDelimited options parts = false) :
            (!options.strict || (!options.anchorEnd && !endsDelimited options parts)) = true := by
          rcases hneeded with h | h <;> simp [h, hanchor]
        exact openEnd_reads (fun hneeded => hdelimiter (huses hneeded))
          (fun hneeded hempty => hends (by simp [hempty, huses hneeded]))
  have hall := ((anchorStart_reads options).append (joinedSource_reads hkeys)).append hend
  unfold partsSource sourceItems
  simpa using hall

/-- The text of a readable pattern stands for its expressions. -/
theorem SourceReadable.reads {parts : List Part} (h : SourceReadable options parts) :
    Stretch options.flags (partsSource options parts).toList (partsGroups parts) fun opened =>
      sourceItems options parts opened :=
  partsSource_reads (fun key hkey => (h.keys key hkey).nests) h.delimiter h.endsWith

/-- With the standard delimiters and no further ends, a pattern can be read if its keys can be. -/
theorem sourceReadable_of_segments {parts : List Part} (hends : options.endsWith = "")
    (hdelimiter : options.delimiter = standardDelimiter)
    (hreadable : ∀ key, Part.key key ∈ parts → key.Readable options) :
    SourceReadable options parts where
  keys := hreadable
  delimiter _ := by
    rw [hdelimiter]
    unfold Options.flags Flags.fold
    cases options.sensitive
    · exact ⟨.set [.code 47, .code 35, .code 63] false .unicode, rfl⟩
    · exact ⟨.set [.code 47, .code 35, .code 63] false .keep, rfl⟩
  endsWith h := by simp [usesEndsWith, hends] at h

/-! ## Properties of the parts of an expression -/

/-- The set of the characters that bound a segment is not limited to ASCII. -/
theorem isBroad_delimiterTest (options : Options) : options.delimiterTest.isBroad = true := by
  unfold Options.delimiterTest
  cases hset : readSet options.flags.fold false options.delimiter.toList with
  | error fault => rfl
  | ok test => exact isBroad_of_readSet (fold_ne_ascii options) hset

/-- The set of the further characters that count as an end is not limited to ASCII. -/
theorem isBroad_endTest (options : Options) : options.endTest.isBroad = true := by
  unfold Options.endTest
  cases hset : readSet options.flags.fold false options.endsWith.toList with
  | error fault => rfl
  | ok test => exact isBroad_of_readSet (fold_ne_ascii options) hset

/-- A property of expressions that is kept where parts put expressions together. -/
structure Expr.Composable (P : Expr → Prop) : Prop where
  row : ∀ {items}, (∀ e ∈ items, P e) → P (.ofList items)
  char : ∀ {test}, test.isBroad = true → P (.char test)
  group : ∀ number {body}, P body → P (.group (number + 1) body)
  loop : ∀ least most {body}, P body → P (.loop .greedy least most body)

/-- A property of expressions that is kept where patterns put expressions together. -/
structure Expr.Hereditary (P : Expr → Prop) : Prop extends Composable P where
  anchor : ∀ place, P (.anchor place)
  ahead : ∀ {body}, P body → P (.ahead true body)
  branches : ∀ {fold}, fold ≠ .ascii → ∀ {branches}, (∀ branch ∈ branches, ∀ e ∈ branch, P e) →
    ∀ e ∈ Alternation.ofBranches fold branches, P e

namespace Expr.Composable

variable {P : Expr → Prop} {parts : List Part}

/-- Literal text has such a property. -/
theorem literal (h : Composable P) (text : String) : ∀ e ∈ options.literal text, P e := by
  simp only [Options.literal, literalItems, List.mem_map]
  rintro e ⟨c, _, rfl⟩
  exact h.char rfl

/-- Expressions with a mark behind them keep such a property. -/
theorem markItems (h : Composable P) {modifier : String} {items : List Expr}
    (hitems : ∀ e ∈ items, P e) : ∀ e ∈ markItems modifier items, P e := by
  have hrow := h.row hitems
  unfold RoutePattern.markItems
  split
  · simpa using h.loop 0 (some 1) hrow
  split
  · simpa using h.loop 0 none hrow
  split
  · simpa using h.loop 1 none hrow
  · exact hitems

/-- What is inside the group of a key has such a property if the expression of the key does. -/
theorem inner (h : Composable P) {key : Key}
    (hkey : ∀ e ∈ readItems options.flags key.pattern, P e) : ∀ e ∈ key.inner options, P e := by
  unfold Key.inner
  split
  · have hagain : ∀ e ∈ options.literal key.after ++ options.literal key.before ++
        readItems options.flags key.pattern, P e := by
      simp only [List.forall_mem_append]
      exact ⟨⟨h.literal _, h.literal _⟩, hkey⟩
    rw [List.forall_mem_append]
    exact ⟨hkey, by simpa using h.loop 0 none (h.row hagain)⟩
  · exact hkey

/-- A key has such a property if its expression does. -/
theorem key (h : Composable P) {key : Key}
    (hkey : key.captures = true → ∀ e ∈ readItems options.flags key.pattern, P e)
    (opened : Nat) : ∀ e ∈ key.items options opened, P e := by
  refine h.markItems ?_
  simp only [List.forall_mem_append]
  refine ⟨⟨h.literal _, ?_⟩, h.literal _⟩
  unfold Key.group
  split
  · next hcaptures => simpa using h.group opened (h.row (h.inner (hkey hcaptures)))
  · simp

/-- Parts have such a property if the expressions of their keys do. -/
theorem partsItems (h : Composable P) (hkeys : ∀ key, Part.key key ∈ parts →
      key.captures = true → ∀ e ∈ readItems options.flags key.pattern, P e) (opened : Nat) :
    ∀ e ∈ partsItems options opened parts, P e := by
  induction parts generalizing opened with
  | nil => simp [RoutePattern.partsItems]
  | cons part rest ih =>
      rw [RoutePattern.partsItems, List.forall_mem_append]
      refine ⟨?_, ih (fun key hkey => hkeys key (by simp [hkey])) _⟩
      cases part with
      | text literal => exact h.literal literal
      | key k => exact h.key (hkeys k (by simp)) opened

end Expr.Composable

namespace Expr.Hereditary

variable {P : Expr → Prop} {parts : List Part}

/-- The beginning of a pattern has such a property. -/
theorem beginning (h : Hereditary P) :
    ∀ e ∈ (if options.anchorStart then [Expr.anchor .textStart] else []), P e := by
  split <;> simp [h.anchor]

/-- The end of a pattern has such a property. -/
theorem ending (h : Hereditary P) :
    ∀ e ∈ (if options.anchorEnd then options.closedItems
      else options.openItems (endsDelimited options parts)), P e := by
  have htest := h.char (isBroad_delimiterTest options)
  have hends : ∀ branch ∈ options.endBranches, ∀ e ∈ branch, P e := by
    unfold Options.endBranches
    split <;> simp [h.char (isBroad_endTest options), h.anchor]
  have hlook {branches : List (List Expr)} (hbranches : ∀ branch ∈ branches, ∀ e ∈ branch, P e) :
      P (options.lookFor branches) :=
    h.ahead (h.row (h.branches (fold_ne_ascii options) hbranches))
  have hdelimiter : ∀ branch ∈ [.char options.delimiterTest] :: options.endBranches,
      ∀ e ∈ branch, P e :=
    List.forall_mem_cons.mpr ⟨by simp [htest], hends⟩
  have hpair : P (.ofList [.char options.delimiterTest, options.lookFor options.endBranches]) :=
    h.row (by simp [htest, hlook hends])
  split
  · unfold Options.closedItems
    rw [List.forall_mem_append]
    constructor
    · split
      · simp
      · simpa using h.loop 0 (some 1) htest
    · split
      · simp [h.anchor]
      · simpa using hlook hends
  · unfold Options.openItems
    rw [List.forall_mem_append]
    constructor
    · split
      · simp
      · simpa using h.loop 0 (some 1) hpair
    · split
      · simp
      · simpa using hlook hdelimiter

/-- A pattern has such a property if the expressions of its keys do. -/
theorem sourceItems (h : Hereditary P) (hkeys : ∀ key, Part.key key ∈ parts →
      key.captures = true → ∀ e ∈ readItems options.flags key.pattern, P e) (opened : Nat) :
    ∀ e ∈ sourceItems options parts opened, P e := by
  unfold RoutePattern.sourceItems
  rw [List.forall_mem_append, List.forall_mem_append]
  exact ⟨⟨h.beginning, h.partsItems hkeys opened⟩, h.ending⟩

end Expr.Hereditary

/-! ## What the expressions ask for -/

/-- That what an expression asks for can be met is kept. -/
theorem hereditary_granted : Expr.Hereditary (Expr.Granted false) where
  row := granted_ofList.mpr
  char _ := .char false _
  anchor := .anchor false
  group number _ h := h.group (number + 1)
  loop least most _ h := h.loop .greedy least most
  ahead h := h.ahead true
  branches _ _ h := Alternation.granted_ofBranches _ h

/-- What is inside the group of a key asks for what its expression asks for. -/
theorem Key.granted_inner {key : Key} (hcaptures : key.captures = true)
    (h : key.Readable options) : ∀ e ∈ key.inner options, e.Granted false :=
  hereditary_granted.inner (h.2 hcaptures).granted

/-- The text inside the group of a key can be read by itself. -/
theorem Key.read_content {key : Key} (hcaptures : key.captures = true)
    (h : key.Readable options) : Expression.read (key.content options) options.flags =
      .ok ⟨key.content options, options.flags, .ofList (key.inner options), 0⟩ := by
  cases hgathers : key.gathers options with
  | true =>
      exact (key.gathered_reads hcaptures h.nests hgathers).read (key.granted_inner hcaptures h)
  | false => simpa [Key.content, Key.inner, hgathers] using (h.2 hcaptures).read_eq

/-- What the expression of a pattern asks for can be met. -/
theorem granted_sourceItems {parts : List Part}
    (h : ∀ key, Part.key key ∈ parts → key.Readable options) (opened : Nat) :
    ∀ e ∈ sourceItems options parts opened, e.Granted false :=
  hereditary_granted.sourceItems (fun key hkey hcaptures => ((h key hkey).2 hcaptures).granted)
    opened

/-- Expressions ask for no more than what a mark makes of them. -/
theorem granted_of_markItems {modifier : String} {items : List Expr}
    (h : ∀ e ∈ markItems modifier items, e.Granted false) : ∀ e ∈ items, e.Granted false := by
  unfold markItems at h
  split at h
  · exact granted_ofList.mp (h _ List.mem_cons_self).of_loop
  split at h
  · exact granted_ofList.mp (h _ List.mem_cons_self).of_loop
  split at h
  · exact granted_ofList.mp (h _ List.mem_cons_self).of_loop
  · exact h

/-- The expression of a key asks for no more than the key with its texts. -/
theorem Key.granted_of_items {key : Key} (hcaptures : key.captures = true) {opened : Nat}
    (h : ∀ e ∈ key.items options opened, e.Granted false) :
    ∀ e ∈ readItems options.flags key.pattern, e.Granted false := by
  have hgroup := granted_of_markItems h
  simp only [Key.group, hcaptures, ↓reduceIte, List.forall_mem_append] at hgroup
  have hinner := granted_ofList.mp (hgroup.1.2 _ List.mem_cons_self).of_group
  unfold Key.inner at hinner
  split at hinner
  · exact (List.forall_mem_append.mp hinner).1
  · exact hinner

/-- The expression of a key asks for no more than the parts that the key is one of. -/
theorem granted_of_partsItems {parts : List Part} {opened : Nat}
    (h : ∀ e ∈ partsItems options opened parts, e.Granted false) {key : Key}
    (hkey : Part.key key ∈ parts) (hcaptures : key.captures = true) :
    ∀ e ∈ readItems options.flags key.pattern, e.Granted false := by
  induction parts generalizing opened with
  | nil => simp at hkey
  | cons part rest ih =>
      obtain ⟨hpart, hrest⟩ := List.forall_mem_append.mp h
      rcases List.mem_cons.mp hkey with rfl | hmem
      · exact key.granted_of_items hcaptures hpart
      · exact ih hrest hmem

/-- Compiling parts gives the expressions that are written for them. -/
theorem compileParts_eq {parts : List Part} (h : SourceReadable options parts) :
    compileParts options parts = .ok ⟨partsSource options parts, options.flags,
      .ofList (sourceItems options parts 0), partsGroups parts⟩ :=
  h.reads.read (granted_sourceItems h.keys 0)

end Reading

end RoutePattern
