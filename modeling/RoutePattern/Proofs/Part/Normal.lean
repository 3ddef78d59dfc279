import RoutePattern.Proofs.Expr.Segment
import RoutePattern.Proofs.Part.Conserved

/-!
# Writing parts as a pattern

Parts are written with every literal character escaped and every key as a group (`spelling`). The
parts in `Normal` form are literal text that is neither empty nor cut in two, and keys that are
`Formed`. `parse_spelling` is the main result: such parts are read back from what is written for
them, whether keys with the standard expression are written with it or without.
-/

namespace RoutePattern

/-! ## Normal forms -/

/-- An expression that some pattern holds between parentheses. -/
def Lexable (pattern : String) : Prop :=
  ∃ source lexemes, scan source = .ok lexemes ∧
    ∃ lexeme ∈ lexemes, lexeme.kind = .pattern ∧ lexeme.value = pattern

/-- What a key has to be like to be read, where `unnamed` keys without a name stand in front of it:
it has a name, or the next number in place of one, or it captures nothing. -/
inductive Key.Formed (standard : String) (unnamed : Nat) : Key → Prop where
  | named {name before after pattern modifier : String} (hne : name ≠ "")
      (hname : ∀ c ∈ name.toList, isNameChar c) (hpattern : pattern = standard ∨ Lexable pattern)
      (hmodifier : IsModifier modifier) :
      Formed standard unnamed ⟨.named name, before, after, pattern, modifier⟩
  | positional {before after pattern modifier : String} (hpattern : Lexable pattern)
      (hmodifier : IsModifier modifier) :
      Formed standard unnamed ⟨.positional unnamed, before, after, pattern, modifier⟩
  | group {before modifier : String} (hmodifier : IsModifier modifier) :
      Formed standard unnamed ⟨.named "", before, "", "", modifier⟩

/-- Whether a key has a number in place of a name. -/
def Key.isUnnamed (key : Key) : Bool :=
  match key.name with
  | .named _ => false
  | .positional _ => true

/-- Parts as they are read from a pattern, where keys without an expression have `standard` and
`unnamed` keys without a name stand in front. Literal text is not empty and does not stand beside
other literal text. -/
inductive Normal (standard : String) : Nat → List Part → Prop where
  | nil {unnamed : Nat} : Normal standard unnamed []
  | text {unnamed : Nat} {text : String} {rest : List Part} (hne : text ≠ "")
      (hnext : ∀ part ∈ rest.head?, part.key? ≠ none) (hrest : Normal standard unnamed rest) :
      Normal standard unnamed (.text text :: rest)
  | key {unnamed : Nat} {key : Key} {rest : List Part} (hkey : key.Formed standard unnamed)
      (hrest : Normal standard (unnamed + key.isUnnamed.toNat) rest) :
      Normal standard unnamed (.key key :: rest)

/-! ## Writing -/

/-- Text with every character escaped. -/
def escaped (text : String) : List Char :=
  text.toList.flatMap fun c => ['\\', c]

/-- The name that a key is written with, if there is one. -/
def Key.writtenName (key : Key) : Option String :=
  match key.name with
  | .named name => if name = "" then none else some name
  | .positional _ => none

/-- The expression that a key is written with, if there is one. A named key that is written briefly
leaves out the standard one. -/
def Key.writtenPattern (standard : String) (brief : Bool) (key : Key) : Option String :=
  if key.pattern = "" ∨ brief ∧ key.writtenName ≠ none ∧ key.pattern = standard then none
  else some key.pattern

/-- A key written as a group. -/
def Key.spelling (standard : String) (brief : Bool) (key : Key) : List Char :=
  '\x7b' :: escaped key.before
    ++ (match key.writtenName with
      | some name => ':' :: name.toList
      | none => [])
    ++ (match key.writtenPattern standard brief with
      | some pattern => '(' :: pattern.toList ++ [')']
      | none => [])
    ++ escaped key.after ++ '\x7d' :: key.modifier.toList

/-- A part written out. -/
def Part.spelling (standard : String) (brief : Bool) : Part → List Char
  | .text literal => escaped literal
  | .key k => k.spelling standard brief

/-- Parts written out one after the other. The part with `n` parts after it is written briefly if
`brief n` says so. -/
def spelling (standard : String) (brief : Nat → Bool) : List Part → List Char
  | [] => []
  | part :: rest => part.spelling standard (brief rest.length) ++ spelling standard brief rest

/-! ## Expressions -/

/-- Which expressions a pattern can hold. -/
theorem lexable_iff {pattern : String} :
    Lexable pattern ↔
      pattern ≠ "" ∧ pattern.toList.head? ≠ some '?' ∧ Balanced pattern.toList := by
  constructor
  · rintro ⟨source, lexemes, hscan, ⟨kind, index, value⟩, hmem, hkind, hvalue⟩
    obtain rfl : kind = .pattern := hkind
    obtain rfl : value = pattern := hvalue
    exact allValued_of_scan hscan _ hmem
  · intro h
    let lexeme : Lexeme := ⟨.pattern, 0, pattern⟩
    have hspelled : Spelled 0 [lexeme] (lexeme.render ++ []) :=
      .cons h (by simp [lexeme]) rfl (by simp [NoNameChar])
        ⟨by simp, by simp, .nil, by simp [Placed], rfl⟩
    refine ⟨String.ofList lexeme.render, _, scan_eq_ok_iff_spelled.mpr ⟨[lexeme], ?_, rfl⟩, lexeme,
      by simp, rfl, rfl⟩
    simpa using hspelled

/-- Which expressions a pattern can hold is found by scanning them. -/
instance (pattern : String) : Decidable (Lexable pattern) :=
  decidable_of_iff
    (pattern ≠ "" ∧ pattern.toList.head? ≠ some '?' ∧
      (groupBody 0 1 (pattern.toList ++ [')'])).toOption = some pattern.toList) <| by
    have hbody : groupBody 0 1 (pattern.toList ++ [')']) = .ok pattern.toList ↔
        Balanced pattern.toList := groupBody_eq_ok_iff.trans (and_iff_left ⟨[], rfl⟩)
    rw [lexable_iff, toOption_eq_some, hbody]

/-- Text that is escaped for an expression has no parentheses that count. -/
theorem Balanced.escapeChars_append (text : List Char) {rest : List Char} (h : Balanced rest) :
    Balanced (escapeChars text ++ rest) := by
  induction text with
  | nil => exact h
  | cons c text ih =>
      rw [escapeChars, List.flatMap_cons, List.append_assoc]
      split
      · exact .escape c ih
      · next hspecial =>
        refine .plain ⟨?_, ?_, ?_⟩ ih <;> rintro rfl <;> exact hspecial (by decide)

/-- A pattern can hold the standard expression, whatever the delimiters are. -/
theorem lexable_defaultPattern (delimiter : String) : Lexable (defaultPattern delimiter) := by
  have htext : (defaultPattern delimiter).toList
      = '[' :: '^' :: (escapeChars delimiter.toList ++ [']', '+', '?']) := by
    simp [defaultPattern, escape]
  have hend : Balanced [']', '+', '?'] :=
    .plain (by decide) (.plain (by decide) (.plain (by decide) .nil))
  refine lexable_iff.mpr ⟨defaultPattern_ne_empty delimiter, by simp [htext], ?_⟩
  rw [htext]
  exact .plain (by decide) (.plain (by decide) (.escapeChars_append _ hend))

/-! ## The lexemes of what is written -/

/-- Lexemes in a row with the offsets that they have after `position` characters. -/
def placeAll : Nat → List Lexeme → List Lexeme
  | _, [] => []
  | position, lexeme :: rest =>
      { lexeme with index := position } :: placeAll (position + lexeme.render.length) rest

theorem placeAll_append (position : Nat) (first second : List Lexeme) :
    placeAll position (first ++ second)
      = placeAll position first ++ placeAll (position + (renderAll first).length) second := by
  induction first generalizing position with
  | nil => simp [placeAll, renderAll]
  | cons lexeme rest ih => simp [placeAll, ih, renderAll_cons, Nat.add_assoc]

/-- A lexeme that can follow any other. -/
def Lexeme.Loose (lexeme : Lexeme) : Prop :=
  lexeme.Valued ∧ lexeme.kind ≠ .ending ∧ lexeme.kind ≠ .char

/-- Lexemes that can follow any other spell what is written for them. -/
theorem spelled_placeAll {lexemes : List Lexeme} (h : ∀ lexeme ∈ lexemes, lexeme.Loose)
    (position : Nat) : Spelled position (placeAll position lexemes) (renderAll lexemes) := by
  induction lexemes generalizing position with
  | nil => exact ⟨by simp [placeAll], by simp [placeAll], .nil, by simp [placeAll, Placed], rfl⟩
  | cons lexeme rest ih =>
      obtain ⟨⟨hvalued, hunended, _⟩, hrest⟩ := List.forall_mem_cons.mp h
      -- Only a name could go on in the next lexeme, and only if this were a plain character.
      have hname : lexeme.kind = .name → NoNameChar (renderAll rest) := fun hname =>
        noNameChar_renderAll hname (fun next hnext => (hrest next hnext).1)
          (fun next hnext => (hrest next hnext).2.1) fun next hnext _ hchar =>
            absurd hchar (hrest next (List.mem_of_mem_head? hnext)).2.2
      exact .cons hvalued hunended rfl hname (ih hrest _)

/-- The lexemes of escaped text. -/
def textLexemes (text : String) : List Lexeme :=
  text.toList.map fun c => ⟨.escapedChar, 0, String.singleton c⟩

/-- The lexeme of a kind with a value, if there is a value. -/
def optionalLexeme (kind : Kind) (value : Option String) : List Lexeme :=
  (value.map (Lexeme.mk kind 0)).toList

/-- The repetition mark that a key is written with, if there is one. -/
def Key.writtenModifier (key : Key) : Option String :=
  if key.modifier = "" then none else some key.modifier

/-- The lexemes of a key that is written as a group. -/
def Key.lexemes (standard : String) (brief : Bool) (key : Key) : List Lexeme :=
  ⟨.opening, 0, "\x7b"⟩ :: textLexemes key.before ++ optionalLexeme .name key.writtenName
    ++ optionalLexeme .pattern (key.writtenPattern standard brief)
    ++ textLexemes key.after
    ++ ⟨.closing, 0, "\x7d"⟩ :: optionalLexeme .modifier key.writtenModifier

/-- The lexemes of a part that is written out. -/
def Part.lexemes (standard : String) (brief : Bool) : Part → List Lexeme
  | .text literal => textLexemes literal
  | .key k => k.lexemes standard brief

/-- The lexemes of parts that are written out. -/
def writtenLexemes (standard : String) (brief : Nat → Bool) : List Part → List Lexeme
  | [] => []
  | part :: rest => part.lexemes standard (brief rest.length) ++ writtenLexemes standard brief rest

theorem renderAll_append (first second : List Lexeme) :
    renderAll (first ++ second) = renderAll first ++ renderAll second :=
  List.flatMap_append

theorem renderAll_textLexemes (text : String) : renderAll (textLexemes text) = escaped text := by
  simp [renderAll, textLexemes, escaped, List.flatMap_map, Lexeme.render]

/-- A key is written as its lexemes say. -/
theorem Key.renderAll_lexemes (standard : String) (brief : Bool) (key : Key) :
    renderAll (key.lexemes standard brief) = key.spelling standard brief := by
  have hmodifier : renderAll (optionalLexeme .modifier key.writtenModifier)
      = key.modifier.toList := by
    by_cases h : key.modifier = "" <;>
      simp [writtenModifier, optionalLexeme, renderAll, Lexeme.render, h]
  have hname : renderAll (optionalLexeme .name key.writtenName)
      = match key.writtenName with
        | some name => ':' :: name.toList
        | none => [] := by
    cases key.writtenName <;> simp [optionalLexeme, renderAll, Lexeme.render]
  have hpattern : renderAll (optionalLexeme .pattern (key.writtenPattern standard brief))
      = match key.writtenPattern standard brief with
        | some pattern => '(' :: pattern.toList ++ [')']
        | none => [] := by
    cases key.writtenPattern standard brief <;> simp [optionalLexeme, renderAll, Lexeme.render]
  rw [lexemes, spelling, ← hname, ← hpattern, ← hmodifier, ← renderAll_textLexemes,
    ← renderAll_textLexemes]
  simp only [List.cons_append, renderAll_cons, renderAll_append, Lexeme.render]
  rfl

/-- Parts are written as their lexemes say. -/
theorem renderAll_writtenLexemes (standard : String) (brief : Nat → Bool) (parts : List Part) :
    renderAll (writtenLexemes standard brief parts) = spelling standard brief parts := by
  induction parts with
  | nil => rfl
  | cons part rest ih =>
      rw [writtenLexemes, renderAll_append, ih, spelling]
      cases part with
      | text text => rw [Part.lexemes, renderAll_textLexemes, Part.spelling]
      | key key => rw [Part.lexemes, key.renderAll_lexemes, Part.spelling]

/-! ## Reading what is written -/

theorem loose_textLexemes (text : String) : ∀ lexeme ∈ textLexemes text, lexeme.Loose := by
  intro lexeme hlexeme
  obtain ⟨c, _, rfl⟩ := List.mem_map.mp hlexeme
  exact ⟨⟨c, by simp⟩, by simp, by simp⟩

/-- An optional lexeme whose value its kind may hold. -/
theorem loose_optionalLexeme {kind : Kind} {value : Option String} (hkind : kind ≠ .ending)
    (hchar : kind ≠ .char) (h : ∀ text ∈ value, (Lexeme.mk kind 0 text).Valued) :
    ∀ lexeme ∈ optionalLexeme kind value, lexeme.Loose := by
  intro lexeme hlexeme
  cases value with
  | none => simp [optionalLexeme] at hlexeme
  | some text =>
      obtain rfl : lexeme = ⟨kind, 0, text⟩ := by simpa [optionalLexeme] using hlexeme
      exact ⟨h text rfl, hkind, hchar⟩

namespace Key.Formed

variable {delimiter : String} {unnamed : Nat} {key : Key}

/-- A formed key is written with a name that can be read. -/
theorem valued_name (h : key.Formed (defaultPattern delimiter) unnamed) :
    ∀ name ∈ key.writtenName, (Lexeme.mk .name 0 name).Valued := by
  intro name hname
  cases h with
  | named hne hchars _ _ =>
      obtain rfl : _ = name := by simpa [writtenName, hne] using hname
      exact ⟨hne, hchars⟩
  | positional _ _ => simp [writtenName] at hname
  | group _ => simp [writtenName] at hname

/-- An expression of a formed key is one that a pattern can hold. -/
theorem lexable_pattern (h : key.Formed (defaultPattern delimiter) unnamed)
    (hne : key.pattern ≠ "") : Lexable key.pattern := by
  cases h with
  | named _ _ hown _ =>
      obtain hown | hown := hown
      · exact hown ▸ lexable_defaultPattern delimiter
      · exact hown
  | positional hown _ => exact hown
  | group _ => simp at hne

/-- A formed key is written with an expression that can be read. -/
theorem valued_pattern (h : key.Formed (defaultPattern delimiter) unnamed) (brief : Bool) :
    ∀ pattern ∈ key.writtenPattern (defaultPattern delimiter) brief,
      (Lexeme.mk .pattern 0 pattern).Valued := by
  intro pattern hpattern
  rw [writtenPattern] at hpattern
  split at hpattern
  · simp at hpattern
  next hwritten =>
  obtain rfl : key.pattern = pattern := by simpa using hpattern
  exact lexable_iff.mp (h.lexable_pattern fun hempty => hwritten (.inl hempty))

/-- A formed key is written with a repetition mark that can be read. -/
theorem valued_modifier (h : key.Formed (defaultPattern delimiter) unnamed) :
    ∀ modifier ∈ key.writtenModifier, (Lexeme.mk .modifier 0 modifier).Valued := by
  intro modifier hwritten
  rw [writtenModifier] at hwritten
  split at hwritten
  · simp at hwritten
  next hne =>
  obtain rfl : key.modifier = modifier := by simpa using hwritten
  have hmodifier : IsModifier key.modifier := by
    cases h <;> assumption
  obtain h | h | h | h := hmodifier
  · exact absurd h hne
  · exact .inr (.inr h)
  · exact .inl h
  · exact .inr (.inl h)

/-- The lexemes of a formed key can follow any others. -/
theorem loose (h : key.Formed (defaultPattern delimiter) unnamed) (brief : Bool) :
    ∀ lexeme ∈ key.lexemes (defaultPattern delimiter) brief, lexeme.Loose := by
  have hopening : Lexeme.Loose ⟨.opening, 0, "\x7b"⟩ := ⟨rfl, by simp, by simp⟩
  have hclosing : Lexeme.Loose ⟨.closing, 0, "\x7d"⟩ := ⟨rfl, by simp, by simp⟩
  have hname := loose_optionalLexeme (by simp) (by simp) h.valued_name
  have hpattern := loose_optionalLexeme (by simp) (by simp) (h.valued_pattern brief)
  have hmodifier := loose_optionalLexeme (by simp) (by simp) h.valued_modifier
  have hbefore := loose_textLexemes key.before
  have hafter := loose_textLexemes key.after
  simp only [Key.lexemes, List.cons_append, List.forall_mem_cons, List.forall_mem_append]
  exact ⟨hopening, ⟨⟨⟨hbefore, hname⟩, hpattern⟩, hafter⟩, hclosing, hmodifier⟩

/-- A formed key is the key of the group that is written for it. -/
theorem groupKey_written {context : ReadContext} (h : key.Formed context.standardPattern unnamed)
    (hstandard : context.standardPattern ≠ "") (brief : Bool) :
    PartReader.groupKey context unnamed key.before key.after key.writtenName
      (key.writtenPattern context.standardPattern brief) key.writtenModifier = key := by
  have hmodifier : key.writtenModifier.getD "" = key.modifier := by
    by_cases h : key.modifier = "" <;> simp [writtenModifier, h]
  rw [PartReader.groupKey, hmodifier]
  cases h with
  | @named name before after pattern modifier hne _ hpattern _ =>
      have hpresent : pattern ≠ "" := by
        obtain rfl | hpattern := hpattern
        · exact hstandard
        · exact (lexable_iff.mp hpattern).1
      by_cases hbrief : brief = true ∧ pattern = context.standardPattern
      · simp [writtenName, writtenPattern, PartReader.isNumbered, hne, hbrief]
      · simp [writtenName, writtenPattern, PartReader.isNumbered, hne, hbrief, hpresent]
  | positional hpattern _ =>
      have hpresent := (lexable_iff.mp hpattern).1
      simp [writtenName, writtenPattern, PartReader.isNumbered, hpresent]
  | group _ => simp [writtenName, writtenPattern, PartReader.isNumbered]

/-- The group that is written for a formed key takes a number if the key has one. -/
theorem isNumbered_written {standard : String} (h : key.Formed standard unnamed) (brief : Bool) :
    PartReader.isNumbered key.writtenName (key.writtenPattern standard brief)
      = key.isUnnamed := by
  cases h with
  | named hne _ _ _ => simp [writtenName, PartReader.isNumbered, Key.isUnnamed, hne]
  | positional hpattern _ =>
      have hpresent := (lexable_iff.mp hpattern).1
      simp [writtenName, writtenPattern, PartReader.isNumbered, Key.isUnnamed, hpresent]
  | group _ => simp [writtenName, writtenPattern, PartReader.isNumbered, Key.isUnnamed]

end Key.Formed

/-- No lexeme of a kind comes next where none is placed. -/
theorem notNext_placeAll {kind : Kind} {lexemes rest : List Lexeme} (position : Nat)
    (h : ∀ lexeme ∈ lexemes, lexeme.kind ≠ kind) (hrest : NotNext kind rest) :
    NotNext kind (placeAll position lexemes ++ rest) := by
  cases lexemes with
  | nil => exact hrest
  | cons lexeme others => simpa [NotNext, placeAll] using h lexeme (by simp)

theorem kind_textLexemes (text : String) :
    ∀ lexeme ∈ textLexemes text, lexeme.kind = .escapedChar := by
  simp [textLexemes]

theorem kind_optionalLexeme (kind : Kind) (value : Option String) :
    ∀ lexeme ∈ optionalLexeme kind value, lexeme.kind = kind := by
  simp [optionalLexeme]

/-- Nothing is taken where another kind comes next. -/
theorem take_of_notNext {kind : Kind} {lexemes : List Lexeme} (h : NotNext kind lexemes) :
    take kind lexemes = (none, lexemes) := by
  obtain ⟨hvalue, hrest⟩ := (taken_take kind lexemes).of_notNext h
  exact Prod.ext hvalue hrest

/-- An optional lexeme is taken with its value. -/
theorem take_optionalLexeme {kind : Kind} (value : Option String) (position : Nat)
    {rest : List Lexeme} (h : NotNext kind rest) :
    take kind (placeAll position (optionalLexeme kind value) ++ rest) = (value, rest) := by
  cases value with
  | none => exact take_of_notNext h
  | some text => simp [optionalLexeme, placeAll, take]

/-- Escaped text is taken whole. -/
theorem takeText_textLexemes (text : String) (position : Nat) {rest : List Lexeme}
    (hchar : NotNext .char rest) (hescaped : NotNext .escapedChar rest) :
    takeText (placeAll position (textLexemes text) ++ rest) = (text, rest) := by
  obtain ⟨text, rfl⟩ : ∃ chars, text = String.ofList chars := ⟨text.toList, by simp⟩
  induction text generalizing position with
  | nil =>
      cases rest with
      | nil => rfl
      | cons lexeme later =>
          have hchar : lexeme.kind ≠ .char := hchar lexeme rfl
          have hescaped : lexeme.kind ≠ .escapedChar := hescaped lexeme rfl
          simp [textLexemes, placeAll, takeText, hchar, hescaped]
  | cons c text ih =>
      simp only [textLexemes, String.toList_ofList] at ih
      simp [textLexemes, placeAll, takeText, ih]

namespace PartReader

variable {context : ReadContext} {reader later : PartReader} {text : String}

/-- Reading goes on from where a step leads. -/
theorem readFrom_of_step {parts : List Part} {rest : String}
    (h : step context reader text = (.ok (parts, rest), later)) :
    (readFrom context reader text).1 = (readFrom context later rest).1.map (parts ++ ·) := by
  have hne : reader.rest ≠ [] := by
    have hlt := step_length_lt h
    exact List.ne_nil_of_length_pos (by omega)
  rw [readFrom, if_neg (by simpa using hne)]
  split
  · next heq => simp [h] at heq
  · next heq =>
    rw [h] at heq
    cases heq
    rfl

/-- Escaped text joins the literal text in front of it. -/
theorem readFrom_textLexemes (text : String) (position : Nat) {rest : List Lexeme} {unnamed : Nat}
    {front : String} :
    (readFrom context ⟨placeAll position (textLexemes text) ++ rest, unnamed, []⟩ front).1
      = (readFrom context ⟨rest, unnamed, []⟩ (front ++ text)).1 := by
  obtain ⟨text, rfl⟩ : ∃ chars, text = String.ofList chars := ⟨text.toList, by simp⟩
  induction text generalizing position front with
  | nil => simp [textLexemes, placeAll]
  | cons c text ih =>
      have hlexemes : textLexemes (String.ofList (c :: text))
          = ⟨.escapedChar, 0, String.singleton c⟩ :: textLexemes (String.ofList text) := by
        simp [textLexemes]
      have hstep : step context
          ⟨placeAll position (textLexemes (String.ofList (c :: text))) ++ rest, unnamed, []⟩ front
          = (.ok ([], front ++ String.singleton c),
            ⟨placeAll (position + 2) (textLexemes (String.ofList text)) ++ rest, unnamed, []⟩) := by
        rw [hlexemes]
        simp [placeAll, step, take, takeCapture, Lexeme.render]
      have hfront : front ++ String.ofList (c :: text)
          = front ++ String.singleton c ++ String.ofList text := by
        rw [String.append_assoc, String.ofList_cons]
      rw [readFrom_of_step hstep, ih, hfront]
      cases (readFrom context ⟨rest, unnamed, []⟩
        (front ++ String.singleton c ++ String.ofList text)).1 <;> rfl

/-- A group is read from literal text, a name, an expression and literal text in a row, whatever
their places are. -/
theorem readGroup_placed {before after : String} {name pattern modifier : Option String}
    (hcapture : name = none → pattern = none → after = "") (first second third fourth fifth : Nat)
    {closing : Lexeme} (hclosing : closing.kind = .closing) {rest : List Lexeme}
    (hrest : NotNext .modifier rest) (unnamed : Nat) (opened : Int) :
    readGroup context
        ⟨placeAll first (textLexemes before)
          ++ (placeAll second (optionalLexeme .name name)
            ++ (placeAll third (optionalLexeme .pattern pattern)
              ++ (placeAll fourth (textLexemes after)
                ++ closing :: (placeAll fifth (optionalLexeme .modifier modifier) ++ rest)))),
          unnamed, []⟩ opened
      = (.ok (groupKey context unnamed before after name pattern modifier),
        ⟨rest, unnamed + (isNumbered name pattern).toNat, []⟩) := by
  -- What is taken ends where the next lexeme of another kind is placed, at the latest at the brace.
  have hend (kind : Kind) (hkind : kind ≠ .closing) :
      NotNext kind (closing :: (placeAll fifth (optionalLexeme .modifier modifier) ++ rest)) := by
    simpa [NotNext, hclosing] using hkind.symm
  have hbehind (kind : Kind) (hkind : kind ≠ .closing) (htext : kind ≠ .escapedChar) :=
    notNext_placeAll fourth
      (fun lexeme hlexeme => kind_textLexemes after lexeme hlexeme ▸ htext.symm) (hend kind hkind)
  have htail (kind : Kind) (hkind : kind ≠ .closing) (htext : kind ≠ .escapedChar)
      (hpattern : kind ≠ .pattern) :=
    notNext_placeAll third
      (fun lexeme hlexeme => kind_optionalLexeme .pattern pattern lexeme hlexeme ▸ hpattern.symm)
      (hbehind kind hkind htext)
  have hescaped : NotNext .escapedChar (placeAll second (optionalLexeme .name name)
      ++ (placeAll third (optionalLexeme .pattern pattern)
        ++ (placeAll fourth (textLexemes after)
          ++ closing :: (placeAll fifth (optionalLexeme .modifier modifier) ++ rest)))) := by
    cases name with
    | some name => simp [NotNext, optionalLexeme, placeAll]
    | none =>
        cases pattern with
        | some pattern => simp [NotNext, optionalLexeme, placeAll]
        | none =>
            -- Here a text behind would be taken with the one in front.
            rw [hcapture rfl rfl]
            exact hend .escapedChar (by simp)
  have hchar := notNext_placeAll second
    (fun lexeme hlexeme => kind_optionalLexeme .name name lexeme hlexeme ▸ by simp)
    (htail .char (by simp) (by simp) (by simp))
  have hclosed : take .closing
      (closing :: (placeAll fifth (optionalLexeme .modifier modifier) ++ rest))
      = (some closing.value, placeAll fifth (optionalLexeme .modifier modifier) ++ rest) := by
    simp [take, hclosing]
  simp only [readGroup, takeText_textLexemes before first hchar hescaped,
    take_optionalLexeme name second (htail .name (by simp) (by simp) (by simp)),
    take_optionalLexeme pattern third (hbehind .pattern (by simp) (by simp)),
    takeText_textLexemes after fourth (hend .char (by simp)) (hend .escapedChar (by simp)),
    hclosed, take_optionalLexeme modifier fifth hrest]
  rfl

/-- A step that begins with an opening brace reads a group. -/
theorem step_of_readGroup {opening : Lexeme} (hkind : opening.kind = .opening) {rest : List Lexeme}
    {unnamed : Nat} {key : Key}
    (h : readGroup context ⟨rest, unnamed, []⟩ opening.index = (.ok key, later)) :
    step context ⟨opening :: rest, unnamed, []⟩ text
      = (.ok (literal text ++ [.key key], ""), later) := by
  simp [step, take, takeCapture, hkind, next, h, Except.map]

/-- A group that is written for a key is read as that key. -/
theorem step_lexemes {key : Key} {unnamed : Nat} (h : key.Formed context.standardPattern unnamed)
    (hstandard : context.standardPattern ≠ "") (brief : Bool) (position : Nat) {rest : List Lexeme}
    (hrest : NotNext .modifier rest) (text : String) :
    step context
        ⟨placeAll position (key.lexemes context.standardPattern brief) ++ rest, unnamed, []⟩ text
      = (.ok (literal text ++ [.key key], ""),
        ⟨rest, unnamed + key.isUnnamed.toNat, []⟩) := by
  have hcapture : key.writtenName = none → key.writtenPattern context.standardPattern brief = none →
      key.after = "" := by
    cases h with
    | named hne _ _ _ => simp [Key.writtenName, hne]
    | positional hpattern _ =>
        simp [Key.writtenName, Key.writtenPattern, (lexable_iff.mp hpattern).1]
    | group _ => simp
  simp only [Key.lexemes, List.cons_append, List.append_assoc, placeAll, placeAll_append]
  refine step_of_readGroup rfl ((readGroup_placed hcapture _ _ _ _ _ rfl hrest unnamed _).trans ?_)
  rw [h.groupKey_written hstandard, h.isNumbered_written]

/-- No repetition mark stands in front of what is written for parts. -/
theorem notNext_writtenLexemes (standard : String) (brief : Nat → Bool) (parts : List Part)
    (position : Nat) {ending : Lexeme} (hending : ending.kind = .ending) :
    NotNext .modifier (placeAll position (writtenLexemes standard brief parts) ++ [ending]) := by
  induction parts generalizing position with
  | nil => simp [writtenLexemes, placeAll, NotNext, hending]
  | cons part rest ih =>
      rw [writtenLexemes, placeAll_append, List.append_assoc]
      cases part with
      | text text =>
          exact notNext_placeAll _
            (fun lexeme hlexeme => kind_textLexemes text lexeme hlexeme ▸ by simp) (ih _)
      | key key => simp [Part.lexemes, Key.lexemes, placeAll, NotNext]

/-- What is written for parts is read as these parts. Literal text in front becomes a part of its
own, so no literal text may follow it. -/
theorem readFrom_writtenLexemes (hstandard : context.standardPattern ≠ "") (brief : Nat → Bool)
    {parts : List Part} {unnamed : Nat} (h : Normal context.standardPattern unnamed parts)
    {front : String} (hfront : front = "" ∨ ∀ part ∈ parts.head?, part.key? ≠ none)
    (position : Nat) {ending : Lexeme} (hending : ending.kind = .ending) :
    (readFrom context
        ⟨placeAll position (writtenLexemes context.standardPattern brief parts) ++ [ending],
          unnamed, []⟩ front).1
      = .ok (literal front ++ parts) := by
  induction h generalizing front position with
  | @nil unnamed =>
      have hstep : step context ⟨[ending], unnamed, []⟩ front
          = (.ok (literal front, ""), ⟨[], unnamed, []⟩) := by
        simp [step, take, takeCapture, hending]
      rw [writtenLexemes, placeAll, List.nil_append, readFrom_of_step hstep]
      simp [readFrom, Except.map]
  | @text unnamed text rest hne hnext _ ih =>
      obtain rfl : front = "" := hfront.resolve_right (by simp [Part.key?])
      rw [writtenLexemes, placeAll_append, List.append_assoc, Part.lexemes, readFrom_textLexemes,
        String.empty_append, ih (.inr hnext)]
      simp [literal, hne]
  | @key unnamed key rest hkey _ ih =>
      rw [writtenLexemes, placeAll_append, List.append_assoc, Part.lexemes]
      have hmark := notNext_writtenLexemes context.standardPattern brief rest
        (position + (renderAll (key.lexemes context.standardPattern (brief rest.length))).length)
        hending
      rw [readFrom_of_step (step_lexemes hkey hstandard _ _ hmark front), ih (.inl rfl)]
      simp [Except.map, literal]

end PartReader

/-! ## Patterns -/

/-- The lexemes that are written for parts can follow any others. -/
theorem Normal.loose {delimiter : String} (brief : Nat → Bool) {parts : List Part} {unnamed : Nat}
    (h : Normal (defaultPattern delimiter) unnamed parts) :
    ∀ lexeme ∈ writtenLexemes (defaultPattern delimiter) brief parts, lexeme.Loose := by
  induction h with
  | nil => simp [writtenLexemes]
  | text _ _ _ ih => exact List.forall_mem_append.mpr ⟨loose_textLexemes _, ih⟩
  | key hkey _ ih => exact List.forall_mem_append.mpr ⟨hkey.loose _, ih⟩

/-- Parts in normal form are read back from what is written for them, under all options and with or
without the standard expressions. -/
theorem parse_spelling (options : Options) (brief : Nat → Bool) {parts : List Part}
    (h : Normal (defaultPattern options.delimiter) 0 parts) :
    parse options (String.ofList (spelling (defaultPattern options.delimiter) brief parts))
      = .ok parts := by
  have hspelled := spelled_placeAll (h.loose brief) 0
  rw [renderAll_writtenLexemes, ← String.toList_ofList (l := spelling _ _ _)] at hspelled
  rw [parse, scan_eq_ok_iff_spelled.mpr ⟨_, hspelled, rfl⟩, mapError_eq_ok]
  exact PartReader.readFrom_writtenLexemes (defaultPattern_ne_empty _) brief h (.inl rfl) 0 rfl

/-- A special character in literal text, a key with the standard expression of an odd delimiter that
is written briefly, one with a name and one with a number in place of it, and a group that captures
nothing. -/
theorem parse_spelling_special :
    let options : Options := { delimiterChars := "(?" }
    let parts : List Part :=
      [.text "(",
        .key { name := .named "id", before := "/", after := "\x7b", pattern := "[^\\(\\?]+?",
               modifier := "?" },
        .key { name := .named "id", pattern := "[^\\(\\?]+?" },
        .key { name := .positional 0, after := "-", pattern := "(?:x)", modifier := "+" },
        .key { name := .named "", before := "*" }]
    let source := "\\(\x7b\\/:id\\\x7b\x7d?\x7b:id([^\\(\\?]+?)\x7d\x7b((?:x))\\-\x7d+\x7b\\*\x7d"
    Normal (defaultPattern options.delimiter) 0 parts ∧ parse options source = .ok parts := by
  intro options parts source
  have hstandard : defaultPattern options.delimiter = "[^\\(\\?]+?" := by decide +kernel
  have hnormal : Normal (defaultPattern options.delimiter) 0 parts := by
    rw [hstandard]
    exact .text (by decide) (by decide)
      (.key (.named (by decide) (List.all_eq_true.mp (by decide)) (.inl rfl) (by decide))
      (.key (.named (by decide) (List.all_eq_true.mp (by decide)) (.inl rfl) (by decide))
      (.key (.positional (by decide +kernel) (by decide))
      (.key (.group (by decide)) .nil))))
  refine ⟨hnormal, ?_⟩
  have hparse := parse_spelling options (fun n => n == 3) hnormal
  rw [hstandard] at hparse
  exact hparse

end RoutePattern
