import RoutePattern.Proofs.Part.Verdict

/-!
# What reading keeps

`parse_conserves` is the main result: the parts of a pattern say what its lexemes say, in the same
order, literal text is neither empty nor cut in two, and `KeysOf` says which lexemes each key is made
of. `Ingredient` is what both have in common.
-/

namespace RoutePattern

/-- What a pattern is made of: characters, and places for the values of parameters. -/
inductive Ingredient where
  | char (c : Char)
  | mark (name : KeyName) (pattern : String)
deriving DecidableEq, Repr

/-- The characters of a text. -/
def textContents (text : String) : List Ingredient :=
  text.toList.map .char

/-- What a key is made of. -/
def Key.contents (key : Key) : List Ingredient :=
  textContents key.before ++ (if key.captures then [.mark key.name key.pattern] else [])
    ++ textContents key.after

@[simp]
theorem textContents_empty : textContents "" = [] :=
  rfl

@[simp]
theorem textContents_append (first second : String) :
    textContents (first ++ second) = textContents first ++ textContents second := by
  simp [textContents]

/-- What a part is made of. -/
def Part.contents : Part → List Ingredient
  | .text literal => textContents literal
  | .key k => k.contents

/-- What some lexemes are made of, after `unnamed` expressions without a name. A name that no
expression follows stands for `standard`. -/
def contentsFrom (standard : String) : Nat → List Lexeme → List Ingredient
  | _, [] => []
  | unnamed, ⟨.name, _, name⟩ :: ⟨.pattern, _, pattern⟩ :: rest =>
      .mark (.named name) pattern :: contentsFrom standard unnamed rest
  | unnamed, ⟨.name, _, name⟩ :: rest =>
      .mark (.named name) standard :: contentsFrom standard unnamed rest
  | unnamed, ⟨.pattern, _, pattern⟩ :: rest =>
      .mark (.positional unnamed) pattern :: contentsFrom standard (unnamed + 1) rest
  | unnamed, ⟨.char, _, value⟩ :: rest | unnamed, ⟨.escapedChar, _, value⟩ :: rest =>
      textContents value ++ contentsFrom standard unnamed rest
  | unnamed, _ :: rest => contentsFrom standard unnamed rest

/-- The lexeme in front of a key is a character that goes with it. -/
def StandsBefore (prefixes : String) (previous : Option Lexeme) : Prop :=
  ∃ lexeme ∈ previous, lexeme.kind = .char ∧ ∃ c ∈ prefixes.toList, lexeme.value.toList = [c]

/-- The keys that some lexemes stand for, one for each capture outside of groups and one for each
group. `previous` is the lexeme in front. -/
inductive KeysOf (prefixes : String) : Option Lexeme → List Lexeme → List Key → Prop where
  | nil {previous : Option Lexeme} : KeysOf prefixes previous [] []
  | plain {previous : Option Lexeme} {lexeme : Lexeme} {rest : List Lexeme} {keys : List Key}
      (h : lexeme.kind.IsText ∨ lexeme.kind = .ending)
      (hrest : KeysOf prefixes (some lexeme) rest keys) :
      KeysOf prefixes previous (lexeme :: rest) keys
  | capture {previous : Option Lexeme} {lexemes front afterName afterPattern rest : List Lexeme}
      {name pattern modifier : Option String} {key : Key} {keys : List Key}
      (hfront : lexemes = front ++ rest) (hname : Taken .name lexemes name afterName)
      (hpattern : Taken .pattern afterName pattern afterPattern)
      (hsome : name ≠ none ∨ pattern ≠ none)
      (hmodifier : Taken .modifier afterPattern modifier rest)
      (hbefore : key.before ≠ "" ↔ StandsBefore prefixes previous)
      (hvalue : ∀ lexeme ∈ previous, key.before ≠ "" → key.before = lexeme.value)
      (hcaptures : key.captures = true) (hafter : key.after = "")
      (hmark : key.modifier = modifier.getD "")
      (hrest : KeysOf prefixes front.getLast? rest keys) :
      KeysOf prefixes previous lexemes (key :: keys)
  | group {previous : Option Lexeme} {opening closing : Lexeme}
      {lexemes front afterBefore afterName afterPattern afterClosing rest : List Lexeme}
      {name pattern modifier : Option String} {key : Key} {keys : List Key}
      (hfront : lexemes = front ++ rest) (hopening : opening.kind = .opening)
      (hbefore : TextTaken lexemes key.before afterBefore)
      (hname : Taken .name afterBefore name afterName)
      (hpattern : Taken .pattern afterName pattern afterPattern)
      (hafter : TextTaken afterPattern key.after (closing :: afterClosing))
      (hclosing : closing.kind = .closing)
      (hmodifier : Taken .modifier afterClosing modifier rest)
      (hcaptures : key.captures = true ↔ name ≠ none ∨ pattern ≠ none)
      (hmark : key.modifier = modifier.getD "")
      (hrest : KeysOf prefixes front.getLast? rest keys) :
      KeysOf prefixes previous (opening :: lexemes) (key :: keys)

/-- A mark of repetition that is taken is among the lexemes. -/
theorem Taken.modifier_eq {lexemes rest : List Lexeme} {modifier : Option String}
    (h : Taken .modifier lexemes modifier rest)
    (hlexemes : ∀ lexeme ∈ lexemes, lexeme.kind ≠ .modifier) : modifier.getD "" = "" := by
  cases h with
  | absent _ => rfl
  | present hkind => exact absurd hkind (hlexemes _ (by simp))

/-- Without marks of repetition among the lexemes, no key has one. -/
theorem KeysOf.modifier_eq {prefixes : String} {previous : Option Lexeme} {lexemes : List Lexeme}
    {keys : List Key} (h : KeysOf prefixes previous lexemes keys)
    (hlexemes : ∀ lexeme ∈ lexemes, lexeme.kind ≠ .modifier) :
    ∀ key ∈ keys, key.modifier = "" := by
  induction h with
  | nil => simp
  | plain _ _ ih => exact ih fun lexeme hlexeme => hlexemes lexeme (by simp [hlexeme])
  | capture hfront hname hpattern _ hmodifier _ _ _ _ hmark _ ih =>
      obtain ⟨first, hfirst, _⟩ := hname.front
      obtain ⟨second, hsecond, _⟩ := hpattern.front
      refine List.forall_mem_cons.mpr ⟨?_, ih fun lexeme hlexeme => hlexemes lexeme ?_⟩
      · rw [hmark]
        exact hmodifier.modifier_eq fun lexeme hlexeme => hlexemes lexeme (by
          simp [hfirst, hsecond, hlexeme])
      · simp [hfront, hlexeme]
  | group hfront _ hbefore hname hpattern hafter _ hmodifier _ hmark _ ih =>
      obtain ⟨first, hfirst⟩ := hbefore.front
      obtain ⟨second, hsecond, _⟩ := hname.front
      obtain ⟨third, hthird, _⟩ := hpattern.front
      obtain ⟨fourth, hfourth⟩ := hafter.front
      refine List.forall_mem_cons.mpr ⟨?_, ih fun lexeme hlexeme => hlexemes lexeme ?_⟩
      · rw [hmark]
        exact hmodifier.modifier_eq fun lexeme hlexeme => hlexemes lexeme (by
          simp [hfirst, hsecond, hthird, hfourth, hlexeme])
      · simp [hfront, hlexeme]

/-- The key that a part is. -/
def Part.key? : Part → Option Key
  | .text _ => none
  | .key k => some k

/-- Literal text that is there and does not stand beside other literal text. -/
structure Stretches (parts : List Part) : Prop where
  nonempty : ∀ text, .text text ∈ parts → text ≠ ""
  apart : parts.IsChain fun first second => first.key? ≠ none ∨ second.key? ≠ none

/-- Two stretches of parts of which the first ends with a key or the second begins with one. -/
theorem Stretches.append {first second : List Part} (h : Stretches first) (h' : Stretches second)
    (hborder : (∀ part ∈ first.getLast?, part.key? ≠ none) ∨
      ∀ part ∈ second.head?, part.key? ≠ none) : Stretches (first ++ second) where
  nonempty text htext := by
    rcases List.mem_append.mp htext with htext | htext
    · exact h.nonempty text htext
    · exact h'.nonempty text htext
  apart := List.isChain_append.mpr ⟨h.apart, h'.apart, fun part hpart other hother =>
    hborder.imp (fun hlast => hlast part hpart) fun hhead => hhead other hother⟩

/-! ## What is taken -/

section Taking

variable {standard : String} {unnamed : Nat} {lexemes rest : List Lexeme}

/-- What a literal character is made of. -/
theorem contentsFrom_text {lexeme : Lexeme} (h : lexeme.kind.IsText) :
    contentsFrom standard unnamed (lexeme :: rest)
      = textContents lexeme.value ++ contentsFrom standard unnamed rest := by
  obtain ⟨kind, index, value⟩ := lexeme
  obtain rfl | rfl := h <;> simp [contentsFrom]

/-- What literal text is made of. -/
theorem TextTaken.contents {text : String} (h : TextTaken lexemes text rest) :
    contentsFrom standard unnamed lexemes
      = textContents text ++ contentsFrom standard unnamed rest := by
  induction h with
  | nil => simp
  | cons hkind _ ih =>
      rw [contentsFrom_text hkind, ih, textContents_append, List.append_assoc]

/-- What a character that may be there is made of. -/
theorem Taken.contents_char {value : Option String} (h : Taken .char lexemes value rest) :
    contentsFrom standard unnamed lexemes
      = textContents (value.getD "") ++ contentsFrom standard unnamed rest := by
  cases h with
  | absent _ => simp
  | present h => exact contentsFrom_text (.inl h)

/-- What a name and an expression are made of. -/
def captureContents (standard : String) (unnamed : Nat) (name pattern : Option String) :
    List Ingredient :=
  match name, pattern with
  | some name, pattern => [.mark (.named name) (pattern.getD standard)]
  | none, some pattern => [.mark (.positional unnamed) pattern]
  | none, none => []

/-- Whether a capture takes the next number for its name. -/
def takesNumber (name pattern : Option String) : Bool :=
  name.isNone && pattern.isSome

/-- A name with the expression after it, or an expression alone. -/
theorem Taken.contents {afterName : List Lexeme} {name pattern : Option String}
    (hname : Taken .name lexemes name afterName) (hpattern : Taken .pattern afterName pattern rest) :
    contentsFrom standard unnamed lexemes
      = captureContents standard unnamed name pattern
        ++ contentsFrom standard (unnamed + (takesNumber name pattern).toNat) rest := by
  cases hname with
  | absent _ =>
      cases hpattern with
      | absent _ => simp [captureContents, takesNumber]
      | @present lexeme rest h =>
          obtain ⟨kind, index, value⟩ := lexeme
          obtain rfl := h
          simp [contentsFrom, captureContents, takesNumber]
  | @present lexeme rest h =>
      obtain ⟨kind, index, value⟩ := lexeme
      obtain rfl := h
      cases hpattern with
      | @present lexeme rest h =>
          obtain ⟨kind, index, value⟩ := lexeme
          obtain rfl := h
          simp [contentsFrom, captureContents, takesNumber]
      | absent hnext =>
          have hrest : contentsFrom standard unnamed (⟨.name, index, value⟩ :: rest)
              = .mark (.named value) standard :: contentsFrom standard unnamed rest := by
            rw [contentsFrom]
            rintro place pattern later rfl
            exact hnext _ rfl rfl
          simp [hrest, captureContents, takesNumber]

/-- Braces, marks of repetition and the end add nothing to what a pattern is made of. -/
theorem contentsFrom_cons {lexeme : Lexeme}
    (h : lexeme.kind = .opening ∨ lexeme.kind = .closing ∨ lexeme.kind = .modifier
      ∨ lexeme.kind = .ending) :
    contentsFrom standard unnamed (lexeme :: rest) = contentsFrom standard unnamed rest := by
  obtain ⟨kind, index, value⟩ := lexeme
  obtain rfl | rfl | rfl | rfl := h <;> simp [contentsFrom]

/-- Marks of repetition add nothing to what a pattern is made of. -/
theorem Taken.contents_modifier {modifier : Option String}
    (h : Taken .modifier lexemes modifier rest) :
    contentsFrom standard unnamed lexemes = contentsFrom standard unnamed rest := by
  cases h with
  | absent _ => rfl
  | present h => exact contentsFrom_cons (.inr (.inr (.inl h)))

end Taking

/-! ## Steps -/

/-- A name or an expression that is taken is not empty. -/
theorem AllValued.ne_empty {kind : Kind} (hkind : kind = .name ∨ kind = .pattern)
    {lexemes rest : List Lexeme} {value : Option String} (hvalued : AllValued lexemes)
    (h : Taken kind lexemes value rest) : value ≠ some "" := by
  cases h with
  | absent _ => simp
  | @present lexeme rest h =>
      have hlexeme := hvalued lexeme (by simp)
      obtain ⟨own, index, value⟩ := lexeme
      dsimp only at h
      subst h
      obtain rfl | rfl := hkind
      · simpa using hlexeme.1
      · simpa using hlexeme.1

namespace PartReader

variable {context : ReadContext} {reader later : PartReader} {text : String}

theorem contents_literal (text : String) :
    (literal text).flatMap Part.contents = textContents text := by
  unfold literal
  split
  · next h => simp [String.isEmpty_iff.mp h]
  · simp [Part.contents]

/-- A key outside of groups captures. -/
theorem captures_plainKey (hstandard : context.standardPattern ≠ "") {unnamed : Nat} {c : String}
    {name pattern modifier : Option String} (hpattern : pattern ≠ some "") :
    (plainKey context unnamed c name pattern modifier).captures = true := by
  cases pattern <;> simp_all [Key.captures, plainKey]

/-- What a key outside of groups is made of. -/
theorem contents_plainKey (hstandard : context.standardPattern ≠ "") {unnamed : Nat} {c : String}
    {name pattern modifier : Option String} (hsome : name ≠ none ∨ pattern ≠ none)
    (hpattern : pattern ≠ some "") :
    (plainKey context unnamed c name pattern modifier).contents
      = textContents (if occursIn c.toList context.prefixes.toList then c else "")
        ++ captureContents context.standardPattern unnamed name pattern := by
  rw [Key.contents, if_pos (captures_plainKey hstandard hpattern)]
  cases name with
  | some name => simp [plainKey, captureContents]
  | none =>
      cases pattern with
      | some pattern => simp [plainKey, captureContents]
      | none => simp at hsome

/-- The key of a group captures if there is a name or an expression in it. -/
theorem captures_groupKey (hstandard : context.standardPattern ≠ "") {unnamed : Nat}
    {before after : String} {name pattern modifier : Option String}
    (hname : name ≠ some "") (hpattern : pattern ≠ some "") :
    (groupKey context unnamed before after name pattern modifier).captures = true ↔
      name ≠ none ∨ pattern ≠ none := by
  cases name <;> cases pattern <;> simp_all [Key.captures, groupKey]

/-- What the key of a group is made of. -/
theorem contents_groupKey (hstandard : context.standardPattern ≠ "") {unnamed : Nat}
    {before after : String} {name pattern modifier : Option String}
    (hname : name ≠ some "") (hpattern : pattern ≠ some "") :
    (groupKey context unnamed before after name pattern modifier).contents
      = textContents before ++ captureContents context.standardPattern unnamed name pattern
        ++ textContents after := by
  cases name <;> cases pattern <;>
    simp_all [Key.contents, Key.captures, groupKey, isNumbered, captureContents]

/-- A group takes the next number if it has an expression and no name. -/
theorem isNumbered_eq {name pattern : Option String} (hname : name ≠ some "")
    (hpattern : pattern ≠ some "") : isNumbered name pattern = takesNumber name pattern := by
  cases name <;> cases pattern <;> simp_all [isNumbered, takesNumber]

/-- What a step reads is what the lexemes it takes are made of. -/
theorem Stepped.contents {parts : List Part} {rest : String} (hvalued : AllValued reader.rest)
    (hstandard : context.standardPattern ≠ "")
    (h : Stepped context reader text (.ok (parts, rest)) later) :
    textContents text ++ contentsFrom context.standardPattern reader.unnamed reader.rest
      = parts.flatMap Part.contents ++ (textContents rest
        ++ contentsFrom context.standardPattern later.unnamed later.rest) := by
  cases h with
  | @key char name pattern modifier afterChar afterName afterPattern rest hchar hname hpattern hsome
      hmodifier =>
      have hne := ((hvalued.taken hchar).taken hname).ne_empty (.inr rfl) hpattern
      have hnumber : (if name.isSome then reader.unnamed else reader.unnamed + 1)
          = reader.unnamed + (takesNumber name pattern).toNat := by
        cases name <;> cases pattern <;> simp_all [takesNumber]
      rw [hchar.contents_char, hname.contents hpattern, hmodifier.contents_modifier]
      simp only [List.flatMap_append, contents_literal, List.flatMap_cons, List.flatMap_nil,
        Part.contents, contents_plainKey hstandard hsome hne, hnumber, textContents_empty]
      split <;> simp
  | @char lexeme rest hread hkind _ _ =>
      rw [hread]
      simp [contentsFrom_text (.inl hkind)]
  | @escaped lexeme rest hread hkind =>
      rw [hread]
      simp [contentsFrom_text (.inr hkind)]
  | @ending lexeme rest hread hkind =>
      rw [hread]
      simp [contents_literal, contentsFrom_cons, hkind]
  | @group opening rest key later hread hkind hgroup =>
      rw [hread] at hvalued ⊢
      cases hgroup with
      | closed hbefore hname hpattern hafter hclosing hmodifier =>
          have hafterBefore := hvalued.tail.textTaken hbefore
          have hne := hafterBefore.ne_empty (.inl rfl) hname
          have hne' := (hafterBefore.taken hname).ne_empty (.inr rfl) hpattern
          rw [contentsFrom_cons (.inl hkind), hbefore.contents, hname.contents hpattern,
            hafter.contents, contentsFrom_cons (.inr (.inl hclosing)), hmodifier.contents_modifier]
          simp [contents_literal, Part.contents, contents_groupKey hstandard hne hne',
            isNumbered_eq hne hne']

/-- A step that leaves nothing leaves no literal text either. -/
theorem Stepped.text_of_done {parts : List Part} {rest : String} (hlast : EndsLast reader.rest)
    (h : Stepped context reader text (.ok (parts, rest)) later) (hdone : later.rest = []) :
    rest = "" := by
  cases h with
  | key | group | ending => rfl
  | @char lexeme _ hread hkind _ _ =>
      have hend := (hlast [] lexeme _ hread).mpr hdone
      simp [hend] at hkind
  | @escaped lexeme _ hread hkind =>
      have hend := (hlast [] lexeme _ hread).mpr hdone
      simp [hend] at hkind

/-- What is read is what the lexemes are made of. -/
theorem ReadsTo.contents {parts : List Part} (hvalued : AllValued reader.rest)
    (hlast : EndsLast reader.rest) (hstandard : context.standardPattern ≠ "")
    (hdone : reader.rest = [] → text = "") (h : ReadsTo context reader text parts) :
    parts.flatMap Part.contents
      = textContents text ++ contentsFrom context.standardPattern reader.unnamed reader.rest := by
  induction h with
  | done h => simp [h, hdone h, contentsFrom]
  | more _ hstep _ ih =>
      obtain ⟨front, _, hread, _⟩ := hstep.leads hlast
      have hlast' := endsLast_of_append (hread ▸ hlast)
      rw [List.flatMap_append, hstep.contents hvalued hstandard,
        ih (hstep.allValued hvalued) hlast' (hstep.text_of_done hlast)]

/-- There is literal text only where some was read. -/
theorem stretches_literal (text : String) : Stretches (literal text) := by
  unfold literal
  split
  · exact ⟨by simp, .nil⟩
  · next h => exact ⟨by simpa using h, .singleton _⟩

/-- A step reads literal text and a key, or literal text at the end. -/
theorem Stepped.stretches {parts : List Part} {rest : String} (hlast : EndsLast reader.rest)
    (h : Stepped context reader text (.ok (parts, rest)) later) :
    Stretches parts ∧ (later.rest = [] ∨ ∀ part ∈ parts.getLast?, part.key? ≠ none) := by
  have hkeyed (text : String) (key : Key) : Stretches (literal text ++ [.key key]) ∧
      ∀ part ∈ (literal text ++ [Part.key key]).getLast?, part.key? ≠ none :=
    ⟨(stretches_literal text).append ⟨by simp, .singleton _⟩ (.inr (by simp [Part.key?])),
      by simp [Part.key?]⟩
  cases h with
  | key => exact ⟨(hkeyed _ _).1, .inr (hkeyed _ _).2⟩
  | group => exact ⟨(hkeyed _ _).1, .inr (hkeyed _ _).2⟩
  | char | escaped => exact ⟨⟨by simp, .nil⟩, .inr (by simp)⟩
  | @ending lexeme rest hread hkind =>
      exact ⟨stretches_literal text, .inl ((hlast [] lexeme rest hread).mp hkind)⟩

/-- Literal text is neither empty nor cut in two. -/
theorem ReadsTo.stretches {parts : List Part} (hlast : EndsLast reader.rest)
    (h : ReadsTo context reader text parts) : Stretches parts := by
  induction h with
  | done => exact ⟨by simp, .nil⟩
  | @more reader later text rest first others _ hstep hrest ih =>
      obtain ⟨front, _, hread, _⟩ := hstep.leads hlast
      obtain ⟨hfirst, hborder⟩ := hstep.stretches hlast
      have hothers := ih (endsLast_of_append (hread ▸ hlast))
      obtain hdone | hkey := hborder
      · cases hrest with
        | done => simpa using hfirst
        | more hne => exact absurd hdone hne
      · exact hfirst.append hothers (.inl hkey)

/-- The lexeme in front of some others is not a character that could go with a capture among them. -/
def Parted (previous : Option Lexeme) (lexemes : List Lexeme) : Prop :=
  ∀ lexeme ∈ previous, lexeme.kind = .char → NotNext .name lexemes ∧ NotNext .pattern lexemes

/-- Characters that are the last of what was taken are none. -/
theorem parted_getLast {front rest : List Lexeme} (h : ∀ lexeme ∈ front, lexeme.kind ≠ .char) :
    Parted front.getLast? rest := by
  intro lexeme hlexeme hkind
  exact absurd hkind (h lexeme (List.mem_of_getLast? hlexeme))

/-- The text in front of a key goes with it if it is one of the prefixes. -/
theorem occursIn_singleton {c : Char} {text : List Char} : occursIn [c] text = true ↔ c ∈ text := by
  induction text with
  | nil => simp [occursIn]
  | cons first rest ih => simp [occursIn, List.isPrefixOf, ih]

theorem keys_literal (text : String) : (literal text).filterMap Part.key? = [] := by
  unfold literal
  split <;> simp [Part.key?]

/-- No lexeme of a capture is a character. -/
theorem capture_front {lexemes afterName afterPattern rest : List Lexeme}
    {name pattern modifier : Option String} (hname : Taken .name lexemes name afterName)
    (hpattern : Taken .pattern afterName pattern afterPattern)
    (hmodifier : Taken .modifier afterPattern modifier rest) :
    ∃ front, lexemes = front ++ rest ∧ ∀ lexeme ∈ front, lexeme.kind ≠ .char := by
  obtain ⟨first, rfl, hfirst⟩ := hname.front
  obtain ⟨second, rfl, hsecond⟩ := hpattern.front
  obtain ⟨third, rfl, hthird⟩ := hmodifier.front
  refine ⟨first ++ (second ++ third), by simp, ?_⟩
  simp only [List.mem_append]
  rintro lexeme (h | h | h)
  · simp [hfirst lexeme h]
  · simp [hsecond lexeme h]
  · simp [hthird lexeme h]

/-- Where a capture comes next nothing stands before it that was not taken as text. -/
theorem Parted.not_standsBefore {prefixes : String} {previous : Option Lexeme}
    {lexemes afterName afterPattern : List Lexeme} {name pattern : Option String}
    (h : Parted previous lexemes) (hname : Taken .name lexemes name afterName)
    (hpattern : Taken .pattern afterName pattern afterPattern)
    (hsome : name ≠ none ∨ pattern ≠ none) : ¬ StandsBefore prefixes previous := by
  rintro ⟨lexeme, hlexeme, hkind, _⟩
  obtain ⟨hnoName, hnoPattern⟩ := h lexeme hlexeme hkind
  obtain ⟨rfl, rfl⟩ := hname.of_notNext hnoName
  obtain ⟨rfl, _⟩ := hpattern.of_notNext hnoPattern
  simp at hsome

/-- A character goes with the key after it if it is one of the prefixes. -/
theorem before_plainKey {unnamed : Nat} {lexeme : Lexeme} {name pattern modifier : Option String}
    (hkind : lexeme.kind = .char) (hvalued : lexeme.Valued) :
    (plainKey context unnamed lexeme.value name pattern modifier).before ≠ "" ↔
      StandsBefore context.prefixes (some lexeme) := by
  obtain ⟨kind, index, value⟩ := lexeme
  obtain rfl : kind = .char := hkind
  obtain ⟨c, hvalue, _⟩ := hvalued
  dsimp only at hvalue
  have hne : value ≠ "" := by
    rintro rfl
    simp at hvalue
  by_cases hmem : c ∈ context.prefixes.toList
  · simp [plainKey, StandsBefore, hvalue, occursIn_singleton, hmem, hne]
  · simp [plainKey, StandsBefore, hvalue, occursIn_singleton, hmem]

/-- A key outside of groups is made of the lexemes it is read from, with the one before it. -/
theorem keysOf_plainKey {lexemes afterChar afterName afterPattern rest : List Lexeme}
    {char name pattern modifier : Option String} {previous : Option Lexeme} {unnamed : Nat}
    (hvalued : AllValued lexemes) (hstandard : context.standardPattern ≠ "")
    (hparted : Parted previous lexemes) (hchar : Taken .char lexemes char afterChar)
    (hname : Taken .name afterChar name afterName)
    (hpattern : Taken .pattern afterName pattern afterPattern)
    (hsome : name ≠ none ∨ pattern ≠ none) (hmodifier : Taken .modifier afterPattern modifier rest) :
    ∃ previous', Parted previous' rest ∧ ∀ keys, KeysOf context.prefixes previous' rest keys →
      KeysOf context.prefixes previous lexemes
        (plainKey context unnamed (char.getD "") name pattern modifier :: keys) := by
  have hafterName := (hvalued.taken hchar).taken hname
  have hcaptures : (plainKey context unnamed (char.getD "") name pattern modifier).captures = true :=
    captures_plainKey hstandard (hafterName.ne_empty (.inr rfl) hpattern)
  obtain ⟨front, hfront, hplain⟩ := capture_front hname hpattern hmodifier
  refine ⟨front.getLast?, parted_getLast hplain, fun keys hkeys => ?_⟩
  cases char with
  | none =>
      obtain ⟨rfl, _⟩ := hchar.of_none
      have hempty : (plainKey context unnamed "" name pattern modifier).before = "" := by
        simp [plainKey]
      refine .capture hfront hname hpattern hsome hmodifier ?_ ?_ hcaptures rfl rfl hkeys
      · simp only [Option.getD_none, hempty, ne_eq, not_true_eq_false, false_iff]
        exact hparted.not_standsBefore hname hpattern hsome
      · simp [hempty]
  | some c =>
      obtain ⟨lexeme, rfl, hkind, rfl⟩ := hchar.of_some
      refine .plain (.inl (.inl hkind))
        (.capture hfront hname hpattern hsome hmodifier ?_ ?_ hcaptures rfl rfl hkeys)
      · exact before_plainKey hkind (hvalued lexeme (by simp))
      · simp +contextual [plainKey]

/-- The key of a group is made of the lexemes of the group. -/
theorem GroupRead.keysOf {opening : Lexeme} {key : Key} (previous : Option Lexeme)
    (hvalued : AllValued reader.rest) (hstandard : context.standardPattern ≠ "")
    (hkind : opening.kind = .opening)
    (h : GroupRead context reader opening.index (.ok key) later) :
    ∃ previous', Parted previous' later.rest ∧ ∀ keys,
      KeysOf context.prefixes previous' later.rest keys →
        KeysOf context.prefixes previous (opening :: reader.rest) (key :: keys) := by
  cases h with
  | @closed _ _ _ _ _ closing _ _ _ _ rest hbefore hname hpattern hafter hclosing hmodifier =>
      have hafterBefore := hvalued.textTaken hbefore
      have hafterName := hafterBefore.taken hname
      obtain ⟨first, hfirst⟩ := hbefore.front
      obtain ⟨second, hsecond, _⟩ := hname.front
      obtain ⟨third, hthird, _⟩ := hpattern.front
      obtain ⟨fourth, hfourth⟩ := hafter.front
      obtain ⟨mark, hmark, hmarkKind⟩ := hmodifier.front
      have hfront : reader.rest
          = (first ++ second ++ third ++ fourth ++ closing :: mark) ++ rest := by
        rw [hfirst, hsecond, hthird, hfourth, hmark]
        simp
      refine ⟨(first ++ second ++ third ++ fourth ++ closing :: mark).getLast?, ?_,
        fun keys hkeys => ?_⟩
      · rw [List.getLast?_append_of_ne_nil _ (by simp)]
        refine parted_getLast (List.forall_mem_cons.mpr ⟨by simp [hclosing], ?_⟩)
        exact fun lexeme h => by simp [hmarkKind lexeme h]
      · exact .group hfront hkind hbefore hname hpattern hafter hclosing hmodifier
          (captures_groupKey hstandard (hafterBefore.ne_empty (.inl rfl) hname)
            (hafterName.ne_empty (.inr rfl) hpattern)) rfl hkeys

/-- The keys that a step reads are made of the lexemes it takes. -/
theorem Stepped.keysOf {parts : List Part} {rest : String} {previous : Option Lexeme}
    (hvalued : AllValued reader.rest) (hstandard : context.standardPattern ≠ "")
    (hparted : Parted previous reader.rest)
    (h : Stepped context reader text (.ok (parts, rest)) later) :
    ∃ previous', Parted previous' later.rest ∧ ∀ keys,
      KeysOf context.prefixes previous' later.rest keys →
        KeysOf context.prefixes previous reader.rest (parts.filterMap Part.key? ++ keys) := by
  cases h with
  | key hchar hname hpattern hsome hmodifier =>
      simp only [List.filterMap_append, keys_literal, List.nil_append]
      exact keysOf_plainKey hvalued hstandard hparted hchar hname hpattern hsome hmodifier
  | @char lexeme rest hread hkind hname hpattern =>
      rw [hread]
      refine ⟨some lexeme, ?_, fun keys hkeys => .plain (.inl (.inl hkind)) hkeys⟩
      exact fun _ _ _ => ⟨hname, hpattern⟩
  | @escaped lexeme rest hread hkind =>
      rw [hread]
      exact ⟨some lexeme, by simp [Parted, hkind],
        fun keys hkeys => .plain (.inl (.inr hkind)) hkeys⟩
  | @ending lexeme rest hread hkind =>
      rw [hread, keys_literal]
      exact ⟨some lexeme, by simp [Parted, hkind], fun keys hkeys => .plain (.inr hkind) hkeys⟩
  | group hread hkind hgroup =>
      rw [hread] at hvalued ⊢
      simp only [List.filterMap_append, keys_literal, List.nil_append]
      exact hgroup.keysOf previous hvalued.tail hstandard hkind

/-- Every key is made of the lexemes it stands for. -/
theorem ReadsTo.keysOf {parts : List Part} {previous : Option Lexeme}
    (hvalued : AllValued reader.rest) (hstandard : context.standardPattern ≠ "")
    (hparted : Parted previous reader.rest) (h : ReadsTo context reader text parts) :
    KeysOf context.prefixes previous reader.rest (parts.filterMap Part.key?) := by
  induction h generalizing previous with
  | done h =>
      rw [h]
      exact .nil
  | more _ hstep _ ih =>
      obtain ⟨previous', hparted', hkeys⟩ := hstep.keysOf hvalued hstandard hparted
      rw [List.filterMap_append]
      exact hkeys _ (ih (hstep.allValued hvalued) hparted')

end PartReader

/-- There is always an expression for keys without one. -/
theorem defaultPattern_ne_empty (delimiter : String) : defaultPattern delimiter ≠ "" := by
  simp [defaultPattern]

section Parsing

variable {options : Options} {source : String} {parts : List Part} {lexemes : List Lexeme}

/-- The parts of a pattern are read from its lexemes. -/
theorem readsTo_of_parse (h : parse options source = .ok parts) (hscan : scan source = .ok lexemes) :
    PartReader.ReadsTo (.of options lexemes) { rest := lexemes } "" parts := by
  have hread : readLexemes options lexemes = .ok parts := by
    simpa only [parse, hscan, mapError_eq_ok] using h
  exact (PartReader.readOut (.of options lexemes) { rest := lexemes } "").readsTo hread

/-- The parts of a pattern are made of what its lexemes are made of. -/
theorem contents_of_parse (h : parse options source = .ok parts)
    (hscan : scan source = .ok lexemes) :
    parts.flatMap Part.contents = contentsFrom (defaultPattern options.delimiter) 0 lexemes := by
  rw [(readsTo_of_parse h hscan).contents (allValued_of_scan hscan) (endsLast_of_scan hscan).1
    (defaultPattern_ne_empty options.delimiter) (fun _ => rfl)]
  simp [ReadContext.of]

/-- The keys of a pattern are made of its lexemes. -/
theorem keysOf_of_parse (h : parse options source = .ok parts) (hscan : scan source = .ok lexemes) :
    KeysOf options.prefixes none lexemes (parts.filterMap Part.key?) :=
  (readsTo_of_parse h hscan).keysOf (allValued_of_scan hscan)
    (defaultPattern_ne_empty options.delimiter) (by simp [PartReader.Parted])

/-- Without marks of repetition among the lexemes, no key has one. -/
theorem modifier_of_parse (h : parse options source = .ok parts) (hscan : scan source = .ok lexemes)
    (hlexemes : ∀ lexeme ∈ lexemes, lexeme.kind ≠ .modifier) {key : Key}
    (hkey : Part.key key ∈ parts) : key.modifier = "" :=
  (keysOf_of_parse h hscan).modifier_eq hlexemes key
    (List.mem_filterMap.mpr ⟨.key key, hkey, rfl⟩)

end Parsing

/-- The parts of a pattern are made of what its lexemes are made of. Literal text is neither empty
nor cut in two, and each key is made of its own lexemes. -/
theorem parse_conserves {options : Options} {source : String} {parts : List Part}
    (h : parse options source = .ok parts) :
    ∃ lexemes, scan source = .ok lexemes ∧
      parts.flatMap Part.contents = contentsFrom (defaultPattern options.delimiter) 0 lexemes ∧
      Stretches parts ∧ KeysOf options.prefixes none lexemes (parts.filterMap Part.key?) := by
  cases hscan : scan source with
  | error error => simp [parse, hscan] at h
  | ok lexemes =>
      exact ⟨lexemes, rfl, contents_of_parse h hscan,
        (readsTo_of_parse h hscan).stretches (endsLast_of_scan hscan).1, keysOf_of_parse h hscan⟩

/-- An escaped delimiter in front of a prefix, a group with text on both sides, an expression without
a name and a group without contents. -/
theorem parse_conserves_nested :
    let source := "a\\//:id(\\d+)?\x7b-:y.\x7d+.(z)*\x7b\x7d"
    ∃ parts lexemes, parse {} source = .ok parts ∧ scan source = .ok lexemes ∧ parts.length = 5 ∧
      parts.flatMap Part.contents = contentsFrom (defaultPattern "/#?") 0 lexemes ∧
      Stretches parts ∧ KeysOf "./" none lexemes (parts.filterMap Part.key?) := by
  have hparse : parse {} "a\\//:id(\\d+)?\x7b-:y.\x7d+.(z)*\x7b\x7d" = .ok
      [.text "a/",
        .key { name := .named "id", before := "/", pattern := "\\d+", modifier := "?" },
        .key { name := .named "y", before := "-", after := ".", pattern := "[^\\/#\\?]+?",
               modifier := "+" },
        .key { name := .positional 0, before := ".", pattern := "z", modifier := "*" },
        .key { name := .named "" }] :=
    toOption_eq_some.mp (by decide +kernel)
  obtain ⟨lexemes, hscan, hcontents, hstretches, hkeys⟩ := parse_conserves hparse
  exact ⟨_, lexemes, hparse, hscan, rfl, hcontents, hstretches, hkeys⟩

end RoutePattern
