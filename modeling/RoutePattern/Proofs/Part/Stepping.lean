import RoutePattern.Part.Reader
import RoutePattern.Proofs.Lexeme.Rendering

/-!
# What one step of reading does

`Taken` and `TextTaken` say what is taken from a list of lexemes, `GroupRead` how a group is read,
and `Stepped` all that a step can do, failures included. `stepped` is the main result; what a whole
reading keeps is shown from it, by induction on `ReadOut`, or on `ReadsTo` where the reading succeeds.
-/

namespace RoutePattern

/-- The first of some lexemes, if there is one, is of another kind. -/
def NotNext (kind : Kind) (lexemes : List Lexeme) : Prop :=
  ∀ lexeme ∈ lexemes.head?, lexeme.kind ≠ kind

/-- A literal character, escaped or not. -/
def Kind.IsText (kind : Kind) : Prop :=
  kind = .char ∨ kind = .escapedChar

/-- A lexeme of a kind is taken from the front of a list if there is one; the value is its value, and
the second list is what is left. -/
inductive Taken (kind : Kind) : List Lexeme → Option String → List Lexeme → Prop where
  | absent {lexemes : List Lexeme} (h : NotNext kind lexemes) : Taken kind lexemes none lexemes
  | present {lexeme : Lexeme} {rest : List Lexeme} (h : lexeme.kind = kind) :
      Taken kind (lexeme :: rest) (some lexeme.value) rest

/-- As many literal characters as there are are taken from the front of a list. -/
inductive TextTaken : List Lexeme → String → List Lexeme → Prop where
  | nil {lexemes : List Lexeme} (hchar : NotNext .char lexemes)
      (hescaped : NotNext .escapedChar lexemes) : TextTaken lexemes "" lexemes
  | cons {lexeme : Lexeme} {rest later : List Lexeme} {text : String} (h : lexeme.kind.IsText)
      (hrest : TextTaken rest text later) : TextTaken (lexeme :: rest) (lexeme.value ++ text) later

/-- What `take` takes. -/
theorem taken_take (kind : Kind) (lexemes : List Lexeme) :
    Taken kind lexemes (take kind lexemes).1 (take kind lexemes).2 := by
  cases lexemes with
  | nil => exact .absent (by simp [NotNext])
  | cons lexeme rest =>
      by_cases h : lexeme.kind = kind
      · have htaken : Taken kind (lexeme :: rest) (some lexeme.value) rest := .present h
        simpa [take, h] using htaken
      · have hnext : NotNext kind (lexeme :: rest) := by simpa [NotNext] using h
        simpa [take, h] using Taken.absent hnext

/-- What `takeText` takes. -/
theorem textTaken_takeText (lexemes : List Lexeme) :
    TextTaken lexemes (takeText lexemes).1 (takeText lexemes).2 := by
  induction lexemes with
  | nil => exact .nil (by simp [NotNext]) (by simp [NotNext])
  | cons lexeme rest ih =>
      by_cases h : lexeme.kind = .char ∨ lexeme.kind = .escapedChar
      · simpa [takeText, h] using TextTaken.cons h ih
      · obtain ⟨hchar, hescaped⟩ := not_or.mp h
        have hnoChar : NotNext .char (lexeme :: rest) := by simpa [NotNext] using hchar
        have hnoEscaped : NotNext .escapedChar (lexeme :: rest) := by simpa [NotNext] using hescaped
        simpa [takeText, h] using TextTaken.nil hnoChar hnoEscaped

/-- Only nothing is taken as nothing. -/
theorem Taken.of_none {kind : Kind} {lexemes rest : List Lexeme} (h : Taken kind lexemes none rest) :
    rest = lexemes ∧ NotNext kind lexemes := by
  cases h with
  | absent h => exact ⟨rfl, h⟩

/-- A value is taken from a lexeme of the kind. -/
theorem Taken.of_some {kind : Kind} {lexemes rest : List Lexeme} {value : String}
    (h : Taken kind lexemes (some value) rest) :
    ∃ lexeme : Lexeme, lexemes = lexeme :: rest ∧ lexeme.kind = kind ∧ lexeme.value = value := by
  cases h with
  | present h => exact ⟨_, rfl, h, rfl⟩

/-- What `takeCapture` takes. -/
theorem taken_of_takeCapture {lexemes rest : List Lexeme} {name pattern : Option String}
    (h : takeCapture lexemes = some ((name, pattern), rest)) :
    ∃ afterName, Taken .name lexemes name afterName ∧ Taken .pattern afterName pattern rest ∧
      (name ≠ none ∨ pattern ≠ none) := by
  unfold takeCapture at h
  dsimp only at h
  split at h
  · next hsome =>
    simp only [Option.some.injEq, Prod.mk.injEq] at h
    obtain ⟨⟨rfl, rfl⟩, rfl⟩ := h
    refine ⟨_, taken_take .name lexemes, taken_take .pattern _, ?_⟩
    simpa [Option.isSome_iff_ne_none] using hsome
  · simp at h

/-- Where `takeCapture` takes nothing there is neither a name nor an expression. -/
theorem notNext_of_takeCapture {lexemes : List Lexeme} (h : takeCapture lexemes = none) :
    NotNext .name lexemes ∧ NotNext .pattern lexemes := by
  have hname := taken_take .name lexemes
  have hpattern := taken_take .pattern (take .name lexemes).2
  unfold takeCapture at h
  dsimp only at h
  split at h
  · simp at h
  · next hnone =>
    simp only [Bool.or_eq_true, not_or, Option.not_isSome_iff_eq_none] at hnone
    rw [hnone.1] at hname
    obtain ⟨hrest, hname⟩ := hname.of_none
    rw [hnone.2, hrest] at hpattern
    exact ⟨hname, hpattern.of_none.2⟩

/-- Nothing is taken where no lexeme of the kind comes next. -/
theorem Taken.of_notNext {kind : Kind} {lexemes rest : List Lexeme} {value : Option String}
    (h : Taken kind lexemes value rest) (hnext : NotNext kind lexemes) :
    value = none ∧ rest = lexemes := by
  cases h with
  | absent _ => exact ⟨rfl, rfl⟩
  | present h => exact absurd h (hnext _ rfl)

/-- What is taken is of its kind. -/
theorem Taken.front {kind : Kind} {lexemes rest : List Lexeme} {value : Option String}
    (h : Taken kind lexemes value rest) :
    ∃ front, lexemes = front ++ rest ∧ ∀ lexeme ∈ front, lexeme.kind = kind := by
  cases h with
  | absent _ => exact ⟨[], rfl, by simp⟩
  | present h => exact ⟨[_], rfl, by simpa using h⟩

/-- What is taken as text is text. -/
theorem TextTaken.front {lexemes rest : List Lexeme} {text : String}
    (h : TextTaken lexemes text rest) : ∃ front, lexemes = front ++ rest := by
  induction h with
  | nil => exact ⟨[], rfl⟩
  | cons _ _ ih =>
      obtain ⟨front, rfl⟩ := ih
      exact ⟨_ :: front, rfl⟩

/-- What is left of some lexemes has values as they have. -/
theorem AllValued.taken {kind : Kind} {lexemes rest : List Lexeme} {value : Option String}
    (hvalued : AllValued lexemes) (h : Taken kind lexemes value rest) : AllValued rest := by
  cases h with
  | absent _ => exact hvalued
  | present _ => exact hvalued.tail

theorem AllValued.textTaken {lexemes rest : List Lexeme} {text : String}
    (hvalued : AllValued lexemes) (h : TextTaken lexemes text rest) : AllValued rest := by
  induction h with
  | nil => exact hvalued
  | cons _ _ ih => exact ih hvalued.tail

namespace PartReader

/-- The key outside of groups that `c` stands in front of. -/
def plainKey (context : ReadContext) (unnamed : Nat) (c : String)
    (name pattern modifier : Option String) : Key :=
  { name := match name with
      | some name => .named name
      | none => .positional unnamed
    before := if occursIn c.toList context.prefixes.toList then c else ""
    pattern := pattern.getD context.standardPattern
    modifier := modifier.getD "" }

/-- Whether a group takes the next number for its name. -/
def isNumbered (name pattern : Option String) : Bool :=
  (name.getD "").isEmpty && !(pattern.getD "").isEmpty

/-- The key of a group. -/
def groupKey (context : ReadContext) (unnamed : Nat) (before after : String)
    (name pattern modifier : Option String) : Key :=
  { name := if isNumbered name pattern then .positional unnamed else .named (name.getD "")
    before
    after
    pattern := if !(name.getD "").isEmpty && (pattern.getD "").isEmpty then context.standardPattern
      else pattern.getD ""
    modifier := modifier.getD "" }

/-- How the lexemes after the brace at `opened` are read: literal text, a name, an expression and
literal text, each as far as it is there, and then a closing brace and perhaps a mark. -/
inductive GroupRead (context : ReadContext) (reader : PartReader) (opened : Int) :
    Except GrammarError Key → PartReader → Prop where
  | closed {before after : String} {name pattern modifier : Option String} {closing : Lexeme}
      {afterBefore afterName afterPattern afterClosing rest : List Lexeme}
      (hbefore : TextTaken reader.rest before afterBefore)
      (hname : Taken .name afterBefore name afterName)
      (hpattern : Taken .pattern afterName pattern afterPattern)
      (hafter : TextTaken afterPattern after (closing :: afterClosing))
      (hclosing : closing.kind = .closing)
      (hmodifier : Taken .modifier afterClosing modifier rest) :
      GroupRead context reader opened
        (.ok (groupKey context reader.unnamed before after name pattern modifier))
        { reader with rest, unnamed := reader.unnamed + (isNumbered name pattern).toNat }
  | unclosed {before after : String} {name pattern : Option String}
      {afterBefore afterName afterPattern rest : List Lexeme}
      (hbefore : TextTaken reader.rest before afterBefore)
      (hname : Taken .name afterBefore name afterName)
      (hpattern : Taken .pattern afterName pattern afterPattern)
      (hafter : TextTaken afterPattern after rest)
      (hclosing : NotNext .closing rest) :
      GroupRead context reader opened
        (.error (unexpected context
          { reader with rest, openGroups := opened :: reader.openGroups } .closing))
        { reader with rest, openGroups := opened :: reader.openGroups }

/-- A group is read as `GroupRead` says. -/
theorem groupRead (context : ReadContext) (reader : PartReader) (opened : Int) :
    GroupRead context reader opened (readGroup context reader opened).1
      (readGroup context reader opened).2 := by
  have hbefore := textTaken_takeText reader.rest
  have hname := taken_take .name (takeText reader.rest).2
  have hpattern := taken_take .pattern (take .name (takeText reader.rest).2).2
  have hafter := textTaken_takeText (take .pattern (take .name (takeText reader.rest).2).2).2
  have hclosing := taken_take .closing
    (takeText (take .pattern (take .name (takeText reader.rest).2).2).2).2
  simp only [readGroup]
  split
  · next rest heq =>
    rw [heq] at hclosing
    obtain ⟨hrest, hnext⟩ := hclosing.of_none
    dsimp only at hrest
    subst hrest
    exact .unclosed hbefore hname hpattern hafter hnext
  · next afterClosing heq =>
    rw [heq] at hclosing
    obtain ⟨closing, hlexemes, hkind, _⟩ := hclosing.of_some
    rw [hlexemes] at hafter
    exact .closed hbefore hname hpattern hafter hkind (taken_take .modifier afterClosing)

/-- All that a step can do, where `text` is the literal text in front. -/
inductive Stepped (context : ReadContext) (reader : PartReader) (text : String) :
    Except GrammarError (List Part × String) → PartReader → Prop where
  | key {char name pattern modifier : Option String}
      {afterChar afterName afterPattern rest : List Lexeme}
      (hchar : Taken .char reader.rest char afterChar)
      (hname : Taken .name afterChar name afterName)
      (hpattern : Taken .pattern afterName pattern afterPattern)
      (hsome : name ≠ none ∨ pattern ≠ none)
      (hmodifier : Taken .modifier afterPattern modifier rest) :
      Stepped context reader text
        (.ok
          (literal (if occursIn (char.getD "").toList context.prefixes.toList then text
              else text ++ char.getD "")
            ++ [.key (plainKey context reader.unnamed (char.getD "") name pattern modifier)], ""))
        { reader with
          rest, unnamed := if name.isSome then reader.unnamed else reader.unnamed + 1 }
  | char {lexeme : Lexeme} {rest : List Lexeme} (hread : reader.rest = lexeme :: rest)
      (hkind : lexeme.kind = .char) (hname : NotNext .name rest) (hpattern : NotNext .pattern rest) :
      Stepped context reader text (.ok ([], text ++ lexeme.value)) { reader with rest }
  | escaped {lexeme : Lexeme} {rest : List Lexeme} (hread : reader.rest = lexeme :: rest)
      (hkind : lexeme.kind = .escapedChar) :
      Stepped context reader text (.ok ([], text ++ lexeme.value)) { reader with rest }
  | group {opening : Lexeme} {rest : List Lexeme} {key : Key} {later : PartReader}
      (hread : reader.rest = opening :: rest) (hkind : opening.kind = .opening)
      (hgroup : GroupRead context { reader with rest } opening.index (.ok key) later) :
      Stepped context reader text (.ok (literal text ++ [.key key], "")) later
  | unclosed {opening : Lexeme} {rest : List Lexeme} {error : GrammarError} {later : PartReader}
      (hread : reader.rest = opening :: rest) (hkind : opening.kind = .opening)
      (hgroup : GroupRead context { reader with rest } opening.index (.error error) later) :
      Stepped context reader text (.error error) later
  | ending {lexeme : Lexeme} {rest : List Lexeme} (hread : reader.rest = lexeme :: rest)
      (hkind : lexeme.kind = .ending) :
      Stepped context reader text (.ok (literal text, "")) { reader with rest }
  | stuck (h : ∀ lexeme ∈ reader.rest.head?, lexeme.kind = .closing ∨ lexeme.kind = .modifier) :
      Stepped context reader text (.error (reader.unexpected context .ending)) reader

/-- A step does one of the things that `Stepped` lists. -/
theorem stepped (context : ReadContext) (reader : PartReader) (text : String) :
    Stepped context reader text (step context reader text).1 (step context reader text).2 := by
  have hchar := taken_take .char reader.rest
  unfold step
  dsimp only
  split
  · next name pattern rest hcapture =>
    obtain ⟨afterName, hname, hpattern, hsome⟩ := taken_of_takeCapture hcapture
    exact .key hchar hname hpattern hsome (taken_take .modifier rest)
  · next c hcapture hc =>
    rw [hc] at hchar
    obtain ⟨lexeme, hread, hkind, rfl⟩ := hchar.of_some
    obtain ⟨hname, hpattern⟩ := notNext_of_takeCapture hcapture
    exact .char hread hkind hname hpattern
  · next hcapture hc =>
    rw [hc] at hchar
    obtain ⟨hrest, hchar⟩ := hchar.of_none
    rw [hrest] at hcapture
    obtain ⟨hname, hpattern⟩ := notNext_of_takeCapture hcapture
    have hescaped := taken_take .escapedChar reader.rest
    have hopening := taken_take .opening reader.rest
    have hending := taken_take .ending reader.rest
    split
    · next c rest heq =>
      rw [heq] at hescaped
      obtain ⟨lexeme, hread, hkind, rfl⟩ := hescaped.of_some
      exact .escaped hread hkind
    · next value rest heq _ =>
      rw [heq] at hopening
      obtain ⟨opening, hread, hkind, _⟩ := hopening.of_some
      have hindex : (reader.next context).index = opening.index := by
        rw [next, hread, List.headD_cons]
      rw [hindex]
      have hgroup := groupRead context { reader with rest } opening.index
      cases hanswer : (readGroup context { reader with rest } opening.index).1 with
      | error error =>
          rw [hanswer] at hgroup
          exact .unclosed hread hkind hgroup
      | ok key =>
          rw [hanswer] at hgroup
          exact .group hread hkind hgroup
    · next value rest heq _ _ =>
      rw [heq] at hending
      obtain ⟨ending, hread, hkind, _⟩ := hending.of_some
      exact .ending hread hkind
    · next hnoEscaped hnoOpening hnoEnding =>
      refine .stuck fun lexeme hlexeme => ?_
      obtain ⟨rest, hread⟩ : ∃ rest, reader.rest = lexeme :: rest := by
        cases hrest : reader.rest with
        | nil => simp [hrest] at hlexeme
        | cons first rest => exact ⟨rest, by simpa [hrest] using hlexeme⟩
      have hother : lexeme.kind ≠ .escapedChar ∧ lexeme.kind ≠ .opening ∧ lexeme.kind ≠ .ending :=
        ⟨fun h => hnoEscaped lexeme.value rest (by simp [take, hread, h]),
          fun h => hnoOpening lexeme.value rest (by simp [take, hread, h]),
          fun h => hnoEnding lexeme.value rest (by simp [take, hread, h])⟩
      cases hkind : lexeme.kind with
      | closing => exact .inl rfl
      | modifier => exact .inr rfl
      | char => exact absurd hkind (hchar lexeme hlexeme)
      | name => exact absurd hkind (hname lexeme hlexeme)
      | pattern => exact absurd hkind (hpattern lexeme hlexeme)
      | escapedChar => exact absurd hkind hother.1
      | opening => exact absurd hkind hother.2.1
      | ending => exact absurd hkind hother.2.2

/-- A step leaves lexemes whose values their kinds may hold. -/
theorem Stepped.allValued {context : ReadContext} {reader later : PartReader} {text : String}
    {result : List Part × String} (hvalued : AllValued reader.rest)
    (h : Stepped context reader text (.ok result) later) : AllValued later.rest := by
  cases h with
  | key hchar hname hpattern _ hmodifier =>
      exact (((hvalued.taken hchar).taken hname).taken hpattern).taken hmodifier
  | char hread | escaped hread | ending hread =>
      rw [hread] at hvalued
      exact hvalued.tail
  | group hread _ hgroup =>
      rw [hread] at hvalued
      cases hgroup with
      | closed hbefore hname hpattern hafter _ hmodifier =>
          have hafterName := (hvalued.tail.textTaken hbefore).taken hname
          exact ((hafterName.taken hpattern).textTaken hafter).tail.taken hmodifier

/-- A reading to the end, step by step. -/
inductive ReadOut (context : ReadContext) :
    PartReader → String → Except GrammarError (List Part) → Prop where
  | done {reader : PartReader} {text : String} (h : reader.rest = []) :
      ReadOut context reader text (.ok [])
  | more {reader later : PartReader} {text rest : String} {parts : List Part}
      {answer : Except GrammarError (List Part)} (hne : reader.rest ≠ [])
      (hstep : Stepped context reader text (.ok (parts, rest)) later)
      (hrest : ReadOut context later rest answer) :
      ReadOut context reader text (answer.map (parts ++ ·))
  | failed {reader later : PartReader} {text : String} {error : GrammarError}
      (hne : reader.rest ≠ []) (hstep : Stepped context reader text (.error error) later) :
      ReadOut context reader text (.error error)

/-- Reading goes step by step. -/
theorem readOut (context : ReadContext) (reader : PartReader) (text : String) :
    ReadOut context reader text (readFrom context reader text).1 := by
  fun_induction readFrom context reader text with
  | case1 reader text h => exact .done (by simpa using h)
  | case2 reader text h error later hstep =>
      have hstepped := stepped context reader text
      rw [hstep] at hstepped
      exact .failed (by simpa using h) hstepped
  | case3 reader text h parts rest later hstep answer final heq ih =>
      have hstepped := stepped context reader text
      rw [hstep] at hstepped
      rw [heq] at ih
      exact .more (by simpa using h) hstepped ih

/-- A reading that succeeds, step by step. -/
inductive ReadsTo (context : ReadContext) : PartReader → String → List Part → Prop where
  | done {reader : PartReader} {text : String} (h : reader.rest = []) :
      ReadsTo context reader text []
  | more {reader later : PartReader} {text rest : String} {parts others : List Part}
      (hne : reader.rest ≠ [])
      (hstep : Stepped context reader text (.ok (parts, rest)) later)
      (hrest : ReadsTo context later rest others) : ReadsTo context reader text (parts ++ others)

theorem ReadOut.readsTo {context : ReadContext} {reader : PartReader} {text : String}
    {answer : Except GrammarError (List Part)} {parts : List Part}
    (h : ReadOut context reader text answer) (hanswer : answer = .ok parts) :
    ReadsTo context reader text parts := by
  induction h generalizing parts with
  | done h =>
      obtain rfl := Except.ok.inj hanswer
      exact .done h
  | failed => simp at hanswer
  | @more reader later text rest first answer hne hstep _ ih =>
      cases answer with
      | error error => simp [Except.map] at hanswer
      | ok others =>
          obtain rfl := Except.ok.inj hanswer
          exact .more hne hstep (ih rfl)

end PartReader

end RoutePattern
