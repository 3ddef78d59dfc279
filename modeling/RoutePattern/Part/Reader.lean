import RoutePattern.Escape
import RoutePattern.Lexeme.Scan
import RoutePattern.Options
import RoutePattern.Part

/-!
# Reading lexemes into parts

`PartReader` reads a list of lexemes into parts. Its state is the lexemes left, the number of
unnamed keys met, and the groups that are open; `PartReader.read` reads on from that state to the
end and may be called again, also after it has failed. `parse` scans a pattern and reads it.
-/

namespace RoutePattern

/-- A lexeme that does not fit: its offset, the kind that would have fitted, its own kind, and the
offset of the innermost open group. -/
structure GrammarError where
  index : Int
  expected : Kind
  actual : Kind
  group : Option Int
deriving DecidableEq, Repr

/-- The description of a lexeme that does not fit. -/
def GrammarError.message (error : GrammarError) : String :=
  let note := match error.group with
    | some opened => " (group opened at " ++ toString opened ++ ")"
    | none => ""
  "unexpected " ++ error.actual.label ++ " at " ++ toString error.index ++ ", expected "
    ++ error.expected.label ++ note

/-- Take the first lexeme if it is of a kind; the answer is its value and the lexemes left. -/
def take (kind : Kind) : List Lexeme → Option String × List Lexeme
  | [] => (none, [])
  | lexeme :: rest =>
      if lexeme.kind = kind then (some lexeme.value, rest) else (none, lexeme :: rest)

/-- Taking never adds lexemes. -/
theorem take_length_le (kind : Kind) (lexemes : List Lexeme) :
    (take kind lexemes).2.length ≤ lexemes.length := by
  cases lexemes with
  | nil => simp [take]
  | cons lexeme rest => by_cases h : lexeme.kind = kind <;> simp [take, h]

/-- A lexeme that is taken is gone. -/
theorem take_length_lt {kind : Kind} {lexemes rest : List Lexeme} {value : String}
    (h : take kind lexemes = (some value, rest)) : rest.length < lexemes.length := by
  cases lexemes with
  | nil => simp [take] at h
  | cons lexeme later =>
    by_cases hkind : lexeme.kind = kind
    · simp only [take, hkind, ↓reduceIte, Prod.mk.injEq] at h
      simp [← h.2]
    · simp [take, hkind] at h

/-- The literal characters in front, escaped or not, and the lexemes after them. -/
def takeText : List Lexeme → String × List Lexeme
  | [] => ("", [])
  | lexeme :: rest =>
      if lexeme.kind = .char ∨ lexeme.kind = .escapedChar then
        let (text, later) := takeText rest
        (lexeme.value ++ text, later)
      else ("", lexeme :: rest)

/-- Taking text never adds lexemes. -/
theorem takeText_length_le (lexemes : List Lexeme) :
    (takeText lexemes).2.length ≤ lexemes.length := by
  induction lexemes with
  | nil => simp [takeText]
  | cons lexeme rest ih =>
    rw [takeText]
    split
    · simpa using Nat.le_succ_of_le ih
    · simp

/-- The name and the expression in front, if there is at least one of them, and the lexemes after
them. -/
def takeCapture (lexemes : List Lexeme) : Option ((Option String × Option String) × List Lexeme) :=
  let (name, afterName) := take .name lexemes
  let (pattern, rest) := take .pattern afterName
  if name.isSome || pattern.isSome then some ((name, pattern), rest) else none

/-- A capture that is taken is gone. -/
theorem takeCapture_length_lt {lexemes rest : List Lexeme} {capture : Option String × Option String}
    (h : takeCapture lexemes = some (capture, rest)) : rest.length < lexemes.length := by
  unfold takeCapture at h
  have hname := take_length_le .name lexemes
  match hn : take .name lexemes, hp : take .pattern (take .name lexemes).2 with
  | (none, afterName), (none, later) => simp_all
  | (some name, afterName), (pattern, later) =>
    have hle := take_length_le .pattern (take .name lexemes).2
    have hlt := take_length_lt hn
    simp_all
    omega
  | (none, afterName), (some pattern, later) =>
    have hlt := take_length_lt hp
    simp_all
    omega

/-- Whether a text occurs within another. -/
def occursIn (needle : List Char) : List Char → Bool
  | [] => needle.isEmpty
  | c :: rest => needle.isPrefixOf (c :: rest) || occursIn needle rest

/-- The state of reading: the lexemes left, how many unnamed keys have been met, and the offsets of
the groups that are open, innermost first. -/
structure PartReader where
  rest : List Lexeme
  unnamed : Nat := 0
  openGroups : List Int := []
deriving DecidableEq, Repr

/-- What does not change while reading: the lexeme that stands in where none is left, the characters
that go with the key they stand in front of, and the expression of a key that has none. -/
structure ReadContext where
  last : Lexeme
  prefixes : String
  standardPattern : String
deriving DecidableEq, Repr

namespace PartReader

/-- The lexeme to be read next. -/
def next (context : ReadContext) (reader : PartReader) : Lexeme :=
  reader.rest.headD context.last

/-- The error at the next lexeme, where another kind would have fitted. -/
def unexpected (context : ReadContext) (reader : PartReader) (expected : Kind) : GrammarError :=
  let lexeme := reader.next context
  ⟨lexeme.index, expected, lexeme.kind, reader.openGroups.head?⟩

/-- A stretch of literal text as parts: none if it is empty. -/
def literal (text : String) : List Part :=
  if text.isEmpty then [] else [.text text]

/-- Read a key outside of groups, after its name and expression. `char` is the character in front of
it. One that is no prefix joins the literal text `text` instead. -/
def readKey (context : ReadContext) (reader : PartReader) (text char : String)
    (name pattern : Option String) : List Part × PartReader :=
  let isBefore := occursIn char.toList context.prefixes.toList
  let text := if isBefore then text else text ++ char
  let (modifier, rest) := take .modifier reader.rest
  let key : Key :=
    { name := match name with
        | some name => .named name
        | none => .positional reader.unnamed
      before := if isBefore then char else ""
      pattern := pattern.getD context.standardPattern
      modifier := modifier.getD "" }
  let unnamed := if name.isSome then reader.unnamed else reader.unnamed + 1
  (literal text ++ [.key key], { reader with rest, unnamed })

/-- Read a group, after its opening brace at the offset `opened`. -/
def readGroup (context : ReadContext) (reader : PartReader) (opened : Int) :
    Except GrammarError Key × PartReader :=
  let (before, afterBefore) := takeText reader.rest
  let (name, afterName) := take .name afterBefore
  let (pattern, afterPattern) := take .pattern afterName
  let (after, afterText) := takeText afterPattern
  match take .closing afterText with
  | (none, rest) =>
      let failed := { reader with rest, openGroups := opened :: reader.openGroups }
      (.error (failed.unexpected context .closing), failed)
  | (some _, afterClosing) =>
      let name := name.getD ""
      let pattern := pattern.getD ""
      let (modifier, rest) := take .modifier afterClosing
      let isUnnamed := name.isEmpty && !pattern.isEmpty
      let key : Key :=
        { name := if isUnnamed then .positional reader.unnamed else .named name
          before
          after
          pattern := if !name.isEmpty && pattern.isEmpty then context.standardPattern else pattern
          modifier := modifier.getD "" }
      (.ok key, { reader with rest, unnamed := reader.unnamed + isUnnamed.toNat })

/-- Read what comes next: some parts, and the literal text that is not yet one. `text` is the literal
text in front. -/
def step (context : ReadContext) (reader : PartReader) (text : String) :
    Except GrammarError (List Part × String) × PartReader :=
  let (char, afterChar) := take .char reader.rest
  match takeCapture afterChar, char with
  | some ((name, pattern), rest), _ =>
      let (parts, later) := readKey context { reader with rest } text (char.getD "") name pattern
      (.ok (parts, ""), later)
  | none, some char => (.ok ([], text ++ char), { reader with rest := afterChar })
  | none, none =>
      match take .escapedChar reader.rest, take .opening reader.rest, take .ending reader.rest with
      | (some char, rest), _, _ => (.ok ([], text ++ char), { reader with rest })
      | _, (some _, rest), _ =>
          let (answer, later) :=
            readGroup context { reader with rest } (reader.next context).index
          (answer.map fun key => (literal text ++ [.key key], ""), later)
      | _, _, (some _, rest) => (.ok (literal text, ""), { reader with rest })
      | _, _, _ => (.error (reader.unexpected context .ending), reader)

/-- Reading a key takes no lexemes back. -/
theorem readKey_length_le (context : ReadContext) (reader : PartReader) (text char : String)
    (name pattern : Option String) :
    (readKey context reader text char name pattern).2.rest.length ≤ reader.rest.length :=
  take_length_le .modifier reader.rest

/-- Reading a group takes no lexemes back. -/
theorem readGroup_length_le (context : ReadContext) (reader : PartReader) (opened : Int) :
    (readGroup context reader opened).2.rest.length ≤ reader.rest.length := by
  have hbefore := takeText_length_le reader.rest
  have hname := take_length_le .name (takeText reader.rest).2
  have hpattern := take_length_le .pattern (take .name (takeText reader.rest).2).2
  have hafter := takeText_length_le (take .pattern (take .name (takeText reader.rest).2).2).2
  have hclosing := take_length_le .closing
    (takeText (take .pattern (take .name (takeText reader.rest).2).2).2).2
  simp only [readGroup]
  split
  · next heq =>
    rw [heq] at hclosing
    dsimp only at hclosing ⊢
    omega
  · next afterClosing heq =>
    rw [heq] at hclosing
    have hmodifier := take_length_le .modifier afterClosing
    dsimp only at hclosing ⊢
    omega

/-- A step that succeeds takes at least one lexeme. -/
theorem step_length_lt {context : ReadContext} {reader later : PartReader} {text : String}
    {result : List Part × String} (h : step context reader text = (.ok result, later)) :
    later.rest.length < reader.rest.length := by
  have hchar := take_length_le .char reader.rest
  unfold step at h
  dsimp only at h
  split at h
  · next name pattern rest heq =>
    have hlt := takeCapture_length_lt heq
    have hle := readKey_length_le context { reader with rest } text
      ((take .char reader.rest).1.getD "") name pattern
    rw [← (Prod.mk.inj h).2]
    dsimp only at hle
    omega
  · next char heq =>
    rw [← (Prod.mk.inj h).2]
    exact take_length_lt (Prod.ext heq rfl)
  · split at h
    · next char rest heq =>
      rw [← (Prod.mk.inj h).2]
      exact take_length_lt heq
    · next rest heq _ =>
      have hlt := take_length_lt heq
      have hle := readGroup_length_le context { reader with rest } (reader.next context).index
      rw [← (Prod.mk.inj h).2]
      dsimp only at hle
      omega
    · next rest heq _ _ =>
      rw [← (Prod.mk.inj h).2]
      exact take_length_lt heq
    · simp at h

/-- Read every lexeme that is left, with the literal text `text` in front of them. -/
def readFrom (context : ReadContext) (reader : PartReader) (text : String) :
    Except GrammarError (List Part) × PartReader :=
  if reader.rest.isEmpty then (.ok [], reader)
  else
    match _hstep : step context reader text with
    | (.error error, later) => (.error error, later)
    | (.ok (parts, text), later) =>
        let (answer, final) := readFrom context later text
        (answer.map (parts ++ ·), final)
termination_by reader.rest.length
decreasing_by exact step_length_lt _hstep

/-- Read on to the end. Literal text counts only once something follows it. -/
def read (context : ReadContext) (reader : PartReader) :
    Except GrammarError (List Part) × PartReader :=
  readFrom context reader ""

/-- The answers of `count` readings in a row from one state. -/
def reads (context : ReadContext) : Nat → PartReader → List (Except GrammarError (List Part))
  | 0, _ => []
  | count + 1, reader =>
      let (answer, later) := reader.read context
      answer :: reads context count later

end PartReader

/-- What does not change while lexemes are read under some options. -/
def ReadContext.of (options : Options) (lexemes : List Lexeme) : ReadContext :=
  { last := lexemes.getLastD default
    prefixes := options.prefixes
    standardPattern := defaultPattern options.delimiter }

/-- Read a list of lexemes. -/
def readLexemes (options : Options) (lexemes : List Lexeme) : Except GrammarError (List Part) :=
  (PartReader.read (.of options lexemes) { rest := lexemes }).1

/-- Why a text is no pattern. -/
inductive PatternError where
  | lexical (error : ScanError)
  | grammatical (error : GrammarError)
deriving DecidableEq, Repr

/-- Read a pattern into its parts. -/
def parse (options : Options) (source : String) : Except PatternError (List Part) :=
  match scan source with
  | .error error => .error (.lexical error)
  | .ok lexemes => (readLexemes options lexemes).mapError .grammatical

end RoutePattern
