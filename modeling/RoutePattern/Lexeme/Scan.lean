import RoutePattern.Lexeme

/-!
# Scanning a pattern into lexemes

`Scanner` is a scan in progress: the lexemes found so far, the offset reached and the characters
left. `Scanner.run` carries a scan to the end of the pattern. A scan that fails stays in front of
the construct at fault, and a scan that has ended may be run again, each run noting the end once
more. `scan` is a single run over a fresh pattern.
-/

namespace RoutePattern

/-- What can be wrong with the text of a pattern. -/
inductive ScanFault where
  | danglingEscape
  | missingName
  | leadingQuestion
  | capturingGroup
  | unbalanced
  | missingPattern
deriving DecidableEq, Repr

/-- The description of a fault, without its place. -/
def ScanFault.message : ScanFault → String
  | danglingEscape => "unexpected end of pattern after '\\'"
  | missingName => "missing parameter name"
  | leadingQuestion => "pattern cannot start with '?'"
  | capturingGroup => "capturing groups are not allowed"
  | unbalanced => "unbalanced pattern"
  | missingPattern => "missing pattern"

/-- A fault at an offset of the pattern. -/
structure ScanError where
  fault : ScanFault
  index : Nat
deriving DecidableEq, Repr

/-- The first lexeme of a text: its kind, its value, and how many characters it takes beyond its
first one. -/
structure Head where
  kind : Kind
  value : List Char
  extra : Nat
deriving DecidableEq, Repr

/-- The expression at the front of `text`, up to the parenthesis that closes it. `depth` groups are
open inside it, and `offset` is the distance from its opening parenthesis. Escapes are passed over
as pairs, and each nested group has to be a non-capturing one. -/
def groupBody (depth offset : Nat) : List Char → Except ScanError (List Char)
  | [] => .error ⟨.unbalanced, 0⟩
  | ['\\'] => .error ⟨.unbalanced, 0⟩
  | '\\' :: c :: rest => do
      let body ← groupBody depth (offset + 2) rest
      return '\\' :: c :: body
  | ')' :: rest =>
      match depth with
      | 0 => .ok []
      | outer + 1 => do
          let body ← groupBody outer (offset + 1) rest
          return ')' :: body
  | '(' :: rest =>
      if rest.head? = some '?' then do
        let body ← groupBody (depth + 1) (offset + 1) rest
        return '(' :: body
      else .error ⟨.capturingGroup, offset⟩
  | c :: rest => do
      let body ← groupBody depth (offset + 1) rest
      return c :: body

/-- The expression that follows an opening parenthesis. -/
def groupHead (rest : List Char) : Except ScanError Head :=
  if rest.head? = some '?' then .error ⟨.leadingQuestion, 1⟩
  else do
    let body ← groupBody 0 1 rest
    if body.isEmpty then .error ⟨.missingPattern, 0⟩
    else return ⟨.pattern, body, body.length + 1⟩

/-- The first lexeme of the text `c :: rest`. Offsets of errors count from `c`. -/
def Head.read (c : Char) (rest : List Char) : Except ScanError Head :=
  if isModifierChar c then .ok ⟨.modifier, [c], 0⟩
  else if c = '\\' then
    match rest with
    | [] => .error ⟨.danglingEscape, 0⟩
    | escaped :: _ => .ok ⟨.escapedChar, [escaped], 1⟩
  else if c = '\x7b' then .ok ⟨.opening, [c], 0⟩
  else if c = '\x7d' then .ok ⟨.closing, [c], 0⟩
  else if c = ':' then
    let name := rest.takeWhile isNameChar
    if name.isEmpty then .error ⟨.missingName, 0⟩
    else .ok ⟨.name, name, name.length⟩
  else if c = '(' then groupHead rest
  else .ok ⟨.char, [c], 0⟩

/-- How far a scan of a text got: the lexemes found, the text left, and the error that stopped it,
if one did. -/
structure Progress where
  lexemes : List Lexeme
  rest : List Char
  error : Option ScanError
deriving DecidableEq, Repr

/-- Scan `text`, whose first character has the offset `position`, up to its end or the first
error. -/
def Progress.ofText (position : Nat) : List Char → Progress
  | [] => ⟨[], [], none⟩
  | c :: rest =>
      match Head.read c rest with
      | .error error => ⟨[], c :: rest, some ⟨error.fault, position + error.index⟩⟩
      | .ok head =>
          let later := ofText (position + 1 + head.extra) (rest.drop head.extra)
          let lexeme : Lexeme := ⟨head.kind, position, String.ofList head.value⟩
          ⟨lexeme :: later.lexemes, later.rest, later.error⟩
termination_by text => text.length
decreasing_by simp only [List.length_drop, List.length_cons]; omega

/-- A scan in progress. -/
structure Scanner where
  lexemes : List Lexeme
  position : Nat
  rest : List Char
deriving DecidableEq, Repr

namespace Scanner

/-- A scan that has not begun. -/
def start (source : String) : Scanner :=
  ⟨[], 0, source.toList⟩

/-- Carry a scan on to the end of the pattern. The answer is every lexeme found so far and a lexeme
for the end; after an error the scan stays in front of the construct at fault. -/
def run (scanner : Scanner) : Except ScanError (List Lexeme) × Scanner :=
  let progress := Progress.ofText scanner.position scanner.rest
  let position := scanner.position + (scanner.rest.length - progress.rest.length)
  let found := scanner.lexemes ++ progress.lexemes
  match progress.error with
  | some error => (.error error, ⟨found, position, progress.rest⟩)
  | none =>
      let all := found ++ [⟨.ending, position, ""⟩]
      (.ok all, ⟨all, position, progress.rest⟩)

/-- The answers of `count` runs of one scan. -/
def runs : Nat → Scanner → List (Except ScanError (List Lexeme))
  | 0, _ => []
  | count + 1, scanner =>
      let (answer, later) := scanner.run
      answer :: runs count later

end Scanner

/-- The lexemes of a pattern, the last of them its end. -/
def scan (source : String) : Except ScanError (List Lexeme) :=
  (Scanner.start source).run.1

end RoutePattern
