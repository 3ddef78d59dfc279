import RoutePattern.Command.Word

/-!
# Arguments

`Usage.read` reads the words of a command line as the switches and operands that a command takes.
Operands are taken from the words as soon as there are enough of them, also in front of a switch,
and words that nothing takes are kept apart.
-/

namespace RoutePattern

/-- How many words an operand takes. -/
inductive Arity where
  | one
  | many
  /-- One word and everything after it, switches among it. -/
  | remainder
deriving DecidableEq, Repr

/-- An operand of a command. -/
structure Operand where
  name : String
  arity : Arity
deriving DecidableEq, Repr

/-- What a command takes. -/
structure Usage where
  program : String
  switches : List Switch
  operands : List Operand
deriving DecidableEq, Repr

/-- Why reading a command line ends early. -/
inductive Interruption where
  /-- The command line asks for help. -/
  | help
  | misuse (error : UsageError)
deriving DecidableEq, Repr

/-- What a command line gives: its switches with their values in order, the words of each operand,
the operands that are not there, and the words that nothing takes. -/
structure Arguments where
  switches : List (Switch × String) := []
  operands : List (List String) := []
  missing : List Operand := []
  extras : List String := []
deriving DecidableEq, Repr

/-- The words that an operand takes, and the words after them. A divider in front of a word or
behind it goes with the word. -/
def Arity.take (arity : Arity) (words : List Word) : Option (List String × List Word) :=
  let (dividers, words) := words.span Word.isDivider
  match words with
  | [] => none
  | word :: rest =>
      if word.isOperand then
        let (more, later) :=
          match arity with
          | .one => rest.span Word.isDivider
          | .many => rest.span Word.isPlain
          | .remainder => (rest, [])
        some ((dividers ++ word :: more).map Word.text, later)
      else none

/-- The values of an operand: its words without the divider. -/
def Arity.values (arity : Arity) (texts : List String) : List String :=
  match arity with
  | .one | .many => texts.erase "--"
  | .remainder => texts

/-- The values of the operands that can be taken from the front of some words, the operands that
cannot, and the words after them. -/
def takeOperands : List Operand → List Word → List (List String) × List Operand × List Word
  | [], words => ([], [], words)
  | operand :: later, words =>
      match operand.arity.take words with
      | none => ([], operand :: later, words)
      | some (texts, rest) =>
          let (values, pending, rest) := takeOperands later rest
          (operand.arity.values texts :: values, pending, rest)

/-- What a word with switches gives: the switches with their values, and whether the next word was
taken as a value. -/
structure TakenSwitches where
  switches : List (Switch × String)
  takesNext : Bool := false
deriving DecidableEq, Repr

/-- The value of a switch for a text in its word. A divider stands for no value at all. -/
def Switch.valueOf (switch : Switch) (text : List Char) : String :=
  if text = ['-', '-'] then switch.absentValue else String.ofList text

/-- A switch with nothing after it in its word. `next` is the next word, if it is an operand. -/
def takeAlone (next : Option String) (switch : Switch) : Except Misuse TakenSwitches :=
  if switch.takesValue then
    match next with
    | some value => .ok { switches := [(switch, value)], takesNext := true }
    | none => .error (.missingValue switch)
  else .ok { switches := [(switch, "")] }

/-- A switch given by its long name, with a text after an equals sign. -/
def takeLong (switch : Switch) (text : List Char) : Except Misuse TakenSwitches :=
  if switch.takesValue then .ok { switches := [(switch, switch.valueOf text)] }
  else .error (.ignoredValue switch (String.ofList text))

/-- A switch given by its letter, with a text that goes with it: its value, or further letters. -/
def takeShort (switches : List Switch) (next : Option String) (switch : Switch) :
    List Char → Except Misuse TakenSwitches
  | [] => takeLong switch []
  | c :: rest =>
      let text := c :: rest
      if switch.takesValue then .ok { switches := [(switch, switch.valueOf text)] }
      else
        match switchOfLetter? switches c with
        | none => .error (.ignoredValue switch (String.ofList text))
        | some other => do
            let taken ←
              if rest.isEmpty then takeAlone next other else takeShort switches next other rest
            return { taken with switches := (switch, "") :: taken.switches }

/-- A word that gives a switch. -/
def GivenSwitch.take (switches : List Switch) (next : Option String) :
    GivenSwitch → Except Misuse TakenSwitches
  | long switch none | short switch none => takeAlone next switch
  | long switch (some text) => takeLong switch text
  | short switch (some text) => takeShort switches next switch text

/-- The text of the first word, if it is an operand. -/
def nextOperand? : List Word → Option String
  | word :: _ => if word.isOperand then some word.text else none
  | [] => none

namespace Usage

/-- Add what a word gave to the arguments found so far. -/
def addSwitches (found : Arguments) (taken : TakenSwitches) : Except Interruption Arguments :=
  if taken.switches.any (·.1 == .help) then .error .help
  else
    .ok { found with switches := found.switches ++ taken.switches }

/-- An interruption by a misuse. -/
def interrupt (usage : Usage) (misuse : Misuse) : Interruption :=
  .misuse ⟨usage.program, misuse⟩

/-- Add what some words give to the arguments found so far. -/
def collect (usage : Usage) (found : Arguments) : List Word → Except Interruption Arguments
  | [] => .ok found
  | word :: rest =>
      match word.role with
      | .switch given => do
          let taken ← (given.take usage.switches (nextOperand? rest)).mapError usage.interrupt
          let found ← addSwitches found taken
          collect usage found (if taken.takesNext then rest.tail else rest)
      | .unknownSwitch => collect usage { found with extras := found.extras ++ [word.text] } rest
      | _ =>
          let (values, missing, later) := takeOperands found.missing (word :: rest)
          if later.length < (word :: rest).length then
            collect usage { found with operands := found.operands ++ values, missing } later
          else
            let extras := word :: rest.takeWhile Word.isPlain
            collect usage { found with extras := found.extras ++ extras.map Word.text }
              (rest.dropWhile Word.isPlain)
termination_by words => words.length
decreasing_by
  · split <;> simp only [List.length_tail, List.length_cons] <;> omega
  · simp
  · assumption
  · have := (List.dropWhile_suffix Word.isPlain (l := rest)).length_le
    simp only [List.length_cons]; omega

/-- The arguments that the words of a command line give. Every operand has to be there. -/
def read (usage : Usage) (words : List String) : Except Interruption Arguments := do
  let words ← (readWords usage.switches words).mapError usage.interrupt
  let found ← usage.collect { missing := usage.operands } words
  if found.missing.isEmpty then return found
  else .error (usage.interrupt (.missingOperands (found.missing.map Operand.name)))

end Usage

end RoutePattern
