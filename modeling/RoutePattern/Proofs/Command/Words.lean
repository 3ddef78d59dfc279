import RoutePattern.Command.Invocation
import RoutePattern.Proofs.Command.Param
import RoutePattern.Proofs.Expr.Running

/-!
# Command lines that build a path

`buildWords` is the command line that builds a path of a pattern from parameters, and
`read_buildWords` the main result: it is read as that, whatever the pattern and the values are.
-/

namespace RoutePattern

/-- The words that give parameters. -/
def paramWords (given : List (KeyName × String)) : List String :=
  given.flatMap fun entry => ["-p", paramWord entry.1 entry.2]

/-- The words of a command line that builds a path of a pattern from parameters. -/
def buildWords (given : List (KeyName × String)) (source : String) : List String :=
  Verb.build.label :: paramWords given ++ ["--", source]

/-- The invocation of a task without any switch. -/
def Invocation.ofTask (task : Task) : Invocation where
  task
  settings := []
  config := .ofText standardConfig
  debug := false
  verbose := false

/-- No name begins with a dash. -/
def Undashed (given : List (KeyName × String)) : Prop :=
  ∀ entry ∈ given, entry.1.text.toList.head? ≠ some '-'

/-! ## Roles -/

/-- A word that does not begin with a dash is an operand. -/
theorem readRole_operand (switches : List Switch) {text : String}
    (h : text.toList.head? ≠ some '-') : readRole switches text = .ok .operand := by
  unfold readRole
  split
  · next htext => simp [htext] at h
  · next htext => simp [htext] at h
  · rfl

/-- The word of a parameter is an operand. -/
theorem readRole_paramWord (switches : List Switch) {name : KeyName}
    (h : name.text.toList.head? ≠ some '-') (value : String) :
    readRole switches (paramWord name value) = .ok .operand := by
  refine readRole_operand switches ?_
  cases htext : name.text.toList with
  | nil => simp [paramWord, htext]
  | cons c rest => simpa [paramWord, htext] using h

/-- The words of parameters with their roles. -/
def paramRoles (role : Role) (given : List (KeyName × String)) : List Word :=
  given.flatMap fun entry => [⟨"-p", role⟩, ⟨paramWord entry.1 entry.2, .operand⟩]

variable {given : List (KeyName × String)} {switches : List Switch} {role : Role}

/-- The words of parameters are told apart, and what follows the divider is an operand. -/
theorem readWords_paramWords (hrole : readRole switches "-p" = .ok role) (hne : role ≠ .divider)
    (hundashed : Undashed given) (source : String) :
    readWords switches (paramWords given ++ ["--", source])
      = .ok (paramRoles role given ++ [⟨"--", .divider⟩, ⟨source, .operand⟩]) := by
  induction given with
  | nil => rfl
  | cons entry rest ih =>
      obtain ⟨hentry, hrest⟩ := List.forall_mem_cons.mp hundashed
      show readWords switches ("-p" :: paramWord entry.1 entry.2 ::
        (paramWords rest ++ ["--", source])) = _
      rw [readWords, hrole, readWords, readRole_paramWord switches hentry, ih hrest]
      simp only [bind, Except.bind, if_neg hne]
      rfl

/-- The words of parameters keep their texts. -/
theorem map_text_paramRoles (role : Role) (given : List (KeyName × String)) :
    (paramRoles role given).map Word.text = paramWords given := by
  simp [paramRoles, paramWords, List.map_flatMap]

/-! ## Arguments -/

/-- An operand that stands in front takes all words. -/
theorem mainUsage_read {word : String} {rest : List String} {words : List Word}
    (hword : readRole [.help] word = .ok .operand) (hrest : readWords [.help] rest = .ok words)
    (htexts : words.map Word.text = rest) :
    mainUsage.read (word :: rest) = .ok { operands := [word :: rest] } := by
  have hwords : readWords mainUsage.switches (word :: rest) = .ok (⟨word, .operand⟩ :: words) := by
    rw [mainUsage, readWords, hword, hrest]
    rfl
  have htake : Arity.take .remainder (⟨word, .operand⟩ :: words) = some (word :: rest, []) := by
    rw [Arity.take, List.span_eq_takeWhile_dropWhile]
    simp [Word.isDivider, Word.isOperand, htexts]
  have hcollect : mainUsage.collect { missing := mainUsage.operands } (⟨word, .operand⟩ :: words)
      = .ok { operands := [word :: rest] } := by
    rw [Usage.collect]
    simp [mainUsage, takeOperands, htake, Arity.values, Usage.collect]
  rw [Usage.read, hwords]
  simp only [mapError_ok, bind, Except.bind, hcollect]
  rfl

/-- Parameters are collected in their order, each from two words. -/
theorem collect_paramRoles (usage : Usage) (found : Arguments) (rest : List Word) :
    usage.collect found (paramRoles (.switch (.short .param none)) given ++ rest) =
      let params := given.map fun entry => (Switch.param, paramWord entry.1 entry.2)
      usage.collect { found with switches := found.switches ++ params } rest := by
  induction given generalizing found with
  | nil => simp [paramRoles]
  | cons entry later ih =>
      show usage.collect found (⟨"-p", .switch (.short .param none)⟩ ::
        ⟨paramWord entry.1 entry.2, .operand⟩ :: (paramRoles _ later ++ rest)) = _
      rw [Usage.collect]
      simp [GivenSwitch.take, takeAlone, nextOperand?, Word.isOperand, Switch.takesValue,
        Usage.addSwitches, bind, Except.bind, ih]

/-- The pattern behind the divider is the operand. -/
theorem collect_divider (found : Arguments) (source : String)
    (hmissing : found.missing = Verb.build.operands) :
    Verb.build.usage.collect found [⟨"--", .divider⟩, ⟨source, .operand⟩] =
      .ok { found with operands := found.operands ++ [[source]], missing := [] } := by
  have htake : Arity.take .one [⟨"--", .divider⟩, ⟨source, .operand⟩]
      = some (["--", source], []) := by
    simp [Arity.take, List.span_eq_takeWhile_dropWhile, Word.isDivider, Word.isOperand]
  rw [Usage.collect]
  simp [hmissing, Verb.operands, takeOperands, htake, Arity.values, Usage.collect]

/-- The arguments of a command line that builds a path. -/
def buildArguments (given : List (KeyName × String)) (source : String) : Arguments where
  switches := given.map fun entry => (Switch.param, paramWord entry.1 entry.2)
  operands := [[source]]

/-- The words of a command line that builds a path give its arguments. -/
theorem buildUsage_read (hundashed : Undashed given) (source : String) :
    Verb.build.usage.read (paramWords given ++ ["--", source]) =
      .ok (buildArguments given source) := by
  have hparam : readRole Verb.build.usage.switches "-p" = .ok (.switch (.short .param none)) := rfl
  have hwords := readWords_paramWords hparam (by simp) hundashed source
  rw [Usage.read, hwords]
  simp only [mapError_ok, bind, Except.bind, collect_paramRoles]
  rw [collect_divider _ _ rfl]
  rfl

/-- What the arguments of a command line that builds a path ask for. -/
theorem ofArguments_buildArguments (given : List (KeyName × String)) (source : String) :
    Invocation.ofArguments .build (buildArguments given source) = .ofTask
      (.build source (given.map fun entry => paramWord entry.1 entry.2)) := by
  have hentries : ∀ entry ∈ (buildArguments given source).switches, entry.1 = .param := by
    intro entry hentry
    obtain ⟨_, _, rfl⟩ := List.mem_map.mp hentry
    rfl
  have hnone (switch : Switch) (h : Switch.param ≠ switch) :
      (buildArguments given source).valuesOf switch = [] ∧
        (buildArguments given source).has switch = false := by
    constructor
    · rw [Arguments.valuesOf, List.filter_eq_nil_iff.mpr, List.map_nil]
      intro entry hentry
      simp [hentries entry hentry, h]
    · rw [Arguments.has, List.any_eq_false]
      intro entry hentry
      simp [hentries entry hentry, h]
  have hparams : (buildArguments given source).valuesOf .param
      = given.map fun entry => paramWord entry.1 entry.2 := by
    simp [buildArguments, Arguments.valuesOf, List.filter_map, Function.comp_def]
  have hsettings :
      (Invocation.ofArguments .build (buildArguments given source)).settings = [] := by
    refine List.filterMap_eq_nil_iff.mpr fun entry hentry => ?_
    obtain ⟨_, _, rfl⟩ := List.mem_map.mp hentry
    rfl
  rw [Invocation.ofArguments] at hsettings ⊢
  dsimp only at hsettings
  rw [hsettings, (hnone .config (by simp)).1, (hnone .debug (by simp)).2,
    (hnone .verbose (by simp)).2, Verb.task, hparams]
  rfl

/-- A command line that builds a path is read as that. -/
theorem read_buildWords (hundashed : Undashed given) (source : String) :
    Invocation.read (buildWords given source) = .ok (.ofTask
      (.build source (given.map fun entry => paramWord entry.1 entry.2))) := by
  have hverb : readRole [.help] Verb.build.label = .ok .operand := rfl
  have hparam : readRole [.help] "-p" = .ok .unknownSwitch := rfl
  have houter := mainUsage_read hverb (readWords_paramWords hparam (by simp) hundashed source)
    (by simp [map_text_paramRoles])
  rw [buildWords, Invocation.read, List.cons_append, houter]
  show (do
    let inner ← Verb.build.usage.read (paramWords given ++ ["--", source])
    _) = _
  rw [buildUsage_read hundashed source, ← ofArguments_buildArguments given source]
  rfl

end RoutePattern
