import RoutePattern.Proofs.Command.Param
import RoutePattern.Proofs.Command.Tasks

/-!
# Exit status and reports

`Invocation.Refused` lists what a command line is refused for, with the exit status and the message,
and `Invocation.Escapes` lists the few reasons for which a command line ends without an answer.
`run_answers` is the main result: whatever the files hold, a command line ends without an answer for
one of those reasons only, what it is refused for is reported, and its exit status is at most two.
-/

namespace RoutePattern

/-! ## Decoding -/

/-- A setting that leaves the reading of captured texts as it is. -/
def Setting.IsPlain (setting : Setting) : Prop :=
  ∀ decoding, setting ≠ .decode decoding

/-- Plain settings leave the reading of captured texts as it is. -/
theorem decode_change {settings : List Setting} (h : ∀ setting ∈ settings, setting.IsPlain)
    (options : Options) : (options.change settings).decode = options.decode := by
  induction settings generalizing options with
  | nil => rfl
  | cons setting rest ih =>
      obtain ⟨hsetting, hrest⟩ := List.forall_mem_cons.mp h
      have hput : (options.put setting).decode = options.decode := by
        cases setting with
        | decode decoding => exact absurd rfl (hsetting decoding)
        | _ => rfl
      exact (ih hrest (options.put setting)).trans hput

/-- A configuration file has plain settings only. -/
theorem isPlain_of_readSetting {name : String} {value : TomlValue} {setting : Setting}
    (h : readSetting name value = .ok setting) : setting.IsPlain := by
  have htext {name : String} {make : String → Setting} (h : textSetting? name = some make)
      (text : String) : (make text).IsPlain := by
    unfold textSetting? at h
    split at h <;> cases h <;> simp [Setting.IsPlain]
  have htruth {name : String} {make : Bool → Setting} (h : truthSetting? name = some make)
      (truth : Bool) : (make truth).IsPlain := by
    unfold truthSetting? at h
    split at h <;> cases h <;> simp [Setting.IsPlain]
  unfold readSetting at h
  split at h
  · next hmake => cases h; exact htext hmake _
  · cases h
  · next hmake => cases h; exact htruth hmake _
  · cases h
  · cases h

/-- The settings of a document are plain. -/
theorem isPlain_of_readSettings {document : TomlTable} {settings : List Setting}
    (h : readSettings document = .ok settings) : ∀ setting ∈ settings, setting.IsPlain := by
  unfold readSettings at h
  split at h
  · intro setting hsetting
    obtain ⟨_, _, hentry⟩ := exists_of_mem_mapM h hsetting
    exact isPlain_of_readSetting hentry
  · cases h
    simp

variable {files : Files} {invocation : Invocation}

/-- The settings of the configuration file are plain. -/
theorem isPlain_of_readConfig {settings : List Setting}
    (h : invocation.readConfig files = .ok (.ok settings)) :
    ∀ setting ∈ settings, setting.IsPlain := by
  unfold Invocation.readConfig at h
  split at h
  · cases h
  · cases h
    simp
  · split at h
    · cases h
    · next text _ =>
      have h := Except.ok.inj h
      unfold readConfig at h
      split at h
      · exact isPlain_of_readSettings h
      · cases h
      · cases h

/-- The settings of a command line are plain. -/
theorem isPlain_of_read {words : List String} (h : Invocation.read words = .ok invocation) :
    ∀ setting ∈ invocation.settings, setting.IsPlain := by
  obtain ⟨outer, _, h⟩ := bind_eq_ok.mp h
  split at h
  · cases h
  · split at h
    · cases h
    · obtain ⟨inner, _, h⟩ := bind_eq_ok.mp h
      dsimp only at h
      split at h
      · cases h
        intro setting hsetting
        obtain ⟨⟨switch, value⟩, _, hmake⟩ := List.mem_filterMap.mp hsetting
        cases switch <;> simp [Switch.setting?] at hmake <;> simp [← hmake, Setting.IsPlain]
      · cases h

/-! ## The configuration file and the parameters -/

namespace Invocation

/-- The options and parameters that a command line runs with. -/
def RunsWith (files : Files) (invocation : Invocation) (options : Options) (params : Params) :
    Prop :=
  ∃ settings, invocation.readConfig files = .ok (.ok settings) ∧
    options = Options.change {} (settings ++ invocation.settings) ∧ invocation.params = .ok params

/-- The words of parameters, the first of which that is none stands behind `before`. -/
def GivesParams (invocation : Invocation) (before : List String) (word : String) : Prop :=
  ∃ pattern after, invocation.task = .build pattern (before ++ word :: after) ∧
    ∀ earlier ∈ before, ∃ entry, readParam earlier = .ok entry

/-- Why a command line ends without an answer. -/
inductive Escapes (files : Files) (invocation : Invocation) : Prop where
  /-- The path of the configuration file is too long. -/
  | configPath (h : files.read invocation.config = .error .tooLong)
  /-- The configuration file is no text. -/
  | configBytes {bytes : List UInt8} {fault : Utf8.Fault}
      (hread : files.read invocation.config = .ok bytes) (h : Utf8.decode bytes = .error fault)
  /-- An integer of the configuration file has too many digits. -/
  | configNumber {fault : ConfigFault} {number : IntegerFault}
      (hconfig : invocation.readConfig files = .ok (.error fault))
      (h : fault.number? = some number)
  /-- The name of a parameter consists of digits that are no place. -/
  | place {settings : List Setting} {before : List String} {word : String} {name value : List Char}
      (hconfig : invocation.readConfig files = .ok (.ok settings))
      (hparams : invocation.GivesParams before word)
      (hcut : cut '=' word.toList = (name, some value)) (h : UnreadPlace name)
  /-- The task ends without an answer. -/
  | task {options : Options} {params : Params} (hruns : invocation.RunsWith files options params)
      (h : invocation.task.Uncaught files options params)

/-- What a command line is refused for: the exit status and the message. -/
inductive Refused (files : Files) (invocation : Invocation) : Nat → String → Prop where
  | config {fault : ConfigFault} (hconfig : invocation.readConfig files = .ok (.error fault))
      (h : fault.number? = none) : Refused files invocation 2 fault.message
  | param {settings : List Setting} {before : List String} {word : String}
      (hconfig : invocation.readConfig files = .ok (.ok settings))
      (hparams : invocation.GivesParams before word) (h : '=' ∉ word.toList) :
      Refused files invocation 2 ("invalid param format (expected NAME=VALUE): " ++ word)
  | task {options : Options} {params : Params} {status : Nat} {message : String}
      (hruns : invocation.RunsWith files options params)
      (h : invocation.task.Rejected files options params status message) :
      Refused files invocation status message

end Invocation

/-- The first word that is no parameter tells why there are no parameters. -/
theorem params_error_iff {fault : ParamFault} : invocation.params = .error fault ↔
    ∃ before word, invocation.GivesParams before word ∧ readParam word = .error fault := by
  obtain ⟨task, settings, config, debug, verbose⟩ := invocation
  cases task with
  | build pattern words =>
      rw [show Invocation.params ⟨.build pattern words, _, _, _, _⟩ = readParams [] words from rfl,
        readParams_error_iff]
      constructor
      · rintro ⟨before, word, after, rfl, hbefore, hword⟩
        exact ⟨before, word, ⟨pattern, after, rfl, hbefore⟩, hword⟩
      · rintro ⟨before, word, ⟨_, after, htask, hbefore⟩, hword⟩
        obtain ⟨rfl, rfl⟩ := Task.build.inj htask
        exact ⟨before, word, after, rfl, hbefore, hword⟩
  | parse | regex | matching | check =>
      refine iff_of_false (by simp [Invocation.params]) ?_
      rintro ⟨_, _, ⟨_, _, htask, _⟩, _⟩
      cases htask

/-! ## Running -/

variable {options : Options} {params : Params}

/-- A command line with a configuration file and parameters performs its task. -/
theorem Invocation.RunsWith.run_eq (h : invocation.RunsWith files options params) :
    invocation.run files = invocation.perform files options params := by
  obtain ⟨settings, hconfig, rfl, hparams⟩ := h
  rw [Invocation.run, hconfig]
  simp only [bind, Except.bind, hparams]

/-- What is listed ends a command line without an answer. -/
theorem Invocation.Escapes.run_eq (h : invocation.Escapes files) :
    ∃ abort, invocation.run files = .error abort := by
  cases h with
  | configPath h =>
      exact ⟨_, by rw [Invocation.run, Invocation.readConfig, h]; rfl⟩
  | configBytes hread h =>
      exact ⟨_, by rw [Invocation.run, Invocation.readConfig, hread]; simp only [h]; rfl⟩
  | configNumber hconfig h =>
      exact ⟨_, by rw [Invocation.run, hconfig]; simp only [bind, Except.bind, h]; rfl⟩
  | place hconfig hparams hcut h =>
      obtain ⟨fault, hfault⟩ := readParam_unreadPlace hcut h
      have hnone := params_error_iff.mpr ⟨_, _, hparams, hfault⟩
      exact ⟨_, by rw [Invocation.run, hconfig]; simp only [bind, Except.bind, hnone]; rfl⟩
  | task hruns h =>
      obtain ⟨error, abort, herror, habort⟩ := h.run_eq
      refine ⟨abort, ?_⟩
      rw [hruns.run_eq, perform_error herror, habort]
      rfl

/-- What is listed is reported with its exit status. -/
theorem Invocation.Refused.run_eq {status : Nat} {message : String}
    (h : invocation.Refused files status message) : (status = 1 ∨ status = 2) ∧
      ∃ front, invocation.run files = .ok { status, reports := front ++ errorLine message } := by
  cases h with
  | config hconfig h =>
      refine ⟨.inr rfl, "", ?_⟩
      rw [Invocation.run, hconfig]
      simp only [bind, Except.bind, h]
      rfl
  | param hconfig hparams h =>
      have hnone := params_error_iff.mpr ⟨_, _, hparams, readParam_noEquals h⟩
      refine ⟨.inr rfl, "", ?_⟩
      rw [Invocation.run, hconfig]
      simp only [bind, Except.bind, hnone]
      rfl
  | @task options _ _ _ hruns h =>
      obtain ⟨error, herror, houtcome⟩ := h.run_eq
      refine ⟨h.status_eq, invocation.notes options, ?_⟩
      rw [hruns.run_eq, perform_error herror, houtcome]
      rfl

/-- A command line that has been read ends without an answer, or it is refused, or its task is
done. -/
theorem Invocation.run_cases {words : List String} (hread : Invocation.read words = .ok invocation)
    (files : Files) :
    invocation.Escapes files ∨ (∃ status message, invocation.Refused files status message) ∨
      ∃ options params outcome, invocation.RunsWith files options params ∧
        invocation.task.run files options params = .ok outcome := by
  cases hconfig : invocation.readConfig files with
  | error abort =>
      left
      unfold readConfig at hconfig
      split at hconfig
      · next hpath => exact .configPath hpath
      · cases hconfig
      · next bytes hbytes =>
        split at hconfig
        · next fault hdecoded => exact .configBytes hbytes hdecoded
        · cases hconfig
  | ok config =>
      cases config with
      | error fault =>
          cases hnumber : fault.number? with
          | some number => exact .inl (.configNumber hconfig hnumber)
          | none => exact .inr (.inl ⟨_, _, .config hconfig hnumber⟩)
      | ok settings =>
          cases hparams : invocation.params with
          | error fault =>
              obtain ⟨before, word, hbefore, hword⟩ := params_error_iff.mp hparams
              obtain ⟨_, hequals⟩ | ⟨name, value, hcut, hplace⟩ := readParam_error_cases hword
              · exact .inr (.inl ⟨_, _, .param hconfig hbefore hequals⟩)
              · exact .inl (.place hconfig hbefore hcut hplace)
          | ok params =>
              have hruns : invocation.RunsWith files _ params := ⟨settings, hconfig, rfl, hparams⟩
              have hplain : ∀ setting ∈ settings ++ invocation.settings, setting.IsPlain :=
                List.forall_mem_append.mpr ⟨isPlain_of_readConfig hconfig, isPlain_of_read hread⟩
              have hdecode (text : String) :
                  (Options.change {} (settings ++ invocation.settings)).decode text
                    = .ok (.text text) := by
                rw [decode_change hplain]
              obtain ⟨outcome, hdone⟩ | huncaught | ⟨status, message, hrejected⟩ :=
                invocation.task.run_cases files params hdecode
              · exact .inr (.inr ⟨_, params, outcome, hruns, hdone⟩)
              · exact .inl (.task hruns huncaught)
              · exact .inr (.inl ⟨status, message, .task hruns hrejected⟩)

/-- A command line ends without an answer only for the reasons that `Escapes` lists. Otherwise its
exit status is at most two, and what it is refused for is reported with status one or two. -/
theorem run_answers {words : List String} (hread : Invocation.read words = .ok invocation)
    (files : Files) :
    ((∃ abort, invocation.run files = .error abort) ↔ invocation.Escapes files) ∧
      (∀ status message, invocation.Refused files status message →
        (status = 1 ∨ status = 2) ∧
          ∃ front, invocation.run files = .ok { status, reports := front ++ errorLine message }) ∧
      ∀ outcome, invocation.run files = .ok outcome → outcome.status ≤ 2 ∧
        ((∃ message, invocation.Refused files outcome.status message) ∨
          ∃ options params done, invocation.RunsWith files options params ∧
            invocation.task.run files options params = .ok done ∧
            outcome = { done with reports := invocation.notes options ++ done.reports }) := by
  refine ⟨⟨fun ⟨abort, habort⟩ => ?_, Invocation.Escapes.run_eq⟩,
    fun status message => Invocation.Refused.run_eq, fun outcome houtcome => ?_⟩
  · obtain hescapes | ⟨_, _, hrefused⟩ | ⟨_, _, _, hruns, hdone⟩ := Invocation.run_cases hread files
    · exact hescapes
    · obtain ⟨_, _, hrun⟩ := hrefused.run_eq
      simp [hrun] at habort
    · rw [hruns.run_eq, perform_ok hdone] at habort
      cases habort
  · obtain hescapes | ⟨status, message, hrefused⟩ | ⟨options, params, done, hruns, hdone⟩ :=
      Invocation.run_cases hread files
    · obtain ⟨abort, habort⟩ := hescapes.run_eq
      simp [houtcome] at habort
    · obtain ⟨hstatus, front, hrun⟩ := hrefused.run_eq
      obtain rfl := Except.ok.inj (houtcome.symm.trans hrun)
      exact ⟨by dsimp only; omega, .inl ⟨message, hrefused⟩⟩
    · rw [hruns.run_eq, perform_ok hdone] at houtcome
      obtain rfl := Except.ok.inj houtcome
      have hstatus := Task.status_le_of_run hdone
      exact ⟨by dsimp only; omega, .inr ⟨options, params, done, hruns, hdone, rfl⟩⟩

/-- A place in digits that stand in no decimal number ends the command. One in words is a name. -/
theorem run_answers_superscript :
    let superscript : Invocation :=
      ⟨.build "/:a" ["²=x"], [], .ofText standardConfig, false, false⟩
    let worded : Invocation := ⟨.build "/:a" ["two=x"], [], .ofText standardConfig, false, false⟩
    Invocation.read ["build", "-p", "²=x", "/:a"] = .ok superscript ∧
      (∃ abort, superscript.run Files.none = .error abort) ∧
      Invocation.read ["build", "-p", "two=x", "/:a"] = .ok worded ∧
      ¬ worded.Escapes Files.none := by
  intro superscript worded
  have hread : Invocation.read ["build", "-p", "²=x", "/:a"] = .ok superscript :=
    toOption_eq_some.mp (by decide +kernel)
  have hworded : Invocation.read ["build", "-p", "two=x", "/:a"] = .ok worded :=
    toOption_eq_some.mp (by decide +kernel)
  have hconfig : superscript.readConfig Files.none = .ok (.ok []) := rfl
  have hdigit : isDigit '²'.toNat = true ∧ isDecimalDigit '²'.toNat = false := by decide +kernel
  have hplace : UnreadPlace ['²'] :=
    ⟨by simp, List.forall_mem_singleton.mpr hdigit.1, .inr ⟨'²', by simp, hdigit.2⟩⟩
  have hescapes : superscript.Escapes Files.none :=
    .place hconfig (show superscript.GivesParams [] "²=x" from ⟨"/:a", [], rfl, by simp⟩)
      (show cut '=' "²=x".toList = (['²'], some ['x']) by decide +kernel) hplace
  refine ⟨hread, (run_answers hread _).1.mpr hescapes, hworded, fun h => ?_⟩
  obtain ⟨abort, habort⟩ := (run_answers hworded _).1.mpr h
  have hdone : (worded.run Files.none).toOption.isSome = true := by decide +kernel
  simp [habort, Except.toOption] at hdone

end RoutePattern
