import RoutePattern.Command.Run
import RoutePattern.Proofs.Pattern.Grouping
import RoutePattern.Proofs.Pattern.Ready
import RoutePattern.Proofs.Pattern.Satisfied
import RoutePattern.Proofs.Table.Checked

/-!
# How tasks end

A task is done, it is rejected with a message (`Task.Rejected`), or it ends without an answer, which
happens for the few reasons that `Task.Uncaught` lists. `Task.run_cases` is the main result: under
options that take captured texts as they are, one of the three holds.
-/

namespace RoutePattern

/-- No files at all. -/
def Files.none : Files where
  read _ := .error .notFound

/-- An error in compiling what a task is about. -/
inductive Task.Faulty (options : Options) : Task → CompileError → Prop where
  | parse {source : String} {error : PatternError}
      (h : RoutePattern.parse options source = .error error) :
      Faulty options (.parse source) (.pattern source error)
  | regex {sources : List String} {error : CompileError}
      (h : ((pathOfPatterns sources).compile options []).1 = .error error) :
      Faulty options (.regex sources) error
  | matching {source : String} {texts : List String} {error : CompileError}
      (h : Matcher.ofPath options (.pattern source) = .error error) :
      Faulty options (.matching source texts) error
  | build {source : String} {words : List String} {error : CompileError}
      (h : Builder.ofPattern options source = .error error) :
      Faulty options (.build source words) error

/-- The text of a route table in a file. -/
def Files.Holds (files : Files) (file : FilePath) (text : String) : Prop :=
  ∃ bytes decoded, files.read file = .ok bytes ∧ Utf8.decode bytes = .ok decoded ∧
    text = String.ofList (plainLines decoded)

/-- Why a task ends without an answer. -/
inductive Task.Uncaught (files : Files) (options : Options) (params : Params) : Task → Prop where
  /-- An expression has a fault that is not reported. -/
  | expression {task : Task} {fault : ExprFault} (h : task.Faulty options (.expression fault))
      (hfault : fault.isReported = false) : Uncaught files options params task
  /-- The search in a text fails. That takes a possessive repetition. -/
  | search {source text : String} {texts : List String} {matcher : Matcher} {fault : SearchFault}
      (hmatcher : Matcher.ofPath options (.pattern source) = .ok matcher)
      (hpossessive : matcher.expression.expr.hasPossessive = true) (htext : text ∈ texts)
      (h : matcher.expression.search text = .error fault) :
      Uncaught files options params (.matching source texts)
  /-- The validation of a value fails. That takes a possessive repetition in a key. -/
  | validation {source : String} {words : List String} {builder : Builder} {key : Key}
      {expression : Expression} {fault : SearchFault}
      (hbuilder : Builder.ofPattern options source = .ok builder)
      (hkey : .key key expression ∈ builder.parts)
      (hpossessive : expression.expr.hasPossessive = true)
      (h : builder.build params = .error (.search fault)) :
      Uncaught files options params (.build source words)
  /-- The path of the table has a character that no path may have. -/
  | path {file : FilePath} (h : files.read file = .error .nullCharacter) :
      Uncaught files options params (.check file)
  /-- The table is no text. -/
  | bytes {file : FilePath} {bytes : List UInt8} {fault : Utf8.Fault}
      (hread : files.read file = .ok bytes) (h : Utf8.decode bytes = .error fault) :
      Uncaught files options params (.check file)
  /-- The expression of a route has a fault that is not reported. -/
  | route {file : FilePath} {text : String} {route : Route} (htext : files.Holds file text)
      (hroute : route ∈ readRoutes text) (h : ¬ route.Reported options) :
      Uncaught files options params (.check file)

/-- Why a task is rejected: the exit status and the message. -/
inductive Task.Rejected (files : Files) (options : Options) (params : Params) :
    Task → Nat → String → Prop where
  | pattern {task : Task} {source message : String} {error : PatternError}
      (h : task.Faulty options (.pattern source error))
      (hmessage : (error.report source).render {} = "error: " ++ message) :
      Rejected files options params task 1 message
  | expression {task : Task} {fault : ExprFault} (h : task.Faulty options (.expression fault))
      (hfault : fault.isReported = true) :
      Rejected files options params task 1 ("invalid capture pattern: " ++ fault.message)
  | value {source : String} {words : List String} {builder : Builder} {error : BuildError}
      (hbuilder : Builder.ofPattern options source = .ok builder)
      (h : builder.build params = .error (.rejected error)) :
      Rejected files options params (.build source words) 1 error.message
  | file {file : FilePath} {fault : FileFault} (h : files.read file = .error fault)
      (hfault : fault ≠ .nullCharacter) :
      Rejected files options params (.check file) 2 (fault.message file)

variable {files : Files} {options : Options} {params : Params} {task : Task}

/-- A stage that fails ends a computation with its fault renamed. -/
theorem mapError_bind_error {ε δ α β : Type} {x : Except ε α} {f : ε → δ} {next : α → Except δ β}
    {e : ε} (h : x = .error e) : (x.mapError f >>= next) = .error (f e) := by
  rw [h]
  rfl

/-- A stage that succeeds leaves a computation to the next. -/
theorem mapError_bind_ok {ε δ α β : Type} {x : Except ε α} {f : ε → δ} {next : α → Except δ β}
    {a : α} (h : x = .ok a) : (x.mapError f >>= next) = next a := by
  rw [h]
  rfl

/-- What comes from a row of computations comes from one of them. -/
theorem exists_of_mem_mapM {ε α β : Type} {f : α → Except ε β} {items : List α} {results : List β}
    {result : β} (h : items.mapM f = .ok results) (hmem : result ∈ results) :
    ∃ item ∈ items, f item = .ok result := by
  have hitems := mapM_eq_ok.mp h
  clear h
  induction hitems with
  | nil => simp at hmem
  | @cons item _ rest _ hitem _ ih =>
      obtain rfl | hmem := List.mem_cons.mp hmem
      · exact ⟨item, List.mem_cons_self, hitem⟩
      · obtain ⟨other, hother, hresult⟩ := ih hmem
        exact ⟨other, List.mem_cons_of_mem _ hother, hresult⟩

/-! ## Compiling -/

/-- An error in compiling ends a task. -/
theorem Task.Faulty.run_eq {error : CompileError} (h : task.Faulty options error) :
    task.run files options params = .error error.ofTask := by
  cases h with
  | parse h | regex h | matching h | build h => exact mapError_bind_error h

/-- What stands in front of a text stands in front of a longer one. -/
theorem append_of_front {front text : String} (more : String)
    (h : ∃ rest, text = front ++ rest) : ∃ rest, text ++ more = front ++ rest := by
  obtain ⟨rest, rfl⟩ := h
  exact ⟨rest ++ more, String.append_assoc ..⟩

/-- Every report begins with the word for an error. -/
theorem Report.exists_render (report : Report) (place : FilePlace) :
    ∃ message, report.render place = "error: " ++ message := by
  unfold render
  dsimp only
  repeat apply append_of_front
  exact ⟨"", rfl⟩

/-- An error in compiling is a rejection, or it is not reported. -/
theorem Task.Faulty.uncaught_or_rejected {error : CompileError} (h : task.Faulty options error) :
    task.Uncaught files options params ∨
      ∃ status message, task.Rejected files options params status message := by
  cases error with
  | pattern source error =>
      obtain ⟨message, hmessage⟩ := (error.report source).exists_render {}
      exact .inr ⟨_, _, .pattern h hmessage⟩
  | expression fault =>
      cases hfault : fault.isReported with
      | true => exact .inr ⟨_, _, .expression h hfault⟩
      | false => exact .inl (.expression h hfault)

/-! ## Route tables -/

variable {route : Route}

/-- The checking of a route ends only with a fault that is not reported. -/
theorem Route.isReported_of_check {fault : ExprFault} (h : route.check options = .error fault) :
    fault.isReported = false := by
  unfold check at h
  split at h
  · cases h
  · dsimp only at h
    split at h
    · cases h
    · split at h
      · cases h
      · next hfault =>
        cases h
        simpa using hfault

/-- The checking of a route ends if its expression has a fault that is not reported. -/
theorem Route.exists_check_error (h : ¬ route.Reported options) :
    ∃ fault, route.check options = .error fault := by
  unfold Reported at h
  push Not at h
  obtain ⟨fault, hfault, hreported⟩ := h
  refine ⟨fault, ?_⟩
  rw [check_eq, hfault]
  exact if_neg hreported

/-- The checking of routes ends with the first that has a fault which is not reported. -/
theorem exists_problemsFrom_error (seen : List (String × Route)) {routes : List Route}
    (h : ∃ route ∈ routes, ¬ route.Reported options) :
    ∃ fault, problemsFrom options seen routes = .error fault ∧ fault.isReported = false := by
  induction routes generalizing seen with
  | nil => simp at h
  | cons first rest ih =>
      rw [problemsFrom]
      cases hcheck : first.check options with
      | error fault => exact ⟨fault, rfl, Route.isReported_of_check hcheck⟩
      | ok result =>
          -- The first route is not the one, so it is found behind it.
          have hrest : ∃ route ∈ rest, ¬ route.Reported options := by
            obtain ⟨route, hroute, hunreported⟩ := h
            obtain rfl | hmem := List.mem_cons.mp hroute
            · obtain ⟨fault, hfault⟩ := Route.exists_check_error hunreported
              simp [hcheck] at hfault
            · exact ⟨route, hmem, hunreported⟩
          cases result with
          | inr problem =>
              obtain ⟨fault, hfault, hunreported⟩ := ih seen hrest
              exact ⟨fault, by simp [bind, Except.bind, hfault], hunreported⟩
          | inl source =>
              cases hlookup : seen.lookup source with
              | some earlier =>
                  obtain ⟨fault, hfault, hunreported⟩ := ih seen hrest
                  exact ⟨fault, by simp [bind, Except.bind, hlookup, hfault], hunreported⟩
              | none =>
                  obtain ⟨fault, hfault, hunreported⟩ := ih (seen ++ [(source, first)]) hrest
                  exact ⟨fault, by simp [bind, Except.bind, hlookup, hfault], hunreported⟩

/-! ## Outcomes -/

/-- What is listed ends a task without an answer. -/
theorem Task.Uncaught.run_eq (h : task.Uncaught files options params) :
    ∃ error abort, task.run files options params = .error error ∧ error.outcome = .error abort := by
  cases h with
  | @expression _ fault h hfault =>
      exact ⟨_, .expression fault, h.run_eq, if_neg (by simp [hfault])⟩
  | @search source text texts matcher fault hmatcher _ htext h =>
      have hrun : matcher.run text = .error (.search fault) := by
        rw [Matcher.run, h]
        rfl
      cases hall : texts.mapM matcher.run with
      | ok found =>
          obtain ⟨answer, hanswer⟩ := exists_mapM_iff.mp ⟨found, hall⟩ text htext
          simp [hrun] at hanswer
      | error fault =>
          have hrun : Task.run files options params (.matching source texts)
              = .error (.matching fault) :=
            (mapError_bind_ok hmatcher).trans (mapError_bind_error hall)
          cases fault with
          | search fault => exact ⟨_, _, hrun, rfl⟩
          | decoding fault => exact ⟨_, _, hrun, rfl⟩
  | @validation source words builder _ _ fault hbuilder _ _ h =>
      exact ⟨.building (.search fault), _,
        (mapError_bind_ok hbuilder).trans (mapError_bind_error h), rfl⟩
  | @path file h =>
      exact ⟨.file file .nullCharacter, _, mapError_bind_error h, rfl⟩
  | @bytes file bytes fault hread h =>
      exact ⟨.bytes fault, _, (mapError_bind_ok hread).trans (mapError_bind_error h), rfl⟩
  | route htext hroute h =>
      obtain ⟨bytes, decoded, hread, hdecoded, rfl⟩ := htext
      obtain ⟨fault, hfault, hunreported⟩ := exists_problemsFrom_error [] ⟨_, hroute, h⟩
      refine ⟨.expression fault, .expression fault, ?_, if_neg (by simp [hunreported])⟩
      exact (mapError_bind_ok hread).trans <|
        (mapError_bind_ok hdecoded).trans (mapError_bind_error hfault)

/-- What is listed rejects a task. -/
theorem Task.Rejected.run_eq {status : Nat} {message : String}
    (h : task.Rejected files options params status message) :
    ∃ error, task.run files options params = .error error ∧
      error.outcome = .ok { status, reports := errorLine message } := by
  cases h with
  | pattern h hmessage =>
      refine ⟨_, h.run_eq, ?_⟩
      rw [CompileError.ofTask, TaskError.outcome, hmessage]
      rfl
  | expression h hfault => exact ⟨_, h.run_eq, if_pos hfault⟩
  | @value source words builder error hbuilder h =>
      exact ⟨.building (.rejected error),
        (mapError_bind_ok hbuilder).trans (mapError_bind_error h), rfl⟩
  | @file file fault h hfault =>
      refine ⟨.file file fault, mapError_bind_error h, ?_⟩
      cases fault with
      | nullCharacter => exact absurd rfl hfault
      | notFound | notDirectory | isDirectory | tooLong => rfl

/-- The status of a task is one for a rejection, and two if a file cannot be read. -/
theorem Task.Rejected.status_eq {status : Nat} {message : String}
    (h : task.Rejected files options params status message) : status = 1 ∨ status = 2 := by
  cases h with
  | pattern | expression | value => exact .inl rfl
  | file => exact .inr rfl

/-- A task that is done has an exit status of zero or one. -/
theorem Task.status_le_of_run {outcome : Outcome}
    (h : task.run files options params = .ok outcome) : outcome.status ≤ 1 := by
  cases task with
  | parse source =>
      obtain ⟨parts, _, h⟩ := bind_eq_ok.mp h
      cases h
      exact Nat.zero_le 1
  | regex sources =>
      obtain ⟨expression, _, h⟩ := bind_eq_ok.mp h
      cases h
      exact Nat.zero_le 1
  | matching source texts =>
      obtain ⟨matcher, _, h⟩ := bind_eq_ok.mp h
      obtain ⟨found, _, h⟩ := bind_eq_ok.mp h
      cases h
      dsimp only
      split <;> decide
  | build source words =>
      obtain ⟨builder, _, h⟩ := bind_eq_ok.mp h
      obtain ⟨path, _, h⟩ := bind_eq_ok.mp h
      cases h
      exact Nat.zero_le 1
  | check file =>
      obtain ⟨bytes, _, h⟩ := bind_eq_ok.mp h
      obtain ⟨text, _, h⟩ := bind_eq_ok.mp h
      obtain ⟨problems, _, h⟩ := bind_eq_ok.mp h
      cases h
      dsimp only
      split <;> decide

/-- The matcher of a path has its options. -/
theorem Matcher.options_of_ofPath {path : Path} {matcher : Matcher}
    (h : Matcher.ofPath options path = .ok matcher) : matcher.options = options := by
  unfold Matcher.ofPath at h
  split at h
  · cases h
    rfl
  · cases h

/-- A search fails only for an expression with a possessive repetition. -/
theorem Matcher.hasPossessive_of_search {source text : String} {matcher : Matcher}
    {fault : SearchFault} (h : Matcher.ofPath options (.pattern source) = .ok matcher)
    (hsearch : matcher.expression.search text = .error fault) :
    matcher.expression.expr.hasPossessive = true := by
  obtain ⟨parts, hparse⟩ := Matcher.parse_of_ofPath h
  obtain ⟨expression, hcompile, rfl⟩ := Matcher.ofPath_pattern hparse h
  by_contra hpossessive
  obtain ⟨result, hresult⟩ := Expression.search_ok_of_numbered (Expression.read_numbered hcompile)
    (by simpa using hpossessive) text
  cases hsearch.symm.trans hresult

/-- The validation of a value fails only for a key with a possessive repetition. -/
theorem Builder.hasPossessive_of_build {source : String} {builder : Builder} {fault : SearchFault}
    (h : Builder.ofPattern options source = .ok builder)
    (hbuild : builder.build params = .error (.search fault)) :
    ∃ key expression, .key key expression ∈ builder.parts ∧
      expression.expr.hasPossessive = true := by
  obtain ⟨parts, _, hparts⟩ := Builder.ofParts_of_ofPattern h
  obtain ⟨made, hmade, hbuilder⟩ := bind_eq_ok.mp hparts
  cases hbuilder
  obtain hfault | ⟨_, _, hjoined⟩ := bind_eq_error.mp hbuild
  · obtain ⟨_, hok, _⟩ | ⟨front, built, rest, error, rfl, _, hbuilt, herror⟩ :=
      mapM_ends (Builder.part options params) made
    · simp [hok] at hfault
    · obtain rfl := Except.error.inj (herror.symm.trans hfault)
      have hmem : built ∈ front ++ built :: rest := by simp
      obtain ⟨part, _, hpart⟩ := exists_of_mem_mapM hmade hmem
      obtain ⟨⟨_, hok⟩, _⟩ | ⟨key, failure, rfl, _, hfailure, hblamed⟩ :=
        @Part.build_ends options params _ _ hpart
      · simp [hok] at hbuilt
      · obtain rfl := Except.error.inj (hfailure.symm.trans hbuilt)
        obtain ⟨_, hrejected, _⟩ | ⟨_, expression, _, hread, hpossessive⟩ := hblamed.named
        · cases hrejected
        · obtain ⟨found, hfound, hready⟩ := bind_eq_ok.mp hpart
          obtain rfl := Except.ok.inj (hread.symm.trans hfound)
          cases hready
          exact ⟨key, expression, hmem, hpossessive⟩
  · cases hjoined

/-- Matching texts succeeds, unless a search fails. -/
theorem Task.run_matching_cases {source : String} {matcher : Matcher} (texts : List String)
    (hdecode : ∀ text, options.decode text = .ok (.text text))
    (h : Matcher.ofPath options (.pattern source) = .ok matcher) :
    (∃ outcome, (Task.matching source texts).run files options params = .ok outcome) ∨
      (Task.matching source texts).Uncaught files options params := by
  by_cases hsearch : ∀ text ∈ texts, ∃ result, matcher.expression.search text = .ok result
  · have hdecodes : ∀ captured, ∃ value, matcher.options.decode captured = .ok value := by
      intro captured
      rw [Matcher.options_of_ofPath h]
      exact ⟨_, hdecode captured⟩
    obtain ⟨found, hfound⟩ := exists_mapM_iff.mpr fun text htext =>
      matcher.exists_run (hsearch text htext) hdecodes
    exact .inl ⟨_, (mapError_bind_ok h).trans (mapError_bind_ok hfound)⟩
  · push Not at hsearch
    obtain ⟨text, htext, hnone⟩ := hsearch
    cases hfault : matcher.expression.search text with
    | ok result => exact absurd hfault (hnone result)
    | error fault => exact .inr (.search h (Matcher.hasPossessive_of_search h hfault) htext hfault)

/-- Building a path succeeds, unless a value is rejected or its validation fails. -/
theorem Task.run_build_cases {source : String} {builder : Builder} (words : List String)
    (h : Builder.ofPattern options source = .ok builder) :
    (∃ outcome, (Task.build source words).run files options params = .ok outcome) ∨
      (Task.build source words).Uncaught files options params ∨
      ∃ status message, (Task.build source words).Rejected files options params status message := by
  cases hbuild : builder.build params with
  | error failure =>
      cases failure with
      | rejected error => exact .inr (.inr ⟨_, _, .value h hbuild⟩)
      | search fault =>
          obtain ⟨key, expression, hkey, hpossessive⟩ := Builder.hasPossessive_of_build h hbuild
          exact .inr (.inl (.validation h hkey hpossessive hbuild))
  | ok path => exact .inl ⟨_, (mapError_bind_ok h).trans (mapError_bind_ok hbuild)⟩

/-- Checking a table succeeds, unless the table cannot be read or the fault of a route is not
reported. -/
theorem Task.run_check_cases (file : FilePath) :
    (∃ outcome, (Task.check file).run files options params = .ok outcome) ∨
      (Task.check file).Uncaught files options params ∨
      ∃ status message, (Task.check file).Rejected files options params status message := by
  cases hread : files.read file with
  | error fault =>
      by_cases hfault : fault = .nullCharacter
      · subst hfault
        exact .inr (.inl (.path hread))
      · exact .inr (.inr ⟨_, _, .file hread hfault⟩)
  | ok bytes =>
      cases hdecoded : Utf8.decode bytes with
      | error fault => exact .inr (.inl (.bytes hread hdecoded))
      | ok decoded =>
          by_cases hreported : ∀ route ∈ readRoutes (String.ofList (plainLines decoded)),
              route.Reported options
          · have hempty : Recalls options [] [] := fun _ => rfl
            have hproblems := problemsFrom_eq hempty hreported
            exact .inl ⟨_, (mapError_bind_ok hread).trans <|
              (mapError_bind_ok hdecoded).trans (mapError_bind_ok hproblems)⟩
          · push Not at hreported
            obtain ⟨route, hroute, hunreported⟩ := hreported
            exact .inr (.inl (.route ⟨bytes, decoded, hread, hdecoded, rfl⟩ hroute hunreported))

/-- A task is done, or it is rejected, or it ends without an answer. -/
theorem Task.run_cases (files : Files) (params : Params) (task : Task)
    (hdecode : ∀ text, options.decode text = .ok (.text text)) :
    (∃ outcome, task.run files options params = .ok outcome) ∨
      task.Uncaught files options params ∨
      ∃ status message, task.Rejected files options params status message := by
  cases task with
  | parse source =>
      cases h : RoutePattern.parse options source with
      | error error => exact .inr (Faulty.parse h).uncaught_or_rejected
      | ok parts => exact .inl ⟨_, mapError_bind_ok h⟩
  | regex sources =>
      cases h : ((pathOfPatterns sources).compile options []).1 with
      | error error => exact .inr (Faulty.regex h).uncaught_or_rejected
      | ok expression => exact .inl ⟨_, mapError_bind_ok h⟩
  | matching source texts =>
      cases h : Matcher.ofPath options (.pattern source) with
      | error error => exact .inr (Faulty.matching h).uncaught_or_rejected
      | ok matcher => exact (run_matching_cases texts hdecode h).imp_right .inl
  | build source words =>
      cases h : Builder.ofPattern options source with
      | error error => exact .inr (Faulty.build h).uncaught_or_rejected
      | ok builder => exact run_build_cases words h
  | check file => exact run_check_cases file

/-! ## Performing tasks -/

variable {invocation : Invocation}

/-- What is done is told behind the notes. -/
theorem perform_ok {outcome : Outcome}
    (h : invocation.task.run files options params = .ok outcome) :
    invocation.perform files options params
      = .ok { outcome with reports := invocation.notes options ++ outcome.reports } := by
  rw [Invocation.perform, h]
  rfl

/-- Why something is not done is told behind the notes, unless that ends the command. -/
theorem perform_error {error : TaskError}
    (h : invocation.task.run files options params = .error error) :
    invocation.perform files options params = error.outcome.map fun outcome =>
      { outcome with reports := invocation.notes options ++ outcome.reports } := by
  rw [Invocation.perform, h]
  rfl

end RoutePattern
