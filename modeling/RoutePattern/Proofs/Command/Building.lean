import RoutePattern.Proofs.Command.Tasks
import RoutePattern.Proofs.Command.Words
import RoutePattern.Proofs.Pattern.Groups
import RoutePattern.Proofs.Pattern.Parse

/-!
# Building paths from the command line

`run_buildWords` is the main result: a command line that gives the texts of a map as parameters, in
any order that keeps the order of each name, builds the path of that map.
-/

namespace RoutePattern

/-! ## Maps -/

/-- A map from names to texts as parameters. -/
def paramsOf (map : List (KeyName × List String)) : Params :=
  map.map fun entry => (entry.1, Value.ofTexts entry.2)

/-- Parameters give the texts of a map: those of each name in their order, whatever stands between
them. -/
def Renders (given : List (KeyName × String)) (map : List (KeyName × List String)) : Prop :=
  ∀ name, valuesGiven given name = (map.lookup name).getD []

variable {given : List (KeyName × String)} {map : List (KeyName × List String)}

/-- Which parameters give the texts of a map is found by looking at the names of both. -/
theorem renders_iff : Renders given map ↔
    ∀ name ∈ given.map Prod.fst ++ map.map Prod.fst,
      valuesGiven given name = (map.lookup name).getD [] := by
  constructor
  · intro h name _
    exact h name
  · intro h name
    by_cases hname : name ∈ given.map Prod.fst ++ map.map Prod.fst
    · exact h name hname
    · rw [List.mem_append, not_or] at hname
      have hgiven : valuesGiven given name = [] := by
        rw [valuesGiven, List.filter_eq_nil_iff.mpr, List.map_nil]
        intro entry hentry heq
        exact hname.1 (List.mem_map.mpr ⟨entry, hentry, by simpa using heq⟩)
      have hmap : map.lookup name = none := by
        rw [List.lookup_eq_none_iff]
        intro entry hentry
        have hne : name ≠ entry.1 := fun heq => hname.2 (heq ▸ List.mem_map_of_mem hentry)
        simpa using hne
      rw [hgiven, hmap, Option.getD_none]

instance : Decidable (Renders given map) :=
  decidable_of_iff' _ renders_iff

/-- The parameters of a map by their names. -/
theorem lookup_paramsOf (map : List (KeyName × List String)) (name : KeyName) :
    (paramsOf map).lookup name = (map.lookup name).map Value.ofTexts := by
  induction map with
  | nil => rfl
  | cons entry rest ih =>
      rw [paramsOf, List.map_cons, List.lookup_cons, List.lookup_cons]
      cases name == entry.1 with
      | true => rfl
      | false => exact ih

/-- A name of a map is in it with its texts. -/
theorem mem_of_lookup {name : KeyName} {texts : List String} (h : map.lookup name = some texts) :
    (name, texts) ∈ map := by
  obtain ⟨before, after, rfl, _⟩ := List.lookup_eq_some_iff.mp h
  simp

/-- What is given for a name is in the map. -/
theorem Renders.exists_mem (h : Renders given map) {entry : KeyName × String}
    (hentry : entry ∈ given) : ∃ texts, (entry.1, texts) ∈ map := by
  have hvalue : entry.2 ∈ valuesGiven given entry.1 :=
    List.mem_map_of_mem (List.mem_filter.mpr ⟨hentry, by simp⟩)
  rw [h] at hvalue
  cases hlookup : map.lookup entry.1 with
  | none => simp [hlookup] at hvalue
  | some texts => exact ⟨texts, mem_of_lookup hlookup⟩

/-- The values that are given for a name are those of the map. -/
theorem Renders.ofTexts? (h : Renders given map) (hvalues : ∀ entry ∈ map, entry.2 ≠ [])
    (name : KeyName) :
    Value.ofTexts? (valuesGiven given name) = (paramsOf map).lookup name := by
  rw [h, lookup_paramsOf]
  cases hlookup : map.lookup name with
  | none => rfl
  | some texts => simp [Value.ofTexts?, hvalues _ (mem_of_lookup hlookup)]

/-! ## Building -/

/-- A path depends on what the names give. -/
theorem Builder.build_congr (builder : Builder) {params other : Params}
    (h : ∀ name, params.lookup name = other.lookup name) :
    builder.build params = builder.build other := by
  have hpart : Builder.part builder.options params = Builder.part builder.options other := by
    funext part
    cases part with
    | text literal => rfl
    | key key expression => simp only [Builder.part, h]
  rw [build, build, hpart]

/-- There is no configuration file. -/
def Files.LacksConfig (files : Files) : Prop :=
  ∃ fault, files.read (.ofText standardConfig) = .error fault ∧ fault ≠ .tooLong

/-- Without a configuration file, a task runs under the standard options. -/
theorem run_of_lacksConfig {files : Files} (hfiles : files.LacksConfig) {task : Task}
    {params : Params} (hparams : (Invocation.ofTask task).params = .ok params) :
    (Invocation.ofTask task).run files = (Invocation.ofTask task).perform files {} params := by
  obtain ⟨fault, hfault, hne⟩ := hfiles
  have hconfig : (Invocation.ofTask task).readConfig files = .ok (.ok []) := by
    rw [Invocation.readConfig, Invocation.ofTask, hfault]
    cases fault with
    | tooLong => exact absurd rfl hne
    | notFound | notDirectory | isDirectory | nullCharacter => rfl
  rw [Invocation.run, hconfig]
  simp only [bind, Except.bind, hparams]
  rfl

/-- Without switches there are no notes. -/
theorem notes_ofTask (task : Task) (options : Options) :
    (Invocation.ofTask task).notes options = "" := by
  simp [Invocation.notes, Invocation.ofTask]

/-- The outcome of building a path is the path, or the refusal of what does not fit. -/
theorem runBuild_of_ofPattern {options : Options} {source : String} {builder : Builder}
    (hbuilder : Builder.ofPattern options source = .ok builder) (params : Params) :
    runBuild options source params =
      ((builder.build params).mapError TaskError.building).map
        fun path => { status := 0, output := path ++ "\n" } := by
  rw [runBuild, hbuilder]
  cases hbuild : builder.build params <;>
    simp [hbuild, bind, Except.bind, Except.map, pure, Except.pure]

/-- A command line gives the texts of a map as parameters. Then it builds the path of that map, and
refuses it if the map is refused. -/
theorem run_buildWords {source : String} {parts : List Part} (hparse : parse {} source = .ok parts)
    (hkeys : ∀ entry ∈ map, ∃ key ∈ capturingKeys parts, key.name = entry.1)
    (hvalues : ∀ entry ∈ map, entry.2 ≠ []) (htellable : ∀ entry ∈ map, entry.1.Tellable)
    (hgiven : Renders given map) {files : Files} (hfiles : files.LacksConfig) :
    ∃ invocation params, Invocation.read (buildWords given source) = .ok invocation ∧
      invocation.params = .ok params ∧
      (∀ name, params.lookup name = (paramsOf map).lookup name) ∧
      ∀ builder, Builder.ofPattern {} source = .ok builder →
        (∀ path, builder.build (paramsOf map) = .ok path →
          invocation.run files = .ok { status := 0, output := path ++ "\n" }) ∧
        ∀ error, builder.build (paramsOf map) = .error (.rejected error) →
          invocation.run files = .ok { status := 1, reports := errorLine error.message } := by
  -- What is given is for a key of the pattern that captures, with a name that can be told.
  have hkey : ∀ entry ∈ given, ∃ unnamed, ∃ key : Key,
      key.Formed (defaultPattern standardDelimiter) unnamed ∧
      key.captures = true ∧ key.name = entry.1 ∧ entry.1.Tellable := by
    intro entry hentry
    obtain ⟨texts, hmem⟩ := hgiven.exists_mem hentry
    obtain ⟨key, hcapturing, hname⟩ := hkeys _ hmem
    obtain ⟨hpart, hcaptures⟩ := mem_capturingKeys.mp hcapturing
    obtain ⟨unnamed, hformed⟩ := (normal_of_parse hparse).formed hpart
    exact ⟨unnamed, key, hformed, hcaptures, hname, htellable _ hmem⟩
  have hundashed : Undashed given := by
    intro entry hentry hhead
    obtain ⟨_, key, hformed, hcaptures, hname, _⟩ := hkey entry hentry
    have hchar := (hformed.isNameChar_text hcaptures).2 '-'
      (hname ▸ List.mem_of_mem_head? hhead)
    exact (isNameChar_ne hchar).2 rfl
  have hread : ∀ entry ∈ given, readParam (paramWord entry.1 entry.2) = .ok entry := by
    intro entry hentry
    obtain ⟨_, key, hformed, hcaptures, hname, htell⟩ := hkey entry hentry
    rw [← hname] at htell ⊢
    rw [hformed.readParam hcaptures htell, hname]
  have hempty (name : KeyName) : List.lookup name ([] : Params) = Value.ofTexts? [] := rfl
  obtain ⟨params, hparams, hlookup⟩ := readParams_paramWords hread hempty
  have hsame (name : KeyName) : params.lookup name = (paramsOf map).lookup name := by
    rw [hlookup, List.nil_append, hgiven.ofTexts? hvalues]
  let task : Task := .build source (given.map fun entry => paramWord entry.1 entry.2)
  have htask : (Invocation.ofTask task).params = .ok params := hparams
  refine ⟨.ofTask task, params, read_buildWords hundashed source, htask, hsame,
    fun builder hbuilder => ?_⟩
  have hbuild : task.run files {} params = _ := runBuild_of_ofPattern hbuilder params
  rw [builder.build_congr hsame] at hbuild
  rw [run_of_lacksConfig hfiles htask]
  constructor
  · intro path hpath
    rw [hpath] at hbuild
    rw [perform_ok hbuild, notes_ofTask]
    rfl
  · intro error herror
    rw [herror] at hbuild
    rw [perform_error hbuild, notes_ofTask]
    simp [TaskError.outcome, Except.map]

theorem lacksConfig_none : Files.none.LacksConfig :=
  ⟨.notFound, rfl, by decide⟩

/-- Values of two names one between the other, one of them with an equals sign and one that looks
like a divider. -/
theorem run_buildWords_interleaved :
    let given := [(.named "b", "x=y"), (.positional 0, "12"), (.named "b", "--")]
    ∃ invocation, Invocation.read (buildWords given "/:b+-(\\d+)") = .ok invocation ∧
      invocation.run Files.none = .ok { status := 0, output := "/x=y/---12\n" } := by
  intro given
  let source := "/:b+-(\\d+)"
  let map : List (KeyName × List String) := [(.positional 0, ["12"]), (.named "b", ["x=y", "--"])]
  have hparse : parse {} source = .ok [
      .key { name := .named "b", before := "/", pattern := "[^\\/#\\?]+?", modifier := "+" },
      .text "-", .key { name := .positional 0, pattern := "\\d+" }] := by
    decide +kernel
  have hbuild : ((Builder.ofPattern {} source).toOption.bind fun builder =>
      (builder.build (paramsOf map)).toOption) = some "/x=y/---12" := by
    decide +kernel
  have htellable : ∀ entry ∈ map, entry.1.Tellable := by
    simp [map, KeyName.Tellable]
    decide
  have hgiven : Renders given map := by
    decide +kernel
  obtain ⟨builder, hbuilder, hpath⟩ := Option.bind_eq_some_iff.mp hbuild
  obtain ⟨invocation, params, hread, _, _, hrun⟩ :=
    run_buildWords hparse (by simp [map, capturingKeys, Key.captures]) (by simp [map])
      htellable hgiven lacksConfig_none
  exact ⟨invocation, hread, (hrun builder (toOption_eq_some.mp hbuilder)).1 _
    (toOption_eq_some.mp hpath)⟩

/-- A name that is a row of digits is not told by the command line: its value becomes that of an
unnamed key, and the path is refused. -/
theorem digits_misread :
    let given := [(.named "0", "x")]
    let map := [(.named "0", ["x"])]
    let invocation := Invocation.ofTask (.build "/:0" ["0=x"])
    ((parse {} "/:0").toOption.map fun parts => (capturingKeys parts).map Key.name)
        = some [.named "0"] ∧
      Renders given map ∧
      ((Builder.ofPattern {} "/:0").toOption.bind fun builder =>
        (builder.build (paramsOf map)).toOption) = some "/x" ∧
      Invocation.read (buildWords given "/:0") = .ok invocation ∧
      (invocation.params.toOption.map fun params => params.map Prod.fst) = some [.positional 0] ∧
      (invocation.run Files.none).toOption
        = some { status := 1, reports := "error: expected \"0\" to be a string\n" } := by
  intro given map invocation
  have hundashed : Undashed given := by simp [Undashed, given, KeyName.text]
  exact ⟨by decide +kernel, by decide +kernel, by decide +kernel, read_buildWords hundashed _,
    by decide +kernel, by decide +kernel⟩

end RoutePattern
