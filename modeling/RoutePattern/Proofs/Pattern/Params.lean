import Mathlib.Data.List.Forall2
import RoutePattern.Match
import RoutePattern.Proofs.Expr.Running

/-!
# The values of the keys

`bindParams_eq` is the main result: where the names of the keys are distinct and captured texts are
taken as they are, each key has the value of its group and a key without a group has none.
`intercalate_splitText` says that splitting a text loses nothing.
-/

namespace RoutePattern

/-! ## Splitting a text -/

/-- There is always a stretch. -/
theorem splitFrom_ne_nil (separator : List Char) (skip : Nat) (current text : List Char) :
    splitFrom separator skip current text ≠ [] := by
  induction text generalizing skip current with
  | nil => simp [splitFrom]
  | cons c rest ih =>
      cases skip with
      | succ skip =>
          rw [splitFrom]
          exact ih _ _
      | zero =>
          rw [splitFrom]
          split
          · simp
          · exact ih _ _

/-- Joining the stretches of a text with the separator gives the text back. Characters that are to
be skipped are gone already. -/
theorem intercalate_splitFrom {separator : List Char} (hseparator : separator ≠ [])
    (skip : Nat) (current text : List Char) :
    separator.intercalate (splitFrom separator skip current text) =
      current.reverse ++ text.drop skip := by
  induction text generalizing skip current with
  | nil => simp [splitFrom]
  | cons c rest ih =>
      cases skip with
      | succ skip => rw [splitFrom, ih, List.drop_succ_cons]
      | zero =>
          rw [splitFrom]
          split
          · next hoccurs =>
            obtain ⟨after, hafter⟩ := List.isPrefixOf_iff_prefix.mp hoccurs
            rw [List.intercalate_cons_of_ne_nil (splitFrom_ne_nil _ _ _ _), ih, List.drop_zero,
              ← hafter]
            cases separator with
            | nil => exact absurd rfl hseparator
            | cons d separator =>
                obtain ⟨rfl, rfl⟩ := List.cons.inj hafter
                simp
          · rw [ih, List.drop_zero, List.drop_zero, List.reverse_cons, List.append_assoc]
            rfl

/-- Joining the stretches of a text with the separator gives the text back. -/
theorem intercalate_splitText {separator : String} (h : separator.isEmpty = false)
    (text : String) : separator.toList.intercalate ((splitText separator text).map String.toList) =
      text.toList := by
  have hseparator : separator.toList ≠ [] := by
    intro hnil
    rw [String.toList_eq_nil_iff] at hnil
    simp [hnil] at h
  have hall := intercalate_splitFrom hseparator 0 [] text.toList
  simpa [splitText, Function.comp_def] using hall

/-- Texts between two others, in a row, are the texts joined by what stands between them. -/
theorem flatMap_surround (before after : List Char) {pieces : List (List Char)}
    (h : pieces ≠ []) : pieces.flatMap (fun piece => before ++ piece ++ after) =
      before ++ (after ++ before).intercalate pieces ++ after := by
  induction pieces with
  | nil => exact absurd rfl h
  | cons first rest ih =>
      cases rest with
      | nil => simp
      | cons second rest =>
          rw [List.flatMap_cons, ih (List.cons_ne_nil _ _), List.intercalate_cons_cons]
          simp only [List.append_assoc]

/-! ## Values by name -/

/-- The first value stands for its name, and for no other. -/
theorem Params.lookup_cons (params : Params) (name other : KeyName) (value : Value) :
    List.lookup other ((name, value) :: params) =
      if other = name then some value else params.lookup other := by
  rw [List.lookup_cons]
  by_cases h : other = name
  · simp [h]
  · have hbeq : (other == name) = false := by simpa using h
    simp [hbeq, h]

/-- Setting a value changes what its name gives, and nothing else. -/
theorem Params.lookup_put (params : Params) (name other : KeyName) (value : Value) :
    (params.put name value).lookup other =
      if other = name then some value else params.lookup other := by
  induction params with
  | nil => exact lookup_cons [] name other value
  | cons entry rest ih =>
      obtain ⟨key, old⟩ := entry
      rw [Params.put]
      split
      · next hkey =>
        subst hkey
        rw [lookup_cons, lookup_cons]
        split <;> rfl
      · next hkey =>
        rw [lookup_cons, lookup_cons, ih]
        by_cases h : other = key
        · subst h
          simp [hkey]
        · simp [h]

/-- Options that write values and read captured texts as they are. -/
structure Options.Verbatim (options : Options) : Prop where
  encode : ∀ text, options.encode text = text
  decode : ∀ text, options.decode text = .ok (.text text)

/-- The value of a key for a captured text that is taken as it is. -/
def Key.taken (key : Key) (captured : String) : Value :=
  if key.repeated then
    .list ((if (key.after ++ key.before).isEmpty then [captured]
      else splitText (key.after ++ key.before) captured).map .text)
  else .text captured

variable {options : Options}

/-- If every text is read, so are several of them. -/
theorem mapM_decode {read : String → Value} (hdecode : ∀ text, options.decode text = .ok (read text))
    (pieces : List String) : pieces.mapM options.decode = .ok (pieces.map read) := by
  induction pieces with
  | nil => rfl
  | cons first rest ih =>
      rw [List.mapM_cons, hdecode, ih]
      rfl

/-- The value of a key is what was captured. -/
theorem Key.value_eq (hdecode : ∀ text, options.decode text = .ok (.text text)) (key : Key)
    (captured : String) : key.value options captured = .ok (key.taken captured) := by
  unfold Key.value Key.taken
  dsimp only
  split
  · rw [mapM_decode hdecode]
    rfl
  · exact hdecode captured

/-- If every text is read, a key has a value for whatever was captured. -/
theorem Key.exists_value (hdecode : ∀ text, ∃ value, options.decode text = .ok value) (key : Key)
    (captured : String) : ∃ value, key.value options captured = .ok value := by
  choose read hread using hdecode
  unfold Key.value
  dsimp only
  split
  · exact ⟨_, by rw [mapM_decode hread]; rfl⟩
  · exact ⟨_, hread captured⟩

/-- If every text is read, the keys have values for whatever their groups have captured. -/
theorem bindParams_ok (hdecode : ∀ text, ∃ value, options.decode text = .ok value)
    (params : Params) (keys : List Key) (groups : List (Option String)) :
    ∃ result, bindParams options params keys groups = .ok result := by
  induction keys generalizing params groups with
  | nil => exact ⟨params, by simp [bindParams]⟩
  | cons key rest ih =>
      cases groups with
      | nil => exact ⟨params, by simp [bindParams]⟩
      | cons group groups =>
          cases group with
          | none =>
              rw [bindParams]
              exact ih params groups
          | some captured =>
              obtain ⟨value, hvalue⟩ := key.exists_value hdecode captured
              obtain ⟨result, hbind⟩ := ih (params.put key.name value) groups
              refine ⟨result, ?_⟩
              rw [bindParams, hvalue]
              exact hbind

/-- Keys of the same names that read the same from what was captured give the same values. -/
theorem bindParams_of_forall₂ {options' : Options} {keys keys' : List Key}
    (h : List.Forall₂ (fun key key' => key'.name = key.name ∧
      ∀ captured, key'.value options' captured = key.value options captured) keys keys')
    (params : Params) (groups : List (Option String)) :
    bindParams options' params keys' groups = bindParams options params keys groups := by
  induction h generalizing params groups with
  | nil => rfl
  | cons hkey _ ih =>
      cases groups with
      | nil => rfl
      | cons group groups =>
          cases group with
          | none => exact ih params groups
          | some captured =>
              rw [bindParams, bindParams, hkey.1, hkey.2]
              exact bind_congr fun value => ih _ groups

/-- Each key has the value that is read for its group, and no other name has a new one. -/
theorem bindParams_eq_of_read {read : Key → Option String → Option Value} {keys : List Key}
    {groups : List (Option String)} (hread : List.Forall₂ (fun key group =>
      group.mapM (key.value options) = .ok (read key group)) keys groups)
    (hnames : (keys.map Key.name).Nodup) {params : Params}
    (hfresh : ∀ key ∈ keys, params.lookup key.name = none) :
    ∃ result, bindParams options params keys groups = .ok result ∧
      List.Forall₂ (fun key group => result.lookup key.name = read key group) keys groups ∧
      ∀ name, name ∉ keys.map Key.name → result.lookup name = params.lookup name := by
  induction hread generalizing params with
  | nil => exact ⟨params, by simp [bindParams], .nil, fun _ _ => rfl⟩
  | @cons key group rest groups hvalue _ ih =>
      obtain ⟨hkey, hrest⟩ := List.nodup_cons.mp hnames
      obtain ⟨hfirst, hothers⟩ := List.forall_mem_cons.mp hfresh
      cases group with
      | none =>
          obtain ⟨result, hbind, hvalues, hsame⟩ := ih hrest hothers
          refine ⟨result, by rw [bindParams, hbind], .cons ?_ hvalues, ?_⟩
          · rw [hsame _ hkey, hfirst]
            exact Except.ok.inj hvalue
          · intro name hname
            exact hsame name fun hmem => hname (List.mem_cons_of_mem _ hmem)
      | some captured =>
          obtain ⟨value, hown, hvalue⟩ := bind_eq_ok.mp hvalue
          have hput : ∀ other ∈ rest, (params.put key.name value).lookup other.name = none := by
            intro other hother
            rw [Params.lookup_put, if_neg, hothers other hother]
            exact fun heq => hkey (heq ▸ List.mem_map_of_mem hother)
          obtain ⟨result, hbind, hvalues, hsame⟩ := ih hrest hput
          refine ⟨result, ?_, .cons ?_ hvalues, ?_⟩
          · rw [bindParams, hown]
            exact hbind
          · rw [hsame _ hkey, Params.lookup_put, if_pos rfl]
            exact Except.ok.inj hvalue
          · intro name hname
            rw [hsame name fun hmem => hname (List.mem_cons_of_mem _ hmem), Params.lookup_put,
              if_neg]
            exact fun heq => hname (heq ▸ List.mem_cons_self ..)

/-- Keys that read from their groups what some parameters have for their names get these parameters,
if those have no other names. -/
theorem exists_bindParams_same {keys : List Key} {groups : List (Option String)} {params : Params}
    (hread : List.Forall₂ (fun key group =>
      group.mapM (key.value options) = .ok (params.lookup key.name)) keys groups)
    (hnames : (keys.map Key.name).Nodup)
    (honly : ∀ name value, params.lookup name = some value → name ∈ keys.map Key.name) :
    ∃ result, bindParams options [] keys groups = .ok result ∧
      ∀ name, result.lookup name = params.lookup name := by
  obtain ⟨result, hbind, hvalues, hothers⟩ :=
    @bindParams_eq_of_read options _ _ _ hread hnames [] (fun _ _ => rfl)
  refine ⟨result, hbind, fun name => ?_⟩
  by_cases hname : name ∈ keys.map Key.name
  · obtain ⟨key, hkey, rfl⟩ := List.mem_map.mp hname
    have hboth := hvalues.imp fun key _ hvalue =>
      (⟨hvalue, trivial⟩ : result.lookup key.name = params.lookup key.name ∧ True)
    exact ((List.forall₂_and_left _ _).mp hboth).1 key hkey
  · rw [hothers name hname]
    cases hvalue : params.lookup name with
    | none => rfl
    | some value => exact absurd (honly name value hvalue) hname

/-- Each key has the value of its group, and no other name has a new one. -/
theorem bindParams_eq (hdecode : ∀ text, options.decode text = .ok (.text text)) {keys : List Key}
    {groups : List (Option String)} (hlength : keys.length = groups.length)
    (hnames : (keys.map Key.name).Nodup) {params : Params}
    (hfresh : ∀ key ∈ keys, params.lookup key.name = none) :
    ∃ result, bindParams options params keys groups = .ok result ∧
      List.Forall₂ (fun key group => result.lookup key.name = group.map key.taken) keys groups ∧
      ∀ name, name ∉ keys.map Key.name → result.lookup name = params.lookup name := by
  have hread (key : Key) (group : Option String) :
      group.mapM (key.value options) = .ok (group.map key.taken) := by
    cases group with
    | none => rfl
    | some captured =>
        show (key.value options captured >>= fun value => pure (some value)) = _
        rw [key.value_eq hdecode]
        rfl
  exact bindParams_eq_of_read (List.forall₂_iff_zip.mpr ⟨hlength, fun _ => hread _ _⟩) hnames hfresh

end RoutePattern
