import Mathlib.Data.List.TakeDrop
import Mathlib.Data.List.TakeWhile
import RoutePattern.Command.Param
import RoutePattern.Proofs.Part.Normal
import RoutePattern.Proofs.Pattern.Params

/-!
# Parameters on the command line

A parameter is read as its name and value as long as its name is `Tellable`: a row of digits on the
command line is always the place of an unnamed key. `readParams_paramWords` is the main result: from
the words of parameters each name has the values given for it, in their order.
-/

namespace RoutePattern

/-! ## Names of digits -/

/-- No blank is a digit. -/
theorem isDigit_eq_false_of_isBlankCode {n : Nat} (h : isBlankCode n = true) :
    isDigit n = false := by
  have hall : ∀ n ∈ [9, 10, 11, 12, 13, 28, 29, 30, 31, 32, 133, 160, 5760, 8192, 8193, 8194, 8195,
      8196, 8197, 8198, 8199, 8200, 8201, 8202, 8232, 8233, 8239, 8287, 12288],
      isDigit n = false := by
    decide +kernel
  refine hall n ?_
  simp [isBlankCode, CodeSet.holds, blankSet] at h
  simp
  omega

/-- No digit is a blank around an integer. -/
theorem isIntegerBlank_eq_false {c : Char} (h : isDigit c.toNat = true) :
    isIntegerBlank c = false := by
  cases hblank : isBlank c with
  | false => simp [isIntegerBlank, hblank]
  | true => simp [isDigit_eq_false_of_isBlankCode hblank] at h

/-- A digit goes on with an integer if it is a decimal one. -/
theorem isDigitOrUnderscore_eq {c : Char} (h : isDigit c.toNat = true) :
    isDigitOrUnderscore c = isDecimalDigit c.toNat := by
  have hc : c ≠ '_' := by
    rintro rfl
    revert h
    decide
  simp [isDigitOrUnderscore, hc]

/-- The value of a decimal digit. -/
def digitOf (c : Char) : Nat :=
  (digitValue? c.toNat).getD 0

/-- Decimal digits are read as their values. -/
theorem readDigits?_eq {text : List Char} (hne : text ≠ [])
    (h : ∀ c ∈ text, isDecimalDigit c.toNat = true) :
    readDigits? text = some (text.map digitOf) := by
  have hvalue {c : Char} (hc : isDecimalDigit c.toNat = true) :
      digitValue? c.toNat = some (digitOf c) := by
    obtain ⟨value, hvalue⟩ := Option.isSome_iff_exists.mp hc
    simp [digitOf, hvalue]
  fun_induction readDigits? text with
  | case1 => exact absurd rfl hne
  | case2 c => simp [hvalue (h c (by simp))]
  | case3 c rest => exact absurd (h '_' (by simp)) (by decide)
  | case4 c rest hrest _ ih =>
      have hne : rest ≠ [] := fun hnil => hrest hnil
      rw [hvalue (h c (by simp)), ih hne fun d hd => h d (List.mem_cons_of_mem _ hd)]
      rfl

variable {text : List Char}

/-- A row of digits is read from its first digit on. -/
theorem readInteger_digits (h : ∀ c ∈ text, isDigit c.toNat = true) :
    readInteger text =
      match readDigits? (text.takeWhile isDigitOrUnderscore) with
      | none => .error (.notInteger (String.ofList text))
      | some digits =>
          if digitLimit < digits.length then .error (.tooLong digits.length)
          else if (text.dropWhile isDigitOrUnderscore).all isIntegerBlank then
            .ok (ofDigits digits)
          else .error (.notInteger (String.ofList text)) := by
  have hblank : text.dropWhile isIntegerBlank = text := by
    cases text with
    | nil => rfl
    | cons c rest => simp [isIntegerBlank_eq_false (h c (by simp))]
  have hsign : splitSign text = (false, text) := by
    unfold splitSign
    split
    · exact absurd (h '-' (by simp)) (by decide)
    · exact absurd (h '+' (by simp)) (by decide)
    · rfl
  rw [readInteger, hblank, hsign]
  dsimp only
  rw [List.span_eq_takeWhile_dropWhile]
  rfl

/-- Decimal digits are read as an integer, unless there are too many of them. -/
theorem readInteger_decimal (hne : text ≠ []) (h : ∀ c ∈ text, isDecimalDigit c.toNat = true) :
    readInteger text =
      if digitLimit < text.length then .error (.tooLong text.length)
      else .ok (ofDigits (text.map digitOf)) := by
  have hgoes : ∀ c ∈ text, isDigitOrUnderscore c = true := fun c hc => by
    simp [isDigitOrUnderscore, h c hc]
  rw [readInteger_digits fun c hc => by simp [isDigit, h c hc],
    List.takeWhile_eq_self_iff.mpr hgoes, List.dropWhile_eq_nil_iff.mpr hgoes, readDigits?_eq hne h]
  simp

/-- Digits that are not all decimal are not read as an integer. -/
theorem readInteger_undecimal (h : ∀ c ∈ text, isDigit c.toNat = true)
    (hodd : ∃ c ∈ text, isDecimalDigit c.toNat = false) :
    ∃ fault, readInteger text = .error fault := by
  have hlater : (text.dropWhile isDigitOrUnderscore).all isIntegerBlank = false := by
    obtain ⟨c, hc, hodd⟩ := hodd
    cases hdrop : text.dropWhile isDigitOrUnderscore with
    | nil =>
        have hgoes := List.dropWhile_eq_nil_iff.mp hdrop c hc
        rw [isDigitOrUnderscore_eq (h c hc), hodd] at hgoes
        cases hgoes
    | cons d rest =>
        have hd : d ∈ text := (List.dropWhile_suffix _).subset (by rw [hdrop]; simp)
        simp [isIntegerBlank_eq_false (h d hd)]
  rw [readInteger_digits h, hlater]
  split
  · exact ⟨_, rfl⟩
  · split
    · exact ⟨_, rfl⟩
    · exact ⟨_, rfl⟩

/-- The value of a digit within ASCII. -/
theorem digitValue?_of_isDigit {c : Char} (h : c.isDigit = true) :
    digitValue? c.toNat = some (c.toNat - '0'.toNat) := by
  obtain ⟨hlow, hhigh⟩ := Char.isDigit_iff_toNat.mp h
  obtain ⟨digit, hdigit⟩ := Nat.exists_eq_add_of_le hlow
  have hall : ∀ digit < 10,
      digitValue? ('0'.toNat + digit) = some ('0'.toNat + digit - '0'.toNat) := by
    decide +kernel
  rw [hdigit] at hhigh ⊢
  exact hall digit (Nat.lt_succ_of_le (Nat.add_le_add_iff_left.mp hhigh))

/-- A digit within ASCII is a decimal one. -/
theorem isDecimalDigit_of_isDigit {c : Char} (h : c.isDigit = true) :
    isDecimalDigit c.toNat = true := by
  simp [isDecimalDigit, digitValue?_of_isDigit h]

/-- The digits of a number are read as the number. -/
theorem readInteger_toDigits {n : Nat} (h : (Nat.toDigits 10 n).length ≤ digitLimit) :
    readInteger (Nat.toDigits 10 n) = .ok n := by
  have hdigit {c : Char} (hc : c ∈ Nat.toDigits 10 n) : c.isDigit = true :=
    Nat.isDigit_of_mem_toDigits (by omega) (by omega) hc
  have hdecimal : ∀ c ∈ Nat.toDigits 10 n, isDecimalDigit c.toNat = true :=
    fun c hc => isDecimalDigit_of_isDigit (hdigit hc)
  have hdigits : (Nat.toDigits 10 n).map digitOf
      = (Nat.toDigits 10 n).map fun c => c.toNat - '0'.toNat := by
    refine List.map_congr_left fun c hc => ?_
    rw [digitOf, digitValue?_of_isDigit (hdigit hc), Option.getD_some]
  rw [readInteger_decimal Nat.toDigits_ne_nil hdecimal, if_neg (by omega), hdigits, ofDigits,
    List.foldl_map, ← Nat.ofDigitChars_eq_foldl, Nat.ofDigitChars_ten_toDigits]

/-! ## One parameter -/

/-- A text is cut at the first place of a character. -/
theorem cut_append {mark : Char} {before : List Char} (h : mark ∉ before) (after : List Char) :
    cut mark (before ++ mark :: after) = (before, some after) := by
  induction before with
  | nil => simp [cut]
  | cons c rest ih =>
      obtain ⟨hc, hrest⟩ := not_or.mp (mt List.mem_cons.mpr h)
      rw [List.cons_append, cut, if_neg (Ne.symm hc), ih hrest]

/-- A text is not cut if the character does not stand in it. -/
theorem cut_eq_none {mark : Char} {text : List Char} :
    (cut mark text).2 = none ↔ mark ∉ text := by
  induction text with
  | nil => simp [cut]
  | cons c rest ih =>
      by_cases hc : c = mark
      · simp [cut, hc]
      · simp [cut, hc, ih, Ne.symm hc]

/-- The names of keys that the command line can tell: a row of digits would be the place of an
unnamed key, and a place may not have more digits than are read. -/
def KeyName.Tellable : KeyName → Prop
  | .named name => ∃ c ∈ name.toList, isDigit c.toNat = false
  | .positional place => (toString place).length ≤ digitLimit

/-- The word of a parameter. -/
def paramWord (name : KeyName) (value : String) : String :=
  name.text ++ "=" ++ value

/-- A character of a name is neither an equals sign nor a dash. -/
theorem isNameChar_ne {c : Char} (h : isNameChar c = true) : c ≠ '=' ∧ c ≠ '-' := by
  constructor
  · rintro rfl
    revert h
    decide
  · rintro rfl
    revert h
    decide

/-- A place is written with the digits of its number. -/
theorem KeyName.toList_text_positional (place : Nat) :
    (KeyName.positional place).text.toList = Nat.toDigits 10 place := by
  have htext : (KeyName.positional place).text = String.ofList (Nat.toDigits 10 place) :=
    Nat.toString_eq_ofList_toDigits
  rw [htext, String.toList_ofList]

variable {standard : String} {unnamed : Nat} {key : Key}

/-- The name of a key that captures is written in characters of a name. -/
theorem Key.Formed.isNameChar_text (h : key.Formed standard unnamed)
    (hcaptures : key.captures = true) :
    key.name.text.toList ≠ [] ∧ ∀ c ∈ key.name.text.toList, isNameChar c = true := by
  cases h with
  | named hne hname _ _ => exact ⟨by simpa [KeyName.text] using hne, hname⟩
  | positional _ _ =>
      dsimp only
      rw [KeyName.toList_text_positional]
      refine ⟨Nat.toDigits_ne_nil, fun c hc => ?_⟩
      have hdigit := Nat.isDigit_of_mem_toDigits (by omega) (by omega) hc
      simp [isNameChar, Char.isAlphanum, hdigit]
  | group _ => simp [Key.captures] at hcaptures

/-- The name of a key that captures is read from its text, if the command line can tell it. -/
theorem Key.Formed.readParamName (h : key.Formed standard unnamed)
    (hcaptures : key.captures = true) (htellable : key.name.Tellable) :
    readParamName key.name.text.toList = .ok key.name := by
  cases h with
  | @named name _ _ _ _ _ _ _ _ =>
      obtain ⟨c, hc, hodd⟩ := htellable
      have hall : (name.toList.all fun c => isDigit c.toNat) = false := by
        rw [List.all_eq_false]
        exact ⟨c, hc, by simp [hodd]⟩
      rw [RoutePattern.readParamName, if_neg (by simp [KeyName.text, hall])]
      simp [KeyName.text]
  | positional _ _ =>
      have htext := KeyName.toList_text_positional unnamed
      have hlength : (Nat.toDigits 10 unnamed).length ≤ digitLimit := by
        rw [← htext, String.length_toList]
        exact htellable
      have hdigits : (Nat.toDigits 10 unnamed).all (fun c => isDigit c.toNat) = true := by
        rw [List.all_eq_true]
        intro c hc
        have hcode :=
          isDecimalDigit_of_isDigit (Nat.isDigit_of_mem_toDigits (by omega) (by omega) hc)
        simp [isDigit, hcode]
      dsimp only
      rw [htext, RoutePattern.readParamName, if_pos (by simp [hdigits, Nat.toDigits_ne_nil]),
        readInteger_toDigits hlength]
      rfl
  | group _ => simp [Key.captures] at hcaptures

/-- A parameter is read from its word, whatever its value holds. -/
theorem Key.Formed.readParam (h : key.Formed standard unnamed) (hcaptures : key.captures = true)
    (htellable : key.name.Tellable) (value : String) :
    readParam (paramWord key.name value) = .ok (key.name, value) := by
  have hequals : '=' ∉ key.name.text.toList := fun hmem =>
    (isNameChar_ne ((h.isNameChar_text hcaptures).2 _ hmem)).1 rfl
  have htext : (paramWord key.name value).toList = key.name.text.toList ++ '=' :: value.toList := by
    simp [paramWord]
  rw [RoutePattern.readParam, htext, cut_append hequals]
  simp [h.readParamName hcaptures htellable]

/-! ## Words that are no parameters -/

/-- The digits of a name that are no place: not all of them are decimal, or there are too many. -/
structure UnreadPlace (name : List Char) : Prop where
  nonempty : name ≠ []
  digits : ∀ c ∈ name, isDigit c.toNat = true
  unread : digitLimit < name.length ∨ ∃ c ∈ name, isDecimalDigit c.toNat = false

/-- A name is not read if it consists of digits that are no place. -/
theorem readParamName_error_iff {name : List Char} :
    (∃ fault, readParamName name = .error fault) ↔ UnreadPlace name := by
  rw [readParamName]
  split
  · next hdigits =>
    simp only [Bool.and_eq_true, Bool.not_eq_true', List.isEmpty_eq_false_iff,
      List.all_eq_true] at hdigits
    obtain ⟨hne, hdigits⟩ := hdigits
    have hread : (∃ fault, readInteger name = .error fault) ↔
        digitLimit < name.length ∨ ∃ c ∈ name, isDecimalDigit c.toNat = false := by
      by_cases hodd : ∃ c ∈ name, isDecimalDigit c.toNat = false
      · exact iff_of_true (readInteger_undecimal hdigits hodd) (.inr hodd)
      · have hdecimal : ∀ c ∈ name, isDecimalDigit c.toNat = true := by simpa using hodd
        rw [readInteger_decimal hne hdecimal]
        by_cases hlength : digitLimit < name.length <;> simp [hlength, hodd]
    rw [show UnreadPlace name ↔ _ from ⟨fun h => h.unread, fun h => ⟨hne, hdigits, h⟩⟩, ← hread]
    cases readInteger name <;> simp [Except.map]
  · next hdigits =>
    refine iff_of_false (by simp) fun h => hdigits ?_
    simpa [h.nonempty] using h.digits

/-- A word without an equals sign is no parameter. -/
theorem readParam_noEquals {word : String} (h : '=' ∉ word.toList) :
    readParam word = .error (.noEquals word) := by
  obtain ⟨front, hcut⟩ : ∃ front, cut '=' word.toList = (front, none) :=
    ⟨_, Prod.ext rfl (cut_eq_none.mpr h)⟩
  rw [readParam, hcut]

/-- A word whose name consists of digits that are no place is no parameter. -/
theorem readParam_unreadPlace {word : String} {name value : List Char}
    (hcut : cut '=' word.toList = (name, some value)) (h : UnreadPlace name) :
    ∃ fault, readParam word = .error (.badIndex fault) := by
  obtain ⟨fault, hfault⟩ := readParamName_error_iff.mpr h
  have hindex : ∃ number, fault = .badIndex number := by
    rw [readParamName] at hfault
    split at hfault
    · cases hread : readInteger name with
      | error number => exact ⟨number, by simpa [hread, Except.map, eq_comm] using hfault⟩
      | ok place => simp [hread, Except.map] at hfault
    · cases hfault
  obtain ⟨number, rfl⟩ := hindex
  exact ⟨number, by rw [readParam, hcut]; simp [hfault, bind, Except.bind]⟩

/-- A word that is no parameter lacks an equals sign, or its name consists of digits that are no
place. -/
theorem readParam_error_cases {word : String} {fault : ParamFault}
    (h : readParam word = .error fault) :
    fault = .noEquals word ∧ '=' ∉ word.toList ∨
      ∃ name value, cut '=' word.toList = (name, some value) ∧ UnreadPlace name := by
  rw [readParam] at h
  split at h
  · next hcut =>
    cases h
    exact .inl ⟨rfl, cut_eq_none.mp (by rw [hcut])⟩
  · next name value hcut =>
    obtain hname | ⟨_, _, hname⟩ := bind_eq_error.mp h
    · exact .inr ⟨name, value, hcut, readParamName_error_iff.mp ⟨_, hname⟩⟩
    · cases hname

/-- Words are read as parameters up to the first that is none. -/
theorem readParams_error_iff {params : Params} {words : List String} {fault : ParamFault} :
    readParams params words = .error fault ↔
      ∃ before word after, words = before ++ word :: after ∧
        (∀ earlier ∈ before, ∃ entry, readParam earlier = .ok entry) ∧
        readParam word = .error fault := by
  induction words generalizing params with
  | nil => simp [readParams]
  | cons first rest ih =>
      rw [readParams, bind_eq_error]
      constructor
      · rintro (hfirst | ⟨⟨name, value⟩, hfirst, hrest⟩)
        · exact ⟨[], first, rest, rfl, by simp, hfirst⟩
        · obtain ⟨before, word, after, rfl, hbefore, hword⟩ := ih.mp hrest
          exact ⟨first :: before, word, after, rfl,
            List.forall_mem_cons.mpr ⟨⟨_, hfirst⟩, hbefore⟩, hword⟩
      · rintro ⟨before, word, after, hwords, hbefore, hword⟩
        cases before with
        | nil =>
            obtain ⟨rfl, rfl⟩ := List.cons.inj hwords
            exact .inl hword
        | cons earlier before =>
            obtain ⟨rfl, rfl⟩ := List.cons.inj hwords
            obtain ⟨⟨⟨name, value⟩, hfirst⟩, hbefore⟩ := List.forall_mem_cons.mp hbefore
            exact .inr ⟨(name, value), hfirst, ih.mpr ⟨before, word, after, rfl, hbefore, hword⟩⟩

/-! ## Several parameters -/

/-- The values that are given for a name, in order. -/
def valuesGiven (given : List (KeyName × String)) (name : KeyName) : List String :=
  (given.filter fun entry => entry.1 = name).map Prod.snd

/-- Texts as the value of a parameter: one stands for itself. -/
def Value.ofTexts : List String → Value
  | [text] => .text text
  | texts => .list (texts.map .text)

/-- Texts as the value of a parameter, which without any text has none. -/
def Value.ofTexts? (texts : List String) : Option Value :=
  if texts = [] then none else some (ofTexts texts)

/-- A value that is gathered comes last among those of its name. -/
theorem Params.lookup_gather {params : Params} {name : KeyName} {texts : List String}
    (h : params.lookup name = Value.ofTexts? texts) (value : String) (other : KeyName) :
    (params.gather name value).lookup other =
      if other = name then Value.ofTexts? (texts ++ [value]) else params.lookup other := by
  match texts with
  | [] =>
      have hnone : params.lookup name = none := h
      rw [gather, hnone]
      exact lookup_put ..
  | [text] =>
      have hsome : params.lookup name = some (.text text) := h
      rw [gather, hsome]
      exact lookup_put ..
  | first :: second :: rest =>
      have hsome : params.lookup name = some (.list ((first :: second :: rest).map .text)) := h
      rw [gather, hsome]
      dsimp only
      rw [lookup_put]
      simp [Value.ofTexts?, Value.ofTexts]

/-- Parameters are read from their words with the values that are given for each name. -/
theorem readParams_paramWords {given : List (KeyName × String)}
    (hread : ∀ entry ∈ given, RoutePattern.readParam (paramWord entry.1 entry.2) = .ok entry)
    {params : Params} {texts : KeyName → List String}
    (h : ∀ name, params.lookup name = Value.ofTexts? (texts name)) :
    ∃ result, readParams params (given.map fun entry => paramWord entry.1 entry.2) = .ok result ∧
      ∀ name, result.lookup name = Value.ofTexts? (texts name ++ valuesGiven given name) := by
  induction given generalizing params texts with
  | nil => exact ⟨params, rfl, fun name => by rw [h]; simp [valuesGiven]⟩
  | cons entry rest ih =>
      obtain ⟨name, value⟩ := entry
      obtain ⟨hfirst, hrest⟩ := List.forall_mem_cons.mp hread
      have hgathered (other : KeyName) : (params.gather name value).lookup other =
          Value.ofTexts? (texts other ++ valuesGiven [(name, value)] other) := by
        rw [Params.lookup_gather (h name), h]
        by_cases heq : other = name
        · subst heq
          simp [valuesGiven]
        · simp [valuesGiven, heq, Ne.symm heq]
      obtain ⟨result, hresult, hlookup⟩ := ih hrest hgathered
      refine ⟨result, ?_, fun other => ?_⟩
      · rw [List.map_cons, readParams, hfirst]
        exact hresult
      · rw [hlookup, List.append_assoc]
        congr 2
        by_cases heq : name = other <;> simp [valuesGiven, heq]

end RoutePattern
