import Mathlib.Data.List.Chain
import Mathlib.Data.List.TakeWhile
import RoutePattern.Proofs.Lexeme.Balanced

/-!
# Lexemes and the text they stand for

`WellFormed` lists what the lexemes of a pattern look like: the values each kind may hold, where the
end stands, that nothing could be added to a name, and the offsets. `scan_eq_ok_iff` is the main
result: the lexemes of a text are the one well-formed list that is written as that text.
-/

namespace RoutePattern

/-- The characters that do not stand for themselves in a pattern. -/
def lexemeChars : List Char :=
  ['*', '+', '?', '\\', '\x7b', '\x7d', ':', '(']

/-- The value of a lexeme is one that its kind may hold. -/
def Lexeme.Valued (lexeme : Lexeme) : Prop :=
  match lexeme.kind with
  | .modifier => lexeme.value = "*" ∨ lexeme.value = "+" ∨ lexeme.value = "?"
  | .opening => lexeme.value = "\x7b"
  | .closing => lexeme.value = "\x7d"
  | .escapedChar => ∃ c, lexeme.value.toList = [c]
  | .char => ∃ c, lexeme.value.toList = [c] ∧ c ∉ lexemeChars
  | .name => lexeme.value ≠ "" ∧ ∀ c ∈ lexeme.value.toList, isNameChar c
  | .pattern =>
      lexeme.value ≠ "" ∧ lexeme.value.toList.head? ≠ some '?' ∧ Balanced lexeme.value.toList
  | .ending => lexeme.value = ""

/-- The values of some lexemes are ones that their kinds may hold. -/
def AllValued (lexemes : List Lexeme) : Prop :=
  ∀ lexeme ∈ lexemes, lexeme.Valued

theorem AllValued.tail {lexeme : Lexeme} {rest : List Lexeme} (h : AllValued (lexeme :: rest)) :
    AllValued rest :=
  (List.forall_mem_cons.mp h).2

/-- A character that could be part of the name in front of it does not follow it. -/
def Lexeme.Apart (lexeme next : Lexeme) : Prop :=
  lexeme.kind = .name → next.kind = .char → ∀ c ∈ next.value.toList, ¬ isNameChar c

/-- The text that some lexemes stand for. -/
def renderAll (lexemes : List Lexeme) : List Char :=
  lexemes.flatMap Lexeme.render

theorem renderAll_cons (lexeme : Lexeme) (rest : List Lexeme) :
    renderAll (lexeme :: rest) = lexeme.render ++ renderAll rest :=
  List.flatMap_cons

/-- The offset of every lexeme is the length of the text in front of it, where `position` characters
stand in front of all. -/
def Placed (position : Nat) (lexemes : List Lexeme) : Prop :=
  ∀ before lexeme after, lexemes = before ++ lexeme :: after →
    lexeme.index = ((position + (renderAll before).length : Nat) : Int)

/-- What the lexemes of a whole pattern look like. -/
structure WellFormed (lexemes : List Lexeme) : Prop where
  valued : ∀ lexeme ∈ lexemes, lexeme.Valued
  apart : lexemes.IsChain Lexeme.Apart
  placed : Placed 0 lexemes
  ended : ∃ before, lexemes = before ++ [⟨.ending, (renderAll lexemes).length, ""⟩] ∧
    ∀ lexeme ∈ before, lexeme.kind ≠ .ending

/-! ## One lexeme -/

/-- The lexeme at an offset that a head describes. -/
def Head.lexeme (head : Head) (position : Nat) : Lexeme :=
  ⟨head.kind, position, String.ofList head.value⟩

/-- No name goes on at the front of a text. -/
def NoNameChar (text : List Char) : Prop :=
  ∀ c ∈ text.head?, ¬ isNameChar c

/-- The lexeme in front of a text, as it is read: its value is one that its kind may hold, the text
begins with what it stands for, and a name goes as far as it can. -/
structure Head.Fronts (head : Head) (text : List Char) : Prop where
  valued : (head.lexeme 0).Valued
  unended : head.kind ≠ .ending
  rendered : text = (head.lexeme 0).render ++ text.drop (1 + head.extra)
  length_render : (head.lexeme 0).render.length = 1 + head.extra
  apart : head.kind = .name → NoNameChar (text.drop (1 + head.extra))

/-- A name that goes as far as it can stands in front of its text. -/
theorem fronts_of_name {rest : List Char} (hne : rest.takeWhile isNameChar ≠ []) :
    Head.Fronts ⟨.name, rest.takeWhile isNameChar, (rest.takeWhile isNameChar).length⟩
      (':' :: rest) := by
  have hdrop : (':' :: rest).drop (1 + (rest.takeWhile isNameChar).length)
      = rest.dropWhile isNameChar := by
    rw [Nat.add_comm 1, List.drop_succ_cons]
    nth_rewrite 2 [← List.takeWhile_append_dropWhile (p := isNameChar) (l := rest)]
    exact List.drop_left
  refine ⟨⟨by simpa [Head.lexeme] using hne, ?_⟩, by simp, ?_, ?_, ?_⟩
  · intro c hc
    exact List.mem_takeWhile_imp (by simpa [Head.lexeme] using hc)
  · simp [hdrop, Head.lexeme, Lexeme.render]
  · simp [Head.lexeme, Lexeme.render, Nat.add_comm]
  · intro _ c hc
    rw [hdrop] at hc
    have hstop := List.head?_dropWhile_not isNameChar rest
    rw [Option.mem_def.mp hc] at hstop
    simp [hstop]

/-- An expression that is read stands in front of its text. -/
theorem fronts_of_groupHead {rest : List Char} {head : Head} (h : groupHead rest = .ok head) :
    head.Fronts ('(' :: rest) := by
  unfold groupHead at h
  split at h
  · simp at h
  next hquestion =>
  obtain ⟨body, hbody, h⟩ := bind_eq_ok.mp h
  split at h
  · simp at h
  next hempty =>
  cases h
  obtain ⟨hbalanced, tail, rfl⟩ := groupBody_eq_ok_iff.mp hbody
  have hne : body ≠ [] := by simpa using hempty
  have hhead : body.head? ≠ some '?' := by
    cases body with
    | nil => exact absurd rfl hne
    | cons c _ =>
        intro h
        exact hquestion (by simpa using h)
  refine ⟨⟨by simpa [Head.lexeme] using hne, ?_, ?_⟩, by simp, ?_, ?_, by simp⟩
  · rwa [Head.lexeme, String.toList_ofList]
  · rwa [Head.lexeme, String.toList_ofList]
  · have hdrop : ('(' :: (body ++ ')' :: tail)).drop (1 + (body.length + 1)) = tail := by
      rw [Nat.add_comm 1, List.drop_succ_cons, List.append_cons]
      exact List.drop_left' (by simp)
    simp [hdrop, Head.lexeme, Lexeme.render]
  · simp [Head.lexeme, Lexeme.render, Nat.add_comm]

/-- The lexeme that is read stands in front of its text. -/
theorem fronts_of_read {c : Char} {rest : List Char} {head : Head}
    (h : Head.read c rest = .ok head) : head.Fronts (c :: rest) := by
  unfold Head.read at h
  split at h
  · next hmodifier =>
    cases h
    have hvalue : c = '*' ∨ c = '+' ∨ c = '?' := by
      simpa [isModifierChar, or_assoc] using hmodifier
    refine ⟨?_, by simp, by simp [Head.lexeme, Lexeme.render],
      by simp [Head.lexeme, Lexeme.render], by simp⟩
    obtain rfl | rfl | rfl := hvalue
    · exact .inl rfl
    · exact .inr (.inl rfl)
    · exact .inr (.inr rfl)
  next hmodifier =>
  split at h
  · next hescape =>
    subst hescape
    cases rest with
    | nil => simp at h
    | cons escaped later =>
        cases h
        exact ⟨⟨escaped, by simp [Head.lexeme]⟩, by simp, by simp [Head.lexeme, Lexeme.render],
          by simp [Head.lexeme, Lexeme.render], by simp⟩
  next hescape =>
  split at h
  · next hopening =>
    subst hopening
    cases h
    exact ⟨rfl, by simp, by simp [Head.lexeme, Lexeme.render],
      by simp [Head.lexeme, Lexeme.render], by simp⟩
  next hopening =>
  split at h
  · next hclosing =>
    subst hclosing
    cases h
    exact ⟨rfl, by simp, by simp [Head.lexeme, Lexeme.render],
      by simp [Head.lexeme, Lexeme.render], by simp⟩
  next hclosing =>
  split at h
  · next hname =>
    subst hname
    dsimp only at h
    split at h
    · simp at h
    next hempty =>
    cases h
    exact fronts_of_name (by simpa using hempty)
  next hname =>
  split at h
  · next hgroup =>
    subst hgroup
    exact fronts_of_groupHead h
  · next hgroup =>
    cases h
    refine ⟨⟨c, by simp [Head.lexeme], ?_⟩, by simp, by simp [Head.lexeme, Lexeme.render],
      by simp [Head.lexeme, Lexeme.render], by simp⟩
    simp [isModifierChar] at hmodifier
    simp [lexemeChars, *]

/-- A name is read up to a character that cannot be part of it. -/
theorem takeWhile_name {name tail : List Char} (hname : ∀ c ∈ name, isNameChar c)
    (htail : NoNameChar tail) : (name ++ tail).takeWhile isNameChar = name := by
  rw [List.takeWhile_append_of_pos hname]
  cases tail with
  | nil => simp
  | cons c rest => simp [htail c rfl]

/-- A balanced expression is read up to the parenthesis that closes it. -/
theorem groupHead_of_balanced {body : List Char} (hne : body ≠ []) (hhead : body.head? ≠ some '?')
    (hbody : Balanced body) (tail : List Char) :
    groupHead (body ++ ')' :: tail) = .ok ⟨.pattern, body, body.length + 1⟩ := by
  have hquestion : (body ++ ')' :: tail).head? ≠ some '?' := by
    cases body with
    | nil => exact absurd rfl hne
    | cons c _ =>
        intro h
        exact hhead (by simpa using h)
  have htaken : groupBody 0 1 (body ++ ')' :: tail) = .ok body :=
    groupBody_eq_ok_iff.mpr ⟨hbody, tail, rfl⟩
  rw [groupHead, if_neg hquestion, htaken]
  simp [bind, Except.bind, pure, Except.pure, hne]

/-- The lexeme is read in front of `tail` where its text stands there. -/
def Lexeme.ReadBefore (lexeme : Lexeme) (tail : List Char) : Prop :=
  ∃ c rest extra, lexeme.render ++ tail = c :: rest ∧ rest.drop extra = tail ∧
    lexeme.render.length = 1 + extra ∧
    Head.read c rest = .ok ⟨lexeme.kind, lexeme.value.toList, extra⟩

/-- A lexeme that is written as a single character. -/
theorem readBefore_of_single {lexeme : Lexeme} {c : Char} {tail : List Char}
    (hvalue : lexeme.value.toList = [c]) (hrender : lexeme.render = lexeme.value.toList)
    (hread : Head.read c tail = .ok ⟨lexeme.kind, [c], 0⟩) : lexeme.ReadBefore tail := by
  refine ⟨c, tail, 0, ?_, rfl, ?_, ?_⟩
  · rw [hrender, hvalue, List.singleton_append]
  · rw [hrender, hvalue, List.length_singleton]
  · rw [hread, hvalue]

/-- A lexeme is read where it is written, unless a longer name would be. -/
theorem Lexeme.Valued.readBefore {lexeme : Lexeme} (h : lexeme.Valued)
    (hkind : lexeme.kind ≠ .ending) {tail : List Char}
    (hname : lexeme.kind = .name → NoNameChar tail) : lexeme.ReadBefore tail := by
  obtain ⟨kind, index, value⟩ := lexeme
  cases kind with
  | modifier =>
      obtain rfl | rfl | rfl := h
      · exact readBefore_of_single (c := '*') (by simp) rfl (by simp [Head.read, isModifierChar])
      · exact readBefore_of_single (c := '+') (by simp) rfl (by simp [Head.read, isModifierChar])
      · exact readBefore_of_single (c := '?') (by simp) rfl (by simp [Head.read, isModifierChar])
  | opening =>
      obtain rfl := h
      exact readBefore_of_single (c := '\x7b') (by simp) rfl (by simp [Head.read, isModifierChar])
  | closing =>
      obtain rfl := h
      exact readBefore_of_single (c := '\x7d') (by simp) rfl (by simp [Head.read, isModifierChar])
  | escapedChar =>
      obtain ⟨c, hvalue⟩ := h
      dsimp only at hvalue
      refine ⟨'\\', c :: tail, 1, ?_, rfl, ?_, ?_⟩ <;>
        simp [Lexeme.render, Head.read, isModifierChar, hvalue]
  | char =>
      obtain ⟨c, hvalue, hc⟩ := h
      simp only [lexemeChars, List.mem_cons, List.not_mem_nil, or_false, not_or] at hc
      exact readBefore_of_single hvalue rfl (by simp [Head.read, isModifierChar, hc])
  | name =>
      obtain ⟨hne, hchars⟩ := h
      refine ⟨':', value.toList ++ tail, value.toList.length, rfl, List.drop_left, ?_, ?_⟩
      · simp [Lexeme.render, Nat.add_comm]
      · have hempty : value.toList ≠ [] := by simpa using hne
        simp [Head.read, isModifierChar, takeWhile_name hchars (hname rfl), hempty]
  | pattern =>
      obtain ⟨hne, hquestion, hbalanced⟩ := h
      have hempty : value.toList ≠ [] := by simpa using hne
      refine ⟨'(', value.toList ++ ')' :: tail, value.toList.length + 1, by simp [Lexeme.render],
        ?_, ?_, ?_⟩
      · rw [List.append_cons]
        exact List.drop_left' (by simp)
      · simp [Lexeme.render, Nat.add_comm]
      · simp only [Head.read, isModifierChar, groupHead_of_balanced hempty hquestion hbalanced]
        rfl
  | ending => exact absurd rfl hkind

/-! ## Lexemes in a row -/

/-- The lexemes of a text, its end apart, where `position` characters stand in front of it. -/
structure Spelled (position : Nat) (lexemes : List Lexeme) (text : List Char) : Prop where
  valued : ∀ lexeme ∈ lexemes, lexeme.Valued
  unended : ∀ lexeme ∈ lexemes, lexeme.kind ≠ .ending
  apart : lexemes.IsChain Lexeme.Apart
  placed : Placed position lexemes
  rendered : text = renderAll lexemes

/-- The offsets of lexemes in a row. -/
theorem placed_cons {position : Nat} {lexeme : Lexeme} {rest : List Lexeme} :
    Placed position (lexeme :: rest) ↔
      lexeme.index = position ∧ Placed (position + lexeme.render.length) rest := by
  constructor
  · intro h
    refine ⟨by simpa [renderAll] using h [] lexeme rest rfl, fun before other after heq => ?_⟩
    have hindex := h (lexeme :: before) other after (by rw [heq, List.cons_append])
    simpa [renderAll, Nat.add_assoc] using hindex
  · rintro ⟨hindex, hrest⟩ before other after heq
    cases before with
    | nil =>
        obtain ⟨rfl, rfl⟩ := List.cons.inj heq
        simpa [renderAll] using hindex
    | cons first before =>
        obtain ⟨rfl, rfl⟩ := List.cons.inj heq
        simpa [renderAll, Nat.add_assoc] using hrest before other after rfl

/-- The offsets of two stretches of lexemes. -/
theorem placed_append {position : Nat} {first second : List Lexeme} :
    Placed position (first ++ second) ↔
      Placed position first ∧ Placed (position + (renderAll first).length) second := by
  induction first generalizing position with
  | nil => simp [renderAll, Placed]
  | cons lexeme rest ih =>
      rw [List.cons_append, placed_cons, placed_cons, ih, renderAll_cons,
        List.length_append, Nat.add_assoc, and_assoc]

/-- Only a character that stands for itself is written as one that a name may hold. -/
theorem Lexeme.Valued.head_render {lexeme : Lexeme} (h : lexeme.Valued)
    (hkind : lexeme.kind ≠ .ending) :
    ∃ c rest, lexeme.render = c :: rest ∧
      (isNameChar c → lexeme.kind = .char ∧ c ∈ lexeme.value.toList) := by
  obtain ⟨kind, index, value⟩ := lexeme
  cases kind with
  | modifier =>
      obtain rfl | rfl | rfl := h
      · exact ⟨'*', [], by simp [Lexeme.render], fun hc => absurd hc (by decide)⟩
      · exact ⟨'+', [], by simp [Lexeme.render], fun hc => absurd hc (by decide)⟩
      · exact ⟨'?', [], by simp [Lexeme.render], fun hc => absurd hc (by decide)⟩
  | opening =>
      obtain rfl := h
      exact ⟨'\x7b', [], by simp [Lexeme.render], fun hc => absurd hc (by decide)⟩
  | closing =>
      obtain rfl := h
      exact ⟨'\x7d', [], by simp [Lexeme.render], fun hc => absurd hc (by decide)⟩
  | char =>
      obtain ⟨c, hvalue, _⟩ := h
      dsimp only at hvalue
      exact ⟨c, [], hvalue, fun _ => ⟨rfl, by simp [hvalue]⟩⟩
  | escapedChar => exact ⟨'\\', _, rfl, fun hc => absurd hc (by decide)⟩
  | name => exact ⟨':', _, rfl, fun hc => absurd hc (by decide)⟩
  | pattern => exact ⟨'(', _, rfl, fun hc => absurd hc (by decide)⟩
  | ending => exact absurd rfl hkind

/-- A name ends where it is apart from the lexeme after it. -/
theorem noNameChar_renderAll {lexeme : Lexeme} (hname : lexeme.kind = .name) {rest : List Lexeme}
    (hvalued : ∀ next ∈ rest, next.Valued) (hunended : ∀ next ∈ rest, next.kind ≠ .ending)
    (hapart : ∀ next ∈ rest.head?, lexeme.Apart next) : NoNameChar (renderAll rest) := by
  cases rest with
  | nil => simp [NoNameChar, renderAll]
  | cons next later =>
      obtain ⟨first, others, hrender, hfirst⟩ :=
        (hvalued next (by simp)).head_render (hunended next (by simp))
      intro c hc hchar
      obtain rfl : first = c := by simpa [renderAll, hrender] using hc
      obtain ⟨hkind, hmem⟩ := hfirst hchar
      exact hapart next (by simp) hname hkind first hmem hchar

/-- A name that ends in front of some lexemes is apart from the first of them. -/
theorem apart_of_noNameChar {lexeme next : Lexeme} {later : List Lexeme} (hnext : next.Valued)
    (h : lexeme.kind = .name → NoNameChar (renderAll (next :: later))) : lexeme.Apart next := by
  intro hname hchar c hc
  obtain ⟨kind, index, value⟩ := next
  obtain rfl : kind = .char := hchar
  obtain ⟨own, hvalue, _⟩ := hnext
  dsimp only at hvalue hc
  obtain rfl : c = own := by simpa [hvalue] using hc
  exact h hname c (by simp [renderAll, Lexeme.render, hvalue])

/-- A lexeme in front of others that spell a text. A name has to end there. -/
theorem Spelled.cons {position : Nat} {lexeme : Lexeme} {rest : List Lexeme} {text : List Char}
    (hvalued : lexeme.Valued) (hunended : lexeme.kind ≠ .ending) (hindex : lexeme.index = position)
    (hname : lexeme.kind = .name → NoNameChar text)
    (h : Spelled (position + lexeme.render.length) rest text) :
    Spelled position (lexeme :: rest) (lexeme.render ++ text) := by
  obtain ⟨hvalueds, hunendeds, hapart, hplaced, rfl⟩ := h
  refine ⟨List.forall_mem_cons.mpr ⟨hvalued, hvalueds⟩,
    List.forall_mem_cons.mpr ⟨hunended, hunendeds⟩, ?_, placed_cons.mpr ⟨hindex, hplaced⟩, rfl⟩
  cases rest with
  | nil => exact .singleton lexeme
  | cons next later =>
      exact .cons_cons (apart_of_noNameChar (hvalueds next (by simp)) hname) hapart

/-- No name goes on at the front of a text where none does with more behind it. -/
theorem NoNameChar.of_append {text tail : List Char} (h : NoNameChar (text ++ tail)) :
    NoNameChar text := by
  cases text with
  | nil => simp [NoNameChar]
  | cons c rest => exact h

/-- No name goes on at the front of lexemes with a text behind them, unless one does there. -/
theorem noNameChar_renderAll_append {lexemes : List Lexeme} {tail : List Char}
    (hvalued : ∀ lexeme ∈ lexemes, lexeme.Valued) (hunended : ∀ lexeme ∈ lexemes, lexeme.kind ≠ .ending)
    (h : NoNameChar (renderAll lexemes)) (hnil : lexemes = [] → NoNameChar tail) :
    NoNameChar (renderAll lexemes ++ tail) := by
  cases lexemes with
  | nil => exact hnil rfl
  | cons next later =>
      obtain ⟨first, others, hrender, _⟩ :=
        (hvalued next (by simp)).head_render (hunended next (by simp))
      rw [renderAll_cons, hrender] at h ⊢
      exact h

/-- How a scan halts behind the text `front`: the lexemes found spell that text, no name at its end
would go on, and what is left is nothing, or a text without a first lexeme. -/
structure Progress.HaltsBehind (front : List Char) (position : Nat) (progress : Progress) : Prop where
  spelled : Spelled position progress.lexemes front
  uncut : ∀ last ∈ progress.lexemes.getLast?, last.kind = .name → NoNameChar progress.rest
  halted : match progress.error with
    | none => progress.rest = []
    | some error => ∃ c later found, progress.rest = c :: later ∧ Head.read c later = .error found ∧
        error = ⟨found.fault, position + front.length + found.index⟩

/-- A scan halts behind some text. -/
theorem haltsBehind_ofText (position : Nat) (text : List Char) :
    ∃ front, text = front ++ (Progress.ofText position text).rest ∧
      (Progress.ofText position text).HaltsBehind front position := by
  fun_induction Progress.ofText position text with
  | case1 position => exact ⟨[], rfl, ⟨by simp, by simp, .nil, by simp [Placed], rfl⟩, by simp, rfl⟩
  | case2 position c rest error hread =>
      exact ⟨[], rfl, ⟨by simp, by simp, .nil, by simp [Placed], rfl⟩, by simp,
        c, rest, error, rfl, hread, rfl⟩
  | case3 position c rest head hread later lexeme ih =>
      have hlater : Progress.ofText (position + 1 + head.extra) (rest.drop head.extra) = later := rfl
      rw [hlater] at ih
      clear_value later
      obtain ⟨front, hrest, hspelled, huncut, hhalted⟩ := ih
      obtain ⟨hvalued, hunended, hrendered, hlength, hname⟩ := fronts_of_read hread
      have hdrop : (c :: rest).drop (1 + head.extra) = front ++ later.rest := by
        rw [Nat.add_comm 1, List.drop_succ_cons, hrest]
      have hplace : position + 1 + head.extra = position + lexeme.render.length := by
        rw [show lexeme.render.length = 1 + head.extra from hlength, Nat.add_assoc]
      rw [hdrop] at hrendered hname
      rw [hplace] at hspelled hhalted
      refine ⟨lexeme.render ++ front, by rw [List.append_assoc]; exact hrendered,
        .cons hvalued hunended rfl (fun h => (hname h).of_append) hspelled, ?_, ?_⟩
      · cases hlater : later.lexemes with
        | nil =>
            obtain rfl : front = [] := by simpa [hlater, renderAll] using hspelled.rendered
            simpa using hname
        | cons next others => simpa [hlater] using huncut
      · cases herror : later.error with
        | none => simpa [herror] using hhalted
        | some error => simpa [herror, Nat.add_assoc] using hhalted

/-- The lexemes found in a text spell it. -/
theorem spelled_of_ofText {position : Nat} {text : List Char}
    (h : (Progress.ofText position text).error = none) :
    Spelled position (Progress.ofText position text).lexemes text
      ∧ (Progress.ofText position text).rest = [] := by
  obtain ⟨front, htext, hspelled, _, hhalted⟩ := haltsBehind_ofText position text
  rw [h] at hhalted
  dsimp only at hhalted
  rw [hhalted, List.append_nil] at htext
  exact ⟨htext ▸ hspelled, hhalted⟩

/-- Lexemes are found in front of any text that does not make a name at their end longer. -/
theorem Spelled.ofText_append {position : Nat} {lexemes : List Lexeme} {text tail : List Char}
    (h : Spelled position lexemes text)
    (huncut : ∀ last ∈ lexemes.getLast?, last.kind = .name → NoNameChar tail) :
    Progress.ofText position (text ++ tail)
      = ⟨lexemes ++ (Progress.ofText (position + text.length) tail).lexemes,
          (Progress.ofText (position + text.length) tail).rest,
          (Progress.ofText (position + text.length) tail).error⟩ := by
  induction lexemes generalizing position text with
  | nil =>
      obtain rfl := h.rendered
      simp [renderAll]
  | cons lexeme rest ih =>
      obtain ⟨hvalued, hunended, hapart, hplaced, rfl⟩ := h
      obtain ⟨hvalued, hvalueds⟩ := List.forall_mem_cons.mp hvalued
      obtain ⟨hunended, hunendeds⟩ := List.forall_mem_cons.mp hunended
      obtain ⟨hindex, hplaced⟩ := placed_cons.mp hplaced
      have hname (hname : lexeme.kind = .name) : NoNameChar (renderAll rest ++ tail) :=
        noNameChar_renderAll_append hvalueds hunendeds
          (noNameChar_renderAll hname hvalueds hunendeds (List.isChain_cons.mp hapart).1)
          fun hnil => huncut lexeme (by simp [hnil]) hname
      obtain ⟨c, text, extra, htext, hdrop, hlength, hread⟩ := hvalued.readBefore hunended hname
      have hlater := ih ⟨hvalueds, hunendeds, hapart.tail, hplaced, rfl⟩ fun last hlast =>
        huncut last (by cases rest with
          | nil => simp at hlast
          | cons next later => simpa using hlast)
      rw [hlength, ← Nat.add_assoc] at hlater
      rw [renderAll_cons, List.append_assoc, htext, Progress.ofText, hread]
      dsimp only
      rw [hdrop, hlater, String.ofList_toList, ← hindex, List.length_append, hlength]
      simp only [Nat.add_assoc, List.cons_append]

/-- Lexemes are found in the text that they spell. -/
theorem Spelled.ofText {position : Nat} {lexemes : List Lexeme} {text : List Char}
    (h : Spelled position lexemes text) :
    Progress.ofText position text = ⟨lexemes, [], none⟩ := by
  have huncut : ∀ last ∈ lexemes.getLast?, last.kind = .name → NoNameChar [] := by
    simp [NoNameChar]
  simpa [Progress.ofText] using h.ofText_append huncut

/-! ## Whole patterns -/

/-- A scan answers with the error that stopped it, or with the lexemes found and the end. -/
theorem scan_eq (source : String) :
    scan source = match (Progress.ofText 0 source.toList).error with
      | some error => .error error
      | none =>
          .ok ((Progress.ofText 0 source.toList).lexemes ++ [⟨.ending, source.length, ""⟩]) := by
  rw [scan, Scanner.run, Scanner.start]
  dsimp only
  cases herror : (Progress.ofText 0 source.toList).error with
  | some error => rfl
  | none =>
      rw [(spelled_of_ofText herror).2]
      simp [String.length_toList]

/-- A pattern is scanned into the lexemes that spell it and its end. -/
theorem scan_eq_ok_iff_spelled {source : String} {lexemes : List Lexeme} :
    scan source = .ok lexemes ↔
      ∃ found, Spelled 0 found source.toList ∧ lexemes = found ++ [⟨.ending, source.length, ""⟩] := by
  rw [scan_eq]
  constructor
  · intro h
    cases herror : (Progress.ofText 0 source.toList).error with
    | some error => simp [herror] at h
    | none => exact ⟨_, (spelled_of_ofText herror).1, by simpa [herror, eq_comm] using h⟩
  · rintro ⟨found, hspelled, rfl⟩
    simp [hspelled.ofText]

/-- The lexemes of a pattern have values that their kinds may hold. -/
theorem allValued_of_scan {source : String} {lexemes : List Lexeme} (h : scan source = .ok lexemes) :
    AllValued lexemes := by
  obtain ⟨found, hspelled, rfl⟩ := scan_eq_ok_iff_spelled.mp h
  exact List.forall_mem_append.mpr ⟨hspelled.valued, by simp [Lexeme.Valued]⟩

/-- The end of a pattern adds nothing to its text. -/
theorem renderAll_ending (found : List Lexeme) (index : Int) :
    renderAll (found ++ [⟨.ending, index, ""⟩]) = renderAll found := by
  simp [renderAll, Lexeme.render]

/-- Lexemes that spell a text are well-formed together with its end. -/
theorem wellFormed_iff_spelled {found : List Lexeme} {length : Nat} :
    WellFormed (found ++ [⟨.ending, length, ""⟩]) ↔
      Spelled 0 found (renderAll found) ∧ length = (renderAll found).length := by
  constructor
  · rintro ⟨hvalued, hapart, hplaced, before, hended, hunended⟩
    obtain ⟨rfl, hlast⟩ := List.append_inj' hended rfl
    obtain ⟨hplaced, _⟩ := placed_append.mp hplaced
    refine ⟨⟨fun lexeme h => hvalued lexeme (List.mem_append_left _ h), hunended,
      hapart.left_of_append, hplaced, rfl⟩, ?_⟩
    simpa [renderAll_ending, Int.natCast_inj] using hlast
  · rintro ⟨⟨hvalued, hunended, hapart, hplaced, _⟩, rfl⟩
    refine ⟨?_, ?_, placed_append.mpr ⟨hplaced, ?_⟩, found, ?_, hunended⟩
    · intro lexeme h
      rcases List.mem_append.mp h with h | h
      · exact hvalued lexeme h
      · rw [List.mem_singleton.mp h]
        rfl
    · refine List.isChain_append.mpr ⟨hapart, .singleton _, ?_⟩
      intro lexeme _ last hlast _ hchar
      simp only [List.head?_cons, Option.mem_def, Option.some.injEq] at hlast
      simp [← hlast] at hchar
    · exact placed_cons.mpr ⟨by simp, by simp [Placed]⟩
    · rw [renderAll_ending]

/-- The lexemes of a pattern are the well-formed lexemes that stand for its text. -/
theorem scan_eq_ok_iff (source : String) (lexemes : List Lexeme) :
    scan source = .ok lexemes ↔
      WellFormed lexemes ∧ String.ofList (renderAll lexemes) = source := by
  rw [scan_eq_ok_iff_spelled]
  constructor
  · rintro ⟨found, hspelled, rfl⟩
    have htext := hspelled.rendered
    rw [← String.length_toList, htext, renderAll_ending, wellFormed_iff_spelled, ← htext,
      String.ofList_toList]
    exact ⟨⟨hspelled, rfl⟩, rfl⟩
  · rintro ⟨hformed, rfl⟩
    obtain ⟨before, hended, _⟩ := hformed.ended
    rw [hended] at hformed ⊢
    obtain ⟨hspelled, hlength⟩ := wellFormed_iff_spelled.mp hformed
    refine ⟨before, ?_, ?_⟩
    · simpa [renderAll_ending] using hspelled
    · simp [renderAll_ending, hlength, String.length_ofList]

end RoutePattern
