import Mathlib.Data.List.TakeWhile
import RoutePattern.Proofs.Pattern.Division
import RoutePattern.Proofs.Pattern.Params
import RoutePattern.Proofs.Text.Case

/-!
# Delimiters in texts

A text without the standard delimiters is free. Where a free text ends at a delimiter, or at the end
of the whole text, is settled by what stands there (`Place.Reaches.free_unique`), and so is where
one begins (`Place.Reaches.last_delimiter`). Delimiters have no case, so texts that compare as equal
have the same ones. Splitting free texts that were joined gives them back if there is a delimiter in
the separator (`splitFrom_intercalate`).
-/

namespace RoutePattern

/-- Whether a character is one of the standard delimiters. -/
def isDelimiter (c : Char) : Bool :=
  standardDelimiter.toList.contains c

/-- A text without delimiters. -/
def Free (text : List Char) : Prop :=
  ∀ c ∈ text, isDelimiter c = false

/-- A text that is empty or begins with a delimiter. -/
def Bounded (text : List Char) : Prop :=
  ∀ c rest, text = c :: rest → isDelimiter c = true

instance (text : List Char) : Decidable (Free text) :=
  List.decidableBAll (isDelimiter · = false) text

variable {fold : Fold} {text spelled first second rest : List Char} {c d : Char}

/-! ## Free texts -/

/-- No characters are free of delimiters. -/
theorem free_nil : Free [] := by
  simp [Free]

/-- Texts in a row are free if each of them is. -/
theorem free_append : Free (first ++ second) ↔ Free first ∧ Free second :=
  List.forall_mem_append

/-- A text is free if its characters are no delimiters. -/
theorem free_cons : Free (c :: rest) ↔ isDelimiter c = false ∧ Free rest :=
  List.forall_mem_cons

/-- A text is free backwards, too. -/
theorem free_reverse : Free text.reverse ↔ Free text := by
  simp [Free]

/-- A free text ends where the next delimiter stands. -/
theorem Free.takeWhile (h : Free text) (hrest : Bounded rest) :
    (text ++ rest).takeWhile (fun c => !isDelimiter c) = text := by
  rw [List.takeWhile_append_of_pos fun c hc => by simp [h c hc]]
  cases rest with
  | nil => simp
  | cons c rest => simp [hrest c rest rfl]

/-- A delimiter and whatever stands behind it are bounded. -/
theorem bounded_cons (h : isDelimiter d = true) (rest : List Char) : Bounded (d :: rest) := by
  rintro c rest ⟨⟩
  exact h

/-- A set of the standard delimiters accepts just these, or all others, whether case matters or
not. -/
theorem accepts_standardSet (hfold : fold ≠ .ascii) (negated : Bool) (c : Char) :
    (SetReader.test fold negated (standardDelimiter.toList.map fun d => .code d.toNat)).accepts c =
      (negated != isDelimiter c) := by
  have hset : SetReader.test fold negated (standardDelimiter.toList.map fun d => .code d.toNat) =
        .set [.code 47, .code 35, .code 63] negated fold ∧
      CharTest.foldsMembers fold [.code 47, .code 35, .code 63] = false := by
    cases fold with
    | ascii => exact absurd rfl hfold
    | keep | unicode => cases negated <;> decide +kernel
  have hcode (d : Char) : (c.toNat == d.toNat) = (c == d) := by
    rw [Bool.eq_iff_iff, beq_iff_eq, beq_iff_eq, Char.toNat_inj]
  rw [hset.1]
  simp only [CharTest.accepts, CharTest.amongMembers, hset.2, Bool.false_eq_true, ↓reduceIte,
    List.any_cons, List.any_nil, Member.holds, Bool.or_false]
  show (negated != (c.toNat == '/'.toNat || (c.toNat == '#'.toNat || c.toNat == '?'.toNat))) = _
  rw [hcode, hcode, hcode]
  show _ = (negated != ['/', '#', '?'].contains c)
  simp only [List.contains_cons, List.contains_nil, Bool.or_false]

/-- Under the standard delimiters, the test for a delimiter accepts just these. -/
theorem accepts_delimiterTest {options : Options}
    (hdelimiter : options.delimiter = standardDelimiter) (c : Char) :
    options.delimiterTest.accepts c = isDelimiter c := by
  rw [Options.delimiterTest, hdelimiter, getD_readSet (by decide)]
  exact (accepts_standardSet (fold_ne_ascii options) false c).trans (Bool.false_bne _)

/-! ## Texts that compare as equal -/

/-- Delimiters have no case. -/
theorem isCased_delimiter (h : isDelimiter d = true) : isCased d.toNat = false := by
  have hone : d = '/' ∨ d = '#' ∨ d = '?' := by
    simpa [isDelimiter, standardDelimiter] using h
  rcases hone with rfl | rfl | rfl <;> decide +kernel

/-- A delimiter compares as equal to itself only. -/
theorem eq_of_sameCode (hfold : fold ≠ .ascii)
    (h : CharTest.sameCode fold c.toNat d.toNat = true)
    (hdelimiter : isDelimiter c = true ∨ isDelimiter d = true) : c = d := by
  unfold CharTest.sameCode at h
  split at h
  · next hcased =>
    cases fold with
    | keep => simp [Fold.cased] at hcased
    | ascii => exact absurd rfl hfold
    | unicode =>
        have hcased' : isCased c.toNat = true := hcased
        have hd : isCased d.toNat = false := by
          rcases hdelimiter with hc | hd
          · rw [isCased_delimiter hc] at hcased'
            simp at hcased'
          · exact isCased_delimiter hd
        have hlower : lowerCode d.toNat = d.toNat := (lowerCode_eq_iff hd).mpr rfl
        dsimp only [Fold.lower, Fold.others] at h
        rw [hlower, Bool.or_eq_true, beq_iff_eq, List.contains_iff_mem] at h
        rcases h with hform | hshared
        · exact Char.toNat_inj.mp ((lowerCode_eq_iff hd).mp hform.symm)
        · have := (isCased_of_mem_sharing hshared).2
          rw [hd] at this
          simp at this
  · exact (Char.toNat_inj.mp (by simpa using h)).symm

/-- What compares as equal to a free text is free. -/
theorem SameText.free (h : SameText fold text spelled) (hfold : fold ≠ .ascii) (hfree : Free text) :
    Free spelled := by
  induction h with
  | nil => exact free_nil
  | @cons expected c _ _ hchar _ ih =>
      obtain ⟨hexpected, hrest⟩ := free_cons.mp hfree
      refine free_cons.mpr ⟨?_, ih hrest⟩
      rw [← Bool.not_eq_true]
      intro hc
      rw [eq_of_sameCode hfold hchar (.inr hc), hc] at hexpected
      simp at hexpected

/-- What compares as equal to a text behind a delimiter begins with this delimiter, too. -/
theorem SameText.delimited (h : SameText fold (d :: text) spelled) (hfold : fold ≠ .ascii)
    (hd : isDelimiter d = true) : ∃ rest, spelled = d :: rest ∧ SameText fold text rest := by
  cases h with
  | cons hchar hrest =>
      rw [← eq_of_sameCode hfold hchar (.inl hd)]
      exact ⟨_, rfl, hrest⟩

/-- A text can be found one character earlier than it stands only if it is a delimiter over and
over. -/
theorem SameText.shift (hfold : fold ≠ .ascii) (hd : isDelimiter d = true)
    (h : SameText fold text first) (h' : SameText fold text second)
    (hshift : c :: first = second ++ [d]) : c = d := by
  induction text generalizing c first second with
  | nil =>
      cases h
      cases h'
      exact (List.cons.inj hshift).1
  | cons expected text ih =>
      cases h with
      | @cons _ a _ first hfirst h =>
          cases h' with
          | @cons _ b _ second hsecond h' =>
              obtain ⟨rfl, hrest⟩ := List.cons.inj hshift
              have ha : a = d := ih h h' hrest
              have hexpected := eq_of_sameCode hfold hfirst (.inr (ha ▸ hd))
              rw [ha] at hexpected
              rw [hexpected] at hsecond
              exact (eq_of_sameCode hfold hsecond (.inl hd)).symm

/-! ## Places at delimiters -/

namespace Place

variable {p q r s : Place}

/-- Texts of one length lead from one place to the same place. -/
theorem Reaches.end_eq (h : p.Reaches q first) (h' : p.Reaches r second)
    (hlength : first.length = second.length) : q = r := by
  refine ext_offset (h.whole.trans h'.whole.symm) ?_
  rw [h.offset, h'.offset, hlength]

/-- Texts of one length lead to a place from the same place. -/
theorem Reaches.begin_eq (h : p.Reaches r first) (h' : q.Reaches r second)
    (hlength : first.length = second.length) : p = q := by
  refine ext_offset (h.whole.symm.trans h'.whole) ?_
  have hoffset := h.offset
  have hoffset' := h'.offset
  omega

/-- From one place, free texts that end at a delimiter lead to the same place. -/
theorem Reaches.free_unique (h : p.Reaches q first) (h' : p.Reaches r second) (hfirst : Free first)
    (hsecond : Free second) (hq : Bounded q.after) (hr : Bounded r.after) : q = r := by
  have heq : first = second := by
    rw [← hfirst.takeWhile hq, ← hsecond.takeWhile hr, ← h.after, ← h'.after]
  rw [heq] at h
  exact h.unique h'

/-- The last delimiter in front of a place stands at one place only. -/
theorem Reaches.last_delimiter (h : p.Reaches r (c :: first)) (h' : q.Reaches r (d :: second))
    (hc : isDelimiter c = true) (hd : isDelimiter d = true) (hfirst : Free first)
    (hsecond : Free second) : p = q := by
  have hreverse : first.reverse ++ c :: p.before = second.reverse ++ d :: q.before := by
    simpa using h.before.symm.trans h'.before
  have hlength : first.reverse = second.reverse := by
    rw [← Free.takeWhile (free_reverse.mpr hfirst) (bounded_cons hc p.before), hreverse,
      Free.takeWhile (free_reverse.mpr hsecond) (bounded_cons hd q.before)]
  refine h.begin_eq h' ?_
  rw [List.length_cons, List.length_cons, ← List.length_reverse, hlength, List.length_reverse]

end Place

/-! ## Splitting joined texts -/

/-- Skipping characters is going on behind them. -/
theorem splitFrom_skip (separator : List Char) (skip : Nat) (current text : List Char) :
    splitFrom separator skip current text = splitFrom separator 0 current (text.drop skip) := by
  induction text generalizing skip with
  | nil => rw [List.drop_nil, splitFrom, splitFrom]
  | cons c rest ih =>
      cases skip with
      | zero => rfl
      | succ skip => rw [splitFrom, ih, List.drop_succ_cons]

section Splitting

variable {before after : List Char} {piece : List Char}

/-- A separator with a delimiter does not begin in a free text. -/
theorem not_separator (hd : isDelimiter d = true) (hafter : Free after) (hpiece : Free (c :: piece))
    (hrest : rest = [] ∨ ∃ more, rest = after ++ d :: before ++ more) :
    (after ++ d :: before).isPrefixOf (c :: piece ++ rest) = false := by
  rw [← Bool.not_eq_true, List.isPrefixOf_iff_prefix]
  rintro ⟨more, hmore⟩
  -- The first delimiter stands behind the piece.
  have hfirst := hafter.takeWhile (bounded_cons hd (before ++ more))
  have hsame : after ++ d :: (before ++ more) = c :: piece ++ rest := by simpa using hmore
  rw [hsame] at hfirst
  rcases hrest with rfl | ⟨others, rfl⟩
  · have hmem : d ∈ c :: piece := by
      rw [← List.append_nil (c :: piece), ← hsame]
      simp
    rw [hpiece d hmem] at hd
    simp at hd
  · have hsecond := (free_append.mpr ⟨hpiece, hafter⟩).takeWhile (bounded_cons hd (before ++ others))
    have heq : c :: piece ++ after = after := by
      refine Eq.trans hsecond.symm (Eq.trans ?_ hfirst)
      simp
    have hlength := congrArg List.length heq
    rw [List.length_append, List.length_cons] at hlength
    omega

/-- A free text is a stretch up to the next separator with a delimiter. -/
theorem splitFrom_piece (hd : isDelimiter d = true) (hafter : Free after) (hpiece : Free piece)
    (hrest : rest = [] ∨ ∃ more, rest = after ++ d :: before ++ more) (current : List Char) :
    splitFrom (after ++ d :: before) 0 current (piece ++ rest) =
      splitFrom (after ++ d :: before) 0 (piece.reverse ++ current) rest := by
  induction piece generalizing current with
  | nil => rfl
  | cons c piece ih =>
      rw [List.cons_append, splitFrom, ← List.cons_append, not_separator hd hafter hpiece hrest,
        if_neg (by simp), ih (free_cons.mp hpiece).2]
      simp

/-- A separator ends a stretch. -/
theorem splitFrom_separator {separator : List Char} (h : separator ≠ []) (current more : List Char) :
    splitFrom separator 0 current (separator ++ more) =
      current.reverse :: splitFrom separator 0 [] more := by
  cases separator with
  | nil => exact absurd rfl h
  | cons c separator =>
      have hoccurs : (c :: separator).isPrefixOf (c :: (separator ++ more)) = true :=
        List.isPrefixOf_iff_prefix.mpr ⟨more, rfl⟩
      rw [List.cons_append, splitFrom, if_pos hoccurs, splitFrom_skip]
      simp

/-- Splitting free texts that were joined by a separator with a delimiter gives them back. -/
theorem splitFrom_intercalate (hd : isDelimiter d = true) (hafter : Free after)
    {pieces : List (List Char)} (hne : pieces ≠ []) (h : ∀ piece ∈ pieces, Free piece) :
    splitFrom (after ++ d :: before) 0 [] ((after ++ d :: before).intercalate pieces) = pieces := by
  induction pieces with
  | nil => exact absurd rfl hne
  | cons piece others ih =>
      obtain ⟨hpiece, hothers⟩ := List.forall_mem_cons.mp h
      cases others with
      | nil =>
          have hlast := @splitFrom_piece [] d before after piece hd hafter hpiece (.inl rfl) []
          rw [List.append_nil, List.append_nil] at hlast
          rw [List.intercalate_singleton, hlast, splitFrom, List.reverse_reverse]
      | cons next others =>
          rw [List.intercalate_cons_cons, List.append_assoc,
            splitFrom_piece hd hafter hpiece (.inr ⟨_, rfl⟩), splitFrom_separator (by simp),
            ih (List.cons_ne_nil _ _) hothers]
          simp

end Splitting

end RoutePattern
