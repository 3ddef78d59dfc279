import RoutePattern.Lexeme.Scan
import RoutePattern.Proofs.Expr.Running

/-!
# The text between two parentheses

An expression is scanned up to the parenthesis that closes it. `Balanced` says which texts can stand
between the two: parentheses come in pairs, each opening one is followed by a question mark, and
every backslash has a character after it, which counts for nothing. `groupBody_eq_ok_iff` is the
main result: the scan takes a balanced text, a closing parenthesis has to follow it, and there is
no other way to cut the text there.
-/

namespace RoutePattern

/-- A text in which parentheses come in pairs that start with a question mark. A backslash and the
character after it stand for themselves. -/
inductive Balanced : List Char → Prop where
  | nil : Balanced []
  | plain {c : Char} {rest : List Char} (hc : c ≠ '\\' ∧ c ≠ '(' ∧ c ≠ ')') :
      Balanced rest → Balanced (c :: rest)
  | escape (c : Char) {rest : List Char} : Balanced rest → Balanced ('\\' :: c :: rest)
  | group {inner rest : List Char} (hinner : inner.head? = some '?') :
      Balanced inner → Balanced rest → Balanced ('(' :: inner ++ ')' :: rest)

/-- A balanced text has no lone backslash at its end. -/
theorem Balanced.whole {text : List Char} (h : Balanced text) : Piece.Whole text := by
  induction h with
  | nil => exact .nil
  | plain hc _ ih => exact .plain hc.1 ih
  | escape c _ ih => exact .escaped c ih
  | group _ _ _ hinner hrest =>
      exact .plain (by decide) (hinner.append (.plain (by decide) hrest))

/-- Passing over a character that is no escape and no parenthesis. -/
theorem groupBody_plain {c : Char} (hc : c ≠ '\\' ∧ c ≠ '(' ∧ c ≠ ')') (depth offset : Nat)
    (rest : List Char) :
    groupBody depth offset (c :: rest)
      = (groupBody depth (offset + 1) rest).map (c :: ·) := by
  obtain ⟨hescape, hopen, hclose⟩ := hc
  rw [groupBody]
  · cases groupBody depth (offset + 1) rest <;> rfl
  all_goals simp [hescape, hopen, hclose]

/-- Passing over an escape. -/
theorem groupBody_escape (depth offset : Nat) (c : Char) (rest : List Char) :
    groupBody depth offset ('\\' :: c :: rest)
      = (groupBody depth (offset + 2) rest).map fun body => '\\' :: c :: body := by
  rw [groupBody]
  cases groupBody depth (offset + 2) rest <;> rfl

/-- Passing over a parenthesis that opens a group. -/
theorem groupBody_opening {rest : List Char} (h : rest.head? = some '?') (depth offset : Nat) :
    groupBody depth offset ('(' :: rest)
      = (groupBody (depth + 1) (offset + 1) rest).map ('(' :: ·) := by
  rw [groupBody, if_pos h]
  cases groupBody (depth + 1) (offset + 1) rest <;> rfl

/-- Passing over a parenthesis that closes an inner group. -/
theorem groupBody_closing (outer offset : Nat) (rest : List Char) :
    groupBody (outer + 1) offset (')' :: rest)
      = (groupBody outer (offset + 1) rest).map (')' :: ·) := by
  rw [groupBody]
  cases groupBody outer (offset + 1) rest <;> rfl

/-- A balanced text is passed over whole, at any depth. -/
theorem Balanced.groupBody_append {body : List Char} (h : Balanced body) (depth offset : Nat)
    (tail : List Char) :
    groupBody depth offset (body ++ tail)
      = (groupBody depth (offset + body.length) tail).map (body ++ ·) := by
  induction h generalizing depth offset tail with
  | nil =>
      rw [List.nil_append, List.length_nil, Nat.add_zero]
      cases groupBody depth offset tail <;> rfl
  | @plain c rest hc _ ih =>
      rw [List.cons_append, groupBody_plain hc, ih, List.length_cons, Nat.add_assoc,
        Nat.add_comm 1]
      cases groupBody depth (offset + (rest.length + 1)) tail <;> rfl
  | @escape c rest _ ih =>
      rw [List.cons_append, List.cons_append, groupBody_escape, ih, List.length_cons,
        List.length_cons, Nat.add_assoc, Nat.add_comm 2]
      cases groupBody depth (offset + (rest.length + 2)) tail <;> rfl
  | @group inner rest hinner _ _ ihinner ihrest =>
      have hhead : (inner ++ ')' :: (rest ++ tail)).head? = some '?' := by
        simp [List.head?_append, hinner]
      have hlength : offset + 1 + inner.length + 1 + rest.length
          = offset + ('(' :: inner ++ ')' :: rest).length := by
        simp only [List.cons_append, List.length_cons, List.length_append]
        omega
      rw [List.append_assoc, List.cons_append, List.cons_append, groupBody_opening hhead, ihinner,
        groupBody_closing, ihrest, hlength]
      cases groupBody depth (offset + ('(' :: inner ++ ')' :: rest).length) tail with
      | error error => rfl
      | ok body => simp [Except.map]

/-- A text that closes `depth` groups and is balanced before and after each closing parenthesis. -/
def Closes : Nat → List Char → Prop
  | 0, body => Balanced body
  | outer + 1, body => ∃ inner rest, body = inner ++ ')' :: rest ∧ Balanced inner ∧ Closes outer rest

/-- What may stand in front of a balanced text may stand in front of one that closes groups. -/
theorem Closes.prepend (front : List Char) (hfront : ∀ body, Balanced body → Balanced (front ++ body))
    {depth : Nat} {body : List Char} (h : Closes depth body) : Closes depth (front ++ body) := by
  cases depth with
  | zero => exact hfront body h
  | succ outer =>
      obtain ⟨inner, rest, rfl, hinner, hrest⟩ := h
      exact ⟨front ++ inner, rest, by simp, hfront inner hinner, hrest⟩

/-- What the scan takes closes every group that is open, and a closing parenthesis follows it. -/
theorem closes_of_groupBody {depth offset : Nat} {text body : List Char}
    (h : groupBody depth offset text = .ok body) :
    Closes depth body ∧ ∃ rest, text = body ++ ')' :: rest := by
  fun_induction groupBody depth offset text generalizing body with
  | case1 => simp at h
  | case2 => simp at h
  | case3 depth offset c rest ih =>
      obtain ⟨later, hlater, h⟩ := bind_eq_ok.mp h
      cases h
      obtain ⟨hcloses, tail, rfl⟩ := ih hlater
      exact ⟨hcloses.prepend ['\\', c] fun _ hbody => hbody.escape c, tail, rfl⟩
  | case4 offset rest =>
      cases h
      exact ⟨.nil, rest, rfl⟩
  | case5 offset rest outer ih =>
      obtain ⟨later, hlater, h⟩ := bind_eq_ok.mp h
      cases h
      obtain ⟨hcloses, tail, rfl⟩ := ih hlater
      exact ⟨⟨[], later, rfl, .nil, hcloses⟩, tail, rfl⟩
  | case6 depth offset rest hhead ih =>
      obtain ⟨later, hlater, h⟩ := bind_eq_ok.mp h
      cases h
      obtain ⟨⟨inner, outer, rfl, hinner, houter⟩, tail, rfl⟩ := ih hlater
      have hquestion : inner.head? = some '?' := by
        cases inner with
        | nil => simp at hhead
        | cons c _ => simpa using hhead
      refine ⟨?_, tail, rfl⟩
      have hgroup : Closes depth (('(' :: inner ++ [')']) ++ outer) :=
        houter.prepend _ fun body hbody => by
          simpa using Balanced.group hquestion hinner hbody
      simpa using hgroup
  | case7 => simp at h
  | case8 depth offset c rest hlone hescape hclose hopen ih =>
      obtain ⟨later, hlater, h⟩ := bind_eq_ok.mp h
      cases h
      obtain ⟨hcloses, tail, rfl⟩ := ih hlater
      have hc : c ≠ '\\' ∧ c ≠ '(' ∧ c ≠ ')' := by
        refine ⟨?_, hopen, hclose⟩
        rintro rfl
        cases later with
        | nil => exact hescape _ _ rfl rfl
        | cons first _ => exact hescape _ _ rfl rfl
      exact ⟨hcloses.prepend [c] fun _ hbody => hbody.plain hc, tail, rfl⟩

/-- The scan of an expression takes exactly the balanced text in front of a closing parenthesis. -/
theorem groupBody_eq_ok_iff {offset : Nat} {text body : List Char} :
    groupBody 0 offset text = .ok body ↔ Balanced body ∧ ∃ rest, text = body ++ ')' :: rest := by
  constructor
  · exact closes_of_groupBody
  · rintro ⟨hbody, rest, rfl⟩
    rw [hbody.groupBody_append, groupBody]
    simp [Except.map]

end RoutePattern
