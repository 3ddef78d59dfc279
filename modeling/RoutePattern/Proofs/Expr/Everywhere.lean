import RoutePattern.Proofs.Expr.Leftmost
import RoutePattern.Proofs.Expr.Searching

/-!
# A search tries every place

A search for an expression that is direct and may be searched for finds something just if the
expression leads from some place of the text to another: `search_iff_leads` is the main result.
-/

namespace RoutePattern

/-- The places that are reached from a place on are among those behind it. -/
theorem Place.mem_onward {p q : Place} {text : List Char} (h : p.Reaches q text) {count : Nat}
    (hcount : text.length ≤ count) : q ∈ p.onward count := by
  induction count generalizing p text with
  | zero =>
      obtain rfl := List.length_eq_zero_iff.mp (Nat.le_zero.mp hcount)
      rw [Place.onward, List.mem_singleton]
      exact (reaches_nil_iff.mp h).symm
  | succ count ih =>
      rw [Place.onward]
      cases text with
      | nil =>
          obtain rfl := reaches_nil_iff.mp h
          split <;> simp
      | cons c rest =>
          obtain ⟨r, hfirst, hrest⟩ := Reaches.split (show p.Reaches q ([c] ++ rest) from h)
          rw [next?_eq_some_iff.mpr hfirst]
          exact List.mem_cons_of_mem _ (ih hrest (Nat.le_of_succ_le_succ hcount))

/-- A place of a text is among those from its beginning on. -/
theorem Place.mem_onward_start {p : Place} {text : List Char} (hwhole : p.whole = text) :
    p ∈ (Place.start text).onward text.length := by
  refine mem_onward (Reaches.of_start hwhole) ?_
  have hlength := congrArg List.length hwhole
  rw [Place.whole, List.length_append] at hlength
  omega

namespace Expr

variable {e : Expr} {p q : Place}

/-- A direct expression that leads away from a place has a match from there. -/
theorem exists_hit?_of_leads (hdirect : e.Direct) (h : e.Leads p q) :
    ∃ memory, e.hit? p = some memory := by
  have hrun := run_finds hdirect false none p q Matching.accept ⟨h, q.admits_none⟩
    (fun _ => trivial) { cursor := p }
  rw [hit?]
  cases hattempt : e.run false none p { cursor := p } Matching.accept with
  | found memory => exact ⟨memory, rfl⟩
  | failed memory =>
      rw [hattempt] at hrun
      exact hrun.elim

end Expr

/-- A search finds something just if the expression leads from some place of the text to another. -/
theorem Expression.search_iff_leads {expression : Expression} {high : Nat}
    (hsearchable : expression.expr.Searchable) (hdirect : expression.expr.Direct)
    (hfits : expression.expr.Fits false 0 high) (hflags : expression.flags.asciiOnly = false)
    {text : String} : (∃ found, expression.search text = .ok (some found)) ↔
      ∃ p q, p.whole = text.toList ∧ expression.expr.Leads p q := by
  constructor
  · rintro ⟨found, hsearch⟩
    obtain ⟨⟨s, hwhole, _, hpasses, _⟩, _⟩ := search_eq_some hfits hsearch
    exact ⟨s, _, hwhole, hpasses.leads⟩
  · rintro ⟨p, q, hwhole, hleads⟩
    obtain ⟨memory, hhit⟩ := Expr.exists_hit?_of_leads hdirect hleads
    obtain ⟨found, hfirst, _⟩ := Expr.index_le_of_firstHit? (Place.mem_onward_start hwhole) hhit
    obtain ⟨result, hresult⟩ := search_ok hdirect.onward hfits text
    have hsearch := Expr.search_eq hsearchable hflags text
    rw [hfirst, hresult] at hsearch
    dsimp only at hsearch
    split at hsearch
    · simp at hsearch
    · exact ⟨found, hresult.trans hsearch⟩

end RoutePattern
