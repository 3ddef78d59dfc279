import RoutePattern.Proofs.Lexeme.Rendering
import RoutePattern.Proofs.Part.Sentence
import RoutePattern.Proofs.Part.Stepping

/-!
# What is read and what is refused

`parse_verdict` is the main result: a pattern is read exactly if its lexemes form a sentence of the
grammar, and otherwise the error is about the first lexeme with which they stop being the beginning
of one. `Stepped.leads` and `Stepped.fails` follow one step from place to place in a sentence, and
`ReadOut.leads` and `ReadOut.fails` a whole reading.
-/

namespace RoutePattern

/-- The kinds of some lexemes. -/
def kinds (lexemes : List Lexeme) : List Kind :=
  lexemes.map (·.kind)

/-- The lexemes up to some point lie within a group that was opened at an offset. -/
def InGroupAt (before : List Lexeme) (opened : Int) : Prop :=
  ∃ outside opening inside, before = outside ++ opening :: inside ∧ opening.kind = .opening ∧
    opening.index = opened ∧ ∀ lexeme ∈ inside, lexeme.kind ≠ .opening ∧ lexeme.kind ≠ .closing

/-- The error about a lexeme after some others, and its message: within a group its end would have
fitted, outside of groups the end of the pattern. -/
inductive Blamed (before : List Lexeme) (lexeme : Lexeme) : GrammarError → String → Prop where
  | inside {opened : Int} (h : InGroupAt before opened) :
      Blamed before lexeme ⟨lexeme.index, .closing, lexeme.kind, some opened⟩
        ("unexpected " ++ lexeme.kind.label ++ " at " ++ toString lexeme.index
          ++ ", expected " ++ "CLOSE" ++ " (group opened at " ++ toString opened ++ ")")
  | outside (h : ∀ opened, ¬ InGroupAt before opened) :
      Blamed before lexeme ⟨lexeme.index, .ending, lexeme.kind, none⟩
        ("unexpected " ++ lexeme.kind.label ++ " at " ++ toString lexeme.index
          ++ ", expected " ++ "END")

/-- The end stands last and nowhere else. -/
def EndsLast (lexemes : List Lexeme) : Prop :=
  ∀ before lexeme after, lexemes = before ++ lexeme :: after → (lexeme.kind = .ending ↔ after = [])

/-! ## From place to place -/

namespace Spot

/-- From a place the lexemes up to `rest` lead to another, without braces among them. -/
def Leads (spot : Spot) (lexemes : List Lexeme) (next : Spot) (rest : List Lexeme) : Prop :=
  ∃ front, lexemes = front ++ rest ∧ spot.run (kinds front) = some next ∧
    ∀ lexeme ∈ front, lexeme.kind ≠ .opening ∧ lexeme.kind ≠ .closing

/-- At a place what comes next may come as at the start of an item. -/
def Settled (spot : Spot) (rest : List Lexeme) : Prop :=
  ∀ lexeme ∈ rest.head?, spot.follow lexeme.kind = enter lexeme.kind

/-- Following two stretches of lexemes. -/
theorem run_append {spot : Spot} {first second : List Kind} :
    spot.run (first ++ second) = (spot.run first).bind fun next => next.run second := by
  simp [run, List.foldlM_append, bind]

/-- Following one lexeme. -/
theorem run_cons {spot : Spot} {kind : Kind} {rest : List Kind} :
    spot.run (kind :: rest) = (spot.follow kind).bind fun next => next.run rest := by
  simp [run, bind]

/-- A group can be closed anywhere. -/
theorem InGroup.follow_closing {spot : Spot} (h : spot.InGroup) :
    spot.follow .closing = some captured := by
  obtain rfl | rfl | rfl := h <;> rfl

/-- Following a group. -/
theorem run_group {inner next : Spot} {inside mark : List Kind} (hrun : inText.run inside = some inner)
    (hinner : inner.InGroup) (hmark : captured.run mark = some next) :
    top.run (.opening :: (inside ++ .closing :: mark)) = some next := by
  have hfirst : top.follow .opening = some inText := rfl
  rw [run_cons, hfirst, Option.bind_some, run_append, hrun, Option.bind_some, run_cons,
    hinner.follow_closing, Option.bind_some, hmark]

/-- What cannot come at a place in a group. -/
theorem InGroup.follow_eq_none {spot : Spot} (h : spot.InGroup) {kind : Kind}
    (hclosing : kind ≠ .closing) (hchar : kind ≠ .char) (hescaped : kind ≠ .escapedChar)
    (hname : spot = inText → kind ≠ .name) (hpattern : spot ≠ inRest → kind ≠ .pattern) :
    spot.follow kind = none := by
  obtain rfl | rfl | rfl := h <;> cases kind <;> simp_all [follow]

theorem Leads.refl (spot : Spot) (lexemes : List Lexeme) : spot.Leads lexemes spot lexemes :=
  ⟨[], rfl, rfl, by simp⟩

theorem Leads.trans {first second third : Spot} {lexemes later rest : List Lexeme}
    (h : first.Leads lexemes second later) (h' : second.Leads later third rest) :
    first.Leads lexemes third rest := by
  obtain ⟨front, rfl, hfront, hplain⟩ := h
  obtain ⟨more, rfl, hmore, hplain'⟩ := h'
  refine ⟨front ++ more, by simp, ?_, List.forall_mem_append.mpr ⟨hplain, hplain'⟩⟩
  rw [kinds, List.map_append, run_append]
  exact Option.bind_eq_some_iff.mpr ⟨second, hfront, hmore⟩

/-- What leads on takes lexemes away. -/
theorem Leads.length_le {spot next : Spot} {lexemes rest : List Lexeme}
    (h : spot.Leads lexemes next rest) : rest.length ≤ lexemes.length := by
  obtain ⟨front, rfl, _⟩ := h
  simp

/-- One lexeme leads on. -/
theorem Leads.single {spot : Spot} (next : Spot) {lexeme : Lexeme} {rest : List Lexeme} {kind : Kind}
    (hkind : lexeme.kind = kind) (h : spot.follow kind = some next)
    (hplain : kind ≠ .opening ∧ kind ≠ .closing) : spot.Leads (lexeme :: rest) next rest := by
  subst hkind
  exact ⟨[lexeme], rfl, by simp [kinds, run, h], by simpa using hplain⟩

end Spot

/-- Text leads from a place back to it if each character does. -/
theorem TextTaken.leads {lexemes rest : List Lexeme} {text : String}
    (h : TextTaken lexemes text rest) (spot : Spot) (hchar : spot.follow .char = some spot)
    (hescaped : spot.follow .escapedChar = some spot) : spot.Leads lexemes spot rest := by
  induction h with
  | nil => exact .refl _ _
  | @cons lexeme rest later text hkind _ ih =>
      obtain h | h := hkind
      · exact .trans (.single spot h hchar (by decide)) ih
      · exact .trans (.single spot h hescaped (by decide)) ih

/-- A lexeme that may be there leads from a place back to it if each of its kind does. -/
theorem Taken.leads {kind : Kind} {lexemes rest : List Lexeme} {value : Option String}
    (h : Taken kind lexemes value rest) (spot : Spot) (hspot : spot.follow kind = some spot)
    (hplain : kind ≠ .opening ∧ kind ≠ .closing) : spot.Leads lexemes spot rest := by
  cases h with
  | absent _ => exact .refl _ _
  | present h => exact .single spot h hspot hplain

/-- No literal character is left where text was taken. -/
theorem TextTaken.notNext {lexemes rest : List Lexeme} {text : String}
    (h : TextTaken lexemes text rest) : NotNext .char rest ∧ NotNext .escapedChar rest := by
  induction h with
  | nil hchar hescaped => exact ⟨hchar, hescaped⟩
  | cons _ _ ih => exact ih

/-- Nothing is taken where no literal character comes next. -/
theorem TextTaken.eq_of_notNext {lexemes rest : List Lexeme} {text : String}
    (h : TextTaken lexemes text rest) (hchar : NotNext .char lexemes)
    (hescaped : NotNext .escapedChar lexemes) : text = "" ∧ rest = lexemes := by
  cases h with
  | nil => exact ⟨rfl, rfl⟩
  | @cons lexeme _ _ _ hkind _ =>
      obtain h | h := hkind
      · exact absurd h (hchar lexeme rfl)
      · exact absurd h (hescaped lexeme rfl)

/-- The name and the expression outside of groups lead to where only a mark may still come. -/
theorem leads_capture {lexemes afterName rest : List Lexeme} {name pattern : Option String}
    (hname : Taken .name lexemes name afterName) (hpattern : Taken .pattern afterName pattern rest)
    (hsome : name ≠ none ∨ pattern ≠ none) :
    ∃ spot, (spot = .named ∨ spot = .captured) ∧ Spot.top.Leads lexemes spot rest ∧
      rest.length < lexemes.length := by
  cases hname with
  | absent _ =>
      cases hpattern with
      | absent _ => simp at hsome
      | present h => exact ⟨.captured, .inr rfl, .single _ h rfl (by decide), by simp⟩
  | present h =>
      cases hpattern with
      | absent _ => exact ⟨.named, .inl rfl, .single _ h rfl (by decide), by simp⟩
      | present h' =>
          refine ⟨.captured, .inr rfl, ?_, by simp only [List.length_cons]; omega⟩
          exact .trans (.single .named h rfl (by decide)) (.single _ h' rfl (by decide))

/-- After the mark of a key, if there is one, another item may come. -/
theorem leads_modifier {spot : Spot} (hspot : spot = .named ∨ spot = .captured)
    {lexemes rest : List Lexeme} {modifier : Option String}
    (h : Taken .modifier lexemes modifier rest) :
    ∃ next, spot.Leads lexemes next rest ∧ next.Settled rest ∧ ¬ next.InGroup := by
  cases h with
  | present h =>
      refine ⟨.top, .single _ h ?_ (by decide), fun _ _ => rfl, by simp [Spot.InGroup]⟩
      obtain rfl | rfl := hspot <;> rfl
  | absent h =>
      refine ⟨spot, .refl _ _, fun lexeme hlexeme => ?_, ?_⟩
      · obtain rfl | rfl := hspot <;> simp [Spot.follow, h lexeme hlexeme]
      · obtain rfl | rfl := hspot <;> simp [Spot.InGroup]

/-- The lexemes within a group lead to where only its end or what cannot be read comes next. -/
theorem leads_group {lexemes afterBefore afterName afterPattern rest : List Lexeme}
    {before after : String} {name pattern : Option String}
    (hbefore : TextTaken lexemes before afterBefore) (hname : Taken .name afterBefore name afterName)
    (hpattern : Taken .pattern afterName pattern afterPattern)
    (hafter : TextTaken afterPattern after rest) :
    ∃ spot, spot.InGroup ∧ Spot.inText.Leads lexemes spot rest ∧
      ∀ lexeme ∈ rest.head?, lexeme.kind ≠ .closing → spot.follow lexeme.kind = none := by
  have hlead := hbefore.leads .inText rfl rfl
  obtain ⟨hchar, hescaped⟩ := hafter.notNext
  cases hpattern with
  | present hkind =>
      refine ⟨.inRest, .inr (.inr rfl), hlead.trans (.trans ?_ (hafter.leads _ rfl rfl)), ?_⟩
      · cases hname with
        | absent _ => exact .single _ hkind rfl (by decide)
        | present h =>
            exact .trans (.single .inName h rfl (by decide)) (.single _ hkind rfl (by decide))
      · intro lexeme hlexeme hclosing
        exact Spot.InGroup.follow_eq_none (.inr (.inr rfl)) hclosing (hchar lexeme hlexeme)
          (hescaped lexeme hlexeme) (by simp) (by simp)
  | absent hpattern =>
      cases hname with
      | absent hname =>
          obtain ⟨_, rfl⟩ := hafter.eq_of_notNext hbefore.notNext.1 hbefore.notNext.2
          refine ⟨.inText, .inl rfl, hlead, fun lexeme hlexeme hclosing => ?_⟩
          exact Spot.InGroup.follow_eq_none (.inl rfl) hclosing (hchar lexeme hlexeme)
            (hescaped lexeme hlexeme) (fun _ => hname lexeme hlexeme)
            (fun _ => hpattern lexeme hlexeme)
      | present h =>
          have hnamed := hlead.trans (.single .inName h rfl (by decide))
          cases hafter with
          | nil =>
              refine ⟨.inName, .inr (.inl rfl), hnamed, fun lexeme hlexeme hclosing => ?_⟩
              exact Spot.InGroup.follow_eq_none (.inr (.inl rfl)) hclosing (hchar lexeme hlexeme)
                (hescaped lexeme hlexeme) (by simp) (fun _ => hpattern lexeme hlexeme)
          | cons hkind hrest =>
              refine ⟨.inRest, .inr (.inr rfl), hnamed.trans (.trans ?_ (hrest.leads _ rfl rfl)),
                fun lexeme hlexeme hclosing => ?_⟩
              · obtain h | h := hkind <;> exact .single _ h rfl (by decide)
              · exact Spot.InGroup.follow_eq_none (.inr (.inr rfl)) hclosing (hchar lexeme hlexeme)
                  (hescaped lexeme hlexeme) (by simp) (by simp)

/-- What leads to the last lexeme leads to the end. -/
theorem eq_done_of_endsLast {spot next : Spot} {lexemes : List Lexeme} (hlast : EndsLast lexemes)
    (hne : lexemes ≠ []) (h : spot.run (kinds lexemes) = some next) : next = .done := by
  obtain ⟨before, lexeme, rfl⟩ := (List.eq_nil_or_concat' lexemes).resolve_left hne
  have hkind : lexeme.kind = .ending := (hlast before lexeme [] rfl).mpr rfl
  simp only [kinds, List.map_append, List.map_cons, List.map_nil, Spot.run_append, hkind] at h
  obtain ⟨middle, _, h⟩ := Option.bind_eq_some_iff.mp h
  cases middle <;> simp_all [Spot.run, Spot.follow, Spot.enter]

/-- What may come as at the start of an item leads where it does from there. -/
theorem Spot.Settled.run_eq {spot : Spot} {front rest : List Lexeme}
    (h : spot.Settled (front ++ rest)) (hne : front ≠ []) :
    spot.run (kinds front) = Spot.top.run (kinds front) := by
  cases front with
  | nil => exact absurd rfl hne
  | cons lexeme front =>
      rw [kinds, List.map_cons, Spot.run_cons, Spot.run_cons, h lexeme rfl]
      rfl

/-- The error about the first of some lexemes that cannot come where it stands. -/
def Refused (spot : Spot) (lexemes : List Lexeme) (error : GrammarError) : Prop :=
  ∃ front lexeme after next, lexemes = front ++ lexeme :: after ∧
    spot.run (kinds front) = some next ∧ next.follow lexeme.kind = none ∧
    (¬ next.InGroup ∧ error = ⟨lexeme.index, .ending, lexeme.kind, none⟩ ∨
      ∃ outside opening inside, front = outside ++ opening :: inside ∧ opening.kind = .opening ∧
        (∀ lexeme ∈ inside, lexeme.kind ≠ .opening ∧ lexeme.kind ≠ .closing) ∧
        error = ⟨lexeme.index, .closing, lexeme.kind, some opening.index⟩)

/-- What a reading says about the lexemes from a place on. -/
def Judged (spot : Spot) (lexemes : List Lexeme) : Except GrammarError (List Part) → Prop
  | .ok _ => spot.run (kinds lexemes) = some .done
  | .error error => Refused spot lexemes error

/-- What is refused after some lexemes is refused with them in front. -/
theorem Refused.prepend {spot next : Spot} {front rest : List Lexeme} {error : GrammarError}
    (hfront : spot.run (kinds front) = some next) (h : Refused next rest error) :
    Refused spot (front ++ rest) error := by
  obtain ⟨more, lexeme, after, last, rfl, hrun, hstuck, herror⟩ := h
  refine ⟨front ++ more, lexeme, after, last, by simp, ?_, hstuck, ?_⟩
  · rw [kinds, List.map_append, Spot.run_append]
    exact Option.bind_eq_some_iff.mpr ⟨next, hfront, hrun⟩
  · obtain h | ⟨outside, opening, inside, rfl, h⟩ := herror
    · exact .inl h
    · exact .inr ⟨front ++ outside, opening, inside, by simp, h⟩

namespace PartReader

variable {context : ReadContext} {reader later : PartReader} {text : String}

/-- A step that succeeds leads from the start of an item to where another may start. -/
theorem Stepped.leads {result : List Part × String} (hlast : EndsLast reader.rest)
    (h : Stepped context reader text (.ok result) later) :
    ∃ front spot, reader.rest = front ++ later.rest ∧ front ≠ [] ∧
      Spot.top.run (kinds front) = some spot ∧ spot.Settled later.rest ∧ ¬ spot.InGroup ∧
      later.openGroups = reader.openGroups := by
  cases h with
  | @key char _ _ _ afterChar _ afterPattern rest hchar hname hpattern hsome hmodifier =>
      obtain ⟨middle, hmiddle, hcapture, hlength⟩ := leads_capture hname hpattern hsome
      obtain ⟨spot, hmark, hsettled, houtside⟩ := leads_modifier hmiddle hmodifier
      have hfirst := hchar.leads .top rfl (by decide)
      have hshorter : rest.length < reader.rest.length :=
        (hmark.length_le.trans_lt hlength).trans_le hfirst.length_le
      obtain ⟨front, hfront, hrun, _⟩ := hfirst.trans (hcapture.trans hmark)
      refine ⟨front, spot, hfront, ?_, hrun, hsettled, houtside, rfl⟩
      rintro rfl
      simp [hfront] at hshorter
  | char hread hkind _ _ =>
      exact ⟨[_], .top, hread, by simp, by simp [kinds, hkind, Spot.run]; rfl, fun _ _ => rfl,
        by simp [Spot.InGroup], rfl⟩
  | escaped hread hkind =>
      exact ⟨[_], .top, hread, by simp, by simp [kinds, hkind, Spot.run]; rfl, fun _ _ => rfl,
        by simp [Spot.InGroup], rfl⟩
  | @ending lexeme rest hread hkind =>
      obtain rfl : rest = [] := (hlast [] lexeme rest hread).mp hkind
      exact ⟨[lexeme], .done, hread, by simp, by simp [kinds, hkind, Spot.run]; rfl,
        by simp [Spot.Settled], by simp [Spot.InGroup], rfl⟩
  | @group opening rest key later hread hkind hgroup =>
      cases hgroup with
      | @closed _ _ _ _ _ closing _ _ _ _ rest hbefore hname hpattern hafter hclosing hmodifier =>
          obtain ⟨inner, hinner, ⟨inside, hinside, hrun, _⟩, _⟩ :=
            leads_group hbefore hname hpattern hafter
          obtain ⟨spot, ⟨mark, hmark, hrun', _⟩, hsettled, houtside⟩ :=
            leads_modifier (.inr rfl) hmodifier
          refine ⟨opening :: (inside ++ closing :: mark), spot, ?_, by simp, ?_, hsettled, houtside,
            rfl⟩
          · dsimp only at hinside
            rw [hread, hinside, hmark]
            simp
          · simp only [kinds, List.map_cons, List.map_append, hkind, hclosing]
            exact Spot.run_group hrun hinner hrun'

/-- A step fails at a lexeme that cannot come where it stands. -/
theorem Stepped.refused {error : GrammarError} {spot : Spot} (hlast : EndsLast reader.rest)
    (hne : reader.rest ≠ []) (hclosed : reader.openGroups = [])
    (hsettled : spot.Settled reader.rest) (houtside : ¬ spot.InGroup)
    (h : Stepped context reader text (.error error) later) : Refused spot reader.rest error := by
  cases h with
  | stuck hstuck =>
      cases hread : reader.rest with
      | nil => exact absurd hread hne
      | cons lexeme after =>
          have hfollow : spot.follow lexeme.kind = none := by
            rw [hsettled lexeme (by simp [hread])]
            obtain h | h := hstuck lexeme (by simp [hread]) <;> rw [h] <;> rfl
          refine ⟨[], lexeme, after, spot, rfl, rfl, hfollow, .inl ⟨houtside, ?_⟩⟩
          simp [unexpected, next, hread, hclosed]
  | @unclosed opening rest _ _ hread hkind hgroup =>
      cases hgroup with
      | @unclosed _ _ _ _ _ _ _ rest hbefore hname hpattern hafter hclosing =>
          obtain ⟨inner, hinner, ⟨inside, hinside, hrun, hplain⟩, hstuck⟩ :=
            leads_group hbefore hname hpattern hafter
          dsimp only at hinside
          rw [hread, hinside] at hlast hsettled
          rw [hread, hinside]
          have hfront : spot.run (kinds (opening :: inside)) = some inner := by
            have hsettled : spot.Settled ((opening :: inside) ++ rest) := hsettled
            rw [hsettled.run_eq (by simp), kinds, List.map_cons, hkind, Spot.run_cons]
            exact hrun
          cases rest with
          | nil =>
              rw [List.append_nil] at hlast
              have hdone := eq_done_of_endsLast hlast (by simp) hfront
              simp [hdone, Spot.InGroup] at hinner
          | cons lexeme after =>
              refine ⟨opening :: inside, lexeme, after, inner, rfl, hfront,
                hstuck lexeme rfl (hclosing lexeme rfl),
                .inr ⟨[], opening, inside, rfl, hkind, hplain, ?_⟩⟩
              simp [unexpected, next]

/-- The lexemes left after some others end as they do. -/
theorem endsLast_of_append {front rest : List Lexeme} (h : EndsLast (front ++ rest)) :
    EndsLast rest := by
  rintro before lexeme after rfl
  exact h (front ++ before) lexeme after (by simp)

/-- A reading leads to the end or is refused. -/
theorem ReadOut.judged {answer : Except GrammarError (List Part)} {spot : Spot}
    (h : ReadOut context reader text answer) (hlast : EndsLast reader.rest)
    (hsettled : spot.Settled reader.rest) (houtside : ¬ spot.InGroup)
    (hclosed : reader.openGroups = []) (hdone : reader.rest = [] → spot = .done) :
    Judged spot reader.rest answer := by
  induction h generalizing spot with
  | done h => simp [Judged, h, kinds, Spot.run, hdone h]
  | failed hne hstep => exact hstep.refused hlast hne hclosed hsettled houtside
  | @more reader later text rest parts answer hne hstep hrest ih =>
      obtain ⟨front, next, hread, hfront, hrun, hnext, houtside', hopen⟩ := hstep.leads hlast
      have hstart : spot.run (kinds front) = some next := by
        rw [hread] at hsettled
        rw [hsettled.run_eq hfront, hrun]
      rw [hread] at hlast
      have hlater := ih (endsLast_of_append hlast) hnext houtside' (hopen.trans hclosed) (by
        intro hempty
        rw [hempty, List.append_nil] at hlast
        exact eq_done_of_endsLast hlast hfront hstart)
      rw [hread]
      cases answer with
      | error error => exact Refused.prepend hstart hlater
      | ok others =>
          rw [Except.map, Judged, kinds, List.map_append, Spot.run_append]
          exact Option.bind_eq_some_iff.mpr ⟨next, hstart, hlater⟩

end PartReader

/-! ## Whole patterns -/

/-- Within a group what is no brace leads to another place in it. -/
theorem Spot.InGroup.of_run {spot next : Spot} (h : spot.InGroup) {inside : List Lexeme}
    (hplain : ∀ lexeme ∈ inside, lexeme.kind ≠ .opening ∧ lexeme.kind ≠ .closing)
    (hrun : spot.run (kinds inside) = some next) : next.InGroup := by
  induction inside generalizing spot with
  | nil =>
      obtain rfl : spot = next := by simpa [kinds, Spot.run] using hrun
      exact h
  | cons lexeme inside ih =>
      obtain ⟨hkind, hplain⟩ := List.forall_mem_cons.mp hplain
      rw [kinds, List.map_cons, Spot.run_cons] at hrun
      obtain ⟨middle, hmiddle, hrun⟩ := Option.bind_eq_some_iff.mp hrun
      refine ih ?_ hplain hrun
      have hother := hkind.2
      obtain rfl | rfl | rfl := h <;> cases hk : lexeme.kind <;>
        simp_all [Spot.follow, Spot.InGroup]

/-- Where a group is open the place is one within a group. -/
theorem InGroupAt.inGroup {before : List Lexeme} {opened : Int} (h : InGroupAt before opened)
    {spot : Spot} (hrun : Spot.top.run (kinds before) = some spot) : spot.InGroup := by
  obtain ⟨outside, opening, inside, rfl, hkind, _, hplain⟩ := h
  rw [kinds, List.map_append, Spot.run_append] at hrun
  obtain ⟨middle, _, hrun⟩ := Option.bind_eq_some_iff.mp hrun
  rw [List.map_cons, hkind, Spot.run_cons] at hrun
  obtain ⟨start, hstart, hrun⟩ := Option.bind_eq_some_iff.mp hrun
  have hinText : start = .inText := by
    cases middle <;> simp_all [Spot.follow, Spot.enter]
  exact Spot.InGroup.of_run (.inl hinText) hplain hrun

/-- Of two braces with no brace after them neither comes first. -/
theorem eq_of_append_eq {middle inside inside' : List Lexeme} {opening opening' : Lexeme}
    (heq : opening :: inside = middle ++ opening' :: inside') (hkind' : opening'.kind = .opening)
    (hplain : ∀ lexeme ∈ inside, lexeme.kind ≠ .opening ∧ lexeme.kind ≠ .closing) :
    opening = opening' := by
  cases middle with
  | nil => exact (List.cons.inj heq).1
  | cons first middle =>
      obtain ⟨_, rfl⟩ := List.cons.inj heq
      exact absurd hkind' (hplain opening' (by simp)).1

/-- At most one group is open. -/
theorem InGroupAt.unique {before : List Lexeme} {opened other : Int} (h : InGroupAt before opened)
    (h' : InGroupAt before other) : opened = other := by
  obtain ⟨outside, opening, inside, rfl, hkind, rfl, hplain⟩ := h
  obtain ⟨outside', opening', inside', heq, hkind', rfl, hplain'⟩ := h'
  obtain ⟨middle, _, heq⟩ | ⟨middle, _, heq⟩ := List.append_eq_append_iff.mp heq
  · rw [eq_of_append_eq heq hkind' hplain]
  · rw [eq_of_append_eq heq hkind hplain']

/-- A lexeme is to blame in one way. -/
theorem Blamed.unique {before : List Lexeme} {lexeme : Lexeme} {error other : GrammarError}
    {message message' : String} (h : Blamed before lexeme error message)
    (h' : Blamed before lexeme other message') : error = other := by
  cases h with
  | inside h =>
      cases h' with
      | inside h' => rw [h.unique h']
      | outside h' => exact absurd h (h' _)
  | outside h =>
      cases h' with
      | inside h' => exact absurd h' (h _)
      | outside _ => rfl

/-- The lexeme at which some lexemes stop being the beginning of a sentence. -/
structure Unfit (lexemes before : List Lexeme) (lexeme : Lexeme) : Prop where
  split : ∃ after, lexemes = before ++ lexeme :: after
  viable : Viable (kinds before)
  unviable : ¬ Viable (kinds (before ++ [lexeme]))

/-- What sentences begin with is viable up to each lexeme. -/
theorem Viable.of_append {first second : List Kind} (h : Viable (first ++ second)) : Viable first := by
  obtain ⟨later, h⟩ := h
  exact ⟨second ++ later, by rwa [← List.append_assoc]⟩

/-- Two lexemes up to which some lexemes are viable and with which they are not are the same. -/
theorem eq_of_viable {before middle after after' : List Lexeme} {lexeme lexeme' : Lexeme}
    (heq : lexeme :: after = middle ++ lexeme' :: after')
    (hunviable : ¬ Viable (kinds (before ++ [lexeme]))) (hviable : Viable (kinds (before ++ middle))) :
    before = before ++ middle ∧ lexeme = lexeme' := by
  cases middle with
  | nil => exact ⟨by simp, (List.cons.inj heq).1⟩
  | cons first middle =>
      obtain ⟨rfl, _⟩ := List.cons.inj heq
      rw [List.append_cons, kinds, List.map_append] at hviable
      exact absurd hviable.of_append hunviable

/-- Only one lexeme is the first that does not fit. -/
theorem Unfit.unique {lexemes before before' : List Lexeme} {lexeme lexeme' : Lexeme}
    (h : Unfit lexemes before lexeme) (h' : Unfit lexemes before' lexeme') :
    before = before' ∧ lexeme = lexeme' := by
  obtain ⟨⟨after, rfl⟩, hviable, hunviable⟩ := h
  obtain ⟨⟨after', hsplit⟩, hviable', hunviable'⟩ := h'
  obtain ⟨middle, rfl, heq⟩ | ⟨middle, rfl, heq⟩ := List.append_eq_append_iff.mp hsplit
  · exact eq_of_viable heq hunviable hviable'
  · obtain ⟨hbefore, hlexeme⟩ := eq_of_viable heq hunviable' hviable
    exact ⟨hbefore.symm, hlexeme.symm⟩

/-- The message about a lexeme outside of groups. -/
theorem message_outside (index : Int) (actual : Kind) :
    (⟨index, .ending, actual, none⟩ : GrammarError).message
      = "unexpected " ++ actual.label ++ " at " ++ toString index ++ ", expected " ++ "END" :=
  String.append_empty

/-- The message about a lexeme within a group tells where that was opened. -/
theorem message_inside (index opened : Int) (actual : Kind) :
    (⟨index, .closing, actual, some opened⟩ : GrammarError).message
      = "unexpected " ++ actual.label ++ " at " ++ toString index
        ++ ", expected " ++ "CLOSE" ++ " (group opened at " ++ toString opened ++ ")" := by
  have hnote (front : String) : front ++ (" (group opened at " ++ toString opened ++ ")")
      = front ++ " (group opened at " ++ toString opened ++ ")" := by
    simp only [String.append_assoc]
  exact hnote _

/-- What is refused is the first lexeme that does not fit. -/
theorem Refused.unfit {lexemes : List Lexeme} {error : GrammarError}
    (h : Refused .top lexemes error) :
    ∃ before lexeme, Unfit lexemes before lexeme ∧ Blamed before lexeme error error.message := by
  obtain ⟨before, lexeme, after, spot, rfl, hrun, hstuck, herror⟩ := h
  refine ⟨before, lexeme, ⟨⟨after, rfl⟩, viable_iff.mpr ⟨spot, hrun⟩, ?_⟩, ?_⟩
  · rw [viable_iff, kinds, List.map_append, Spot.run_append, ← kinds, hrun]
    simp [Spot.run, hstuck]
  · obtain ⟨houtside, rfl⟩ | ⟨outside, opening, inside, rfl, hkind, hplain, rfl⟩ := herror
    · rw [message_outside]
      exact .outside fun opened h => houtside (h.inGroup hrun)
    · rw [message_inside]
      exact .inside ⟨outside, opening, inside, rfl, hkind, rfl, hplain⟩

/-- Lexemes with a first one that does not fit are no sentence. -/
theorem Unfit.notMem_sentences {lexemes before : List Lexeme} {lexeme : Lexeme}
    (h : Unfit lexemes before lexeme) : kinds lexemes ∉ sentences := by
  obtain ⟨⟨after, rfl⟩, _, hunviable⟩ := h
  intro hsentence
  rw [List.append_cons, kinds, List.map_append] at hsentence
  exact hunviable ⟨_, hsentence⟩

/-- The lexemes of a pattern end with its end. -/
theorem endsLast_of_scan {source : String} {lexemes : List Lexeme} (h : scan source = .ok lexemes) :
    EndsLast lexemes ∧ lexemes ≠ [] := by
  obtain ⟨found, hspelled, rfl⟩ := scan_eq_ok_iff_spelled.mp h
  refine ⟨?_, by simp⟩
  intro before lexeme after heq
  obtain ⟨middle, rfl, hend⟩ | ⟨middle, rfl, hend⟩ := List.append_eq_append_iff.mp heq
  · cases middle with
    | nil =>
        obtain ⟨rfl, rfl⟩ := List.cons.inj hend
        simp
    | cons first middle => simp at hend
  · cases middle with
    | nil =>
        obtain ⟨rfl, rfl⟩ := List.cons.inj hend
        simp
    | cons first middle =>
        obtain ⟨rfl, rfl⟩ := List.cons.inj hend
        simp [hspelled.unended lexeme (by simp)]

/-- The lexemes of a pattern are read if they form a sentence, and refused otherwise. -/
theorem judged_readLexemes (options : Options) {lexemes : List Lexeme} (hlast : EndsLast lexemes)
    (hne : lexemes ≠ []) : Judged .top lexemes (readLexemes options lexemes) :=
  (PartReader.readOut (.of options lexemes) { rest := lexemes } "").judged hlast (fun _ _ => rfl)
    (by simp [Spot.InGroup]) rfl fun h => absurd h hne

/-- A pattern is read exactly if its lexemes form a sentence of the grammar. Otherwise the error is
about the first lexeme with which they no longer begin one; a text without lexemes is refused for
the fault that was found in scanning it. -/
theorem parse_verdict (options : Options) (source : String) :
    (∀ error, parse options source = .error (.lexical error) ↔ scan source = .error error) ∧
      ((∃ parts, parse options source = .ok parts) ↔
        ∃ lexemes, scan source = .ok lexemes ∧ kinds lexemes ∈ sentences) ∧
      ∀ error, parse options source = .error (.grammatical error) ↔
        ∃ lexemes before lexeme, scan source = .ok lexemes ∧ Unfit lexemes before lexeme ∧
          Blamed before lexeme error error.message := by
  cases hscan : scan source with
  | error fault => simp [parse, hscan]
  | ok lexemes =>
      obtain ⟨hlast, hne⟩ := endsLast_of_scan hscan
      have hverdict := judged_readLexemes options hlast hne
      have hparse : parse options source = (readLexemes options lexemes).mapError .grammatical := by
        rw [parse, hscan]
      rw [hparse]
      cases hread : readLexemes options lexemes with
      | ok parts =>
          rw [hread] at hverdict
          have hsentence : kinds lexemes ∈ sentences := mem_sentences_iff.mpr hverdict
          refine ⟨by simp, by simp [hsentence], fun error => ?_⟩
          simp only [mapError_ok, reduceCtorEq, false_iff]
          rintro ⟨_, before, lexeme, heq, hunfit, _⟩
          obtain rfl := Except.ok.inj heq
          exact hunfit.notMem_sentences hsentence
      | error error =>
          rw [hread] at hverdict
          obtain ⟨before, lexeme, hunfit, hblamed⟩ := Refused.unfit hverdict
          refine ⟨by simp, ?_, fun other => ?_⟩
          · simpa using hunfit.notMem_sentences
          · simp only [mapError_error, Except.error.injEq, PatternError.grammatical.injEq,
              Except.ok.injEq]
            constructor
            · rintro rfl
              exact ⟨lexemes, before, lexeme, rfl, hunfit, hblamed⟩
            · rintro ⟨_, before', lexeme', rfl, hunfit', hblamed'⟩
              obtain ⟨rfl, rfl⟩ := hunfit.unique hunfit'
              exact hblamed.unique hblamed'

end RoutePattern
