import RoutePattern.Proofs.Pattern.FirstMatch
import RoutePattern.Proofs.Pattern.Returned

/-!
# Encoding the values of standard keys

A standard key has neither an expression nor a mark of its own, so it stands for a segment.
`encode_then_decode` is the main result: a match of a pattern with standard keys gives back the texts
of which a path was built, if decoding undoes encoding and the text of the pattern is kept. Where it
is not kept, a path need not even be matched (`encode_then_refused`).
-/

namespace RoutePattern

open RoutePattern.Expr

variable {options : Options}

/-- A key without an expression or a mark of its own, behind a single delimiter. -/
structure Key.Standard (options : Options) (key : Key) : Prop where
  pattern : key.pattern = defaultPattern options.delimiter
  before : ∃ d, key.before.toList = [d] ∧ isDelimiter d = true
  after : key.after = ""
  modifier : key.modifier = ""

/-- A standard key stands for a segment. -/
theorem Key.Standard.segment {key : Key} (h : key.Standard options)
    (hdelimiter : options.delimiter = standardDelimiter) : key.Segment options := by
  obtain ⟨d, hbefore, hd⟩ := h.before
  refine Key.segment_of_isSegment ?_
  have hread : ((Expression.read (defaultPattern standardDelimiter) options.flags).toOption.any
      fun expression => expression.groups == 0 && expression.expr.isPlain &&
        expression.expr.avoidsDelimiters && 0 < expression.expr.width.least) = true := by
    unfold Options.flags
    cases options.sensitive <;> decide +kernel
  have hcaptures : (defaultPattern standardDelimiter).isEmpty = false := by decide +kernel
  simp [Key.isSegment, Key.captures, h.pattern, hdelimiter, hread, hcaptures, hbefore, hd, h.after,
    Free]

/-- Options under which texts are written backwards. -/
def backwards : Options where
  encode text := String.ofList text.toList.reverse
  decode text := .ok (.text (String.ofList text.toList.reverse))

/-- Reading backwards what was written backwards gives it back. -/
theorem backwards_lossless : backwards.Lossless := by
  intro text
  simp [backwards]

/-- A match gives back the texts of which a path of standard keys was built, if decoding undoes
encoding and the text of the pattern is kept. -/
theorem encode_then_decode (hlossless : options.Lossless)
    (hdelimiter : options.delimiter = standardDelimiter) (hend : options.anchorEnd = true)
    (hends : options.endsWith = "") (hvalidate : options.validate = true) {source : String}
    {parts : List Part} (hparse : parse options source = .ok parts)
    (hkeys : ∀ key, Part.key key ∈ parts → key.Standard options)
    (hkept : ∀ part ∈ parts, part.Kept options) (hborders : parts.IsChain Part.Borders)
    (hnames : ((capturingKeys parts).map Key.name).Nodup) {builder : Builder}
    (hbuilder : Builder.ofPattern options source = .ok builder) {params : Params}
    (htexts : ∀ name value, params.lookup name = some value →
      ∃ key, Part.key key ∈ parts ∧ key.name = name ∧ ∃ text, value = .text text)
    {path : String} (hbuild : builder.build params = .ok path) :
    ∃ matcher found, Matcher.ofPath options (.pattern source) = .ok matcher ∧
      matcher.run path = .ok (some found) ∧
        ∀ name, found.params.lookup name = params.lookup name := by
  have hsegments (key : Key) (hkey : Part.key key ∈ parts) : key.Segment options :=
    (hkeys key hkey).segment hdelimiter
  refine segments_encode_then_decode hlossless hdelimiter hend hends hvalidate hparse hsegments
    hkept hborders hnames ?_ hbuilder ?_ hbuild
  · rw [List.countP_eq_zero.mpr]
    · exact Nat.zero_le 1
    · intro part hpart
      cases part with
      | text literal => simp [Part.isMarked]
      | key k => simp [Part.isMarked, (hkeys k hpart).modifier]
  · intro name value hvalue
    obtain ⟨key, hkey, hname, text, rfl⟩ := htexts name value hvalue
    refine ⟨key, hkey, hname, ?_⟩
    simp [Key.Takes, Key.repeated, (hkeys key hkey).modifier]

/-- Literal text that is the same backwards does not hinder the match. -/
theorem encode_then_decode_backwards :
    ∃ builder matcher found, Builder.ofPattern backwards "/:id/x/" = .ok builder ∧
      builder.build [(.named "id", .text "ab")] = .ok "/ba/x/" ∧
      Matcher.ofPath backwards (.pattern "/:id/x/") = .ok matcher ∧
      matcher.run "/ba/x/" = .ok (some found) ∧
      found.params.lookup (.named "id") = some (.text "ab") := by
  have hsome : ((Builder.ofPattern backwards "/:id/x/").toOption.bind fun builder =>
      (builder.build [(.named "id", .text "ab")]).toOption) = some "/ba/x/" := by
    decide +kernel
  obtain ⟨builder, hbuilder, hbuild⟩ := Option.bind_eq_some_iff.mp hsome
  have hbuilder' := toOption_eq_some.mp hbuilder
  have hbuild' := toOption_eq_some.mp hbuild
  let id : Key := { name := .named "id", before := "/", pattern := "[^\\/#\\?]+?" }
  have hid : id.Standard backwards := ⟨by decide +kernel, ⟨'/', by decide, by decide⟩, rfl, rfl⟩
  have hkept : ∀ part ∈ [Part.key id, .text "/x/"], part.Kept backwards := by
    have hsame : backwards.encode "/x/" = "/x/" := by decide +kernel
    have hliteral : (Part.text "/x/").Kept backwards := Part.Unchanged.kept hsame
    have hkey : (Part.key id).Kept backwards := ⟨by decide +kernel, by decide +kernel⟩
    simp [hliteral, hkey]
  have hborder : (Part.key id).Borders (.text "/x/") := ⟨'/', "x/".toList, rfl, by decide⟩
  obtain ⟨matcher, found, hmatcher, hrun, hsame⟩ := encode_then_decode backwards_lossless rfl rfl
    rfl rfl (toOption_eq_some.mp (by decide +kernel)) (by simpa using hid) hkept
    (by simpa using hborder) (by decide +kernel) hbuilder' (by
      intro name value hvalue
      rw [Params.lookup_cons] at hvalue
      split at hvalue
      · next hname =>
        cases hvalue
        exact ⟨id, by simp, hname.symm, "ab", rfl⟩
      · simp at hvalue) hbuild'
  refine ⟨builder, matcher, found, hbuilder', hbuild', hmatcher, hrun, ?_⟩
  rw [hsame]
  rfl

/-- Literal text that is written differently is not found again in a path that was built. -/
theorem encode_then_refused :
    let id : Key := { name := .named "id", before := "/", pattern := "[^\\/#\\?]+?" }
    backwards.Lossless ∧ id.Standard backwards ∧
      (parse backwards "/ab/:id").toOption = some [.text "/ab", .key id] ∧
      ((Builder.ofPattern backwards "/ab/:id").toOption.bind fun builder =>
        (builder.build [(.named "id", .text "xy")]).toOption) = some "/ab/yx" ∧
      Path.matched? backwards (.pattern "/ab/:id") "/ab/yx" = some none :=
  ⟨backwards_lossless, ⟨by decide +kernel, ⟨'/', by decide, by decide⟩, rfl, rfl⟩,
    by decide +kernel, by decide +kernel, by decide +kernel⟩

end RoutePattern
