import RoutePattern.Codec
import RoutePattern.Expr.Flags

/-!
# Options

Options say how patterns are read, compiled, matched and built. `Options.apply` changes one of them.
-/

namespace RoutePattern

/-- The characters that bound a segment unless others are given. -/
def standardDelimiter : String := "/#?"

/-- The options of a pattern. -/
structure Options where
  /-- The characters that bound a segment; none stand for the standard ones. -/
  delimiterChars : String := standardDelimiter
  /-- The characters that go with the key they stand in front of. -/
  prefixes : String := "./"
  /-- Whether case matters. -/
  sensitive : Bool := false
  /-- Whether a delimiter at the end is refused. -/
  strict : Bool := false
  /-- Whether a match has to begin at the start of the text. -/
  anchorStart : Bool := true
  /-- Whether a match has to reach the end of the text. -/
  anchorEnd : Bool := true
  /-- Further characters that count as an end. -/
  endsWith : String := ""
  /-- How values and literal text are written. -/
  encode : String → String := id
  /-- How captured texts are read. -/
  decode : String → Except IntegerFault Value := fun text => .ok (.text text)
  /-- Whether built values have to match their keys. -/
  validate : Bool := true

namespace Options

/-- The characters that bound a segment. -/
def delimiter (options : Options) : String :=
  if options.delimiterChars.isEmpty then standardDelimiter else options.delimiterChars

/-- The flags of the expressions that are compiled under the options. -/
def flags (options : Options) : Flags :=
  { ignoreCase := !options.sensitive }

end Options

/-- A value for one option. -/
inductive Setting where
  | delimiter (chars : String)
  | prefixes (chars : String)
  | sensitive (value : Bool)
  | strict (value : Bool)
  | anchorStart (value : Bool)
  | anchorEnd (value : Bool)
  | endsWith (chars : String)
  | encode (encoding : Encoding)
  | decode (decoding : Decoding)
  | validate (value : Bool)
deriving DecidableEq, Repr

namespace Options

/-- The options with one of them changed. -/
def put (options : Options) : Setting → Options
  | .delimiter chars => { options with delimiterChars := chars }
  | .prefixes chars => { options with prefixes := chars }
  | .sensitive value => { options with sensitive := value }
  | .strict value => { options with strict := value }
  | .anchorStart value => { options with anchorStart := value }
  | .anchorEnd value => { options with anchorEnd := value }
  | .endsWith chars => { options with endsWith := chars }
  | .encode encoding => { options with encode := encoding.apply }
  | .decode decoding => { options with decode := decoding.apply }
  | .validate value => { options with validate := value }

/-- The options with some of them changed, one after the other. -/
def change (options : Options) (settings : List Setting) : Options :=
  settings.foldl put options

end Options

end RoutePattern
