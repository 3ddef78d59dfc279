import RoutePattern.Expr.Basic
import RoutePattern.Number.Integer

/-!
# Faults in an expression

The ways in which the text of an expression can be wrong, and the description of each.
-/

namespace RoutePattern

/-- What is wrong with the text of an expression. -/
inductive ExprFault where
  | trailingEscape
  | badEscape (text : String)
  | incompleteEscape (text : String)
  | octalTooLarge (text : String)
  | noCharacterBrace
  | unknownCharacter (name : String)
  | missingName (what : String)
  | unterminatedName (terminator : Char)
  | badGroupName (name : String)
  | unknownGroupName (name : String)
  | redefinedName (name : String) (number previous : Nat)
  | openReference
  | invalidReference (number : Nat)
  | referenceWithinBehind
  | badGroupNumber
  | unterminatedSet
  | badRange (low high : String)
  /-- A count of a repetition has very many digits. -/
  | countTooLong (digits : Nat)
  | repetitionTooLarge
  | leastAboveMost
  | nothingToRepeat
  | multipleRepeat
  | unexpectedEnd
  | unknownExtension (text : String)
  | unterminatedComment
  | unterminatedGroup
  | tooManyBranches
  | unbalanced
  | flagsNotAtStart
  | unknownFlag
  | missingFlagEnd
  | missingFlag
  | missingFlagColon
  | localeFlag
  | conflictingFlags
  | classFlagOff
  | globalFlagOn
  | globalFlagOff
  | flagOnAndOff
  | incompatibleFlags
  | behindNotFixed
  /-- A look-behind looks back too far. -/
  | behindTooFar
  | repetitionInTemplate (greed : Greed)
deriving DecidableEq, Repr

/-- The name of a way to repeat. -/
def Greed.label : Greed → String
  | greedy => "MAX_REPEAT"
  | lazy => "MIN_REPEAT"
  | possessive => "POSSESSIVE_REPEAT"

/-- The description of a fault. -/
def ExprFault.message : ExprFault → String
  | trailingEscape => "bad escape (end of pattern)"
  | badEscape text => "bad escape " ++ text
  | incompleteEscape text => "incomplete escape " ++ text
  | octalTooLarge text => "octal escape value " ++ text ++ " outside of range 0-0o377"
  | noCharacterBrace => "missing \x7b"
  | unknownCharacter name => "undefined character name " ++ quoted name
  | missingName what => "missing " ++ what
  | unterminatedName terminator =>
      "missing " ++ String.singleton terminator ++ ", unterminated name"
  | badGroupName name => "bad character in group name " ++ quoted name
  | unknownGroupName name => "unknown group name " ++ quoted name
  | redefinedName name number previous =>
      "redefinition of group name " ++ quoted name ++ " as group " ++ toString number
        ++ "; was group " ++ toString previous
  | openReference => "cannot refer to an open group"
  | invalidReference number => "invalid group reference " ++ toString number
  | referenceWithinBehind => "cannot refer to group defined in the same lookbehind subpattern"
  | badGroupNumber => "bad group number"
  | unterminatedSet => "unterminated character set"
  | badRange low high => "bad character range " ++ low ++ "-" ++ high
  | countTooLong digits => (IntegerFault.tooLong digits).message
  | repetitionTooLarge => "the repetition number is too large"
  | leastAboveMost => "min repeat greater than max repeat"
  | nothingToRepeat => "nothing to repeat"
  | multipleRepeat => "multiple repeat"
  | unexpectedEnd => "unexpected end of pattern"
  | unknownExtension text => "unknown extension ?" ++ text
  | unterminatedComment => "missing ), unterminated comment"
  | unterminatedGroup => "missing ), unterminated subpattern"
  | tooManyBranches => "conditional backref with more than two branches"
  | unbalanced => "unbalanced parenthesis"
  | flagsNotAtStart => "global flags not at the start of the expression"
  | unknownFlag => "unknown flag"
  | missingFlagEnd => "missing -, : or )"
  | missingFlag => "missing flag"
  | missingFlagColon => "missing :"
  | localeFlag => "bad inline flags: cannot use 'L' flag with a str pattern"
  | conflictingFlags => "bad inline flags: flags 'a', 'u' and 'L' are incompatible"
  | classFlagOff => "bad inline flags: cannot turn off flags 'a', 'u' and 'L'"
  | globalFlagOn => "bad inline flags: cannot turn on global flag"
  | globalFlagOff => "bad inline flags: cannot turn off global flag"
  | flagOnAndOff => "bad inline flags: flag turned on and off"
  | incompatibleFlags => "ASCII and UNICODE flags are incompatible"
  | behindNotFixed => "look-behind requires fixed-width pattern"
  | behindTooFar => "invalid SRE code"
  | repetitionInTemplate greed => "internal: unsupported template operator " ++ greed.label

end RoutePattern
