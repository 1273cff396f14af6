import InputBinding.Text.Quoted

/-!
What can be wrong with a descriptor text.
-/

namespace InputBinding

inductive Defect
  | nestedGroups
  | unmatchedClose
  | unmatchedOpen
  | emptyStep
  | parenthesisInStep (fragment : String)
  | axisPlusAxisStep
  | missingPlus
  | suffixInCombo
  | parenthesisAfterPlus
  | groupNeedsTwoNames
  | parenthesisInSide (side : String)
  | axisPlusAxisCombo
  | standardTakesOneName
  | suffixInStandard
  | textAfterGroup (tail : String)
  | groupNeedsTwoSuffixes
  | groupHasTwoKeys
  | groupNeedsExactlyTwoNames
  | suffixBeforeGroupEnd
  | suffixOnNonAxis (name : String)
  | axisInPlaceOfKey (name : String)
  | comboJoinsTwo
  | comboMissesSide
  | emptyIdentifier
  | suffixWithoutIdentifier
  | misplacedSuffix (token : String)
  | reservedCharacter (char : Char) (token : String)
deriving DecidableEq, Repr

def Defect.reason : Defect → String
  | nestedGroups => "nested '(' groups"
  | unmatchedClose => "unmatched ')'"
  | unmatchedOpen => "unmatched '('"
  | emptyStep => "empty step"
  | parenthesisInStep fragment => "unexpected parenthesis in step " ++ Text.quote fragment
  | axisPlusAxisStep => "axis+axis combo must use the '(axisA, axisB<>)' form"
  | missingPlus => "combo descriptor is missing '+'"
  | suffixInCombo => "direction suffix in combo descriptor; directions come from the mapping"
  | parenthesisAfterPlus => "unexpected parenthesis after '+'"
  | groupNeedsTwoNames => "parenthesized group needs two axis names"
  | parenthesisInSide side => "unexpected parenthesis in " ++ Text.quote side
  | axisPlusAxisCombo => "axis+axis combo must use the 'axisA, axisB+key' form"
  | standardTakesOneName => "standard descriptor takes a single key or axis name"
  | suffixInStandard => "direction suffix in standard descriptor"
  | textAfterGroup tail => "unexpected " ++ Text.quote tail ++ " after diagonal group"
  | groupNeedsTwoSuffixes => "diagonal group needs two direction suffixes"
  | groupHasTwoKeys => "diagonal group has more than one key"
  | groupNeedsExactlyTwoNames => "diagonal group needs exactly two axis names"
  | suffixBeforeGroupEnd => "diagonal direction suffixes follow the second axis name"
  | suffixOnNonAxis name => "direction suffix on non-axis identifier " ++ Text.quote name
  | axisInPlaceOfKey name => "expected a key, got axis " ++ Text.quote name
  | comboJoinsTwo => "a combo joins exactly two tests"
  | comboMissesSide => "combo is missing a side around '+'"
  | emptyIdentifier => "empty identifier"
  | suffixWithoutIdentifier => "direction suffix without identifier"
  | misplacedSuffix token => "misplaced direction suffix in " ++ Text.quote token
  | reservedCharacter char token =>
      "unexpected " ++ Text.quote (String.singleton char) ++ " in identifier " ++ Text.quote token

end InputBinding
