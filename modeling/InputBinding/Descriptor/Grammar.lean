import InputBinding.Rule
import InputBinding.Descriptor.Defect
import InputBinding.Text.Blank

/-!
The grammar of descriptor texts. A sequence text is cut into steps at each comma and space outside
parentheses; a step is a name, a name with a direction suffix, two of these joined by a plus, or a
group of two axes with one suffix each and perhaps a key. Combo and standard texts are a single
step, whose directions and tolerances come from the rule instead.
-/

namespace InputBinding.Grammar

open Text

/-- What a text is read with. Axis names, if given, decide which names are axes. -/
structure Context where
  category : Category := .button
  settings : AxisSettings := {}
  axisNames : Option (List String) := none

def Context.isAxis (context : Context) (name : String) : Bool :=
  match context.axisNames with
  | none => false
  | some names => names.contains name

def Context.mayBeAxis (context : Context) (name : String) : Bool :=
  match context.axisNames with
  | none => true
  | some names => names.contains name

def suffixDirection? (char : Char) : Option Direction :=
  if char = '<' then some .negative
  else if char = '>' then some .positive
  else if char = '=' then some .neutral
  else none

def isSuffix (char : Char) : Bool :=
  (suffixDirection? char).isSome

def isReserved (char : Char) : Bool :=
  char = ',' || char = '+' || char = '(' || char = ')'

def isParenthesis (char : Char) : Bool :=
  char = '(' || char = ')'

/-- Accepts texts in which every parenthesis is matched and none stands inside another pair.
`inside` says whether a group is open. -/
def checkGroups (inside : Bool) : List Char → Except Defect Unit
  | [] => if inside then .error .unmatchedOpen else .ok ()
  | '(' :: rest => if inside then .error .nestedGroups else checkGroups true rest
  | ')' :: rest => if inside then checkGroups false rest else .error .unmatchedClose
  | _ :: rest => checkGroups inside rest

def consToFirst (char : Char) : List (List Char) → List (List Char)
  | [] => [[char]]
  | first :: rest => (char :: first) :: rest

/-- Cuts a text at each comma and space outside parentheses. -/
def cutSteps (inside : Bool) : List Char → List (List Char)
  | [] => [[]]
  | '(' :: rest => consToFirst '(' (cutSteps true rest)
  | ')' :: rest => consToFirst ')' (cutSteps false rest)
  | ',' :: ' ' :: rest =>
      if inside then consToFirst ',' (cutSteps inside (' ' :: rest))
      else [] :: cutSteps inside rest
  | char :: rest => consToFirst char (cutSteps inside rest)

def cutNames : List Char → List (List Char)
  | [] => [[]]
  | ',' :: ' ' :: rest => [] :: cutNames rest
  | char :: rest => consToFirst char (cutNames rest)

def cutPlus : List Char → List (List Char)
  | [] => [[]]
  | '+' :: rest => [] :: cutPlus rest
  | char :: rest => consToFirst char (cutPlus rest)

def splitSteps (text : List Char) : Except Defect (List (List Char)) :=
  let steps := (cutSteps false text).map strip
  if steps.any List.isEmpty then .error .emptyStep else .ok steps

structure Atom where
  name : String
  direction : Option Direction := none
deriving DecidableEq, Repr

def splitSuffix (text : List Char) : List Char × Option Direction :=
  match text.getLast? with
  | none => (text, none)
  | some last =>
      match suffixDirection? last with
      | none => (text, none)
      | some direction => (stripRight text.dropLast, some direction)

def readAtom (token : List Char) : Except Defect Atom :=
  let text := strip token
  if text.isEmpty then .error .emptyIdentifier
  else
    let (name, direction) := splitSuffix text
    if name.isEmpty then .error .suffixWithoutIdentifier
    else
      match name.find? fun char => isSuffix char || isReserved char with
      | none => .ok ⟨String.ofList name, direction⟩
      | some char =>
          if isSuffix char then .error (.misplacedSuffix (String.ofList text))
          else .error (.reservedCharacter char (String.ofList text))

def requireAxis (context : Context) (name : String) : Except Defect Unit :=
  if context.mayBeAxis name then .ok () else .error (.suffixOnNonAxis name)

def suffixedPart (context : Context) (atom : Atom) : Except Defect Part :=
  match atom.direction with
  | some direction => do
      requireAxis context atom.name
      pure (.axis ⟨atom.name, direction, context.settings.firstTolerance⟩)
  | none =>
      if context.isAxis atom.name then .ok (.axis { name := atom.name }) else .ok (.key atom.name)

def readKey (context : Context) (token : List Char) : Except Defect String := do
  let atom ← readAtom token
  if atom.direction.isSome then throw (.suffixOnNonAxis atom.name)
  if context.isAxis atom.name then throw (.axisInPlaceOfKey atom.name)
  pure atom.name

def splitPlus (text : List Char) : Except Defect (List Char × List Char) :=
  match cutPlus text with
  | [left, right] =>
      if (strip left).isEmpty || (strip right).isEmpty then .error .comboMissesSide
      else .ok (strip left, strip right)
  | _ => .error .comboJoinsTwo

def readGroupName (context : Context) (token : List Char) : Except Defect String := do
  let atom ← readAtom token
  if atom.direction.isSome then throw .suffixBeforeGroupEnd
  requireAxis context atom.name
  pure atom.name

def readNamePair (context : Context) (body : List Char) : Except Defect (String × String) :=
  match cutNames body with
  | [first, second] => do
      let firstName ← readGroupName context first
      let secondName ← readGroupName context second
      pure (firstName, secondName)
  | _ => .error .groupNeedsExactlyTwoNames

def readGroupTail (context : Context) (tail : List Char) : Except Defect (Option String) :=
  match tail with
  | [] => .ok none
  | '+' :: token => some <$> readKey context token
  | other => .error (.textAfterGroup (String.ofList other))

def splitGroupSuffixes (inner : List Char) : Except Defect (List Char × Direction × Direction) :=
  match inner.reverse with
  | last :: other :: body =>
      match suffixDirection? other, suffixDirection? last with
      | some first, some second => .ok (body.reverse, first, second)
      | _, _ => .error .groupNeedsTwoSuffixes
  | _ => .error .groupNeedsTwoSuffixes

def readGroupBody (context : Context) (outerKey : Option String) (body : List Char) :
    Except Defect ((String × String) × Option String) := do
  if body.contains '+' then
    if outerKey.isSome then throw .groupHasTwoKeys
    let (names, token) ← splitPlus body
    let key ← readKey context token
    let pair ← readNamePair context names
    pure (pair, some key)
  else
    let pair ← readNamePair context body
    pure (pair, outerKey)

def readGroup (context : Context) (fragment : List Char) : Except Defect Step :=
  match fragment.dropWhile (· != ')') with
  | [] => .error .unmatchedOpen
  | _ :: after => do
      let outerKey ← readGroupTail context (strip after)
      let (body, firstDirection, secondDirection) ←
        splitGroupSuffixes ((fragment.takeWhile (· != ')')).drop 1)
      let ((first, second), key) ← readGroupBody context outerKey body
      pure (.diagonal ⟨first, firstDirection, context.settings.firstTolerance⟩
        ⟨second, secondDirection, context.settings.secondTolerance⟩ key)

/-- Moves a suffix behind the key of an axis and a key to the axis. -/
def relocateSuffix (context : Context) (left right : Atom) : Atom × Atom :=
  if right.direction.isSome && left.direction.isNone && context.isAxis left.name &&
      !context.isAxis right.name then
    ({ left with direction := right.direction }, { right with direction := none })
  else (left, right)

def readComboStep (context : Context) (fragment : List Char) : Except Defect Step := do
  let (leftText, rightText) ← splitPlus fragment
  let leftAtom ← readAtom leftText
  let rightAtom ← readAtom rightText
  let (leftAtom, rightAtom) := relocateSuffix context leftAtom rightAtom
  let left ← suffixedPart context leftAtom
  let right ← suffixedPart context rightAtom
  match left, right with
  | .axis _, .axis _ => throw .axisPlusAxisStep
  | _, _ => pure (.combo left right)

def readStep (context : Context) (fragment : List Char) : Except Defect Step :=
  if fragment.head? = some '(' then readGroup context fragment
  else if fragment.any isParenthesis then .error (.parenthesisInStep (String.ofList fragment))
  else if fragment.contains '+' then readComboStep context fragment
  else do
    let atom ← readAtom fragment
    let part ← suffixedPart context atom
    pure (.single part)

def readSequence (context : Context) (text : List Char) : Except Defect (List Step) := do
  let fragments ← splitSteps text
  fragments.mapM (readStep context)

def unwrapPair (side : List Char) : Except Defect (List Char) :=
  if side.head? = some '(' ∧ side.getLast? = some ')' then
    let inner := strip (side.drop 1).dropLast
    if (cutNames inner).length = 1 then .error .groupNeedsTwoNames else .ok inner
  else if side.any isParenthesis then .error (.parenthesisInSide (String.ofList side))
  else .ok side

/-- Whether the left name of a combo text is an axis: without declared names the category decides. -/
def Context.leftIsAxis (context : Context) (name : String) : Bool :=
  match context.axisNames with
  | some names => names.contains name
  | none => context.category = .axis

def pairStep (context : Context) (first second : String) (key : String) : Step :=
  let settings := context.settings
  .diagonal ⟨first, settings.firstDirection, settings.firstTolerance⟩
    ⟨second, settings.secondDirection, settings.secondTolerance⟩ (some key)

def Context.settingTest (context : Context) (name : String) : AxisTest :=
  ⟨name, context.settings.firstDirection, context.settings.firstTolerance⟩

def readTwoNames (context : Context) (leftText rightText : List Char) : Except Defect Step := do
  let left ← readAtom leftText
  let right ← readAtom rightText
  if context.leftIsAxis left.name then
    if context.isAxis right.name then throw .axisPlusAxisCombo
    pure (.combo (.axis (context.settingTest left.name)) (.key right.name))
  else if context.isAxis right.name then
    pure (.combo (.key left.name) (.axis (context.settingTest right.name)))
  else pure (.combo (.key left.name) (.key right.name))

def readCombo (context : Context) (text : List Char) : Except Defect Step := do
  if !text.contains '+' then throw .missingPlus
  if text.any isSuffix then throw .suffixInCombo
  let (left, right) ← splitPlus text
  if right.any isParenthesis then throw .parenthesisAfterPlus
  let names ← unwrapPair left
  if (cutNames names).length = 1 then readTwoNames context names right
  else
    let (first, second) ← readNamePair context names
    let key ← readKey context right
    pure (pairStep context first second key)

def readStandard (context : Context) (text : List Char) : Except Defect Step := do
  if text.any isReserved then throw .standardTakesOneName
  let atom ← readAtom text
  if atom.direction.isSome then throw .suffixInStandard
  if context.category = .axis || context.isAxis atom.name then pure (.single (.axis { name := atom.name }))
  else pure (.single (.key atom.name))

def readSteps (context : Context) (kind : Kind) (text : List Char) : Except Defect (List Step) := do
  checkGroups false text
  match kind with
  | .sequence => readSequence context text
  | .combo => return [← readCombo context text]
  | .standard => return [← readStandard context text]

def isUnboundText (text : List Char) : Bool :=
  text.isEmpty || text = unboundText.toList

def parse (context : Context) (kind : Kind) (raw : String) : Except Defect Descriptor :=
  let text := strip raw.toList
  if isUnboundText text then .ok { source := raw }
  else do
    let steps ← readSteps context kind text
    pure { source := raw, steps }

end InputBinding.Grammar

namespace InputBinding

def Rule.context (rule : Rule) (axisNames : Option (List String)) : Grammar.Context :=
  { category := rule.category, settings := rule.toAxisSettings, axisNames }

def Rule.parse (rule : Rule) (axisNames : Option (List String)) : Except Defect Descriptor :=
  Grammar.parse (rule.context axisNames) rule.kind rule.descriptor

end InputBinding
