import InputBinding.Text.CaseTable
import InputBinding.Text.CodeRange

/-!
Upper and lower case of whole texts. Both may lengthen a text, and the lower case of a capital
sigma depends on whether it ends a word.
-/

namespace InputBinding.Text

def shiftCase (runs : List CaseRun) (code : Nat) : Nat :=
  match runs.find? fun run =>
      decide (run.first ≤ code ∧ code ≤ run.last ∧ (code - run.first) % run.stride = 0) with
  | some run => (Int.ofNat code + run.shift).toNat
  | none => code

def mapCase (expansions : List (Nat × List Nat)) (runs : List CaseRun) (char : Char) : List Char :=
  match expansions.lookup char.toNat with
  | some codes => codes.map Char.ofNat
  | none => [Char.ofNat (shiftCase runs char.toNat)]

def upperChar (char : Char) : List Char :=
  mapCase upperExpansions upperRuns char

def lowerChar (char : Char) : List Char :=
  mapCase lowerExpansions lowerRuns char

/-- Whether the nearest character that is not case ignorable exists and is cased. -/
def startsCased (chars : List Char) : Bool :=
  match chars.dropWhile fun char => inRanges caseIgnorableRanges char.toNat with
  | char :: _ => inRanges casedRanges char.toNat
  | [] => false

/-- Lower case after the characters `before`, which are listed from the nearest to the first. -/
def lowerAfter (before : List Char) : List Char → List Char
  | [] => []
  | char :: rest =>
      let mapped :=
        if char = 'Σ' then
          if startsCased before && !startsCased rest then ['ς'] else ['σ']
        else lowerChar char
      mapped ++ lowerAfter (char :: before) rest

def upper (text : String) : String :=
  String.ofList (text.toList.flatMap upperChar)

def lower (text : String) : String :=
  String.ofList (lowerAfter [] text.toList)

end InputBinding.Text
