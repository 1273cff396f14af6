import InputBinding.Descriptor.Grammar
import InputBinding.Fault

/-!
Reading a descriptor text by itself. What is wrong with it is reported with the text as it was given.
-/

namespace InputBinding

def Descriptor.read (context : Grammar.Context) (kind : Kind) (raw : String) : Except Fault Descriptor :=
  (Grammar.parse context kind raw).mapError (Fault.malformed raw)

def Rule.read (rule : Rule) (axisNames : Option (List String)) : Except Fault Descriptor :=
  Descriptor.read (rule.context axisNames) rule.kind rule.descriptor

end InputBinding
