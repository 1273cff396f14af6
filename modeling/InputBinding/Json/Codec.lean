import InputBinding.Fault
import InputBinding.Json.Reader
import InputBinding.Json.Writer

/-!
What reads and writes JSON. The program works with any codec; the strict one is the reader and the
writer of this library.
-/

namespace InputBinding.Json

/-- How texts and bytes are read as values, and how values are written, compact or indented. Each of
these can fail. -/
structure Codec where
  readText : String → Except Fault Json
  readBytes : ByteArray → Except Fault Json
  write : Bool → Json → Except Fault String

def orFail (fault : Fault) (result : Option α) : Except Fault α :=
  match result with
  | some value => .ok value
  | none => .error fault

def strictCodec : Codec where
  readText text := orFail .unreadableJson (read? text)
  readBytes bytes := orFail .unreadableJson (readBytes? bytes)
  write pretty value := orFail .nestedTooDeep (write? pretty value)

end InputBinding.Json
