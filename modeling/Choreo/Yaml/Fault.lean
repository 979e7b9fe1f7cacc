import Choreo.Number.Fault
import Choreo.Yaml.Timestamp

/-!
What can be wrong with a document.
-/

namespace Choreo
namespace Yaml

/-- Why a document could not be read. -/
inductive Fault where
  /-- The text is no document of the format. -/
  | malformed
  | tooDeep
  | number (fault : NumberFault)
  /-- A numeral without digits. -/
  | emptyNumeral
  /-- A word that is no flag is marked as one. -/
  | unknownFlag
  /-- A text that is no date is marked as one. -/
  | noTimestamp
  | calendar (fault : CalendarFault)
  /-- An escape names a character behind the last one. -/
  | noCharacter
  /-- A mapping stands where a text is read. -/
  | notText
  deriving DecidableEq, Repr

def Fault.message : Fault → String
  | malformed => "malformed document"
  | tooDeep => "document nested too deeply"
  | number fault => fault.message
  | emptyNumeral => "empty numeral"
  | unknownFlag => "unknown flag"
  | noTimestamp => "'NoneType' object has no attribute 'groupdict'"
  | calendar fault => fault.message
  | noCharacter => "chr() arg not in range(0x110000)"
  | notText => "expected a text"

end Yaml
end Choreo
