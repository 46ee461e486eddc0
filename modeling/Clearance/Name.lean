import Clearance.Text.Blank
import Clearance.Text.Lowercase

/-!
# Names of groups and tracks

Groups and tracks are named by texts without blanks, in lower case. A raw name
is trimmed and lowered; if anything is left of it, and no blank is inside, it is
a name.
-/

namespace Clearance

def normalName? (raw : String) : Option String :=
  let name := Text.normalize raw
  if name.isEmpty || name.toList.any Text.isBlank then none else some name

end Clearance
