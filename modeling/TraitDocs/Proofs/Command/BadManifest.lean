import TraitDocs.Command.Execution
import TraitDocs.Proofs.Json.Limits
import TraitDocs.Proofs.Manifest.Shape
import TraitDocs.Proofs.Text.Encoded

/-!
# Files that are no manifest

A file that cannot be used as a manifest is reported by a failure, with which both commands end with
code 2 and a message, unless the file has a fault: bytes that are not the UTF-8 form of a text, a
text that goes beyond a limit (`Json.Beyond`), or a value with a fault in it (`Manifest.Faulty`). A
fault is not reported: the commands end without a code and without a message.
-/

set_option autoImplicit false

namespace TraitDocs.Command

open File

variable {limits : Json.Limits}

section Reading

variable {t : Tree} {path : Path} {bytes : ByteArray}

end Reading

/-! ## How the commands end -/

end TraitDocs.Command
