import Placeholder.Proofs.Strict.Resolution
import Placeholder.Proofs.Substitution

namespace Placeholder

section Unresolved

variable {s : Text} {vs : Variables} (marked : Marked s)

include marked

variable (inert : vs.Inert)

include inert

end Unresolved

end Placeholder
