import Placeholder.Proofs.Settings
import Placeholder.Proofs.Json.Choice
import Placeholder.Json.Reading

namespace Placeholder

namespace Json

section Setting

variable {d d' : Draft} {S : Setting} {u v r s t : Text} {x : Value}

end Setting

section Members

variable {n : Nat} {first : Bool} {d d' : Draft} {s r t u : Text} {ms : List (Text × Value)}

end Members

section Elements

variable {Ss : List Setting} {S : Setting} {first : Bool} {d d' : Draft} {s r t u : Text}
  {xs : List Value}

end Elements

end Json
end Placeholder
