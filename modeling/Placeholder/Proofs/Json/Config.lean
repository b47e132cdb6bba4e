import Placeholder.Proofs.Json.Settings
import Placeholder.Source

namespace Placeholder

namespace Json

section Whole

variable {content s r : Text} {x : Value} {c : Config}

end Whole

end Json

namespace Source

variable {content : Text} {x : Json.Value}

example :
    let content : Text :=
      "\x7b\"match_mode\":\x7b\"exact\" :null\x7d,\n\"\\u0070olicy\": \"stric\\u0074\"\x7d".toList
    (Source.mk .json content).readConfig.toOption =
      some { policy := .strict } := by
  decide +kernel

end Source
end Placeholder
