import FencedChat.Proofs.Provider.Calls
import FencedChat.Proofs.Provider.Replies

/-!
An exchange with a service, from the turns to the completion. One call is made. It sends every turn,
the outcome says what the client answered, and a completion always has a text.
-/

namespace FencedChat

namespace Provider

theorem noResponse_ne_empty (p : Provider) : p.noResponse ≠ "" := by
  intro h
  simpa [noResponse] using congrArg String.length h

end Provider

namespace Client

variable {ε : Type} {client : Client ε} {p : Provider} {model : String} {answer : Except ε Value}

theorem settle_eq_ok_iff {c : Completion} :
    client.settle p model answer = .ok c ↔
      ∃ reply read, answer = .ok reply ∧ p.service.completion model reply = .ok read ∧
        (if read.text = "" then { read with text := p.noResponse } else read) = c := by
  unfold settle
  cases answer with
  | error e' => cases he : client.serviceError? e' <;> simp [he]
  | ok reply => cases hc : p.service.completion model reply <;> simp [hc]

end Client

namespace Vendor

end Vendor

end FencedChat
