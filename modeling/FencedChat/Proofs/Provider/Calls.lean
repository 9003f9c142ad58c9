import FencedChat.Proofs.Action
import FencedChat.Provider.Calling

/-!
Requests as a whole. A request makes one call, whatever comes of it, and its outcome is settled by
what the client answered.
-/

namespace FencedChat

namespace Client

variable {ε α : Type}

def result (outcome : Except (Failure ε) α) (calls : List ClientCall) :
    EStateM.Result (Failure ε) (List ClientCall) α :=
  match outcome with
  | .ok a => .ok a calls
  | .error e => .error e calls

variable (client : Client ε) (calls : List ClientCall) (p : Provider)

def settle (model : String) (answer : Except ε Value) : Except (Failure ε) Completion :=
  match answer with
  | .error e =>
    match client.serviceError? e with
    | some message =>
      .error (.fault
        (.providerRequest (p.service.label ++ " API error: " ++ message) (some p.service.name)))
    | none => .error (.raised e)
  | .ok reply =>
    match p.service.completion model reply with
    | .error e => .error (.reply e)
    | .ok c => .ok (if c.text = "" then { c with text := p.noResponse } else c)

namespace Action

@[simp] theorem run_create (parameters : Listing Value) :
    (create client parameters).run calls =
      match client.answer calls parameters with
      | .ok reply => .ok reply (calls ++ [.create parameters])
      | .error e => .error (.raised e) (calls ++ [.create parameters]) := by
  cases h : client.answer calls parameters <;> simp [create, h]

theorem run_request (r : Request) :
    (request client p r).run calls =
      match client.answer calls (p.service.parameters r) with
      | .error e => .error (.raised e) (calls ++ [.create (p.service.parameters r)])
      | .ok reply =>
        match p.service.completion r.model reply with
        | .ok c => .ok c (calls ++ [.create (p.service.parameters r)])
        | .error e => .error (.reply e) (calls ++ [.create (p.service.parameters r)]) := by
  cases hr : client.answer calls (p.service.parameters r) with
  | error e => simp [request, hr]
  | ok reply => cases hc : p.service.completion r.model reply <;> simp [request, hr, hc]

/-- Sending messages makes one call and settles its answer. -/
theorem run_chat (messages : List PromptMessage) (o : RequestOptions) :
    (chat client p messages o).run calls =
      result (client.settle p (p.request messages o).model
        (client.answer calls (p.parameters messages o)))
        (calls ++ [.create (p.parameters messages o)]) := by
  unfold chat
  rw [EStateM.run_bind, Action.run_tryCatch, run_request]
  unfold result settle Provider.parameters
  cases hr : client.answer calls (p.service.parameters (p.request messages o)) with
  | error e => cases he : client.serviceError? e <;> simp [he]
  | ok reply =>
    cases hc : p.service.completion (p.request messages o).model reply <;> simp [hc]

theorem run_map_of_result {β : Type} (f : α → β) {a : Action ε α} {outcome : Except (Failure ε) α}
    {made : List ClientCall} (h : a.run calls = result outcome made) :
    (f <$> a).run calls = result (outcome.map f) made := by
  rw [Action.run_map, h]
  cases outcome <;> rfl

/-- A question makes one call, and its answer is the text of the completion without the blanks
around it. -/
theorem run_complete (prompt : String) (model system : Option String) :
    (complete client p prompt model system).run calls =
      let r := p.request (Provider.question prompt system) { model := model }
      let parameters := p.service.parameters r
      result ((client.settle p r.model (client.answer calls parameters)).map fun c => trim c.text)
        (calls ++ [.create parameters]) := by
  unfold complete
  rw [bind_pure_comp]
  exact run_map_of_result calls _
    (run_chat client calls p (Provider.question prompt system) { model := model })

end Action

theorem mapError_map {ε' β : Type} (x : Except ε α) (f : ε → ε') (g : α → β) :
    (x.map g).mapError f = (x.mapError f).map g := by
  cases x <;> rfl

theorem mapError_eq_ok_iff {ε' : Type} {x : Except ε α} {f : ε → ε'} {a : α} :
    x.mapError f = .ok a ↔ x = .ok a := by
  cases x with
  | error e => exact ⟨nofun, nofun⟩
  | ok b =>
    constructor
    · intro h
      cases h
      rfl
    · intro h
      cases h
      rfl

theorem mapError_settle_ofAnswers (answers : Listing Value → Except CallError Value)
    (model : String) (answer : Except CallError Value) :
    ((ofAnswers answers).settle p model answer).mapError Failure.asked = p.settle model answer := by
  unfold settle Provider.settle
  cases answer with
  | error e => cases e <;> rfl
  | ok reply => cases hc : p.service.completion model reply <;> simp [hc] <;> rfl

/-- Such a client makes the exchange of the provider. -/
theorem chat_ofAnswers (answers : Listing Value → Except CallError Value)
    (messages : List PromptMessage) (o : RequestOptions) :
    ∃ outcome,
      (Action.chat (ofAnswers answers) p messages o).run calls =
        result outcome (calls ++ (p.chat messages o answers).calls) ∧
      outcome.mapError Failure.asked = (p.chat messages o answers).outcome :=
  ⟨_, Action.run_chat _ calls p messages o, mapError_settle_ofAnswers p answers _ _⟩

theorem complete_ofAnswers (answers : Listing Value → Except CallError Value) (prompt : String)
    (model system : Option String) :
    ∃ outcome,
      (Action.complete (ofAnswers answers) p prompt model system).run calls =
        result outcome (calls ++ (p.complete prompt model system answers).calls) ∧
      outcome.mapError Failure.asked = (p.complete prompt model system answers).outcome := by
  refine ⟨_, Action.run_complete _ calls p prompt model system, ?_⟩
  rw [mapError_map, mapError_settle_ofAnswers]
  rfl

end Client

end FencedChat
