import FencedChat.Proofs.Provider.Exchange
import FencedChat.Proofs.Text.Blank
import FencedChat.Session

/-!
Answers as they are shown. A reply without a text is shown as the notice that there is none, any
other text without the blanks around it. So what is shown is empty exactly for a reply that consists
of blanks.
-/

namespace FencedChat

namespace Provider

variable (p : Provider)

/-- The notice starts and ends without a blank, whatever the label. -/
theorem trim_noResponse : trim p.noResponse = p.noResponse := by
  have htrimmed : Trimmed p.noResponse.toList := by
    have hchars :
        p.noResponse.toList = '[' :: (p.service.label.toList ++ "] No response.".toList) := by
      simp [noResponse]
    rw [hchars]
    refine ⟨fun c hc => ?_, fun c hc => ?_⟩
    · obtain rfl : '[' = c := by simpa using hc
      decide
    · have hc : (('[' :: p.service.label.toList) ++ "] No response.".toList).getLast? = some c := hc
      rw [List.getLast?_append] at hc
      obtain rfl : '.' = c := by simpa using hc
      decide
  rw [trim, htrimmed.trimChars_eq, String.ofList_toList]

/-- What is shown for the text of a reply. -/
def shown (text : String) : String := if text = "" then p.noResponse else trim text

theorem shown_eq_empty_iff {text : String} :
    p.shown text = "" ↔ text ≠ "" ∧ isBlankText text = true := by
  unfold shown
  by_cases h : text = ""
  · simp [h, p.noResponse_ne_empty]
  · rw [if_neg h, trim_eq_empty_iff]
    exact ⟨fun hb => ⟨h, hb⟩, fun hb => hb.2⟩

def Reads {ε : Type} (prompt : String) (model system : Option String)
    (answers : Listing Value → Except ε Value) (text : String) : Prop :=
  let messages := question prompt system
  let o : RequestOptions := { model := model }
  ∃ reply c, answers (p.parameters messages o) = .ok reply ∧
    p.service.completion (p.request messages o).model reply = .ok c ∧ c.text = text

end Provider

namespace Client

variable {ε : Type} (client : Client ε) (calls : List ClientCall) (p : Provider) (prompt : String)
  (model system : Option String) {t : String}

/-- The answer to a question is what is shown for the text of the reply. -/
theorem answer_eq_ok_iff (answers : Listing Value → Except ε Value) :
    let r := p.request (Provider.question prompt system) { model := model }
    (client.settle p r.model (answers (p.service.parameters r))).map (fun c => trim c.text) =
      .ok t ↔
      ∃ text, p.Reads prompt model system answers text ∧ p.shown text = t := by
  intro r
  have htrim (c : Completion) :
      trim (if c.text = "" then { c with text := p.noResponse } else c).text = p.shown c.text := by
    unfold Provider.shown
    split
    · exact p.trim_noResponse
    · rfl
  constructor
  · intro h
    cases hs : client.settle p r.model (answers (p.service.parameters r)) with
    | error e => simp [hs, Except.map] at h
    | ok c' =>
      obtain ⟨reply, c, hr, hc, rfl⟩ := settle_eq_ok_iff.mp hs
      rw [hs] at h
      exact ⟨c.text, ⟨reply, c, hr, hc, rfl⟩, (htrim c).symm.trans (Except.ok.inj h)⟩
  · rintro ⟨text, ⟨reply, c, hr, hc, rfl⟩, rfl⟩
    have hs : client.settle p r.model (answers (p.service.parameters r)) =
        .ok (if c.text = "" then { c with text := p.noResponse } else c) :=
      settle_eq_ok_iff.mpr ⟨reply, c, hr, hc, rfl⟩
    rw [hs, ← htrim c]
    rfl

theorem result_eq_ok_iff {α : Type} {outcome : Except (Failure ε) α} {a : α}
    {made : List ClientCall} :
    result outcome calls = .ok a made ↔ outcome = .ok a ∧ calls = made := by
  unfold result
  cases outcome <;> simp

theorem complete_eq_ok_iff {made : List ClientCall} :
    (Action.complete client p prompt model system).run calls = .ok t made ↔
      (∃ text, p.Reads prompt model system (client.answer calls) text ∧ p.shown text = t) ∧
      calls ++ [.create (p.parameters (Provider.question prompt system) { model := model })] =
        made := by
  rw [Action.run_complete, result_eq_ok_iff]
  exact and_congr_left' (client.answer_eq_ok_iff p prompt model system (client.answer calls))

end Client

namespace ChatSession

variable (s later : ChatSession) {m : ChatMessage}

theorem added_notMem_withdraw (t : Ticket) : .added m ∉ (s.withdraw t).events := by
  unfold withdraw remove
  split <;> simp

/-- Among the messages from the assistant, the end of a send appends the answer only. -/
theorem finish_assistant_iff (t : Ticket) (outcome : Except AskError String) :
    (∀ m, .added m ∈ (s.finish t outcome).events → m.role = .assistant → m.content ≠ "") ↔
      outcome ≠ .ok "" := by
  have hwithdraw {m : ChatMessage} := added_notMem_withdraw (m := m) s t
  cases outcome with
  | ok text =>
    simp [finish, replyTo, add, hwithdraw]
  | error e =>
    refine iff_of_true (fun m hm hrole => ?_) (by simp)
    unfold finish at hm
    cases e with
    | fault f =>
      cases f with
      | providerRequest detail provider =>
        rcases List.mem_append.mp hm with hm | hm
        · exact absurd hm hwithdraw
        · cases List.mem_singleton.mp hm
          cases hrole
      | _ => exact absurd hm hwithdraw
    | raised e => exact absurd hm hwithdraw
    | reply e => exact absurd hm hwithdraw

/-- What a send does to the messages: its start, and its end in a session that may have changed
since. -/
def sendEvents (text : String) (client : Listing Value → Except CallError Value) :
    List SessionEvent :=
  match (s.begin text).value with
  | .waiting t parameters =>
    (s.begin text).events ++ (later.finish t (s.answerOf (client parameters))).events
  | _ => (s.begin text).events

theorem events_send (text : String) (client : Listing Value → Except CallError Value) :
    (s.send text client).events = s.sendEvents (s.begin text).session text client := by
  unfold send sendEvents
  cases h : (s.begin text).value <;> simp [h]

theorem answerOf_eq_ok_iff {p : Provider} (hp : s.provider = some p) (text : String)
    (client : Listing Value → Except CallError Value) {t : String} :
    s.answerOf (client (p.parameters (Provider.question text none) { model := s.model })) = .ok t ↔
      ∃ said, p.Reads text s.model none client said ∧ p.shown said = t := by
  unfold answerOf
  rw [hp]
  simp only
  rw [← Client.mapError_settle_ofAnswers p client, ← Client.mapError_map, Client.mapError_eq_ok_iff]
  exact (Client.ofAnswers client).answer_eq_ok_iff p text s.model none client

/-- The start of a send appends no empty message from the assistant. -/
theorem begin_assistant (text : String) :
    ∀ m, .added m ∈ (s.begin text).events → m.role = .assistant → m.content ≠ "" := by
  intro m hm hrole
  unfold begin at hm
  split at hm
  · simp at hm
  · split at hm
    · obtain rfl | rfl : m = _ ∨ m = _ := by simpa [add] using hm
      · cases hrole
      · cases hrole
    · obtain rfl | rfl : m = _ ∨ m = _ := by simpa [add] using hm
      · cases hrole
      · exact (by decide : thinkingText ≠ "")

/-- A send appends no empty message from the assistant exactly if a reply of blanks only is
empty. -/
theorem sendEvents_assistant_iff (text : String) (client : Listing Value → Except CallError Value) :
    (∀ m, .added m ∈ s.sendEvents later text client → m.role = .assistant → m.content ≠ "") ↔
      ∀ p, s.provider = some p → isBlankText text = false →
        ∀ said, p.Reads text s.model none client said → isBlankText said = true → said = "" := by
  have hstart := s.begin_assistant text
  unfold sendEvents
  cases hb : isBlankText text with
  | true =>
    have hv : (s.begin text).value = .blank := by simp only [begin, hb, if_true]
    rw [hv]
    exact iff_of_true hstart (fun _ _ h => nomatch h)
  | false =>
    cases hp : s.provider with
    | none =>
      obtain ⟨segments, hv⟩ : ∃ segments, (s.begin text).value = .answered segments :=
        ⟨_, by simp only [begin, hb, hp, Bool.false_eq_true, if_false]; rfl⟩
      rw [hv]
      exact iff_of_true hstart (fun _ h => nomatch h)
    | some p =>
      obtain ⟨t, hv⟩ : ∃ t, (s.begin text).value =
          .waiting t (p.parameters (Provider.question text none) { model := s.model }) :=
        ⟨_, by simp only [begin, hb, hp, Bool.false_eq_true, if_false]; rfl⟩
      rw [hv]
      simp only [List.mem_append, or_imp, forall_and]
      rw [and_iff_right hstart, finish_assistant_iff]
      have hempty := s.answerOf_eq_ok_iff hp text client (t := "")
      constructor
      · rintro hne p' ⟨⟩ - said hsaid hblank
        by_contra hs
        exact hne (hempty.mpr ⟨said, hsaid, p.shown_eq_empty_iff.mpr ⟨hs, hblank⟩⟩)
      · intro h ho
        obtain ⟨said, hsaid, hshown⟩ := hempty.mp ho
        obtain ⟨hne, hblank⟩ := p.shown_eq_empty_iff.mp hshown
        exact hne (h p rfl trivial said hsaid hblank)

/-- Answers are never empty, but for one kind of reply: one whose text consists of blanks without
being empty. The answer to a question is the notice for an empty text and otherwise the text without
the blanks around it, and a send appends it as the only message from the assistant besides its
placeholder, in a session that may have changed since. -/
theorem answers_nonempty_iff {ε : Type} (client : Client ε) (calls : List ClientCall) (p : Provider)
    (prompt : String) (model system : Option String) (s later : ChatSession) (text : String)
    (answers : Listing Value → Except CallError Value) :
    let run := (Client.Action.complete client p prompt model system).run calls
    let Said := p.Reads prompt model system (client.answer calls)
    (∀ t, (∃ made, run = .ok t made) ↔
      ∃ said, Said said ∧ t = if said = "" then "[" ++ p.service.label ++ "] No response."
        else trim said) ∧
    ((∀ t made, run = .ok t made → t ≠ "") ↔
      ∀ said, Said said → isBlankText said = true → said = "") ∧
    (s.send text answers).events = s.sendEvents (s.begin text).session text answers ∧
    ((∀ m, .added m ∈ s.sendEvents later text answers → m.role = .assistant → m.content ≠ "") ↔
      ∀ q, s.provider = some q → isBlankText text = false →
        ∀ said, q.Reads text s.model none answers said → isBlankText said = true → said = "") := by
  intro run Said
  let parameters := p.parameters (Provider.question prompt system) { model := model }
  have hrun {t made} : run = .ok t made ↔
      (∃ said, Said said ∧ p.shown said = t) ∧ calls ++ [.create parameters] = made :=
    client.complete_eq_ok_iff calls p prompt model system
  refine ⟨fun t => ?_, ?_, s.events_send text answers,
    s.sendEvents_assistant_iff later text answers⟩
  · constructor
    · rintro ⟨made, h⟩
      obtain ⟨⟨said, hread, rfl⟩, -⟩ := hrun.mp h
      exact ⟨said, hread, rfl⟩
    · rintro ⟨said, hread, rfl⟩
      exact ⟨_, hrun.mpr ⟨⟨said, hread, rfl⟩, rfl⟩⟩
  · constructor
    · intro h said hread hblank
      by_contra hne
      exact h "" _ (hrun.mpr ⟨⟨said, hread, p.shown_eq_empty_iff.mpr ⟨hne, hblank⟩⟩, rfl⟩) rfl
    · rintro h t made ht rfl
      obtain ⟨⟨said, hread, hshown⟩, -⟩ := hrun.mp ht
      obtain ⟨hne, hblank⟩ := p.shown_eq_empty_iff.mp hshown
      exact hne (h said hread hblank)

/-- A reply of two spaces is answered with an empty message. -/
theorem answers_empty_spaces :
    let reply : Value := .table
      [("choices", .list [.table [("message", .table [("content", .text "  ")])]]),
        ("usage", .null), ("model", .null)]
    let p : Provider := ⟨.openAI, "gpt-4o-mini"⟩
    (p.complete "q" none none fun _ => .ok reply).outcome = .ok "" ∧
      ¬ ∀ m, .added m ∈ ((start (some p) none).send "q" fun _ => .ok reply).events →
        m.role = .assistant → m.content ≠ "" := by
  intro reply p
  have hsettle : p.settle "gpt-4o-mini" (.ok reply) = .ok ⟨"  ", "gpt-4o-mini", none⟩ := rfl
  have hanswer : (p.settle "gpt-4o-mini" (.ok reply)).map (fun c => trim c.text) = .ok "" := by
    rw [hsettle]
    rfl
  have hread : p.Reads "q" none none (fun _ => (.ok reply : Except CallError Value)) "  " :=
    ⟨reply, ⟨"  ", "gpt-4o-mini", none⟩, rfl, rfl, rfl⟩
  refine ⟨hanswer, fun h => ?_⟩
  rw [events_send, sendEvents_assistant_iff] at h
  exact absurd (h p rfl (by decide) "  " hread (by decide)) (by decide)

end ChatSession

end FencedChat
