import FencedChat.Listening
import FencedChat.Proofs.Session.InFlight

/-!
The requests that a session counts as pending. They are those in flight, in the order in which they
started, as long as the session is not cleared: clearing forgets the requests that are in flight,
and they stay in flight without being counted until they complete. Numbers of requests ascend and
are never given twice.
-/

namespace FencedChat

namespace ChatSession

variable (s : ChatSession)

theorem waiting_remove (id : Nat) : (s.remove id).session.waiting = s.waiting := by
  unfold remove
  split <;> rfl

theorem nextRequest_remove (id : Nat) : (s.remove id).session.nextRequest = s.nextRequest := by
  unfold remove
  split <;> rfl

theorem waiting_finish (t : Ticket) (outcome : Except AskError String) :
    (s.finish t outcome).session.waiting = s.waiting.filter (·.1 ≠ t.request) := by
  unfold finish
  split
  · exact waiting_remove _ _
  · exact waiting_remove _ _

theorem nextRequest_finish (t : Ticket) (outcome : Except AskError String) :
    (s.finish t outcome).session.nextRequest = s.nextRequest := by
  unfold finish
  split
  · exact nextRequest_remove _ _
  · exact nextRequest_remove _ _

/-- A send that asks the provider takes the next number, and its request waits behind the others. -/
theorem begin_of_waiting {text : String} {t : Ticket} {parameters : Listing Value}
    (h : (s.begin text).value = .waiting t parameters) :
    t.request = s.nextRequest ∧ (s.begin text).session.waiting = s.waiting ++ [t.entry] ∧
      (s.begin text).session.nextRequest = s.nextRequest + 1 := by
  unfold begin at h ⊢
  cases hb : isBlankText text with
  | true => simp [hb] at h
  | false =>
    cases hp : s.provider with
    | none => simp [hb, hp] at h
    | some p =>
      simp only [hb, hp, Bool.false_eq_true, if_false, Begun.waiting.injEq] at h ⊢
      obtain ⟨rfl, -⟩ := h
      simp [add, Ticket.entry]

/-- Any other send leaves the requests as they are. -/
theorem begin_of_not_waiting {text : String}
    (h : ∀ t parameters, (s.begin text).value ≠ .waiting t parameters) :
    (s.begin text).session.waiting = s.waiting ∧
    (s.begin text).session.nextRequest = s.nextRequest := by
  unfold begin at h ⊢
  cases hb : isBlankText text with
  | true => exact ⟨rfl, rfl⟩
  | false =>
    cases hp : s.provider with
    | none => exact ⟨rfl, rfl⟩
    | some p => simp [hb, hp] at h

end ChatSession

/-- A chat with the sends that asked the provider so far, in order, and those that were in flight
when the session was last cleared. -/
structure WatchedChat where
  chat : Chat
  started : List Ticket
  forgotten : List Ticket

namespace WatchedChat

def after (w : WatchedChat) : Heard.Call → WatchedChat
  | .begin text =>
    match (w.chat.session.begin text).value with
    | .waiting t _ => ⟨w.chat.send text, w.started ++ [t], w.forgotten⟩
    | _ => ⟨w.chat.send text, w.started, w.forgotten⟩
  | .finish t outcome => ⟨w.chat.complete t outcome, w.started, w.forgotten⟩
  | .add role content pending =>
    ⟨⟨(w.chat.session.add role content pending).session, w.chat.inFlight⟩, w.started, w.forgotten⟩
  | .remove id => ⟨w.chat.remove id, w.started, w.forgotten⟩
  | .clear => ⟨w.chat.clear, w.started, w.chat.inFlight⟩

def Possible (w : WatchedChat) : Heard.Call → Prop
  | .finish t _ => t ∈ w.chat.inFlight
  | _ => True

def start (provider : Option Provider) (reader : MessageReader) (model : Option String) :
    WatchedChat :=
  ⟨.start provider reader model, [], []⟩

/-- The chats that calls in any order lead to. -/
inductive Reachable : WatchedChat → Prop
  | start (provider : Option Provider) (reader : MessageReader) (model : Option String) :
    Reachable (start provider reader model)
  | step {w : WatchedChat} (h : Reachable w) (call : Heard.Call) (hp : w.Possible call) :
    Reachable (w.after call)

/-- The sends in flight that started after the session was last cleared. -/
def counted (w : WatchedChat) : List Ticket := w.chat.inFlight.filter (· ∉ w.forgotten)

/-- What ties the requests that wait to the sends. -/
structure Numbered (w : WatchedChat) : Prop where
  requests : w.started.map Ticket.request = List.range' 1 w.started.length
  next : w.chat.session.nextRequest = w.started.length + 1
  inFlight : w.chat.inFlight.Sublist w.started
  forgotten : w.forgotten ⊆ w.started
  waiting : w.chat.session.pendingRequests = w.counted.map Ticket.request

variable {w : WatchedChat}

theorem Numbered.nodup (hw : Numbered w) : (w.chat.inFlight.map Ticket.request).Nodup := by
  have hn : (w.started.map Ticket.request).Nodup := by
    rw [hw.requests]
    exact List.nodup_range'
  exact hn.sublist (hw.inFlight.map Ticket.request)

theorem numbered_start (provider : Option Provider) (reader : MessageReader)
    (model : Option String) :
    Numbered (start provider reader model) where
  requests := rfl
  next := rfl
  inFlight := List.Sublist.refl []
  forgotten := List.Subset.refl []
  waiting := rfl

/-- The number of a new request is that of no send so far. -/
theorem Numbered.notMem_started (hw : Numbered w) {t : Ticket}
    (ht : t.request = w.chat.session.nextRequest) : t ∉ w.started := by
  intro hm
  have hr : t.request ∈ w.started.map Ticket.request := List.mem_map_of_mem hm
  rw [hw.requests, List.mem_range'_1, ht, hw.next] at hr
  omega

theorem after_begin_waiting {text : String} {t : Ticket} {parameters : Listing Value}
    (h : (w.chat.session.begin text).value = .waiting t parameters) :
    w.after (.begin text) =
      ⟨⟨(w.chat.session.begin text).session, w.chat.inFlight ++ [t]⟩, w.started ++ [t],
        w.forgotten⟩ := by
  simp only [after, Chat.send, h]

theorem after_begin_not_waiting {text : String}
    (h : ∀ t parameters, (w.chat.session.begin text).value ≠ .waiting t parameters) :
    w.after (.begin text) =
      ⟨⟨(w.chat.session.begin text).session, w.chat.inFlight⟩, w.started, w.forgotten⟩ := by
  simp only [after, Chat.send]

/-- Whatever keeps the requests of the session keeps them numbered. -/
theorem Numbered.of_same (hw : Numbered w) {s : ChatSession}
    (hwaiting : s.waiting = w.chat.session.waiting)
    (hnext : s.nextRequest = w.chat.session.nextRequest) :
    Numbered ⟨⟨s, w.chat.inFlight⟩, w.started, w.forgotten⟩ :=
  ⟨hw.requests, hnext.trans hw.next, hw.inFlight, hw.forgotten,
    (congrArg _ hwaiting).trans hw.waiting⟩

/-- A new request has the next number. It is counted, since it was not in flight at any clear. -/
theorem Numbered.launch (hw : Numbered w) {s : ChatSession} {t : Ticket}
    (ht : t.request = w.chat.session.nextRequest)
    (hwaiting : s.waiting = w.chat.session.waiting ++ [t.entry])
    (hnext : s.nextRequest = w.chat.session.nextRequest + 1) :
    Numbered ⟨⟨s, w.chat.inFlight ++ [t]⟩, w.started ++ [t], w.forgotten⟩ where
  requests := by
    have hnumber : t.request = 1 + w.started.length := by
      rw [ht, hw.next, Nat.add_comm]
    rw [List.map_append, hw.requests, List.map_singleton, hnumber, List.length_append,
      List.length_singleton, List.range'_concat, Nat.one_mul]
  next := by
    rw [hnext, hw.next, List.length_append, List.length_singleton]
  inFlight := hw.inFlight.append (List.Sublist.refl [t])
  forgotten := fun u hu => List.mem_append_left [t] (hw.forgotten hu)
  waiting := by
    have hkept : t ∉ w.forgotten := fun h => hw.notMem_started ht (hw.forgotten h)
    have hold := hw.waiting
    unfold ChatSession.pendingRequests counted at hold ⊢
    rw [hwaiting, List.map_append, hold, List.filter_append, List.map_append]
    simp [hkept, Ticket.entry]

theorem Numbered.begin (hw : Numbered w) (text : String) : Numbered (w.after (.begin text)) := by
  by_cases h : ∃ t parameters, (w.chat.session.begin text).value = .waiting t parameters
  · obtain ⟨t, parameters, hv⟩ := h
    obtain ⟨ht, hwaiting, hnext⟩ := w.chat.session.begin_of_waiting hv
    rw [after_begin_waiting hv]
    exact hw.launch ht hwaiting hnext
  · have hv : ∀ t parameters, (w.chat.session.begin text).value ≠ .waiting t parameters :=
      fun t parameters hv => h ⟨t, parameters, hv⟩
    obtain ⟨hwaiting, hnext⟩ := w.chat.session.begin_of_not_waiting hv
    rw [after_begin_not_waiting hv]
    exact hw.of_same hwaiting hnext

/-- A send that completes takes its own request away, if that is still counted. -/
theorem Numbered.finish (hw : Numbered w) {t : Ticket} (ht : t ∈ w.chat.inFlight)
    (outcome : Except AskError String) : Numbered (w.after (.finish t outcome)) where
  requests := hw.requests
  next := (w.chat.session.nextRequest_finish t outcome).trans hw.next
  inFlight := List.erase_sublist.trans hw.inFlight
  forgotten := hw.forgotten
  waiting := by
    have hold := hw.waiting
    change ((w.chat.session.finish t outcome).session.waiting.map (·.1)) =
      ((w.chat.inFlight.erase t).filter (· ∉ w.forgotten)).map Ticket.request
    rw [ChatSession.waiting_finish, Chat.erase_eq_filter hw.nodup ht, List.filter_comm]
    unfold ChatSession.pendingRequests counted at hold
    have hfilter (xs : List (Nat × Nat)) : (xs.filter (·.1 ≠ t.request)).map (·.1) =
        (xs.map (·.1)).filter (· ≠ t.request) := by
      rw [List.filter_map]
      rfl
    rw [hfilter, hold, List.filter_map]
    rfl

/-- Clearing forgets all that is in flight. -/
theorem Numbered.clear (hw : Numbered w) : Numbered (w.after .clear) where
  requests := hw.requests
  next := hw.next
  inFlight := hw.inFlight
  forgotten := hw.inFlight.subset
  waiting := by
    have hnone : w.chat.inFlight.filter (· ∉ w.chat.inFlight) = [] := by
      rw [List.filter_eq_nil_iff]
      intro t ht
      simpa using ht
    change [] = (w.chat.inFlight.filter (· ∉ w.chat.inFlight)).map Ticket.request
    rw [hnone, List.map_nil]

theorem Numbered.after (hw : Numbered w) (call : Heard.Call) (hp : w.Possible call) :
    Numbered (w.after call) := by
  cases call with
  | begin text => exact hw.begin text
  | finish t outcome => exact hw.finish hp outcome
  | add role content pending => exact hw.of_same rfl rfl
  | remove id =>
    exact hw.of_same (ChatSession.waiting_remove _ id) (ChatSession.nextRequest_remove _ id)
  | clear => exact hw.clear

theorem Reachable.numbered (h : Reachable w) : Numbered w := by
  induction h with
  | start provider reader model => exact numbered_start provider reader model
  | step _ call hp ih => exact ih.after call hp

theorem counted_eq_inFlight_iff :
    w.counted = w.chat.inFlight ↔ ∀ t ∈ w.chat.inFlight, t ∉ w.forgotten := by
  rw [counted, List.filter_eq_self]
  simp

/-- The pending requests are those of the sends in flight exactly if none of these was in flight
when the session was last cleared. They are always requests of sends in flight, in the order in
which these started, and the number of a request is that of its place among all that started. -/
theorem pendingRequests_eq_inFlight_iff (h : Reachable w) :
    (w.chat.session.pendingRequests = w.chat.inFlight.map Ticket.request ↔
      ∀ t ∈ w.chat.inFlight, t ∉ w.forgotten) ∧
    w.chat.session.pendingRequests = w.counted.map Ticket.request ∧
    w.chat.session.pendingRequests.Nodup ∧ w.chat.inFlight.Sublist w.started ∧
    w.started.map Ticket.request = List.range' 1 w.started.length := by
  have hw := h.numbered
  refine ⟨?_, hw.waiting, ?_, hw.inFlight, hw.requests⟩
  · rw [hw.waiting, ← counted_eq_inFlight_iff]
    constructor
    · intro he
      have hlength := congrArg List.length he
      rw [List.length_map, List.length_map] at hlength
      exact (List.filter_sublist (l := w.chat.inFlight)).eq_of_length hlength
    · intro he
      rw [he]
  · rw [hw.waiting]
    exact hw.nodup.sublist ((List.filter_sublist (l := w.chat.inFlight)).map Ticket.request)

/-- Two sends, of which the second is still in flight when the session is cleared, and a third after
that. -/
def clearedBetween : WatchedChat :=
  let w :=
    ((start (some ⟨Service.openAI, ""⟩) .standard none).after (.begin "a")).after (.begin "b")
  ((w.after (.finish ⟨1, 2, "a"⟩ (.ok "c"))).after .clear).after (.begin "d")

theorem reachable_clearedBetween : Reachable clearedBetween := by
  have h := Reachable.start (some ⟨Service.openAI, ""⟩) .standard none
  have h₁ := (h.step (.begin "a") trivial).step (.begin "b") trivial
  have hflight : (⟨1, 2, "a"⟩ : Ticket) ∈ [⟨1, 2, "a"⟩, ⟨2, 4, "b"⟩] := List.mem_cons_self
  have h₂ := h₁.step (.finish ⟨1, 2, "a"⟩ (.ok "c")) hflight
  exact (h₂.step .clear trivial).step (.begin "d") trivial

theorem pendingRequests_clearedBetween :
    Reachable clearedBetween ∧ clearedBetween.chat.inFlight.map Ticket.request = [2, 3] ∧
      clearedBetween.chat.session.pendingRequests = [3] ∧
      clearedBetween.started.map Ticket.request = [1, 2, 3] := by
  have h := pendingRequests_eq_inFlight_iff reachable_clearedBetween
  refine ⟨reachable_clearedBetween, by decide, ?_, ?_⟩
  · rw [h.2.1]
    decide
  · rw [h.2.2.2.2]
    decide

/-- After a clear a request that is in flight is not among those that are pending. -/
theorem pendingRequests_forget_cleared :
    ∃ w, Reachable w ∧ w.chat.inFlight.map Ticket.request = [1] ∧
    w.chat.session.pendingRequests = [] := by
  have h := Reachable.start (some ⟨Service.openAI, ""⟩) .standard none
  exact ⟨_, (h.step (.begin "a") trivial).step .clear trivial, by decide, by decide⟩

end WatchedChat

end FencedChat
