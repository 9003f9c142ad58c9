import FencedChat.Provider.Service
import FencedChat.Session
import Mathlib.Data.List.Nodup

/-!
Sends that overlap. A send starts, waits for the provider and completes; while it waits, other sends
start and complete, messages are added and removed, and the session may be cleared. Each send in
flight owns one placeholder, which is the only message that its completion can take away.
-/

namespace FencedChat

/-- The placeholder that a send shows while it waits. -/
def Ticket.message (t : Ticket) : ChatMessage :=
  ⟨t.placeholder, .assistant, ChatSession.thinkingText, true⟩

def Ticket.entry (t : Ticket) : Nat × Nat := (t.request, t.placeholder)

/-- A session with the sends that are in flight, in the order in which they started. -/
structure Chat where
  session : ChatSession
  inFlight : List Ticket

namespace Chat

/-- Starts a send. It is in flight if the provider is asked. -/
def send (c : Chat) (text : String) : Chat :=
  match (c.session.begin text).value with
  | .waiting t _ => ⟨(c.session.begin text).session, c.inFlight ++ [t]⟩
  | _ => ⟨(c.session.begin text).session, c.inFlight⟩

/-- Completes a send. -/
def complete (c : Chat) (t : Ticket) (outcome : Except AskError String) : Chat :=
  ⟨(c.session.finish t outcome).session, c.inFlight.erase t⟩

def clear (c : Chat) : Chat := ⟨c.session.clear.session, c.inFlight⟩

def remove (c : Chat) (id : Nat) : Chat := ⟨(c.session.remove id).session, c.inFlight⟩

def add (c : Chat) (role : Role) (content : String) : Chat :=
  ⟨(c.session.add role content false).session, c.inFlight⟩

/-- What can happen to a chat. -/
inductive Step (c : Chat) : Chat → Prop
  | send (text : String) : Step c (c.send text)
  | complete {t : Ticket} (h : t ∈ c.inFlight) (outcome : Except AskError String) :
    Step c (c.complete t outcome)
  | clear : Step c c.clear
  | remove (id : Nat) : Step c (c.remove id)
  | add (role : Role) (content : String) : Step c (c.add role content)

def start (provider : Option Provider) (reader : MessageReader) (model : Option String) : Chat :=
  ⟨{ ChatSession.start provider model with reader := reader }, []⟩

/-- The chats that steps in any order lead to. -/
inductive Reachable : Chat → Prop
  | start (provider : Option Provider) (reader : MessageReader) (model : Option String) :
    Reachable (start provider reader model)
  | step {c d : Chat} : Reachable c → Step c d → Reachable d

/-- What ties messages, waiting requests and sends in flight together. -/
structure Inv (c : Chat) : Prop where
  id_lt : ∀ m ∈ c.session.messages, m.id < c.session.nextId
  ids_nodup : (c.session.messages.map ChatMessage.id).Nodup
  placeholder_lt : ∀ t ∈ c.inFlight, t.placeholder < c.session.nextId
  placeholders_nodup : (c.inFlight.map Ticket.placeholder).Nodup
  request_lt : ∀ t ∈ c.inFlight, t.request < c.session.nextRequest
  requests_nodup : (c.inFlight.map Ticket.request).Nodup
  /-- A message with the id of a placeholder is that placeholder. -/
  placeholder : ∀ m ∈ c.session.messages, ∀ t ∈ c.inFlight, m.id = t.placeholder → m = t.message
  waiting : (c.session.waiting).Sublist (c.inFlight.map Ticket.entry)
  pending : (c.session.messages.filter ChatMessage.pending).Sublist (c.inFlight.map Ticket.message)

variable {c d : Chat} {t : Ticket}

theorem inv_start (provider : Option Provider) (reader : MessageReader) (model : Option String) :
    Inv (start provider reader model) := by
  constructor <;> simp [start, ChatSession.start]

section

variable {α : Type} {f : α → Nat} {n : Nat} {xs : List α} {x : α}

/-- A number that is not in use yet is given to one more member of a list. -/
theorem nodup_map_concat (hn : (xs.map f).Nodup) (hlt : ∀ y ∈ xs, f y < n) (hx : f x = n) :
    ((xs ++ [x]).map f).Nodup := by
  have hf : f x ∉ xs.map f := by
    intro h
    obtain ⟨y, hy, he⟩ := List.mem_map.mp h
    have := hlt y hy
    omega
  rw [List.map_append, List.map_singleton, ← List.concat_eq_append]
  exact hn.concat hf

theorem forall_mem_concat_lt (hlt : ∀ y ∈ xs, f y < n) (hx : f x = n) :
    ∀ y ∈ xs ++ [x], f y < n + 1 := by
  intro y hy
  rcases List.mem_append.mp hy with hy | hy
  · exact Nat.lt_succ_of_lt (hlt y hy)
  · obtain rfl := List.mem_singleton.mp hy
    exact hx ▸ Nat.lt_succ_self _

theorem eraseP_eq_filter (hn : (xs.map f).Nodup) (n : Nat) :
    xs.eraseP (f · = n) = xs.filter (f · ≠ n) := by
  induction xs with
  | nil => rfl
  | cons y ys ih =>
    rw [List.map_cons, List.nodup_cons] at hn
    by_cases hy : f y = n
    · have hf : ys.filter (f · ≠ n) = ys := by
        rw [List.filter_eq_self]
        intro z hz
        have : f z ∈ ys.map f := List.mem_map_of_mem hz
        grind
      rw [List.eraseP_cons_of_pos (by simpa using hy),
        List.filter_cons_of_neg (by simpa using hy), hf]
    · rw [List.eraseP_cons_of_neg (by simpa using hy), List.filter_cons_of_pos (by simpa using hy),
        ih hn.2]

theorem erase_eq_filter [DecidableEq α] (hn : (xs.map f).Nodup) (hx : x ∈ xs) :
    xs.erase x = xs.filter (f · ≠ f x) := by
  rw [hn.of_map.erase_eq_filter]
  apply List.filter_congr
  intro y hy
  have hi : f y = f x ↔ y = x := ⟨List.inj_on_of_nodup_map hn hy hx, congrArg f⟩
  rw [Bool.eq_iff_iff]
  simp [hi]

end

/-- A message that stands for no reply can be appended at any time. -/
theorem Inv.add (hc : Inv c) (role : Role) (content : String) : Inv (c.add role content) where
  id_lt := forall_mem_concat_lt hc.id_lt rfl
  ids_nodup := nodup_map_concat hc.ids_nodup hc.id_lt rfl
  placeholder_lt := fun t ht => Nat.lt_succ_of_lt (hc.placeholder_lt t ht)
  placeholders_nodup := hc.placeholders_nodup
  request_lt := hc.request_lt
  requests_nodup := hc.requests_nodup
  placeholder := by
    intro m hm t ht he
    rcases List.mem_append.mp hm with hm | hm
    · exact hc.placeholder m hm t ht he
    · obtain rfl := List.mem_singleton.mp hm
      exact absurd he (Nat.ne_of_gt (hc.placeholder_lt t ht))
  waiting := hc.waiting
  pending := by
    change ((c.session.messages ++ [_]).filter ChatMessage.pending).Sublist (c.inFlight.map _)
    rw [List.filter_append]
    simpa using hc.pending

theorem Inv.clear (hc : Inv c) : Inv c.clear where
  id_lt := List.forall_mem_nil _
  ids_nodup := List.nodup_nil
  placeholder_lt := hc.placeholder_lt
  placeholders_nodup := hc.placeholders_nodup
  request_lt := hc.request_lt
  requests_nodup := hc.requests_nodup
  placeholder := List.forall_mem_nil _
  waiting := List.nil_sublist _
  pending := List.nil_sublist _

/-- Removing a message leaves all others, in order. -/
theorem session_remove {s : ChatSession} (hn : (s.messages.map ChatMessage.id).Nodup) (id : Nat) :
    (s.remove id).session = { s with messages := s.messages.filter (·.id ≠ id) } := by
  unfold ChatSession.remove
  split
  · rename_i h
    have hf : s.messages.filter (·.id ≠ id) = s.messages := by
      rw [List.filter_eq_self]
      intro m hm
      simpa using List.find?_eq_none.mp h m hm
    rw [hf]
  · rw [eraseP_eq_filter hn]

theorem Inv.remove (hc : Inv c) (id : Nat) : Inv (c.remove id) := by
  have hs := List.filter_sublist (l := c.session.messages) (p := (·.id ≠ id))
  rw [Chat.remove, session_remove hc.ids_nodup]
  exact {
    id_lt := fun m hm => hc.id_lt m (hs.subset hm)
    ids_nodup := hc.ids_nodup.sublist (hs.map ChatMessage.id)
    placeholder_lt := hc.placeholder_lt
    placeholders_nodup := hc.placeholders_nodup
    request_lt := hc.request_lt
    requests_nodup := hc.requests_nodup
    placeholder := fun m hm => hc.placeholder m (hs.subset hm)
    waiting := hc.waiting
    pending := (hs.filter ChatMessage.pending).trans hc.pending
  }

/-- A send that waits for the provider: its placeholder is appended, and its request is recorded. -/
def launch (c : Chat) (text : String) : Chat :=
  let t : Ticket := ⟨c.session.nextRequest, c.session.nextId, text⟩
  ⟨{ c.session with
      messages := c.session.messages ++ [t.message]
      waiting := c.session.waiting ++ [t.entry]
      nextRequest := c.session.nextRequest + 1
      nextId := c.session.nextId + 1 }, c.inFlight ++ [t]⟩

theorem Inv.launch (hc : Inv c) (text : String) : Inv (c.launch text) where
  id_lt := forall_mem_concat_lt hc.id_lt rfl
  ids_nodup := nodup_map_concat hc.ids_nodup hc.id_lt rfl
  placeholder_lt := forall_mem_concat_lt hc.placeholder_lt rfl
  placeholders_nodup := nodup_map_concat hc.placeholders_nodup hc.placeholder_lt rfl
  request_lt := forall_mem_concat_lt hc.request_lt rfl
  requests_nodup := nodup_map_concat hc.requests_nodup hc.request_lt rfl
  placeholder := by
    intro m hm t ht he
    rcases List.mem_append.mp hm with hm | hm <;> rcases List.mem_append.mp ht with ht | ht
    · exact hc.placeholder m hm t ht he
    · obtain rfl := List.mem_singleton.mp ht
      exact absurd he (Nat.ne_of_lt (hc.id_lt m hm))
    · obtain rfl := List.mem_singleton.mp hm
      exact absurd he (Nat.ne_of_gt (hc.placeholder_lt t ht))
    · obtain rfl := List.mem_singleton.mp hm
      obtain rfl := List.mem_singleton.mp ht
      rfl
  waiting := by
    change (c.session.waiting ++ [_]).Sublist ((c.inFlight ++ [_]).map Ticket.entry)
    rw [List.map_append]
    exact hc.waiting.append (List.Sublist.refl _)
  pending := by
    change ((c.session.messages ++ [_]).filter ChatMessage.pending).Sublist
      ((c.inFlight ++ [_]).map Ticket.message)
    rw [List.filter_append, List.map_append]
    exact hc.pending.append (List.Sublist.refl _)

theorem send_blank {text : String} (h : isBlankText text = true) : c.send text = c := by
  simp only [send, ChatSession.begin, h, if_true]

theorem send_answered {text : String} (h : isBlankText text = false)
    (hp : c.session.provider = none) :
    c.send text = (c.add .user text).add .system ChatSession.missingKeyText := by
  simp only [send, ChatSession.begin, h, Bool.false_eq_true, if_false, hp]
  rfl

theorem send_waiting {text : String} {p : Provider} (h : isBlankText text = false)
    (hp : c.session.provider = some p) : c.send text = (c.add .user text).launch text := by
  simp only [send, ChatSession.begin, h, Bool.false_eq_true, if_false, hp]
  rfl

theorem Inv.send (hc : Inv c) (text : String) : Inv (c.send text) := by
  cases h : isBlankText text with
  | true =>
    rw [send_blank h]
    exact hc
  | false =>
    cases hp : c.session.provider with
    | none =>
      rw [send_answered h hp]
      exact (hc.add _ _).add _ _
    | some p =>
      rw [send_waiting h hp]
      exact (hc.add _ _).launch _

/-- A send looks for its own placeholder, also if its request is not recorded any more. -/
theorem Inv.lookup_getD (hc : Inv c) (ht : t ∈ c.inFlight) :
    (c.session.waiting.lookup t.request).getD t.placeholder = t.placeholder := by
  cases hl : c.session.waiting.lookup t.request with
  | none =>
    -- the session was cleared in between
    rfl
  | some id =>
    obtain ⟨before, after, hw, _⟩ := List.lookup_eq_some_iff.mp hl
    have hm : (t.request, id) ∈ c.inFlight.map Ticket.entry := hc.waiting.subset (by simp [hw])
    obtain ⟨u, hu, he⟩ := List.mem_map.mp hm
    obtain ⟨hr, rfl⟩ := Prod.mk.inj he
    obtain rfl := List.inj_on_of_nodup_map hc.requests_nodup hu ht hr
    rfl

/-- Takes the placeholder of a send away, without a reply. -/
def withdraw (c : Chat) (t : Ticket) : Chat :=
  ⟨(c.session.withdraw t).session, c.inFlight.erase t⟩

theorem Inv.session_withdraw (hc : Inv c) (ht : t ∈ c.inFlight) :
    (c.session.withdraw t).session =
      { c.session with
        messages := c.session.messages.filter (·.id ≠ t.placeholder)
        waiting := c.session.waiting.filter (·.1 ≠ t.request) } := by
  rw [ChatSession.withdraw, hc.lookup_getD ht, session_remove]
  exact hc.ids_nodup

/-- No message but the placeholder of a send is taken away. -/
theorem Inv.messages_withdraw (hc : Inv c) (ht : t ∈ c.inFlight) :
    (c.session.withdraw t).session.messages = c.session.messages.erase t.message := by
  rw [hc.session_withdraw ht, hc.ids_nodup.of_map.erase_eq_filter]
  apply List.filter_congr
  intro m hm
  have hi : m.id = t.placeholder ↔ m = t.message :=
    ⟨hc.placeholder m hm t ht, congrArg ChatMessage.id⟩
  rw [Bool.eq_iff_iff]
  simp [hi]

theorem Inv.withdraw (hc : Inv c) (ht : t ∈ c.inFlight) : Inv (c.withdraw t) := by
  have hm := List.filter_sublist (l := c.session.messages) (p := (·.id ≠ t.placeholder))
  have hs : (c.inFlight.erase t).Sublist c.inFlight := List.erase_sublist
  rw [Chat.withdraw, hc.session_withdraw ht]
  exact {
    id_lt := fun m h => hc.id_lt m (hm.subset h)
    ids_nodup := hc.ids_nodup.sublist (hm.map ChatMessage.id)
    placeholder_lt := fun u hu => hc.placeholder_lt u (hs.subset hu)
    placeholders_nodup := hc.placeholders_nodup.sublist (hs.map Ticket.placeholder)
    request_lt := fun u hu => hc.request_lt u (hs.subset hu)
    requests_nodup := hc.requests_nodup.sublist (hs.map Ticket.request)
    placeholder := fun m h u hu => hc.placeholder m (hm.subset h) u (hs.subset hu)
    waiting := by
      have hw := hc.waiting.filter (·.1 ≠ t.request)
      rw [List.filter_map] at hw
      rw [erase_eq_filter hc.requests_nodup ht]
      exact hw
    pending := by
      have hp := hc.pending.filter (·.id ≠ t.placeholder)
      rw [List.filter_map, List.filter_comm] at hp
      rw [erase_eq_filter hc.placeholders_nodup ht]
      exact hp
  }

theorem Inv.complete (hc : Inv c) (ht : t ∈ c.inFlight) (outcome : Except AskError String) :
    Inv (c.complete t outcome) := by
  cases hr : ChatSession.replyTo t.request outcome with
  | error e =>
    have he : c.complete t outcome = c.withdraw t := by
      simp only [Chat.complete, ChatSession.finish, hr]
      rfl
    rw [he]
    exact hc.withdraw ht
  | ok reply =>
    have he : c.complete t outcome = (c.withdraw t).add reply.1 reply.2.1 := by
      simp only [Chat.complete, ChatSession.finish, hr]
      rfl
    rw [he]
    exact (hc.withdraw ht).add _ _

theorem Step.inv (h : Step c d) (hc : Inv c) : Inv d := by
  cases h with
  | send text => exact hc.send text
  | complete ht outcome => exact hc.complete ht outcome
  | clear => exact hc.clear
  | remove id => exact hc.remove id
  | add role content => exact hc.add role content

theorem Reachable.inv (h : Reachable c) : Inv c := by
  induction h with
  | start provider reader model => exact inv_start provider reader model
  | step _ hs ih => exact hs.inv ih

/-- Whether a step ends a send with an outcome. The messages but the placeholder of the send stay;
an answer or a failed request is appended, and any other error passes through. -/
def Ends (s : ChatSession) (t : Ticket) (d : SessionStep (Except AskError (List Segment))) :
    Except AskError String → Prop
  | .ok text =>
    d.session.messages = s.messages.erase t.message ++ [⟨s.nextId, .assistant, text, false⟩] ∧
      d.value = .ok (s.parse text).value
  | .error (.fault (.providerRequest detail provider)) =>
    let text := "Error: " ++ (Fault.providerRequest detail provider).message
    d.session.messages = s.messages.erase t.message ++ [⟨s.nextId, .system, text, false⟩] ∧
      d.value = .ok (s.parse text).value
  | .error e => d.session.messages = s.messages.erase t.message ∧ d.value = .error e

theorem Inv.ends (hc : Inv c) (ht : t ∈ c.inFlight) (outcome : Except AskError String) :
    Ends c.session t (c.session.finish t outcome) outcome := by
  have hm := hc.messages_withdraw ht
  have ha (role : Role) (text : String) :
      ((c.session.withdraw t).session.add role text false).session.messages =
        c.session.messages.erase t.message ++ [⟨c.session.nextId, role, text, false⟩] := by
    have hn : (c.session.withdraw t).session.nextId = c.session.nextId := by
      rw [hc.session_withdraw ht]
    rw [ChatSession.add, hm, hn]
  cases outcome with
  | ok text => exact ⟨ha .assistant text, rfl⟩
  | error e =>
    cases e with
    | fault f =>
      cases f with
      | providerRequest detail provider => exact ⟨ha .system _, rfl⟩
      | _ => exact ⟨hm, rfl⟩
    | _ => exact ⟨hm, rfl⟩

/-- Every pending message is accounted for by a send in flight, which takes it away when it
completes. -/
structure Accounted (c : Chat) : Prop where
  /-- A send with something to send shows it, followed by a placeholder. -/
  starts : ∀ text p, isBlankText text = false → c.session.provider = some p →
    ∃ t : Ticket, (c.send text).inFlight = c.inFlight ++ [t] ∧ (c.send text).session.messages =
      c.session.messages ++ [⟨c.session.nextId, .user, text, false⟩, t.message]
  /-- The pending messages are placeholders of sends in flight, at most one of each. -/
  pending : ∃ sends : List Ticket, sends.Sublist c.inFlight ∧
    c.session.messages.filter ChatMessage.pending = sends.map Ticket.message
  requests_nodup : (c.inFlight.map Ticket.request).Nodup
  placeholders_nodup : (c.inFlight.map Ticket.placeholder).Nodup
  /-- A send that completes takes no message away but its own placeholder. -/
  ends : ∀ t ∈ c.inFlight, ∀ outcome, Ends c.session t (c.session.finish t outcome) outcome
  idle : c.inFlight = [] →
    c.session.messages.filter ChatMessage.pending = [] ∧ c.session.pendingRequests = []

/-- Sends that overlap in any way, with messages that come and go, leave no pending message
behind. -/
theorem reachable_accounted (h : Reachable c) : Accounted c where
  starts := by
    intro text p hb hp
    rw [send_waiting hb hp]
    refine ⟨_, rfl, ?_⟩
    exact List.append_assoc c.session.messages _ _
  pending := by
    obtain ⟨sends, hs, hp⟩ := List.sublist_map_iff.mp h.inv.pending
    exact ⟨sends, hs, hp⟩
  requests_nodup := h.inv.requests_nodup
  placeholders_nodup := h.inv.placeholders_nodup
  ends := fun t ht => h.inv.ends ht
  idle := by
    intro he
    have hp := h.inv.pending
    have hw := h.inv.waiting
    rw [he, List.map_nil, List.sublist_nil] at hp hw
    exact ⟨hp, by rw [ChatSession.pendingRequests, hw, List.map_nil]⟩

/-- Two sends of which the second fails while the first still waits. -/
def overlapping : Chat :=
  let c := ((start (some ⟨Service.openAI, ""⟩) .standard none).send "a").send "b"
  c.complete ⟨2, 4, "b"⟩ (.error (.fault (.providerRequest "c" none)))

def completed : Chat := overlapping.complete ⟨1, 2, "a"⟩ (.ok "d")

theorem reachable_overlapping : Reachable overlapping := by
  have h := Reachable.start (some ⟨Service.openAI, ""⟩) .standard none
  exact ((h.step (.send "a")).step (.send "b")).step (.complete (by decide) _)

theorem reachable_completed : Reachable completed :=
  reachable_overlapping.step (.complete (by decide) _)

theorem overlapping_accounted :
    overlapping.session.messages =
      [⟨1, .user, "a", false⟩, ⟨2, .assistant, "Thinking...", true⟩, ⟨3, .user, "b", false⟩,
        ⟨5, .system, "Error: c", false⟩] ∧
    Ends overlapping.session ⟨1, 2, "a"⟩ (overlapping.session.finish ⟨1, 2, "a"⟩ (.ok "d"))
      (.ok "d") ∧
    (∃ t : Ticket, (overlapping.send "e").inFlight = overlapping.inFlight ++ [t] ∧
      (overlapping.send "e").session.messages =
        overlapping.session.messages ++ [⟨6, .user, "e", false⟩, t.message]) ∧
    completed.session.messages.filter ChatMessage.pending = [] ∧
    completed.session.pendingRequests = [] := by
  have ho := reachable_accounted reachable_overlapping
  have hc := reachable_accounted reachable_completed
  exact ⟨by decide, ho.ends _ (by decide) _, ho.starts "e" _ (by decide) rfl, hc.idle (by decide)⟩

end Chat

end FencedChat
