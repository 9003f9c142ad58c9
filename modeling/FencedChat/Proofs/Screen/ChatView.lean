import FencedChat.Proofs.Session.Replay
import FencedChat.Screen.App

/-!
The chat view and the session. The screen listens to its session, and its chat view shows the
messages of the session, in order, after each event that the session tells it.
-/

namespace FencedChat.App

def listener : Listener App := fun s e a => { a with session := s }.followEvent e

def shownMessages (a : App) : List ChatMessage := a.chat.messages.map ShownMessage.message

variable {a : App}

theorem map_id_shownMessages : a.shownMessages.map ChatMessage.id = a.chat.ids := by
  simp [shownMessages, ChatView.ids]

theorem shownMessages_showMessage (m : ChatMessage) :
    (a.showMessage m).shownMessages = a.shownMessages ++ [m] := by
  simp [shownMessages, showMessage, ChatView.add, ChatView.counted]

theorem shownMessages_showMessages (ms : List ChatMessage) :
    (ms.foldl showMessage a).shownMessages = a.shownMessages ++ ms := by
  induction ms generalizing a with
  | nil => exact (List.append_nil _).symm
  | cons m ms ih =>
    rw [List.foldl_cons, ih, shownMessages_showMessage, List.append_assoc, List.singleton_append]

/-- Removing a message from the view leaves all others, in order. -/
theorem messages_remove {v : ChatView} (hn : v.ids.Nodup) (id : Nat) :
    (v.remove id).messages = v.messages.filter (·.message.id ≠ id) := by
  unfold ChatView.remove
  cases hc : v.ids.contains id with
  | true =>
    rw [if_pos rfl]
    exact Chat.eraseP_eq_filter (f := fun m : ShownMessage => m.message.id) hn id
  | false =>
    rw [if_neg (by simp)]
    symm
    rw [List.filter_eq_self]
    intro m hm
    have hi : id ∉ v.ids := by simpa using hc
    have hm' : m.message.id ∈ v.ids :=
      List.mem_map_of_mem (f := fun m : ShownMessage => m.message.id) hm
    grind

theorem listener_replays : listener.Replays shownMessages where
  added := fun s m a => shownMessages_showMessage (a := { a with session := s }) m
  removed := by
    intro s m a hn
    rw [map_id_shownMessages] at hn
    change ((a.chat.remove m.id).messages).map _ = _
    rw [messages_remove hn, shownMessages, List.filter_map]
    rfl
  cleared := fun _ _ => rfl

theorem session_start (session : ChatSession) (disk : Disk) (document : Document)
    (logLevel : Option String) (hasClipboard : Bool) :
    (start session disk document logLevel hasClipboard).session =
      (session.add .assistant welcomeText false).session := rfl

theorem shownMessages_start (session : ChatSession) (disk : Disk) (document : Document)
    (logLevel : Option String) (hasClipboard : Bool) :
    (start session disk document logLevel hasClipboard).shownMessages =
      (start session disk document logLevel hasClipboard).session.messages := by
  rw [session_start]
  refine (shownMessages_showMessage _).trans (congrArg (· ++ [_]) ?_)
  exact shownMessages_showMessages session.messages

def ofHeard (h : Heard App) : App := { h.held with session := h.session }

theorem session_followEvent (e : SessionEvent) : (a.followEvent e).session = a.session := by
  cases e <;> rfl

/-- How an event is shown does not depend on the messages of the session. -/
theorem followEvent_withSession {s : ChatSession} (hr : s.reader = a.session.reader)
    (e : SessionEvent) :
    { a with session := s }.followEvent e = { a.followEvent e with session := s } := by
  cases e with
  | added m => simp [followEvent, showMessage, ChatSession.parse, hr, logAll]
  | removed m => rfl
  | cleared => rfl

theorem foldl_followEvent_withSession {s : ChatSession} (hr : s.reader = a.session.reader)
    (es : List SessionEvent) :
    es.foldl followEvent { a with session := s } =
      { es.foldl followEvent a with session := s } := by
  induction es generalizing a with
  | nil => rfl
  | cons e es ih =>
    rw [List.foldl_cons, List.foldl_cons, followEvent_withSession hr]
    exact ih (a := a.followEvent e) (by rw [session_followEvent, hr])

/-- The screen after some moves shows the events that it was told of, one after the other. -/
structure Shows (h h' : Heard App) : Prop where
  reader : h'.session.reader = h.session.reader
  screen : ∃ es, h'.events = h.events ++ es ∧
    ofHeard h' = es.foldl followEvent { ofHeard h with session := h'.session }

variable {h h' h'' : Heard App}

theorem Shows.trans (hs : Shows h h') (hs' : Shows h' h'') : Shows h h'' := by
  obtain ⟨es, he, hm⟩ := hs.screen
  obtain ⟨es', he', hm'⟩ := hs'.screen
  refine ⟨hs'.reader.trans hs.reader, es ++ es', by rw [he', he, List.append_assoc], ?_⟩
  have hw :=
    foldl_followEvent_withSession (a := { ofHeard h with session := h'.session }) hs'.reader es
  rw [hm', hm, ← hw, List.foldl_append]

theorem shows_withSession {s : ChatSession} (hr : s.reader = h.session.reader) :
    Shows h (h.withSession s) := ⟨hr, [], (List.append_nil _).symm, rfl⟩

theorem shows_told (e : SessionEvent) : Shows h (h.told listener e) :=
  ⟨rfl, [e], Heard.events_told e, (followEvent_withSession (a := ofHeard h) rfl e).symm⟩

theorem shows_removed (id : Nat) : Shows h (h.removed listener id) := by
  unfold Heard.removed
  cases hf : h.session.messages.find? (·.id = id) with
  | none => exact shows_withSession rfl
  | some m =>
    have hr : (h.session.remove id).session.reader = h.session.reader := by
      simp [ChatSession.remove, hf]
    exact (shows_withSession hr).trans (shows_told _)

theorem shows_move (hv : Heard.Move listener h h') : Shows h h' := by
  cases hv with
  | note entries => exact ⟨rfl, [], (List.append_nil _).symm, rfl⟩
  | keep s _ hr => exact shows_withSession hr
  | append m =>
    have hr :=
      shows_withSession (h := h) (s := { h.session with messages := h.session.messages ++ [m] }) rfl
    exact hr.trans (shows_told _)
  | remove id _ => exact shows_removed id
  | clear =>
    exact (shows_withSession (h := h) (s := h.session.clear.session) rfl).trans (shows_told _)

theorem shows_moves (hv : Relation.ReflTransGen (Heard.Move listener) h h') : Shows h h' := by
  induction hv with
  | refl => exact shows_withSession rfl
  | tail _ hv ih => exact ih.trans (shows_move hv)

/-- A call that the screen listens to shows what the screen makes of the step of the session. -/
theorem ofHeard_after (hu : h.session.UniqueIds) (c : Heard.Call) :
    ofHeard (h.after listener c) = (ofHeard h).follow (c.step h.session) := by
  have hf := Heard.follows_after h listener c
  obtain ⟨es, he, hs⟩ := (shows_moves (Heard.moves_after hu.nodup c)).screen
  obtain rfl : es = (c.step h.session).events := List.append_cancel_left (he.symm.trans hf.events)
  rw [hs, hf.session]
  rfl

/-- A run of calls that the screen listens to is a run of its own steps. -/
theorem ofHeard_run (hu : h.session.UniqueIds) (calls : List Heard.Call) :
    ofHeard (h.run listener calls) =
      calls.foldl (fun a c => a.follow (c.step a.session)) (ofHeard h) := by
  induction calls generalizing h with
  | nil => rfl
  | cons c calls ih =>
    have hs : (ofHeard h).session = h.session := rfl
    rw [List.foldl_cons, hs, ← ofHeard_after hu c]
    exact ih (Heard.uniqueIds_after hu c)

/-- From when the screen is open, the chat view shows the messages of the session after each event,
in the middle of an operation too, whatever sends are started and completed, and whatever is added,
removed and cleared. So does any listener that appends, deletes and empties as the events say. -/
theorem chat_shows_session {session : ChatSession} (hu : session.UniqueIds) (disk : Disk)
    (document : Document) (logLevel : Option String) (hasClipboard : Bool)
    (calls : List Heard.Call) :
    let a := start session disk document logLevel hasClipboard
    let h := (Heard.start a.session a).run listener calls
    a.chat.ids = a.session.messages.map ChatMessage.id ∧
      (∀ m ∈ h.moments, m.held.chat.ids = m.messages.map ChatMessage.id) ∧
      ofHeard h = calls.foldl (fun a c => a.follow (c.step a.session)) a ∧
      ∀ {σ : Type} (on : Listener σ) (shown : σ → List ChatMessage) (held : σ),
        on.Replays shown → shown held = session.messages →
          ∀ m ∈ ((Heard.start session held).run on calls).moments, shown m.held = m.messages := by
  intro a h
  have hs : a.shownMessages = a.session.messages :=
    shownMessages_start session disk document logLevel hasClipboard
  have ha : a.session.UniqueIds := hu.add .assistant welcomeText false
  have hm : Heard.Mirrors shownMessages h := (Heard.mirrors_start hs).run listener_replays ha calls
  refine ⟨?_, ?_, ofHeard_run (h := Heard.start a.session a) ha calls, ?_⟩
  · rw [← map_id_shownMessages, hs]
  · intro m hmem
    rw [← map_id_shownMessages, hm.moments m hmem]
  · intro σ on shown held hr hh
    exact ((Heard.mirrors_start hh).run hr hu calls).moments

/-- Two sends of which one fails. The chat is cleared while both wait. -/
def clearedWhileWaiting : List Heard.Call :=
  [.begin "a", .begin "b", .clear,
    .finish ⟨2, 5, "b"⟩ (.error (.fault (.providerRequest "c" none))), .remove 5,
    .finish ⟨1, 3, "a"⟩ (.ok "d")]

theorem chat_shows_session_cleared :
    let a := start (.start (some ⟨Service.openAI, ""⟩) none) .empty .closed none false
    let h := (Heard.start a.session a).run listener clearedWhileWaiting
    h.moments.map (fun m => m.messages.map ChatMessage.id) =
        [[1, 2], [1, 2, 3], [1, 2, 3, 4], [1, 2, 3, 4, 5], [], [6], [6, 7]] ∧
      h.moments.map (fun m => m.held.chat.ids) =
        [[1, 2], [1, 2, 3], [1, 2, 3, 4], [1, 2, 3, 4, 5], [], [6], [6, 7]] := by
  intro a h
  have hu : (ChatSession.start (some ⟨Service.openAI, ""⟩) none).UniqueIds := ⟨by decide, by decide⟩
  obtain ⟨_, hm, _⟩ := chat_shows_session hu .empty .closed none false clearedWhileWaiting
  have hs : h.moments.map (fun m => m.messages.map ChatMessage.id) =
      [[1, 2], [1, 2, 3], [1, 2, 3, 4], [1, 2, 3, 4, 5], [], [6], [6, 7]] := by decide
  exact ⟨hs, (List.map_congr_left hm).trans hs⟩

end FencedChat.App
