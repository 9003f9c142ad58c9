import FencedChat.Proofs.Session.InFlight
import FencedChat.Proofs.Session.Listening

/-!
What a listener can know. A listener that appends, deletes and empties as the events say holds the
messages of the session after each of its calls, also in the middle of an operation.
-/

namespace FencedChat

/-- The messages have ids of their own, below those that are given to further messages. -/
structure ChatSession.UniqueIds (s : ChatSession) : Prop where
  lt_next : ∀ m ∈ s.messages, m.id < s.nextId
  nodup : (s.messages.map ChatMessage.id).Nodup

namespace ChatSession.UniqueIds

variable {s : ChatSession}

theorem add (h : s.UniqueIds) (role : Role) (content : String) (pending : Bool) :
    (s.add role content pending).session.UniqueIds where
  lt_next := Chat.forall_mem_concat_lt h.lt_next rfl
  nodup := Chat.nodup_map_concat h.nodup h.lt_next rfl

theorem remove (h : s.UniqueIds) (id : Nat) : (s.remove id).session.UniqueIds := by
  have hs : (s.messages.filter (·.id ≠ id)).Sublist s.messages := List.filter_sublist
  rw [Chat.session_remove h.nodup]
  exact ⟨fun m hm => h.lt_next m (hs.subset hm), h.nodup.sublist (hs.map ChatMessage.id)⟩

theorem clear : s.clear.session.UniqueIds := ⟨List.forall_mem_nil _, List.nodup_nil⟩

theorem withdraw (h : s.UniqueIds) (t : Ticket) : (s.withdraw t).session.UniqueIds :=
  have hw : { s with waiting := s.waiting.filter (·.1 ≠ t.request) }.UniqueIds :=
    ⟨h.lt_next, h.nodup⟩
  hw.remove _

theorem begin (h : s.UniqueIds) (text : String) : (s.begin text).session.UniqueIds := by
  unfold ChatSession.begin
  cases isBlankText text with
  | true => exact h
  | false =>
    have hu := h.add .user text false
    cases s.provider with
    | none => exact hu.add _ _ _
    | some p =>
      have hp := hu.add .assistant thinkingText true
      exact ⟨hp.lt_next, hp.nodup⟩

theorem finish (h : s.UniqueIds) (t : Ticket) (outcome : Except AskError String) :
    (s.finish t outcome).session.UniqueIds := by
  unfold ChatSession.finish
  cases replyTo t.request outcome with
  | error e => exact h.withdraw t
  | ok reply => exact (h.withdraw t).add _ _ _

theorem step (h : s.UniqueIds) (c : Heard.Call) : (c.step s).session.UniqueIds := by
  cases c with
  | begin text => exact h.begin text
  | finish t outcome => exact h.finish t outcome
  | add role content pending => exact h.add role content pending
  | remove id => exact h.remove id
  | clear => exact clear

end ChatSession.UniqueIds

/-- A listener that appends what is added, deletes by its id what is removed, and empties itself
when all is cleared. -/
structure Listener.Replays {σ : Type} (on : Listener σ) (shown : σ → List ChatMessage) : Prop where
  added : ∀ s m held, shown (on s (.added m) held) = shown held ++ [m]
  removed : ∀ s m held, ((shown held).map ChatMessage.id).Nodup →
    shown (on s (.removed m) held) = (shown held).filter (·.id ≠ m.id)
  cleared : ∀ s held, shown (on s .cleared held) = []

namespace Heard

variable {σ : Type} {on : Listener σ} {shown : σ → List ChatMessage} {h h' : Heard σ}

/-- The listener holds the messages, and did so after each call. -/
structure Mirrors (shown : σ → List ChatMessage) (h : Heard σ) : Prop where
  held : shown h.held = h.session.messages
  moments : ∀ m ∈ h.moments, shown m.held = m.messages

theorem mirrors_start {session : ChatSession} {held : σ} (hs : shown held = session.messages) :
    Mirrors shown (start session held) := ⟨hs, List.forall_mem_nil _⟩

/-- What the listener makes of an event has to be the messages as they are when it is told. -/
theorem Mirrors.told (hm : Mirrors shown h) {s : ChatSession} {e : SessionEvent}
    (he : shown (on s e h.held) = s.messages) : Mirrors shown ((h.withSession s).told on e) where
  held := he
  moments := by
    intro m hm'
    rcases List.mem_append.mp hm' with hm' | hm'
    · exact hm.moments m hm'
    · obtain rfl := List.mem_singleton.mp hm'
      exact he

theorem Mirrors.removed (hr : on.Replays shown) (hm : Mirrors shown h)
    (hn : (h.session.messages.map ChatMessage.id).Nodup) (id : Nat) :
    Mirrors shown (h.removed on id) := by
  unfold Heard.removed
  cases hf : h.session.messages.find? (·.id = id) with
  | none => exact hm
  | some m =>
    have hi : m.id = id := by simpa using List.find?_some hf
    refine hm.told ?_
    rw [hr.removed _ _ _ (by rwa [hm.held]), hm.held, hi, Chat.session_remove hn]

theorem Mirrors.move (hr : on.Replays shown) (hm : Mirrors shown h) (hv : Move on h h') :
    Mirrors shown h' := by
  cases hv with
  | note entries => exact ⟨hm.held, hm.moments⟩
  | keep s hs _ => exact ⟨hm.held.trans hs.symm, hm.moments⟩
  | append m => exact hm.told ((hr.added _ _ _).trans (congrArg (· ++ [m]) hm.held))
  | remove id hn => exact hm.removed hr hn id
  | clear => exact hm.told (hr.cleared _ _)

theorem Mirrors.moves (hr : on.Replays shown) (hm : Mirrors shown h)
    (hv : Relation.ReflTransGen (Move on) h h') : Mirrors shown h' := by
  induction hv with
  | refl => exact hm
  | tail _ hv ih => exact ih.move hr hv

theorem uniqueIds_after (hu : h.session.UniqueIds) (c : Call) :
    (h.after on c).session.UniqueIds := by
  rw [(follows_after h on c).session]
  exact hu.step c

/-- A listener that replays the events holds the messages at each of its calls, whatever is
called. -/
theorem Mirrors.run (hr : on.Replays shown) (hm : Mirrors shown h) (hu : h.session.UniqueIds)
    (calls : List Call) : Mirrors shown (h.run on calls) := by
  induction calls generalizing h with
  | nil => exact hm
  | cons c calls ih => exact ih (hm.moves hr (moves_after hu.nodup c)) (uniqueIds_after hu c)

end Heard

end FencedChat
