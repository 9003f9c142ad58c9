import FencedChat.Proofs.Message.Buttons
import FencedChat.Proofs.Screen.ProseRuns
import FencedChat.Proofs.Screen.EditorPane
import FencedChat.Proofs.Session.Listening

/-!
The labels of the buttons in the chat. In every run of the screen the button of each shown code
block fits the document that is open then, whenever the block came to be shown, and it reads as in
the HTML of the message.
-/

namespace FencedChat

/-- No call changes the reader of a session. -/
theorem Heard.Call.reader_step (s : ChatSession) (c : Heard.Call) :
    (c.step s).session.reader = s.reader := by
  cases c with
  | begin text =>
    change (s.begin text).session.reader = _
    unfold ChatSession.begin
    split
    · rfl
    · cases s.provider <;> rfl
  | finish t outcome =>
    change (s.finish t outcome).session.reader = _
    unfold ChatSession.finish
    cases ChatSession.replyTo t.request outcome <;> exact Heard.reader_withdraw s t
  | add role content pending => rfl
  | remove id =>
    change (s.remove id).session.reader = _
    unfold ChatSession.remove
    split <;> rfl
  | clear => rfl

def ShownPart.button? : ShownPart → Option (CodeBlock × String)
  | prose _ => none
  | code b label => some (b, label)

namespace ShownMessage

def buttons (m : ShownMessage) : List (CodeBlock × String) := m.parts.filterMap ShownPart.button?

/-- Whether a message looks as if it came to be shown while a document of the given name was
open. -/
def Fits (r : MessageReader) (active : Option String) (m : ShownMessage) : Prop :=
  m.parts = (MessagePart.group (r.read m.message.content).value).map (ShownPart.ofPart active)

variable {r : MessageReader} {active : Option String} {m : ShownMessage}

theorem Fits.relabel (h : m.Fits r active) (other : Option String) :
    Fits r other { m with parts := m.parts.map (ShownPart.relabel other) } := by
  unfold Fits at h ⊢
  rw [h, List.map_map]
  exact List.map_congr_left fun p _ => ShownPart.relabel_ofPart other active p

theorem Fits.buttons_eq (h : m.Fits r active) : m.buttons =
    (Segment.blocks (r.read m.message.content).value).map fun b => (b, Html.addLabel b active) := by
  have hp (p : MessagePart) : (ShownPart.ofPart active p).button? =
      p.block?.map fun b => (b, Html.addLabel b active) := by cases p <;> rfl
  unfold buttons
  rw [h, List.filterMap_map, ← MessagePart.blocks_group, List.map_filterMap]
  exact congrArg (List.filterMap · _) (funext hp)

end ShownMessage

namespace App

open EditorPane

/-- The chat knows the name of the open document, and all messages fit it. -/
structure Labelled (a : App) : Prop where
  active : a.chat.active = a.editor.document.name
  fits : ∀ m ∈ a.chat.messages, m.Fits a.session.reader a.chat.active

variable {a : App}

theorem Labelled.showMessage (h : a.Labelled) (m : ChatMessage) : (a.showMessage m).Labelled where
  active := h.active
  fits := by
    intro x hx
    obtain hx | hx := List.mem_append.mp hx
    · exact h.fits x hx
    · obtain rfl := List.mem_singleton.mp hx
      rfl

theorem Labelled.showMessages (h : a.Labelled) (ms : List ChatMessage) :
    (ms.foldl App.showMessage a).Labelled := by
  induction ms generalizing a with
  | nil => exact h
  | cons m ms ih => exact ih (h.showMessage m)

/-- Removing a message leaves a part of the others and the name of the open document. -/
theorem remove_sub (v : ChatView) (id : Nat) :
    (v.remove id).active = v.active ∧ ∀ m ∈ (v.remove id).messages, m ∈ v.messages := by
  unfold ChatView.remove
  split
  · exact ⟨rfl, fun m hm => List.mem_of_mem_eraseP hm⟩
  · exact ⟨rfl, fun m hm => hm⟩

theorem Labelled.followEvent (h : a.Labelled) (e : SessionEvent) : (a.followEvent e).Labelled := by
  cases e with
  | added m => exact h.showMessage m
  | removed m =>
    obtain ⟨ha, hs⟩ := remove_sub a.chat m.id
    refine ⟨ha.trans h.active, fun x hx => ?_⟩
    change x.Fits a.session.reader (a.chat.remove m.id).active
    rw [ha]
    exact h.fits x (hs x hx)
  | cleared => exact ⟨h.active, fun x hx => nomatch hx⟩

theorem Labelled.follow {α : Type} {s : SessionStep α} (h : a.Labelled)
    (hr : s.session.reader = a.session.reader) : (a.follow s).Labelled := by
  have hf :
      ∀ (es : List SessionEvent) (b : App), b.Labelled → (es.foldl App.followEvent b).Labelled := by
    intro es
    induction es with
    | nil => exact fun _ hb => hb
    | cons e es ih => exact fun b hb => ih _ (hb.followEvent e)
  have hs : Labelled { a with session := s.session } := by
    refine ⟨h.active, fun m hm => ?_⟩
    have hm' := h.fits m hm
    rwa [← hr] at hm'
  exact hf s.events _ hs

/-- Messages that fit some name fit another one once they are relabelled. -/
theorem fits_setActive (h : a.Labelled) (active : Option String) :
    ∀ m ∈ (a.chat.setActive active).messages, m.Fits a.session.reader active := by
  intro m hm
  obtain ⟨x, hx, rfl⟩ := List.mem_map.mp hm
  exact (h.fits x hx).relabel active

theorem toasts_eq (ns : List Notice) (a : App) :
    ns.foldl (fun a n => a.toast (.ofNotice n)) a =
      { a with toasts := a.toasts ++ ns.map Toast.ofNotice } := by
  induction ns generalizing a with
  | nil => simp
  | cons n ns ih =>
    rw [List.foldl_cons, ih, List.map_cons, toast, List.append_assoc]
    rfl

theorem name_handleChange (p : EditorPane) : p.handleChange.document.name = p.document.name := by
  cases hd : p.document with
  | closed =>
    have ho : p.handleChange.document.isOpen = false := by rw [isOpen_handleChange, hd]; rfl
    cases hq : p.handleChange.document with
    | closed => rfl
    | opened b =>
      rw [hq] at ho
      contradiction
  | opened b =>
    have hi := identity_handleChange (p := p) (by rw [hd]; rfl)
    rw [hd] at hi
    exact congrArg Prod.fst hi

theorem name_insertBlock (p : EditorPane) (c : CodeBlock) :
    (p.insertBlock c).1.document.name = p.document.name := by
  cases hd : p.document with
  | closed => rw [insertBlock_closed (by rw [hd]; rfl), hd]
  | opened b =>
    rw [insertBlock_opened hd, document_setDocument]
    rfl

theorem name_save {d d' : Document} {disk disk' : Disk} {saved : Bool}
    (h : d.save disk = .ok (saved, d', disk')) : d'.name = d.name := by
  obtain ⟨-, rfl, -⟩ | ⟨b, rfl, rfl, -⟩ := Document.save_cases h
  · rfl
  · rfl

/-- What a step leaves of the chat: the chat as it was, under the same name of the open document, or
the chat relabelled for the document that is open now. -/
def Retitled (a b : App) : Prop :=
  b.session = a.session ∧
    (b.chat = a.chat ∧ b.editor.document.name = a.editor.document.name ∨
      b.chat = a.chat.setActive b.editor.document.name)

theorem retitled_setDocument (a : App) (d : Document) : a.Retitled (a.setDocument d) := by
  refine ⟨rfl, .inr ?_⟩
  change a.chat.setActive d.name = a.chat.setActive (a.editor.setDocument d).document.name
  rw [document_setDocument]

theorem retitled_save (a : App) : a.Retitled a.save := by
  unfold save
  cases hs : a.editor.document.save a.disk with
  | error e => cases e <;> exact ⟨rfl, .inl ⟨rfl, rfl⟩⟩
  | ok r =>
    obtain ⟨saved, d, disk⟩ := r
    exact ⟨rfl, .inl ⟨rfl, name_save hs⟩⟩

theorem retitled_discard (a : App) : a.Retitled a.discard :=
  retitled_setDocument (a.logOwn .info ("Closed " ++ a.editor.document.name.getD "None")) .closed

/-- No step of the user changes the name of the open document behind the back of the chat. -/
theorem retitled_after (a : App) {step : Step} (h : ∀ c, step ≠ .session c) :
    a.Retitled (a.after step) := by
  cases step with
  | session c => exact absurd rfl (h c)
  | openFile p =>
    simp only [after, openFile]
    cases Document.ofFile a.disk p with
    | error e => exact ⟨rfl, .inl ⟨rfl, rfl⟩⟩
    | ok d => exact retitled_setDocument (a.logOwn .info ("Opened " ++ p.text)) d
  | edit s => exact ⟨rfl, .inl ⟨rfl, rfl⟩⟩
  | handleChange => exact ⟨rfl, .inl ⟨rfl, name_handleChange a.editor⟩⟩
  | addBlock b =>
    have hn := name_insertBlock a.editor b
    change a.Retitled (a.addBlock b)
    unfold addBlock
    simp only [toasts_eq]
    exact ⟨rfl, .inl ⟨rfl, hn⟩⟩
  | save => exact retitled_save a
  | close =>
    change a.Retitled a.close
    unfold close
    split
    · exact ⟨rfl, .inl ⟨rfl, rfl⟩⟩
    · split
      · exact ⟨rfl, .inl ⟨rfl, rfl⟩⟩
      · exact retitled_discard a
  | answer yes =>
    change a.Retitled (a.answer yes)
    unfold answer
    split
    · exact ⟨rfl, .inl ⟨rfl, rfl⟩⟩
    · cases yes with
      | true => exact retitled_discard { a with questions := _ }
      | false => exact ⟨rfl, .inl ⟨rfl, rfl⟩⟩
  | disk d => exact ⟨rfl, .inl ⟨rfl, rfl⟩⟩

theorem Labelled.of_retitled {b : App} (h : a.Labelled) (hb : a.Retitled b) : b.Labelled := by
  obtain ⟨hs, ⟨hc, hn⟩ | hc⟩ := hb
  · refine ⟨by rw [hc, hn, h.active], ?_⟩
    rw [hs, hc]
    exact h.fits
  · refine ⟨by rw [hc]; rfl, ?_⟩
    rw [hs, hc]
    exact fits_setActive h _

theorem Labelled.after (h : a.Labelled) (step : Step) : (a.after step).Labelled := by
  by_cases hs : ∃ c, step = .session c
  · obtain ⟨c, rfl⟩ := hs
    exact h.follow (Heard.Call.reader_step a.session c)
  · exact h.of_retitled (retitled_after a fun c hc => hs ⟨c, hc⟩)

theorem Labelled.run (h : a.Labelled) (steps : List Step) : (a.run steps).Labelled := by
  induction steps generalizing a with
  | nil => exact h
  | cons step steps ih => exact ih (h.after step)

theorem labelled_start (session : ChatSession) (disk : Disk) (document : Document)
    (logLevel : Option String) (hasClipboard : Bool) :
    (start session disk document logLevel hasClipboard).Labelled := by
  let opened : App := ⟨session, disk, .ofDocument document, .empty document.name, .empty,
    openingLog logLevel, [], false, hasClipboard, [], [], []⟩
  have ho : opened.Labelled := by
    refine ⟨?_, fun m hm => nomatch hm⟩
    change document.name = (EditorPane.ofDocument document).document.name
    rw [ofDocument_eq, document_setDocument]
  have hr : ∀ (ms : List ChatMessage) (b : App),
      (ms.foldl App.showMessage b).session = b.session := by
    intro ms
    induction ms with
    | nil => exact fun _ => rfl
    | cons m ms ih => exact fun b => ih _
  refine (ho.showMessages session.messages).follow ?_
  rw [hr]
  rfl

/-- In every run the button of each shown code block has the label of the block under the name of
the document that is open then, and the labels of a message are the texts of the buttons in its HTML
under that name. -/
theorem labels_fit_document (session : ChatSession) (disk : Disk) (document : Document)
    (logLevel : Option String) (hasClipboard : Bool) (steps : List Step) :
    let a := (start session disk document logLevel hasClipboard).run steps
    let name := a.editor.document.name
    a.chat.active = name ∧
      ∀ m ∈ a.chat.messages,
        let text := m.message.content
        m.buttons = (Segment.blocks (a.session.reader.read text).value).map
          (fun b => (b, Html.addLabel b name)) ∧
        m.buttons.map Prod.snd =
          Html.buttonTexts (Html.message a.session.reader text name).value := by
  intro a name
  have ha : a.Labelled := (labelled_start session disk document logLevel hasClipboard).run steps
  refine ⟨ha.active, fun m hm => ?_⟩
  have hb := (ha.fits m hm).buttons_eq
  rw [ha.active] at hb
  refine ⟨hb, ?_⟩
  rw [hb, Html.buttonTexts_message, List.map_map]
  rfl

/-- One message is shown before a file is opened and one after it was changed and saved. A third one
is taken away again. -/
def openedBetween : List Step :=
  [.session (.add .assistant "```py a.py\nx\n```" false), .openFile ⟨"", ["a.py"]⟩, .edit "b",
    .handleChange, .session (.add .assistant "```\ny\n```\n```py a.py\nz\n```" false),
    .session (.add .user "```py a.py\nx\n```" false),
    .addBlock ⟨none, none, "c", "txt", "d"⟩, .save,
    .session (.remove 4)]

theorem labels_fit_document_opened :
    let a := (start (.start none none) ⟨[], [(["a.py"], .file (.text ""))]⟩ .closed none false).run
      openedBetween
    let labels := [[], ["Add to Current File"], ["Add to File", "Add to Current File"]]
    a.chat.messages.map (fun m => m.buttons.map Prod.snd) = labels ∧
      a.chat.messages.map (fun m => Html.buttonTexts
        (Html.message a.session.reader m.message.content (some "a.py")).value) = labels := by
  intro a labels
  obtain ⟨_, hm⟩ :=
    labels_fit_document (.start none none) ⟨[], [(["a.py"], .file (.text ""))]⟩ .closed none
    false openedBetween
  have hs : a.chat.messages.map (fun m => m.buttons.map Prod.snd) = labels := by decide +kernel
  refine ⟨hs, Eq.trans ?_ hs⟩
  exact List.map_congr_left fun m h => (hm m h).2.symm

end App

end FencedChat
