import FencedChat.Proofs.CommandLine.Blocks
import FencedChat.Proofs.Screen.ProseRuns

/-!
Asking one question. A send that is not blank records its answer last, so the command knows what to
print: a message from the system with status one, or the parts of the reply with status zero.
Nothing answers a blank question, and a reply whose filenames cannot be shown ends the command with
an error.
-/

namespace FencedChat

open Console StyleTag

/-- Whether a provider answers or refuses, as against an error of another kind. -/
def IsAnswer : Except AskError String → Prop
  | .ok _ => True
  | .error (.fault (.providerRequest _ _)) => True
  | .error _ => False

namespace ChatSession

variable {s : ChatSession} {text : String} {client : Listing Value → Except CallError Value}

/-- Whether a send makes these calls and records this message last, whose segments it gives. -/
structure Answers (sent : SessionStep (List (Listing Value) × Except AskError (List Segment)))
    (calls : List (Listing Value)) (role : Role) (content : String) (r : MessageReader) : Prop where
  calls : sent.value.1 = calls
  segments : sent.value.2 = .ok (r.read content).value
  newest : ∃ m, sent.session.messages.getLast? = some m ∧ m.role = role ∧ m.content = content

theorem send_blank (h : isBlankText text = true) :
    s.send text client = ⟨s, ([], .ok []), [], []⟩ := by
  simp only [send, begin, h, if_true]

theorem send_answered (h : isBlankText text = false) (hp : s.provider = none) :
    Answers (s.send text client) [] .system missingKeyText s.reader := by
  simp only [send, begin, h, hp, Bool.false_eq_true, if_false]
  exact ⟨rfl, rfl, _, List.getLast?_concat, rfl, rfl⟩

/-- What the end of a send records, in a session that may have changed since its start. -/
theorem finish_replied (t : Ticket) {outcome : Except AskError String} {role : Role}
    {content : String}
    {entry : LogEntry} (hreply : replyTo t.request outcome = .ok (role, content, entry)) :
    (s.finish t outcome).value = .ok (s.reader.read content).value ∧
      ∃ m, (s.finish t outcome).session.messages.getLast? = some m ∧ m.role = role ∧
      m.content = content := by
  unfold finish
  rw [hreply]
  exact ⟨rfl, _, List.getLast?_concat, rfl, rfl⟩

theorem begin_waiting {p : Provider} (h : isBlankText text = false) (hp : s.provider = some p) :
    ∃ begun t events log, s.begin text = ⟨begun,
        .waiting t (p.parameters (Provider.question text none) { model := s.model }), events, log⟩ ∧
      t.request = s.nextRequest ∧ begun.reader = s.reader := by
  unfold begin
  simp only [h, hp, Bool.false_eq_true, if_false]
  exact ⟨_, _, _, _, rfl, rfl, rfl⟩

theorem send_replied {p : Provider} (h : isBlankText text = false) (hp : s.provider = some p)
    {role : Role} {content : String} {entry : LogEntry}
    (hreply : replyTo s.nextRequest (p.complete text s.model none client).outcome =
      .ok (role, content, entry)) :
    Answers (s.send text client) [p.parameters (Provider.question text none) { model := s.model }]
      role content s.reader := by
  have hanswer :
      s.answerOf (client (p.parameters (Provider.question text none) { model := s.model })) =
      (p.complete text s.model none client).outcome := by
    unfold answerOf
    rw [hp]
    rfl
  obtain ⟨begun, t, events, log, hbegin, hrequest, hreader⟩ := begin_waiting h hp
  rw [← hrequest] at hreply
  obtain ⟨hvalue, hnewest⟩ := finish_replied (s := begun) t hreply
  rw [hreader] at hvalue
  unfold send
  rw [hbegin]
  dsimp only
  rw [hanswer]
  exact ⟨rfl, hvalue, hnewest⟩

/-- A provider that answers or refuses leads to a message. -/
theorem exists_replyTo {outcome : Except AskError String} (h : IsAnswer outcome) (request : Nat) :
    (∃ t entry, outcome = .ok t ∧ replyTo request outcome = .ok (.assistant, t, entry)) ∨
      (∀ t, outcome ≠ .ok t) ∧
      ∃ content entry, replyTo request outcome = .ok (.system, content, entry) := by
  cases outcome with
  | ok t => exact .inl ⟨t, _, rfl, rfl⟩
  | error e =>
    refine .inr ⟨by simp, ?_⟩
    cases e with
    | fault f =>
      cases f with
      | providerRequest detail provider => exact ⟨_, _, rfl⟩
      | _ => exact h.elim
    | raised e => exact h.elim
    | reply e => exact h.elim

end ChatSession

namespace Command

variable {t : Terminal}

def partLines (t : Terminal) : MessagePart → Except TagError (List (List Char))
  | .prose s => .ok (t.draw (.text (String.ofList s.plain)))
  | .code b _ => panelOf t b

def replyLines (t : Terminal) (segments : List Segment) : Except TagError (List (List Char)) :=
  ((MessagePart.group segments).mapM (partLines t)).map List.flatten

theorem prints_printPart (t : Terminal) (part : MessagePart) :
    (printPart t part).Prints (partLines t part) := by
  cases part with
  | prose s => exact Action.prints_print t _
  | code b markup => exact prints_printBlock t b

/-- The parts of a reply are printed exactly if the filenames of its blocks can be shown as
titles. -/
theorem replyLines_eq_ok_iff (hr : t.ReadsTags) (r : MessageReader) (text : String) :
    (∃ lines, replyLines t (r.read text).value = .ok lines) ↔
      ∀ b ∈ r.blocks text, ∃ s, t.shown (panelTitle b) = .ok s := by
  have hparts : (∃ lines, replyLines t (r.read text).value = .ok lines) ↔
      ∀ part ∈ MessagePart.group (r.read text).value, ∃ lines, partLines t part = .ok lines := by
    rw [← exists_mapM_eq_ok_iff]
    unfold replyLines
    cases (MessagePart.group (r.read text).value).mapM (partLines t) <;> simp [Except.map]
  have hblocks :
      (MessagePart.group (r.read text).value).filterMap MessagePart.block? = r.blocks text :=
    MessagePart.blocks_group _
  rw [hparts]
  constructor
  · intro h b hb
    obtain ⟨part, hpart, hcode⟩ := List.mem_filterMap.mp (hblocks ▸ hb)
    obtain ⟨lines, hlines⟩ := h part hpart
    cases part with
    | prose s => cases hcode
    | code b' markup =>
      obtain rfl := Option.some.inj hcode
      exact (panelOf_eq_ok_iff hr hb).mp ⟨lines, hlines⟩
  · intro h part hpart
    cases part with
    | prose s => exact ⟨_, rfl⟩
    | code b markup =>
      have hb : b ∈ r.blocks text := hblocks ▸ List.mem_filterMap.mpr ⟨_, hpart, rfl⟩
      exact (panelOf_eq_ok_iff hr hb).mpr (h b hb)

def noticeLines (t : Terminal) : Except SetupNotice Provider → List (List Char)
  | .ok _ => []
  | .error n =>
    match t.shown n.markup with
    | .ok s => t.draw (.text s)
    | .error _ => []

theorem after_setUp (h : Host)
    (hn : ∀ n, h.provider = .error n → ∃ s, h.terminal.shown n.markup = .ok s) (r : Report) :
    (setUp h).after r =
      (.ok h.provider.toOption, r.printing (noticeLines h.terminal h.provider)) := by
  unfold setUp
  cases hp : h.provider with
  | ok p => simp [noticeLines, Except.toOption]
  | error n =>
    obtain ⟨s, hs⟩ := hn n hp
    have hprints := Action.prints_printTagged h.terminal n.markup
    rw [hs] at hprints
    have hnotice : noticeLines h.terminal (.error n) = h.terminal.draw (.text s) := by
      simp only [noticeLines, hs]
    rw [hnotice]
    exact Action.after_bind_of_ok (hprints r) _

theorem after_forM_create (calls : List (Listing Value)) (r : Report) :
    (calls.forM fun parameters => Action.call (.create parameters)).after r =
      (.ok (), { r with calls := r.calls ++ calls.map .create }) := by
  induction calls generalizing r with
  | nil => simp [List.forM]
  | cons c calls ih =>
    rw [List.forM_eq_forM, List.forM_cons,
      Action.after_bind_of_ok (Action.after_call r (.create c)), ← List.forM_eq_forM, ih]
    simp

def closeCalls : Except SetupNotice Provider → List ClientCall
  | .ok _ => [.close]
  | .error _ => []

theorem after_close (provider : Except SetupNotice Provider) (k : PUnit → Action Unit)
    (r : Report) :
    (if provider.toOption.isSome then Action.call .close >>= k else k ()).after r =
      (k ()).after { r with calls := r.calls ++ closeCalls provider } := by
  cases provider with
  | ok p => exact Action.after_bind_of_ok (Action.after_call r .close) k
  | error n => simp [closeCalls, Except.toOption]

variable (h : Host) (message : String) (model : Option String)

def asked : SessionStep (List (Listing Value) × Except AskError (List Segment)) :=
  (ChatSession.start h.provider.toOption model).send message h.client

def newest? : Option ChatMessage := (asked h message model).session.messages.getLast?

def beforeAnswer : Report where
  output := unlines (noticeLines h.terminal h.provider)
  calls := (asked h message model).value.1.map .create ++ closeCalls h.provider

variable {h message model}

/-- The provider is closed before the answer is looked at. -/
theorem after_runAsk (hn : ∀ n, h.provider = .error n → ∃ s, h.terminal.shown n.markup = .ok s) :
    (runAsk h message model).after {} =
      (printAnswer h.terminal (asked h message model).value.2 (newest? h message model)).after
        (beforeAnswer h message model) := by
  unfold runAsk
  rw [Action.after_bind_of_ok (after_setUp h hn {}),
    Action.after_bind_of_ok (after_forM_create _ _)]
  refine (after_close h.provider _ _).trans ?_
  simp [beforeAnswer, Report.printing, asked, newest?]

theorem run_ask_blank (hn : ∀ n, h.provider = .error n → ∃ s, h.terminal.shown n.markup = .ok s)
    (hb : isBlankText message = true) :
    run h (.ask message model) = (beforeAnswer h message model, .raised .noAnswer) ∧
      newest? h message model = none ∧ (asked h message model).value.1 = [] := by
  have hsent : asked h message model = _ := ChatSession.send_blank hb
  have hnewest : newest? h message model = none := by
    rw [newest?, hsent]
    rfl
  refine ⟨Action.report_of_error ?_, hnewest, by rw [hsent]⟩
  rw [action, after_runAsk hn, hnewest, hsent]
  rfl

variable {calls : List (Listing Value)} {content : String} {r : MessageReader}

theorem run_ask_system (hn : ∀ n, h.provider = .error n → ∃ s, h.terminal.shown n.markup = .ok s)
    (ha : ChatSession.Answers (asked h message model) calls .system content r) :
    run h (.ask message model) =
      ((beforeAnswer h message model).printing (h.terminal.draw (.message content)),
        .status 1) := by
  obtain ⟨m, hm, hrole, rfl⟩ := ha.newest
  refine Action.report_of_error ?_
  rw [action, after_runAsk hn, show newest? h message model = some m from hm, ha.segments]
  simp only [printAnswer, hrole, if_true]
  exact Action.after_bind_of_ok (Action.prints_print h.terminal (.message m.content) _) _

theorem run_ask_reply (hn : ∀ n, h.provider = .error n → ∃ s, h.terminal.shown n.markup = .ok s)
    (ha : ChatSession.Answers (asked h message model) calls .assistant content r) :
    match replyLines h.terminal (r.read content).value with
    | .ok lines =>
      run h (.ask message model) = ((beforeAnswer h message model).printing lines, .status 0)
    | .error e => ∃ lines,
      run h (.ask message model) =
        ((beforeAnswer h message model).printing lines, .raised (.tag e)) := by
  obtain ⟨m, hm, hrole, rfl⟩ := ha.newest
  have hafter : (runAsk h message model).after {} =
      ((MessagePart.group (r.read m.content).value).forM (printPart h.terminal)).after
        (beforeAnswer h message model) := by
    rw [after_runAsk hn, show newest? h message model = some m from hm, ha.segments]
    simp only [printAnswer, hrole]
    rfl
  have hprints : ((MessagePart.group (r.read m.content).value).forM (printPart h.terminal)).Prints
      (replyLines h.terminal (r.read m.content).value) :=
    Action.Prints.forM (prints_printPart h.terminal) _
  cases hlines : replyLines h.terminal (r.read m.content).value with
  | ok lines =>
    rw [hlines] at hprints
    exact Action.report_of_ok (hafter.trans (hprints _))
  | error e =>
    rw [hlines] at hprints
    obtain ⟨lines, hprints⟩ := hprints
    exact ⟨lines, Action.report_of_error (hafter.trans (hprints _))⟩

/-- Whether a run of the command ends as it should: with status one behind the newest message, if
that is from the system, and otherwise with status zero behind the parts of the answer. -/
structure EndsAsPromised (h : Host) (message : String) (model : Option String) : Prop where
  system : ∀ m, newest? h message model = some m → m.role = .system →
    (run h (.ask message model)).2 = .status 1 ∧
      (run h (.ask message model)).1.output =
        unlines (noticeLines h.terminal h.provider ++ h.terminal.draw (.message m.content))
  reply : (∀ m, newest? h message model = some m → m.role ≠ .system) →
    (run h (.ask message model)).2 = .status 0 ∧
      ∃ segments lines, (asked h message model).value.2 = .ok segments ∧
      replyLines h.terminal segments = .ok lines ∧
        (run h (.ask message model)).1.output = unlines (noticeLines h.terminal h.provider ++ lines)

theorem endsAsPromised_of_system
    (hn : ∀ n, h.provider = .error n → ∃ s, h.terminal.shown n.markup = .ok s)
    (ha : ChatSession.Answers (asked h message model) calls .system content r) :
    EndsAsPromised h message model := by
  obtain ⟨m, hm, hrole, hcontent⟩ := ha.newest
  constructor
  · intro m' hm' _
    obtain rfl : m = m' := Option.some.inj (hm.symm.trans hm')
    rw [run_ask_system hn ha, hcontent]
    simp [Report.printing, beforeAnswer]
  · intro hreply
    exact absurd hrole (hreply m hm)

theorem endsAsPromised_iff_of_reply
    (hn : ∀ n, h.provider = .error n → ∃ s, h.terminal.shown n.markup = .ok s)
    (ha : ChatSession.Answers (asked h message model) calls .assistant content r) :
    EndsAsPromised h message model ↔
    ∃ lines, replyLines h.terminal (r.read content).value = .ok lines := by
  obtain ⟨m, hm, hrole, -⟩ := ha.newest
  have hassistant : ∀ m', newest? h message model = some m' → m'.role = .assistant := by
    intro m' hm'
    obtain rfl : m = m' := Option.some.inj (hm.symm.trans hm')
    exact hrole
  have hrun := run_ask_reply hn ha
  constructor
  · intro hends
    obtain ⟨-, segments, lines, hsegments, hlines, -⟩ := hends.reply fun m' hm' he => by
      rw [hassistant m' hm'] at he
      cases he
    obtain rfl := Except.ok.inj (ha.segments.symm.trans hsegments)
    exact ⟨lines, hlines⟩
  · rintro ⟨lines, hlines⟩
    rw [hlines] at hrun
    constructor
    · intro m' hm' he
      rw [hassistant m' hm'] at he
      cases he
    · intro _
      rw [hrun]
      exact ⟨rfl, _, lines, ha.segments, hlines, by simp [Report.printing, beforeAnswer]⟩

/-- The calls of the command: the question, unless it is blank, and then the provider is closed,
once. -/
def callsOf (h : Host) (message : String) (model : Option String) : List ClientCall :=
  match h.provider with
  | .ok p =>
    (if isBlankText message then []
      else [.create (p.parameters (Provider.question message none) { model := model })]) ++ [.close]
  | .error _ => []

/-- Printing the answer makes no calls. -/
theorem calls_printAnswer (t : Terminal) (answer : Except AskError (List Segment))
    (newest : Option ChatMessage) (r : Report) :
    ((printAnswer t answer newest).after r).2.calls = r.calls := by
  unfold printAnswer
  split
  · rfl
  · rfl
  · split
    · rw [Action.after_bind_of_ok (Action.prints_print t _ r)]
      rfl
    · exact (Action.Prints.forM (prints_printPart t) _).calls_after r

theorem calls_run_ask (hn : ∀ n, h.provider = .error n → ∃ s, h.terminal.shown n.markup = .ok s) :
    (run h (.ask message model)).1.calls = (beforeAnswer h message model).calls := by
  rw [run, Action.fst_report, action, after_runAsk hn, calls_printAnswer]

/-- Suppose that the terminal reads tags and can show why there is no provider, and that a provider
answers or refuses. Then the command closes its provider once, if there is one, and ends as it
should exactly if the question is not blank and the filenames of all blocks of the answer can be
shown. -/
theorem endsAsPromised_iff (h : Host) (message : String) (model : Option String)
    (hr : h.terminal.ReadsTags)
    (hn : ∀ n, h.provider = .error n → ∃ s, h.terminal.shown n.markup = .ok s)
    (ho : ∀ p, h.provider = .ok p → IsAnswer (p.complete message model none h.client).outcome) :
    (run h (.ask message model)).1.calls = callsOf h message model ∧
      (EndsAsPromised h message model ↔ isBlankText message = false ∧
        ∀ p t, h.provider = .ok p → (p.complete message model none h.client).outcome = .ok t →
          ∀ b ∈ MessageReader.standard.blocks t,
            ∃ s, h.terminal.shown (panelTitle b) = .ok s) := by
  rw [calls_run_ask hn, beforeAnswer, callsOf]
  cases hb : isBlankText message with
  | true =>
    obtain ⟨hrun, hnewest, hcalls⟩ : run h (.ask message model) = _ ∧ _ := run_ask_blank hn hb
    constructor
    · rw [hcalls]
      cases h.provider <;> rfl
    · refine iff_of_false (fun hends => ?_) (fun hall => nomatch hall.1)
      have hstatus := (hends.reply (by simp [hnewest])).1
      rw [hrun] at hstatus
      cases hstatus
  | false =>
    cases hp : h.provider with
    | error n =>
      have ha : ChatSession.Answers (asked h message model) [] .system
          ChatSession.missingKeyText .standard :=
        ChatSession.send_answered hb (congrArg Except.toOption hp)
      refine ⟨by rw [ha.calls]; rfl, iff_of_true (endsAsPromised_of_system hn ha) ⟨rfl, ?_⟩⟩
      intro p t hp'
      cases hp'
    | ok p =>
      have hprovider : (ChatSession.start h.provider.toOption model).provider = some p :=
        congrArg Except.toOption hp
      rcases ChatSession.exists_replyTo (ho p hp) 1 with
          ⟨t, entry, ht, hreply⟩ | ⟨hne, content, entry, hreply⟩
      · have ha : ChatSession.Answers (asked h message model) _ .assistant t .standard :=
          ChatSession.send_replied hb hprovider hreply
        refine ⟨by rw [ha.calls]; rfl, ?_⟩
        rw [endsAsPromised_iff_of_reply hn ha, replyLines_eq_ok_iff hr]
        constructor
        · rintro hall
          refine ⟨rfl, fun p' t' hp' ht' => ?_⟩
          obtain rfl := Except.ok.inj hp'
          obtain rfl := Except.ok.inj (ht.symm.trans ht')
          exact hall
        · exact fun hall => hall.2 p t rfl ht
      · have ha : ChatSession.Answers (asked h message model) _ .system content .standard :=
          ChatSession.send_replied hb hprovider hreply
        refine ⟨by rw [ha.calls]; rfl, iff_of_true (endsAsPromised_of_system hn ha) ⟨rfl, ?_⟩⟩
        intro p' t hp' ht
        obtain rfl := Except.ok.inj hp'
        exact absurd ht (hne t)

def answering (text : String) : Host where
  file? _ := none
  input := ""
  provider := .ok ⟨.openAI, "gpt-4o-mini"⟩
  client _ := .ok (.table
    [("choices", .list [.table [("message", .table [("content", .text text)])]]), ("usage", .null),
      ("model", .null)])

theorem terminal_answering (text : String) : (answering text).terminal = .standard := by
  rw [answering]

theorem readsTags_answering (text : String) : (answering text).terminal.ReadsTags :=
  (terminal_answering text).symm ▸ Terminal.readsTags_standard

/-- A question that is answered with a block is answered as it should be. -/
theorem endsAsPromised_module :
    (answering "```py app.py\nx\n```").terminal.ReadsTags ∧
      (∀ n, (answering "```py app.py\nx\n```").provider = .error n →
        ∃ s, (answering "```py app.py\nx\n```").terminal.shown n.markup = .ok s) ∧
      (∀ p, (answering "```py app.py\nx\n```").provider = .ok p →
        IsAnswer (p.complete "q" none none (answering "```py app.py\nx\n```").client).outcome) ∧
      EndsAsPromised (answering "```py app.py\nx\n```") "q" none := by
  have hr := readsTags_answering "```py app.py\nx\n```"
  have hn : ∀ n, (answering "```py app.py\nx\n```").provider = .error n →
      ∃ s, (answering "```py app.py\nx\n```").terminal.shown n.markup = .ok s :=
    fun n hp => nomatch hp
  have houtcome : (Provider.complete ⟨.openAI, "gpt-4o-mini"⟩ "q" none none
      (answering "```py app.py\nx\n```").client).outcome = .ok "```py app.py\nx\n```" := by
    rfl
  have ho : ∀ p, (answering "```py app.py\nx\n```").provider = .ok p →
      IsAnswer (p.complete "q" none none (answering "```py app.py\nx\n```").client).outcome := by
    rintro p ⟨⟩
    rw [houtcome]
    trivial
  refine ⟨hr, hn, ho, (endsAsPromised_iff _ "q" none hr hn ho).2.mpr ⟨by decide, ?_⟩⟩
  rintro p t ⟨⟩ ht b hb
  obtain rfl := Except.ok.inj (houtcome.symm.trans ht)
  have hblocks := MessageReader.blocks_fenced .standard "py app.py" "x" (by decide) (by decide)
  have hname : (MessageReader.standard.blockOfLine "py app.py" "x").filename = "app.py" := by
    decide +kernel
  have hstyle : "bold yellow" ∈ Terminal.commandStyles := by decide
  obtain rfl := List.mem_singleton.mp (hblocks ▸ hb)
  rw [panelTitle, hname]
  exact ⟨"app.py", (hr.shown_styled_iff hstyle).mpr ⟨verbatim_of_all _ (by decide), by decide⟩⟩

/-- A closing tag in a styled text closes the style, so that nothing is left for the tag behind
it. -/
theorem not_shown_styled_closing (hr : t.ReadsTags) {style : String}
    (hstyle : style ∈ Terminal.commandStyles) : ¬ ∃ s, t.shown (styled style "[/]") = .ok s := by
  rintro ⟨s, hs⟩
  have hrest (position : Nat) : tags (piecesOnto [] 0 position ("[/]".toList ++ closing true)) =
      [['/'], ['/']] := by
    rw [show "[/]".toList ++ closing true = '[' :: (['/'] ++ ']' :: "[/]".toList) from rfl,
      tags_piecesOnto_tag (isBody_slash.body?_eq _),
      show "[/]".toList = '[' :: (['/'] ++ ']' :: []) from rfl,
      tags_piecesOnto_tag (isBody_slash.body?_eq _),
      piecesOnto_nil]
    rfl
  have hcloses : ClosesTooMany (tags (pieces (styled style "[/]").toList)) := by
    rw [toList_styled, (isBody_of_mem hstyle).pieces_eq, tags_tag, hrest]
    refine ⟨_, List.prefix_rfl, ?_⟩
    simp [isClosing_of_mem hstyle, show isClosing ['/'] = true from rfl]
  obtain ⟨e, he⟩ := hr.unmatched _ hcloses
  rw [he] at hs
  cases hs

/-- A blank question ends the command with an error, and so does a reply with a closing tag for a
filename. -/
theorem not_endsAsPromised_blank :
    (Provider.complete ⟨.openAI, "gpt-4o-mini"⟩ " " none none (answering "x").client).outcome =
      .ok "x" ∧
      (run (answering "x") (.ask " " none)).2 = .raised .noAnswer ∧
      ¬ EndsAsPromised (answering "x") " " none ∧
      (Provider.complete ⟨.openAI, "gpt-4o-mini"⟩ "q" none none
        (answering "```tsx [/]\nx\n```").client).outcome = .ok "```tsx [/]\nx\n```" ∧
      ¬ EndsAsPromised (answering "```tsx [/]\nx\n```") "q" none := by
  have hnone {text : String} : ∀ n, (answering text).provider = .error n →
      ∃ s, (answering text).terminal.shown n.markup = .ok s :=
    fun n hp => nomatch hp
  obtain ⟨hrun, hnewest, -⟩ : run (answering "x") (.ask " " none) = _ ∧ _ :=
    run_ask_blank hnone (by decide)
  refine ⟨rfl, by rw [hrun], fun hends => ?_, rfl, fun hends => ?_⟩
  · have hstatus := (hends.reply (by simp [hnewest])).1
    rw [hrun] at hstatus
    cases hstatus
  · have ha : ChatSession.Answers (asked (answering "```tsx [/]\nx\n```") "q" none) _ .assistant
        "```tsx [/]\nx\n```" .standard := ChatSession.send_replied (by decide) rfl rfl
    have hr := readsTags_answering "```tsx [/]\nx\n```"
    have hstyle : "bold yellow" ∈ Terminal.commandStyles := by decide
    have hlines := (endsAsPromised_iff_of_reply hnone ha).mp hends
    have hblocks := MessageReader.blocks_fenced .standard "tsx [/]" "x" (by decide) (by decide)
    have hname : (MessageReader.standard.blockOfLine "tsx [/]" "x").filename = "[/]" := by
      decide +kernel
    have hshown := (replyLines_eq_ok_iff hr _ _).mp hlines _ (hblocks ▸ List.mem_singleton_self _)
    rw [panelTitle, hname] at hshown
    exact not_shown_styled_closing hr hstyle hshown

end Command

end FencedChat
