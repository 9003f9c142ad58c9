import FencedChat.Message.Reader
import FencedChat.Proofs.Message.Fence

/-!
What the reader makes of a text, from one fence to the next. The number of the line is only
reported: it changes no segment. A fence is reported exactly if it never closes.
-/

namespace FencedChat

namespace MessageReader

variable (r : MessageReader) {prev : Option Char} {s body rest : List Char} {o : Opening}

/-- The code block of an opening line and the text up to the closing fence, with its markup. -/
def blockSegment (o : Opening) (body : List Char) : Segment :=
  .codeBlock (r.block o body)
    (r.highlighter.render (r.block o body).code (some (r.block o body).language)).value

theorem readFrom_of_eq_none (line : Nat) (h : Fence.findOpening? prev [] s = none) :
    r.readFrom prev line s = return Prose.segments s := by
  rw [readFrom]
  split
  · rfl
  · rename_i o ho
    simp [h] at ho

theorem readFrom_of_open (line : Nat) (h : Fence.findOpening? prev [] s = some o)
    (hb : Fence.splitAtMarker? [] o.body = none) :
    r.readFrom prev line s = do
      .entry .info "Parser"
        ("[UNTERMINATED_FENCE] fence on line " ++ toString (line + o.before.count '\n') ++
          " never closes, rendering the rest of the message as plain text")
      return Prose.segments o.before ++ Prose.lines (o.line ++ '\n' :: o.body) := by
  rw [readFrom]
  split
  · rename_i ho
    simp [h] at ho
  · rename_i o' ho
    obtain rfl := Option.some.inj (h.symm.trans ho)
    dsimp only
    split
    · rfl
    · rename_i hs
      simp [hb] at hs

theorem readFrom_of_closed (line : Nat) (h : Fence.findOpening? prev [] s = some o)
    (hb : Fence.splitAtMarker? [] o.body = some (body, rest)) :
    r.readFrom prev line s = (do
      let markup ← r.highlighter.render (r.block o body).code (some (r.block o body).language)
      (fun others => Prose.segments o.before ++ .codeBlock (r.block o body) markup :: others)
        <$> r.readFrom (some '`') (line + o.before.count '\n' + 1 + body.count '\n') rest) := by
  rw [readFrom]
  split
  · rename_i ho
    simp [h] at ho
  · rename_i o' ho
    obtain rfl := Option.some.inj (h.symm.trans ho)
    dsimp only
    split
    · rename_i hs
      simp [hb] at hs
    · rename_i body' rest' hs
      obtain ⟨rfl, rfl⟩ := Prod.mk.inj (Option.some.inj (hb.symm.trans hs))
      rfl

theorem value_readFrom_of_eq_none (line : Nat) (h : Fence.findOpening? prev [] s = none) :
    (r.readFrom prev line s).value = Prose.segments s := by
  rw [r.readFrom_of_eq_none line h]
  rfl

theorem value_readFrom_of_open (line : Nat) (h : Fence.findOpening? prev [] s = some o)
    (hb : Fence.splitAtMarker? [] o.body = none) :
    (r.readFrom prev line s).value =
      Prose.segments o.before ++ Prose.lines (o.line ++ '\n' :: o.body) := by
  rw [r.readFrom_of_open line h hb]
  rfl

theorem value_readFrom_line (prev : Option Char) (line line' : Nat) (s : List Char) :
    (r.readFrom prev line s).value = (r.readFrom prev line' s).value := by
  fun_induction r.readFrom prev line s generalizing line' with
  | case1 prev line s h => exact (r.value_readFrom_of_eq_none line' h).symm
  | case2 prev line s o h _ hb => exact (r.value_readFrom_of_open line' h hb).symm
  | case3 prev line s o h _ body rest hb _ ih =>
    have hrest := ih (line' + o.before.count '\n' + 1 + body.count '\n')
    simp only [r.readFrom_of_closed line' h hb, Logged.value_bind, Logged.value_map, hrest]
    rfl

/-- A closed block is read, and the text behind it on its own, on whatever line it starts. -/
theorem value_readFrom_of_closed (line line' : Nat) (h : Fence.findOpening? prev [] s = some o)
    (hb : Fence.splitAtMarker? [] o.body = some (body, rest)) :
    (r.readFrom prev line s).value =
      Prose.segments o.before ++ r.blockSegment o body ::
        (r.readFrom (some '`') line' rest).value := by
  rw [r.readFrom_of_closed line h hb, Logged.value_bind, Logged.value_map,
    r.value_readFrom_line _ _ line']
  rfl

end MessageReader

/-- An entry about a fence that never closes. -/
def LogEntry.ReportsOpenFence (e : LogEntry) : Prop :=
  e.component = "Parser" ∧ "[UNTERMINATED_FENCE]".toList <+: e.message.toList

theorem LogEntry.reportsOpenFence_of_line (n : Nat) :
    LogEntry.ReportsOpenFence ⟨.info, "Parser",
      "[UNTERMINATED_FENCE] fence on line " ++ toString n ++
        " never closes, rendering the rest of the message as plain text"⟩ := by
  refine ⟨rfl, ?_⟩
  rw [String.toList_append, String.toList_append, List.append_assoc]
  exact List.IsPrefix.trans (by decide) (List.prefix_append _ _)

theorem Highlighter.component_of_mem_log_grammarFor {h : Highlighter} {code : String}
    {language : Option String} {e : LogEntry} (he : e ∈ (h.grammarFor code language).log) :
    e.component = "Highlight" := by
  unfold grammarFor at he
  split at he
  · rw [List.mem_singleton.mp he]
  · split at he
    · rw [List.mem_singleton.mp he]
    · exact absurd he List.not_mem_nil

theorem Highlighter.component_of_mem_log_render {h : Highlighter} {code : String}
    {language : Option String} {e : LogEntry} (he : e ∈ (h.render code language).log) :
    e.component = "Highlight" := by
  apply component_of_mem_log_grammarFor
  rw [render, Logged.log_bind] at he
  rcases List.mem_append.mp he with he | he
  · exact he
  · split at he
    · exact absurd he List.not_mem_nil
    · exact absurd he List.not_mem_nil

inductive FencesClose : Option Char → List Char → Prop
  | prose {prev s} (h : Fence.findOpening? prev [] s = none) : FencesClose prev s
  | block {prev s o body rest} (h : Fence.findOpening? prev [] s = some o)
      (hb : Fence.splitAtMarker? [] o.body = some (body, rest))
      (hr : FencesClose (some '`') rest) : FencesClose prev s

namespace MessageReader

variable (r : MessageReader) {prev : Option Char} {s : List Char}

theorem fencesClose_iff (prev : Option Char) (line : Nat) (s : List Char) :
    FencesClose prev s ↔ ∀ e ∈ (r.readFrom prev line s).log, ¬ e.ReportsOpenFence := by
  constructor
  · intro h
    induction h generalizing line with
    | prose h =>
      rw [r.readFrom_of_eq_none line h]
      exact List.forall_mem_nil _
    | block h hb _ ih =>
      rw [r.readFrom_of_closed line h hb]
      intro e he ho
      rcases List.mem_append.mp he with he | he
      · have hc := Highlighter.component_of_mem_log_render he
        exact absurd (hc.symm.trans ho.1) (by decide)
      · exact ih _ e he ho
  · intro hlog
    fun_induction r.readFrom prev line s with
    | case1 prev line s h => exact .prose h
    | case2 prev line s o h _ hb =>
      exact absurd (LogEntry.reportsOpenFence_of_line _) (hlog _ List.mem_cons_self)
    | case3 prev line s o h _ body rest hb _ ih =>
      exact .block h hb (ih fun e he => hlog e (List.mem_append_right _ he))

end MessageReader

end FencedChat
