import FencedChat.CommandLine.Report
import FencedChat.Proofs.Action

/-!
Printing. Most of what a command does is to print lines, and the only thing that keeps it from that
is a style tag that cannot be shown. So what an action prints is a value: its lines, or the error of
a tag.
-/

namespace FencedChat

open Console StyleTag

@[simp] theorem Console.unlines_append (lines more : List (List Char)) :
    unlines (lines ++ more) = unlines lines ++ unlines more := by
  simp [unlines]

namespace Report

def printing (r : Report) (lines : List (List Char)) : Report :=
  { r with output := r.output ++ unlines lines }

variable (r : Report) (lines more : List (List Char))

@[simp] theorem printing_nil : r.printing [] = r := by
  simp [printing, unlines]

@[simp] theorem printing_printing :
    (r.printing lines).printing more = r.printing (lines ++ more) := by
  simp [printing, String.append_assoc]

end Report

namespace Action

section

variable {α β : Type}

/-- How an action ends, and the report that it makes of another one. -/
def after (a : Action α) (r : Report) : Except Ending α × Report := a.run.run r

variable (r : Report)

@[simp] theorem after_pure (x : α) : (pure x : Action α).after r = (.ok x, r) := rfl

@[simp] theorem after_throw (e : Ending) : (throw e : Action α).after r = (.error e, r) := rfl

@[simp] theorem after_raise (e : CommandError) :
    (raise e : Action α).after r = (.error (.raised e), r) := rfl

@[simp] theorem after_call (c : ClientCall) :
    (call c).after r = (.ok (), { r with calls := r.calls ++ [c] }) := rfl

theorem after_bind (a : Action α) (f : α → Action β) :
    (a >>= f).after r =
      match a.after r with
      | (.ok x, r') => (f x).after r'
      | (.error e, r') => (.error e, r') := by
  change (ExceptT.bindCont f (a.after r).1).run (a.after r).2 = _
  rcases a.after r with ⟨_ | _, _⟩ <;> rfl

variable {r} {r' : Report} {a : Action α}

theorem after_bind_of_ok {x : α} (h : a.after r = (.ok x, r')) (f : α → Action β) :
    (a >>= f).after r = (f x).after r' := by
  rw [after_bind, h]

theorem after_bind_of_error {e : Ending} (h : a.after r = (.error e, r')) (f : α → Action β) :
    (a >>= f).after r = (.error e, r') := by
  rw [after_bind, h]

end

def Prints (a : Action Unit) : Except TagError (List (List Char)) → Prop
  | .ok lines => ∀ r, a.after r = (.ok (), r.printing lines)
  | .error e => ∃ lines, ∀ r, a.after r = (.error (.raised (.tag e)), r.printing lines)

theorem prints_pure : Prints (pure ()) (.ok []) := fun r => by rw [after_pure, r.printing_nil]

theorem prints_print (t : Terminal) (d : Drawing) : Prints (print t d) (.ok (t.draw d)) :=
  fun _ => rfl

theorem prints_printLines (lines : Except TagError (List (List Char))) :
    Prints (printLines lines) lines := by
  cases lines with
  | ok lines => exact fun _ => rfl
  | error e => exact ⟨[], fun r => by rw [r.printing_nil]; rfl⟩

theorem prints_printTagged (t : Terminal) (s : String) :
    Prints (printTagged t s) ((t.shown s).map fun out => t.draw (.text out)) := by
  unfold printTagged
  cases t.shown s with
  | ok s => exact fun _ => rfl
  | error e => exact ⟨[], fun r => by rw [r.printing_nil]; rfl⟩

variable {a b : Action Unit} {x y : Except TagError (List (List Char))}

/-- Actions that only print, one behind the other, print what they do in this order. -/
theorem Prints.seq (ha : a.Prints x) (hb : b.Prints y) :
    Prints (a >>= fun _ => b) (do return (← x) ++ (← y)) := by
  cases x with
  | error e =>
    obtain ⟨lines, ha⟩ := ha
    exact ⟨lines, fun r => after_bind_of_error (ha r) _⟩
  | ok lines =>
    cases y with
    | error e =>
      obtain ⟨more, hb⟩ := hb
      refine ⟨lines ++ more, fun r => ?_⟩
      rw [after_bind_of_ok (ha r), hb, r.printing_printing]
    | ok more =>
      intro r
      rw [after_bind_of_ok (ha r), hb, r.printing_printing]

theorem Prints.calls_after (h : a.Prints x) (r : Report) : (a.after r).2.calls = r.calls := by
  cases x with
  | ok lines =>
    rw [h r]
    rfl
  | error e =>
    obtain ⟨lines, h⟩ := h
    rw [h r]
    rfl

theorem Prints.forM {α : Type} {f : α → Action Unit} {g : α → Except TagError (List (List Char))}
    (h : ∀ a, (f a).Prints (g a)) (l : List α) :
    (l.forM f).Prints ((l.mapM g).map List.flatten) := by
  induction l with
  | nil => exact prints_pure
  | cons a l ih =>
    have hall : ((a :: l).mapM g).map List.flatten =
        (do return (← g a) ++ (← (l.mapM g).map List.flatten)) := by
      rw [List.mapM_cons]
      cases g a with
      | error e => rfl
      | ok lines => cases l.mapM g <;> rfl
    rw [hall, List.forM_eq_forM, List.forM_cons]
    exact (h a).seq ih

/-- The report of a command is what it makes of an empty one. -/
theorem fst_report : a.report.1 = (a.after {}).2 := by
  rw [report, after]
  rcases a.run.run {} with ⟨_ | _, _⟩ <;> rfl

theorem report_of_ok {r : Report} (h : a.after {} = (.ok (), r)) : a.report = (r, .status 0) := by
  have hrun : a.run.run {} = (.ok (), r) := h
  rw [report, hrun]

theorem report_of_error {e : Ending} {r : Report} (h : a.after {} = (.error e, r)) :
    a.report = (r, e) := by
  have hrun : a.run.run {} = (.error e, r) := h
  rw [report, hrun]

/-- An action that prints lines ends by itself and leaves nothing else. -/
theorem Prints.report_of_ok {lines : List (List Char)} (h : a.Prints (.ok lines)) :
    a.report = ({ output := unlines lines }, .status 0) := by
  rw [Action.report_of_ok (h {})]
  simp [Report.printing]

/-- An action that cannot show a tag ends with the error. -/
theorem Prints.report_of_error {e : TagError} (h : a.Prints (.error e)) :
    ∃ lines, a.report = ({ output := unlines lines }, .raised (.tag e)) := by
  obtain ⟨lines, h⟩ := h
  refine ⟨lines, ?_⟩
  rw [Action.report_of_error (h {})]
  simp [Report.printing]

end Action

end FencedChat
