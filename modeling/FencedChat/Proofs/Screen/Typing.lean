import FencedChat.Proofs.Screen.Traced

/-!
Typing and inserting. What is typed reaches the document when the announced change is handled; an
insertion reads the document and loads the area from it. So an insertion made in between takes back
what was typed.
-/

namespace FencedChat.App

open EditorPane TextArea

/-- In every run, the area shows the open document whenever no change is announced, and also while
one is, as long as nothing typed is under way. An inserted block goes behind the text of the
document, so it extends the text of the area exactly if that is the text of the document; typed text
that is under way is lost. -/
theorem insertion_extends_text_iff (session : ChatSession) (disk : Disk) (document : Document)
    (logLevel : Option String) (hasClipboard : Bool) (steps : List Step) {b : Buffer} :
    let s := (Traced.ofScreen (start session disk document logLevel hasClipboard)).run steps
    let p := s.screen.editor
    p.document = .opened b →
      (p.announced = 0 → p.area.text = b.content) ∧
      (s.typed = none → (ofText b.content).text = b.content → p.area.text = b.content) ∧
      ∀ c : CodeBlock,
        let q := (s.screen.after (.addBlock c)).editor
        let loaded := b.content ++ Insertion.separator ++ c.code
        (ofText loaded).text = loaded →
          q.area.text = loaded ∧
          (q.area.text = p.area.text ++ Insertion.separator ++ c.code ↔
            p.area.text = b.content) := by
  intro s p hb
  have hp : p.Sound := by
    have hr := sound_run session disk document logLevel hasClipboard steps
    change s.screen.editor.Sound
    rwa [Traced.screen_run]
  refine ⟨?_, ?_, ?_⟩
  · intro hn
    have hf := hp.follows (by rw [hb]; rfl) hn
    rwa [hb] at hf
  · intro ht hback
    have hs := Traced.shown_run session disk document logLevel hasClipboard steps (by rw [hb]; rfl)
    rw [ht, hb] at hs
    exact hs.trans hback
  · intro c q loaded hl
    have hq : q = (p.insertBlock c).1 := congrArg Desk.editor (desk_after (.addBlock c))
    have ht : q.area.text = loaded := by
      rw [hq, insertBlock_opened hb]
      exact text_setDocument hl
    refine ⟨ht, ?_⟩
    rw [ht]
    constructor
    · intro h
      have hsep : b.content ++ Insertion.separator = p.area.text ++ Insertion.separator :=
        (String.append_left_inj c.code).mp h
      exact ((String.append_left_inj _).mp hsep).symm
    · intro h
      rw [h]

def onLetter : App :=
  start (.start none none) ⟨[], [(["a.txt"], .file (.text "a"))]⟩
    (.ofContent "a.txt" "a" (some ⟨"", ["a.txt"]⟩)) none false

def block (code : String) : CodeBlock := ⟨some "py", some "b.py", code, "py", "b.py"⟩

theorem insertion_extends_handled_text :
    let s := (Traced.ofScreen onLetter).run [.handleChange, .edit "ab", .handleChange]
    let q := (s.screen.after (.addBlock (block "x"))).editor
    s.screen.editor.area.text = "ab" ∧ q.area.text = "ab\n\nx" ∧
      q.area.text = s.screen.editor.area.text ++ Insertion.separator ++ (block "x").code := by
  intro s q
  have hb : s.screen.editor.document =
      .opened ⟨"a.txt", some ⟨"", ["a.txt"]⟩, "ab", "a", true⟩ := by decide
  have hn : s.screen.editor.announced = 0 := by decide
  obtain ⟨hc, -, hi⟩ :=
    insertion_extends_text_iff _ _ _ _ _ [.handleChange, .edit "ab", .handleChange] hb
  have ht : s.screen.editor.area.text = "ab" := hc hn
  obtain ⟨hl, he⟩ := hi (block "x") (by decide)
  exact ⟨ht, hl, he.mpr ht⟩

/-- A block that is inserted before a typed letter arrives takes that letter back. -/
theorem insertion_drops_typed_text :
    let s := (Traced.ofScreen onLetter).run [.handleChange, .edit "ab"]
    let q := (s.screen.after (.addBlock (block "x"))).editor
    s.screen.editor.announced = 1 ∧ s.typed = some "ab" ∧ s.screen.editor.area.text = "ab" ∧
      (∀ t ∈ ["a", "ab", "x", "a\n\nx", "ab\n\nx"], (ofText t).text = t) ∧
      q.area.text = "a\n\nx" ∧
      q.area.text ≠ s.screen.editor.area.text ++ Insertion.separator ++ (block "x").code := by
  decide

end FencedChat.App
