/-!
Programs that may fail, and programs that keep a state as well. What was done before an error stays
done, whether the error is caught or passes through.
-/

namespace FencedChat

section

variable {ε α β : Type}

theorem bind_eq_ok_iff {a : Except ε α} {f : α → Except ε β} {b : β} :
    (a >>= f) = .ok b ↔ ∃ x, a = .ok x ∧ f x = .ok b := by
  cases a <;> simp [bind, Except.bind]

theorem map_eq_ok_iff {f : α → β} {a : Except ε α} {b : β} :
    a.map f = .ok b ↔ ∃ x, a = .ok x ∧ f x = b := by
  cases a <;> simp [Except.map]

/-- Steps for the members of a list all succeed if each of them does. -/
theorem exists_mapM_eq_ok_iff {f : α → Except ε β} {l : List α} :
    (∃ out, l.mapM f = .ok out) ↔ ∀ a ∈ l, ∃ b, f a = .ok b := by
  induction l with
  | nil => exact ⟨fun _ a ha => absurd ha List.not_mem_nil, fun _ => ⟨[], rfl⟩⟩
  | cons a l ih =>
    rw [List.forall_mem_cons, ← ih, List.mapM_cons]
    constructor
    · rintro ⟨out, h⟩
      obtain ⟨b, hb, h⟩ := bind_eq_ok_iff.mp h
      obtain ⟨rest, hrest, -⟩ := bind_eq_ok_iff.mp h
      exact ⟨⟨b, hb⟩, rest, hrest⟩
    · rintro ⟨⟨b, hb⟩, rest, hrest⟩
      exact ⟨b :: rest, bind_eq_ok_iff.mpr ⟨b, hb, bind_eq_ok_iff.mpr ⟨rest, hrest, rfl⟩⟩⟩

theorem mapM_eq_ok_map {f : α → Except ε β} {g : α → β} {l : List α}
    (h : ∀ a ∈ l, f a = .ok (g a)) :
    l.mapM f = .ok (l.map g) := by
  induction l with
  | nil => rfl
  | cons a l ih =>
    obtain ⟨ha, hl⟩ := List.forall_mem_cons.mp h
    rw [List.mapM_cons, ha, ih hl]
    rfl

end

namespace Action

variable {ε σ α β : Type} (s : σ)

@[simp] theorem run_throw (e : ε) : (throw e : EStateM ε σ α).run s = .error e s := rfl

@[simp] theorem run_modify (f : σ → σ) : (modify f : EStateM ε σ PUnit).run s = .ok ⟨⟩ (f s) := rfl

@[simp] theorem run_map (f : α → β) (a : EStateM ε σ α) :
    (f <$> a).run s =
      match a.run s with
      | .ok r t => .ok (f r) t
      | .error e t => .error e t := by
  change EStateM.map f a s = _
  unfold EStateM.map EStateM.run
  cases a s <;> rfl

@[simp] theorem run_tryCatch (a : EStateM ε σ α) (handle : ε → EStateM ε σ α) :
    (tryCatch a handle).run s =
      match a.run s with
      | .ok r t => .ok r t
      | .error e t => (handle e).run t := by
  change EStateM.tryCatch a handle s = _
  unfold EStateM.tryCatch EStateM.run
  cases a s <;> rfl

@[simp] theorem run_discard (a : EStateM ε σ α) :
    (discard a).run s =
      match a.run s with
      | .ok _ t => .ok () t
      | .error e t => .error e t := run_map s (fun _ => ()) a

/-- The last action is done in any case, and an error that it meets takes the place of the
outcome. -/
theorem run_tryFinally (a : EStateM ε σ α) (last : EStateM ε σ β) :
    (tryFinally a last).run s =
      match a.run s with
      | .ok r t =>
        match last.run t with
        | .ok _ u => .ok r u
        | .error e u => .error e u
      | .error e t =>
        match last.run t with
        | .ok _ u => .error e u
        | .error e u => .error e u := by
  unfold tryFinally
  rw [run_map]
  simp only [tryFinally', EStateM.run]
  cases a s with
  | ok r t => cases hl : last t <;> simp only [hl]
  | error e t => cases hl : last t <;> simp only [hl]

end Action

end FencedChat
