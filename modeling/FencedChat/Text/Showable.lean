/-!
Characters that a terminal acts on and does not show.
-/

namespace FencedChat

/-- Characters that cannot be shown: bell, backspace, vertical tab, form feed and carriage
return. -/
def isUnshowable (c : Char) : Bool :=
  c.toNat == 7 || c.toNat == 8 || c.toNat == 11 || c.toNat == 12 || c.toNat == 13

def showable (s : List Char) : List Char := s.filter fun c => !isUnshowable c

@[simp] theorem showable_nil : showable [] = [] := rfl

@[simp] theorem showable_append (s t : List Char) : showable (s ++ t) = showable s ++ showable t :=
  List.filter_append ..

@[simp] theorem showable_showable (s : List Char) : showable (showable s) = showable s := by
  simp [showable]

end FencedChat
