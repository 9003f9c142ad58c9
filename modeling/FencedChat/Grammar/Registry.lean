import FencedChat.Grammar.Basic
import FencedChat.Listing
import FencedChat.Text.Blank

/-!
A registry of grammars by language tag. A later grammar takes over the tags and the name that it
shares with an earlier one.
-/

namespace FencedChat

structure Registry where
  byTag : Listing Grammar
  byName : Listing Grammar

namespace Registry

def empty : Registry := ⟨[], []⟩

/-- Tags are compared without the blanks around them and in lower case. -/
def normalTag (tag : String) : String := lower (trim tag)

def register (r : Registry) (g : Grammar) : Registry :=
  ⟨g.tags.foldl (fun l tag => Listing.put (normalTag tag) g l) r.byTag,
    Listing.put g.name g r.byName⟩

def ofList (gs : List Grammar) : Registry := gs.foldl register empty

/-- The grammar of a tag. The empty tag has none. -/
def get? (r : Registry) (tag : String) : Option Grammar :=
  if tag = "" then none else List.lookup (normalTag tag) r.byTag

def contains (r : Registry) (tag : String) : Bool := (r.get? tag).isSome

/-- The grammars by name, in the order in which the names were first registered. -/
def grammars (r : Registry) : List Grammar := r.byName.map (·.2)

def size (r : Registry) : Nat := r.byName.length

def tags (r : Registry) : List String := r.byTag.map (·.1)

end Registry

end FencedChat
