import Mathlib.Data.String.Basic

set_option autoImplicit false

namespace Pets

/- The Characters of Swift are the extended grapheme clusters of Unicode. How a text falls
   into them is left open; they are its pieces, in their order, and none of them is empty. -/
structure Characters where
  of : String → List String
  joined : ∀ text, String.join (of text) = text
  filled : ∀ text, ∀ character ∈ of text, character ≠ ""

namespace Characters

-- One scalar to a Character, as in a line of ASCII.
def scalars : Characters where
  of := fun text => text.toList.map String.singleton
  joined := by
    intro text
    apply String.toList_injective
    rw [String.toList_join, List.flatMap_map]
    simp
  filled := by
    intro text character member
    obtain ⟨scalar, _, rfl⟩ := List.mem_map.mp member
    simp

end Characters

end Pets
