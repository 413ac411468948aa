/-
  The characters that quoted text spells out by number: controls, format characters, separators
  other than the space, private and unassigned code points, what is invisible by default, and the
  characters that combine with the one before them; seventeenth edition.
-/
import Playbook.Text.Trait

namespace Playbook.Text

open Category Trait

/-- The characters that quoted text spells by their numbers; the space, which is a separator, is
not one of them in spite of its category. -/
def unprintable : CharSet :=
  .unionOf [Edition.seventeenth.inCategories (others ++ separators), extendingIn .seventeenth,
    ignorable]

/-- Whether quoted text spells the character by its number. -/
def isUnprintable (c : Char) : Bool :=
  if 0x20 ≤ c.toNat && c.toNat < 0x7f then false else unprintable.mem c

end Playbook.Text
