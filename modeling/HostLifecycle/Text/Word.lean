import HostLifecycle.Text.CodePoint
import HostLifecycle.Text.WordTable
import HostLifecycle.Text.Ranges

/-!
Word characters: letters and numbers of every script, and the low line. A word
boundary stands between a word character and anything else.
-/

namespace HostLifecycle.Text

def isWord (c : CodePoint) : Bool :=
  if c.toNat < 128 then c.isIn Char.isAlphanum || c == '_'
  else inRanges wordTable c.toNat

/-- Whether a word boundary stands between two neighbours, where no character
stands beyond an end of the text. -/
def boundary (before after : Option CodePoint) : Bool :=
  before.any isWord != after.any isWord

end HostLifecycle.Text
