/-!
# Splitting text

## Main definitions

- `Text.splitAtChar`: the parts of a text between occurrences of a character
-/

namespace ClusterVault.Text

/-- The parts of a text between the occurrences of a character: one more than there are
    occurrences. -/
def splitAtChar (sep : Char) : List Char → List (List Char)
  | [] => [[]]
  | c :: rest =>
    if c = sep then [] :: splitAtChar sep rest
    else match splitAtChar sep rest with
      | [] => [[c]]
      | part :: parts => (c :: part) :: parts

end ClusterVault.Text
