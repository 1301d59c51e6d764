/-!
# Cutting text

Cutting a list of characters at the first occurrence of a mark, which belongs to neither part.
-/

namespace SemanticIndex.Text

/-- Cut a text at the first occurrence of a character. -/
def cutAt? (mark : Char) (characters : List Char) : Option (List Char × List Char) :=
  match characters.dropWhile (· != mark) with
  | _ :: after => some (characters.takeWhile (· != mark), after)
  | [] => none

end SemanticIndex.Text
