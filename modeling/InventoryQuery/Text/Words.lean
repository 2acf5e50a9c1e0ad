/-!
# Words

Lists of words in the order of their code points, each word once.
-/

namespace InventoryQuery.Text

def placeWord (word : String) : List String → List String
  | [] => [word]
  | other :: rest =>
    if word < other then word :: other :: rest
    else if other < word then other :: placeWord word rest
    else other :: rest

def sortedWords (words : List String) : List String := words.foldr placeWord []

end InventoryQuery.Text
