import Gleaner.Demo.Book
import Gleaner.Demo.Catalogue
import Gleaner.Demo.Shelf
import Gleaner.Demo.Storefront

/-!
# Demonstrations by name
-/

namespace Gleaner.Demo

/-- The names of the demonstrations with their lines. -/
def all : List (String × List String) :=
  [("basic", bookLines), ("json", catalogueLines), ("storefront", storefrontLines),
    ("multithreaded", shelfLines)]

/-- The lines of the demonstration of a name. -/
def lines? (name : String) : Option (List String) :=
  all.lookup name

end Gleaner.Demo
