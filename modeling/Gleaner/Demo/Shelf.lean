import Gleaner.Demo.Basic

/-!
# A shelf

One rule on several pages, by engines that share what they remember.  The pages may be taken in
any order; here they are taken one after the other.
-/

namespace Gleaner.Demo

/-- A page for each book. -/
def shelfPages : List String :=
  ["<div><h1 class=\"title\">Dune</h1><span class=\"price\">$9.99</span></div>",
    "<div><h1 class=\"title\">Hyperion</h1><span class=\"price\">$7.50</span></div>",
    "<div><h1 class=\"title\">Solaris</h1></div>",
    "<div><h1 class=\"title\">Neuromancer</h1><span class=\"price\">$12.00</span></div>"]

/-- Title and price, or the title alone. -/
def shelfRule : String :=
  "@css:.title@text && @text: ( && @css:.price@text##\\d+\\.\\d+" ++
    " && @text:) || @css:.title@text"

/-- A line for each page from a number on, and the engine afterwards. -/
def pageLines (engine : Engine Html.Tree) : Nat → List String → List String × Engine Html.Tree
  | _, [] => ([], engine)
  | number, page :: rest =>
      let (extraction, engine) := engine.parse page none shelfRule
      let (more, engine) := pageLines engine (number + 1) rest
      (("Thread " ++ toString number ++ ": " ++ extraction.display) :: more, engine)

/-- The counters of an engine's cache for display. -/
def statisticsLine (engine : Engine Html.Tree) : String :=
  "CacheStats \x7b hits: " ++ toString engine.cache.hits ++ ", misses: " ++
    toString engine.cache.misses ++ " \x7d"

/-- The lines of the demonstration. -/
def shelfLines : List String :=
  let (lines, engine) := pageLines (engine {}) 0 shelfPages
  lines ++ [statisticsLine engine]

end Gleaner.Demo
