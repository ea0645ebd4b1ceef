import Gleaner.Demo.Basic

/-!
# One book

Selectors, patterns and combinators on a page and a note about a book.
-/

namespace Gleaner.Demo

/-- A page about a book. -/
def bookPage : String :=
  textOf
   ["<!DOCTYPE html>",
    "<html>",
    "<head><title>JavaScript: The Definitive Guide</title></head>",
    "<body>",
    "  <div class=\"book-container\">",
    "    <h1 class=\"title\">JavaScript: The Definitive Guide</h1>",
    "    <p class=\"author\">David Flanagan</p>",
    "    <div class=\"price\">",
    "      <span class=\"sale-price\">$89.00</span>",
    "      <span class=\"original-price\">$128.00</span>",
    "    </div>",
    "    <img src=\"https://example.com/cover.jpg\" alt=\"cover\" class=\"cover\">",
    "    <a href=\"https://example.com/book/123\" class=\"buy-link\">Buy</a>",
    "    <ul class=\"tags\">",
    "      <li>Programming</li>",
    "      <li>JavaScript</li>",
    "      <li>Frontend</li>",
    "    </ul>",
    "  </div>",
    "</body>",
    "</html>"]

/-- A note about a book. -/
def bookNotes : String :=
  textOf
   ["Title: <Computer Systems: A Programmer's Perspective>",
    "Author: Randal E. Bryant",
    "ISBN: 978-7-111-54493-7",
    "Price: 139.00"]

/-- Rules that select elements. -/
def bookSelections : List String :=
  ["@css:.title@text", "@css:.author@text", "@css:.sale-price@text##\\d+\\.\\d+", "@css:.cover@src",
    "@css:.buy-link@href", "@css:ul.tags li@text"]

/-- Rules that search the raw text. -/
def bookPatterns : List String :=
  ["@regex:Title: <(.+?)>", "@regex:Author: ([^\\n]+)", "@regex:ISBN: ([\\d-]+)",
    "@regex:Price: (\\d+\\.\\d+)"]

/-- Rules of several terms or chains. -/
def bookCombinations : List String :=
  ["@text:Title: && @css:.title@text", "@css:.nonexistent@text || @text:Untitled",
    "@text:<< && @css:.title@text && @text:>> by && @text:  && @css:.author@text" ++
      " && @text: | $ && @css:.sale-price@text##\\d+\\.\\d+"]

/-- The lines of the demonstration. -/
def bookLines : List String :=
  let (selections, engine) := extractEach (engine {}) bookPage bookSelections
  let (patterns, engine) := extractEach engine bookNotes bookPatterns
  let (combinations, engine) := extractEach engine bookPage bookCombinations
  ["== css =="] ++ selections.map inlineLine ++ ["", "== regex =="] ++ patterns.map inlineLine ++
    ["", "== combinators =="] ++ combinations.flatMap stackedLines ++ ["", engine.display]

end Gleaner.Demo
