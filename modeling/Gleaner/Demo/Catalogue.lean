import Gleaner.Demo.Basic

/-!
# A catalogue

Paths into a JSON response that lists books.
-/

namespace Gleaner.Demo

/-- A response that lists books. -/
def catalogueResponse : String :=
  textOf
   ["\x7b",
    "  \"code\": 200,",
    "  \"data\": \x7b",
    "    \"total\": 150,",
    "    \"books\": [",
    "      \x7b",
    "        \"id\": 1001,",
    "        \"title\": \"Professional JavaScript\",",
    "        \"author\": \x7b \"name\": \"Nicholas C. Zakas\", \"country\": \"USA\" \x7d,",
    "        \"price\": 99.00,",
    "        \"category\": [\"Programming\", \"JavaScript\", \"Web\"],",
    "        \"rating\": \x7b \"score\": 4.8, \"count\": 15620 \x7d,",
    "        \"inStock\": true",
    "      \x7d,",
    "      \x7b",
    "        \"id\": 1002,",
    "        \"title\": \"Computer Systems\",",
    "        \"author\": \x7b \"name\": \"Randal E. Bryant\", \"country\": \"USA\" \x7d,",
    "        \"price\": 139.00,",
    "        \"category\": [\"Computer Science\", \"Systems\"],",
    "        \"rating\": \x7b \"score\": 4.9, \"count\": 12580 \x7d,",
    "        \"inStock\": false",
    "      \x7d",
    "    ]",
    "  \x7d",
    "\x7d"]

/-- Rules that follow paths. -/
def catalogueRules : List String :=
  ["@json:$.data.total", "@json:$.data.books[0].title", "@json:$.data.books[*].title",
    "@json:$.data.books[-1].author.name", "@json:$.data.books[0].category",
    "@json:$.data.books[*].inStock", "@text:$ && @json:$.data.books[*].price",
    "@json:$.data.books[*].title && @text: ( && @json:$.data.books[*].rating.score && @text:)",
    "@json:$.data.books[0].isbn || @text:no isbn"]

/-- The lines of the demonstration. -/
def catalogueLines : List String :=
  let engine := engine {}
  match engine.load catalogueResponse (some .json) with
  | .error error => [error.headline]
  | .ok document =>
      let (entries, engine) := extractEachFrom engine document catalogueRules
      let (report, _) :=
        engine.parseDetailed document "@json:$.data.books[0].publisher || @json:$.code"
      entries.flatMap stackedLines ++ ["", report.display]

end Gleaner.Demo
