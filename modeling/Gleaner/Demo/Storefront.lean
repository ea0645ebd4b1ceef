import Gleaner.Demo.Basic

/-!
# A storefront

Named fields of a product page, with chains to fall back on, by an engine that refuses to join
sequences of different lengths.
-/

namespace Gleaner.Demo

/-- A page about a product. -/
def productPage : String :=
  textOf
   ["<!DOCTYPE html>",
    "<html>",
    "<body>",
    "  <div class=\"product-page\">",
    "    <div class=\"product-header\">",
    "      <h1 class=\"product-title\">Apple iPhone 15 Pro Max</h1>",
    "      <span class=\"product-category\">Phones</span>",
    "    </div>",
    "    <div class=\"price-box\">",
    "      <span class=\"current-price\">$999</span>",
    "      <span class=\"original-price\">$1299</span>",
    "      <span class=\"discount\">23% off</span>",
    "    </div>",
    "    <div class=\"specs\">",
    "      <div class=\"spec-item\"><span class=\"spec-name\">Color</span><span " ++
      "class=\"spec-value\">Titanium</span></div>",
    "      <div class=\"spec-item\"><span class=\"spec-name\">Storage</span><span " ++
      "class=\"spec-value\">256GB</span></div>",
    "      <div class=\"spec-item\"><span class=\"spec-name\">Brand</span><span " ++
      "class=\"spec-value\">Apple</span></div>",
    "    </div>",
    "    <div class=\"gallery\">",
    "      <img src=\"https://example.com/images/iphone-1.jpg\" class=\"main-image\">",
    "      <img src=\"https://example.com/images/iphone-2.jpg\" class=\"thumb-image\">",
    "      <img src=\"https://example.com/images/iphone-3.jpg\" class=\"thumb-image\">",
    "    </div>",
    "    <div class=\"status\">",
    "      <span class=\"stock\">In stock: 999+</span>",
    "      <span class=\"sales\">Sold: 25000</span>",
    "    </div>",
    "  </div>",
    "</body>",
    "</html>"]

/-- The fields of a product with their rules. -/
def productFields : List (String × String) :=
  [("title", "@css:.product-title@text"),
    ("category", "@css:.product-category@text || @text:Uncategorized"),
    ("price", "@css:.current-price@text##\\d+"),
    ("was", "@text:was $ && @css:.original-price@text##\\d+"),
    ("specs", "@css:.spec-name@text && @text:: && @css:.spec-value@text"),
    ("images", "@css:.gallery img@src"),
    ("stock", "@css:.stock@text##\\d+ || @text:0"),
    ("rating", "@css:.rating@text || @text:no reviews")]

/-- The lines of a field: its extraction, and which chain it fell back to. -/
def fieldLines (name : String) (report : Report) : List String :=
  let first := Text.padded 10 name ++ " " ++ report.extraction.display
  match report.matchedGroup with
  | some (group + 1) =>
      [first, Text.padded 10 "" ++ " (fell back to group " ++ toString (group + 1) ++ ")"]
  | _ => [first]

/-- The lines of each field, and the engine afterwards. -/
def fieldsLines (engine : Engine Html.Tree) (document : Document Html.Tree) :
    List (String × String) → List String × Engine Html.Tree
  | [] => ([], engine)
  | (name, rule) :: rest =>
      let (report, engine) := engine.parseDetailed document rule
      let (more, engine) := fieldsLines engine document rest
      (fieldLines name report ++ more, engine)

/-- The lines of the demonstration. -/
def storefrontLines : List String :=
  let engine := engine { zipPolicy := .error }
  let document := engine.loadMarkup productPage
  let (fields, engine) := fieldsLines engine document productFields
  let (mismatch, _) :=
    engine.parseDocument document "@css:.spec-name@text && @css:.thumb-image@src"
  fields ++ ["", "mismatched zip => " ++ mismatch.display]

end Gleaner.Demo
