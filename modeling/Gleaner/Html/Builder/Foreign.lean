import Gleaner.Html.Builder.Formatting
import Gleaner.Html.Reference

/-!
# Formulas and drawings

Formulas and drawings bring elements of other vocabularies.  Their names are written in mixed
case, which the tags have lost, and some of their attributes are qualified.
-/

namespace Gleaner.Html

namespace Foreign

/-- The spelling among the words that is the given one in lower case. -/
def spellingOf (words : List String) (name : String) : String :=
  (words.find? fun word => lowered word.toList == name).getD name

/-- The elements of drawings whose names are written in mixed case. -/
def drawingNames : List String :=
  ["altGlyph", "altGlyphDef", "altGlyphItem", "animateColor", "animateMotion",
    "animateTransform", "clipPath", "feBlend", "feColorMatrix", "feComponentTransfer",
    "feComposite", "feConvolveMatrix", "feDiffuseLighting", "feDisplacementMap",
    "feDistantLight", "feDropShadow", "feFlood", "feFuncA", "feFuncB", "feFuncG", "feFuncR",
    "feGaussianBlur", "feImage", "feMerge", "feMergeNode", "feMorphology", "feOffset",
    "fePointLight", "feSpecularLighting", "feSpotLight", "feTile", "feTurbulence",
    "foreignObject", "glyphRef", "linearGradient", "radialGradient", "textPath"]

/-- The attributes of drawings whose names are written in mixed case. -/
def drawingAttributes : List String :=
  ["attributeName", "attributeType", "baseFrequency", "baseProfile", "calcMode",
    "clipPathUnits", "diffuseConstant", "edgeMode", "filterUnits", "glyphRef",
    "gradientTransform", "gradientUnits", "kernelMatrix", "kernelUnitLength", "keyPoints",
    "keySplines", "keyTimes", "lengthAdjust", "limitingConeAngle", "markerHeight",
    "markerUnits", "markerWidth", "maskContentUnits", "maskUnits", "numOctaves", "pathLength",
    "patternContentUnits", "patternTransform", "patternUnits", "pointsAtX", "pointsAtY",
    "pointsAtZ", "preserveAlpha", "preserveAspectRatio", "primitiveUnits", "refX", "refY",
    "repeatCount", "repeatDur", "requiredExtensions", "requiredFeatures", "specularConstant",
    "specularExponent", "spreadMethod", "startOffset", "stdDeviation", "stitchTiles",
    "surfaceScale", "systemLanguage", "tableValues", "targetX", "targetY", "textLength",
    "viewBox", "viewTarget", "xChannelSelector", "yChannelSelector", "zoomAndPan"]

/-- The attributes of formulas whose names are written in mixed case. -/
def formulaAttributes : List String :=
  ["definitionURL"]

/-- The name of an element in its vocabulary. -/
def elementName (vocabulary : Vocabulary) (name : String) : String :=
  if vocabulary = .svg then spellingOf drawingNames name else name

/-- The qualified names of attributes. -/
def qualifiedNames : List (String × AttributeName) :=
  ["actuate", "arcrole", "href", "role", "show", "title", "type"].map
      (fun name => ("xlink:" ++ name, ⟨.xlink, name⟩)) ++
    [("xml:lang", ⟨.xml, "lang"⟩), ("xml:space", ⟨.xml, "space"⟩),
      ("xmlns", ⟨.declaration, "xmlns"⟩), ("xmlns:xlink", ⟨.xmlns, "xlink"⟩)]

/-- The name of an attribute in the vocabulary of its element. -/
def attributeName (vocabulary : Vocabulary) (name : String) : AttributeName :=
  let name :=
    match vocabulary with
    | .html => name
    | .mathml => spellingOf formulaAttributes name
    | .svg => spellingOf drawingAttributes name
  (qualifiedNames.lookup name).getD ⟨.plain, name⟩

/-- The element of a name that a tag makes in a vocabulary. -/
def elementOf (vocabulary : Vocabulary) (name : String) (tag : Tag) : Element :=
  .ofAttributes vocabulary name
    (tag.attributes.map fun (name, value) => (attributeName vocabulary name, value))

end Foreign

namespace Builder

/-- The builder with an element of a vocabulary, which is open unless its tag closes itself. -/
def openForeign (builder : Builder) (vocabulary : Vocabulary) (name : String) (tag : Tag) :
    Builder :=
  let element := Foreign.elementOf vocabulary name tag
  if tag.selfClosing then builder.addElement element else builder.openElement element

/-- The innermost open element. -/
def currentElement? (builder : Builder) : Option Element :=
  builder.stack.head?.map builder.elementOf

/-- The innermost open element is of another vocabulary than HTML. -/
def isInForeign (builder : Builder) : Bool :=
  builder.currentElement?.any fun element => element.vocabulary != .html

/-- The token is read by the rules for HTML within the element. -/
def readsAsHtml (element : Element) : Token → Bool
  | .finish => true
  | .char _ =>
      element.vocabulary == .html || isTextPoint element || isMarkupPoint element
  | .opening tag =>
      element.vocabulary == .html ||
        (isTextPoint element && tag.name != "mglyph" && tag.name != "malignmark") ||
        isMarkupPoint element ||
        (element.vocabulary == .mathml && element.name == "annotation-xml" && tag.name == "svg")
  | _ => element.vocabulary == .html

/-- The token is under the rules for other vocabularies. -/
def isForeign (builder : Builder) (token : Token) : Bool :=
  builder.currentElement?.any fun element => !readsAsHtml element token

/-- The opening tags that end formulas and drawings. -/
def breakouts : List String :=
  ["b", "big", "blockquote", "body", "br", "center", "code", "dd", "div", "dl", "dt", "em",
    "embed", "h1", "h2", "h3", "h4", "h5", "h6", "head", "hr", "i", "img", "li", "listing",
    "menu", "meta", "nobr", "ol", "p", "pre", "ruby", "s", "small", "span", "strong", "strike",
    "sub", "sup", "table", "tt", "u", "ul", "var"]

/-- The tag ends formulas and drawings. -/
def breaksOut (tag : Tag) : Bool :=
  breakouts.contains tag.name ||
    (tag.name == "font" &&
      ["color", "face", "size"].any fun name => (tag.attribute? name).isSome)

/-- The builder with the elements of other vocabularies closed. -/
def leaveForeign (builder : Builder) : Builder :=
  let stays (id : NodeId) :=
    let element := builder.elementOf id
    element.vocabulary == .html || isTextPoint element || isMarkupPoint element
  { builder with stack := builder.stack.dropWhile (! stays ·) }

/-- What an end tag does within elements of other vocabularies. -/
inductive ForeignEnd where
  /-- It closes the element. -/
  | closes (id : NodeId)
  /-- It is under the rules for HTML. -/
  | asHtml
  /-- It does nothing. -/
  | stray

/-- What the end tag of a name does, by the first of the open elements that has the name or is one
of HTML; the root stands for neither. -/
def foreignEnd (builder : Builder) (name : String) : List NodeId → ForeignEnd
  | [] => .stray
  | [_] => .stray
  | id :: outer =>
      let element := builder.elementOf id
      if element.vocabulary == .html then .asHtml
      else if lowered element.name.toList == name then .closes id
      else builder.foreignEnd name outer

/-- The rules for other vocabularies; `asHtml` has the rules of the mode. -/
def stepForeign (asHtml : Builder → Token → Step) (builder : Builder) (token : Token) : Step :=
  match token with
  | .char c =>
      if c == '\x00' then .done (builder.addChar Reference.replacement)
      else .done ((if isSpace c then builder else builder.withoutFrames).addChar c)
  | .comment content => .done (builder.addComment content)
  | .opening tag =>
      if breaksOut tag then asHtml builder.leaveForeign token
      else
        match builder.currentElement? with
        | none => .done builder
        | some element =>
            .done (builder.openForeign element.vocabulary
              (Foreign.elementName element.vocabulary tag.name) tag)
  | .closing name =>
      if name == "br" || name == "p" then asHtml builder.leaveForeign token
      else
        match builder.foreignEnd name builder.stack with
        | .closes id => .done (builder.closeThrough id)
        | .asHtml => asHtml builder token
        | .stray => .done builder
  | _ => .done builder

end Builder

end Gleaner.Html
