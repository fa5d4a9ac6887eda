import WidgetTemplates.Markup.Rules.Head

/-!
# Foreign elements

Graphics and formulas inside a document. Their names keep the capital letters of their own vocabularies,
attributes that belong to a further vocabulary lose its mark, and certain start tags of ordinary elements
end the foreign part.
-/

namespace WidgetTemplates.Markup.Build

/-- Names of graphics elements that hold capital letters. -/
def svgTags : List String :=
  ["altGlyph", "altGlyphDef", "altGlyphItem", "animateColor", "animateMotion", "animateTransform",
   "clipPath", "feBlend", "feColorMatrix", "feComponentTransfer", "feComposite", "feConvolveMatrix",
   "feDiffuseLighting", "feDisplacementMap", "feDistantLight", "feDropShadow", "feFlood", "feFuncA",
   "feFuncB", "feFuncG", "feFuncR", "feGaussianBlur", "feImage", "feMerge", "feMergeNode",
   "feMorphology", "feOffset", "fePointLight", "feSpecularLighting", "feSpotLight", "feTile",
   "feTurbulence", "foreignObject", "glyphRef", "linearGradient", "radialGradient", "textPath"]

/-- Names of graphics attributes that hold capital letters. -/
def svgAttrs : List String :=
  ["attributeName", "attributeType", "baseFrequency", "baseProfile", "calcMode", "clipPathUnits",
   "diffuseConstant", "edgeMode", "filterUnits", "glyphRef", "gradientTransform", "gradientUnits",
   "kernelMatrix", "kernelUnitLength", "keyPoints", "keySplines", "keyTimes", "lengthAdjust",
   "limitingConeAngle", "markerHeight", "markerUnits", "markerWidth", "maskContentUnits",
   "maskUnits", "numOctaves", "pathLength", "patternContentUnits", "patternTransform",
   "patternUnits", "pointsAtX", "pointsAtY", "pointsAtZ", "preserveAlpha", "preserveAspectRatio",
   "primitiveUnits", "refX", "refY", "repeatCount", "repeatDur", "requiredExtensions",
   "requiredFeatures", "specularConstant", "specularExponent", "spreadMethod", "startOffset",
   "stdDeviation", "stitchTiles", "surfaceScale", "systemLanguage", "tableValues", "targetX",
   "targetY", "textLength", "viewBox", "viewTarget", "xChannelSelector", "yChannelSelector",
   "zoomAndPan"]

/-- Attributes of further vocabularies and their names there. -/
def foreignAttrs : List (String × String) :=
  [("xlink:actuate", "actuate"), ("xlink:arcrole", "arcrole"), ("xlink:href", "href"),
   ("xlink:role", "role"), ("xlink:show", "show"), ("xlink:title", "title"), ("xlink:type", "type"),
   ("xml:base", "base"), ("xml:lang", "lang"), ("xml:space", "space"), ("xmlns:xlink", "xlink")]

/-- The name of the list that equals `name` but for capital letters. -/
def recase (names : List String) (name : String) : String :=
  (names.find? fun n => n.toLower == name).getD name

/-- The attributes of a foreign element. -/
def adjustAttrs (space : Space) (attrs : List (String × String)) : List (String × String) :=
  attrs.map fun (name, value) =>
    let name := match space with
      | .svg => recase svgAttrs name
      | .math => if name == "definitionurl" then "definitionURL" else name
      | .html => name
    ((foreignAttrs.lookup name).getD name, value)

/-- Inserts a foreign element; one whose tag ends in a slash is not opened. -/
def insertForeign (space : Space) (tag : Tag) : Build Outcome := do
  let node ← insertNamed ⟨space, tag.name⟩ (adjustAttrs space tag.attrs)
  if !tag.selfClosing then push node
  done

/-- Whether the attributes of an `annotation-xml` element announce ordinary markup. -/
def announcesMarkup (attrs : List (String × String)) : Bool :=
  match attrs.lookup "encoding" with
  | some v =>
    let v := v.toLower
    v == "text/html" || v == "application/xhtml+xml"
  | none => false

/-- Whether a token is handled by the rules of foreign elements. -/
def isForeign (b : Builder) (t : Token) : Bool :=
  match t, b.opens.head? with
  | .stop, _ => false
  | _, none => false
  | _, some node =>
    match (b.arena.cell node).kind with
    | .element name attrs _ =>
      let isText := match t with
        | .char _ | .nul => true
        | _ => false
      let start? := match t with
        | .startTag tag => some tag.name
        | _ => none
      if name.space == .html then false
      -- ordinary markup may stand in the texts of formulas and in some elements of drawings
      else if isMathText name
          && (isText || start?.any fun n => n != "mglyph" && n != "malignmark") then false
      else if isSvgMarkup name && (isText || start?.isSome) then false
      else if name == ⟨.math, "annotation-xml"⟩ then
        if start? == some "svg" then false
        else if isText || start?.isSome then !announcesMarkup attrs
        else true
      else true
    | _ => false

/-- The start tags that end the foreign part of a document. -/
def foreignEnders : List String :=
  ["b", "big", "blockquote", "body", "br", "center", "code", "dd", "div", "dl", "dt", "em", "embed",
   "h1", "h2", "h3", "h4", "h5", "h6", "head", "hr", "i", "img", "li", "listing", "menu", "meta",
   "nobr", "ol", "p", "pre", "ruby", "s", "small", "span", "strong", "strike", "sub", "sup", "table",
   "tt", "u", "ul", "var"]

/-- What the rules of foreign elements do with a token: they use it up, or leave it to the rules of the insertion
mode. -/
inductive ForeignOutcome where
  | done
  | ordinary

/-- Ends the foreign part of the document. -/
def leaveForeign : Build ForeignOutcome := do
  modify fun b =>
    { b with opens := b.opens.dropWhile fun i =>
               match b.arena.name? i with
               | some n => !(n.space == .html || isMathText n || isSvgMarkup n)
               | none => false }
  return .ordinary

/-- A start tag inside a foreign element. -/
def startForeign (tag : Tag) : Build ForeignOutcome := do
  let b ← get
  let space := ((b.opens.head?.bind b.arena.name?).map (·.space)).getD .html
  let name := if space == .svg then recase svgTags tag.name else tag.name
  let _ ← insertForeign space { tag with name }
  return .done

/-- An end tag inside a foreign element closes the innermost foreign element of its name; it is an
ordinary end tag as soon as an ordinary element is met. -/
def endForeign (name : String) : Build ForeignOutcome := do
  let b ← get
  return ← go b.arena b.opens true
where
  /-- The search from the innermost element on. -/
  go (a : Arena) (opens : List Nat) (first : Bool) : Build ForeignOutcome :=
    match opens with
    | [] | [_] => return .done
    | i :: rest =>
      match a.name? i with
      | some n =>
        if !first && n.space == .html then return .ordinary
        else if n.tag.toLower == name then do
          modify fun b => { b with opens := rest }
          return .done
        else go a rest false
      | none => go a rest false

/-- In a foreign element. -/
def foreignRules : Token → Build ForeignOutcome
  | .nul => do insertChar '\ufffd'; return .done
  | .char c => do
    if !Text.isMarkupSpace c then forbidFrameset
    insertChar c
    return .done
  | .comment => do insertComment; return .done
  | .startTag tag =>
    let ends := foreignEnders.contains tag.name
      || (tag.name == "font" && tag.attrs.any fun p => ["color", "face", "size"].contains p.1)
    if ends then leaveForeign else startForeign tag
  | .endTag tag =>
    if tag.name == "br" || tag.name == "p" then leaveForeign else endForeign tag.name
  | _ => return .done

end WidgetTemplates.Markup.Build
