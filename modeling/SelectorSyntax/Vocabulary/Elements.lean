/-!
# Element names

The elements that HTML5, SVG 1.1 and MathML 3 define, in lower case.
-/

namespace SelectorSyntax.Vocabulary

def htmlElements : List String :=
  ["a", "abbr", "address", "area", "article", "aside", "audio", "b", "base", "bdi", "bdo", "blockquote",
    "body", "br", "button", "canvas", "caption", "cite", "code", "col", "colgroup", "command", "content",
    "data", "datalist", "dd", "del", "details", "dfn", "dialog", "div", "dl", "dt", "element", "em", "embed",
    "fieldset", "figcaption", "figure", "footer", "form", "h1", "h2", "h3", "h4", "h5", "h6", "head",
    "header", "hr", "html", "i", "iframe", "image", "img", "input", "ins", "kbd", "keygen", "label", "legend",
    "li", "link", "main", "map", "mark", "menu", "menuitem", "meta", "meter", "nav", "noscript", "object",
    "ol", "optgroup", "option", "output", "p", "param", "picture", "pre", "progress", "q", "rp", "rt", "rtc",
    "ruby", "s", "samp", "script", "section", "select", "shadow", "small", "source", "span", "strong",
    "style", "sub", "summary", "sup", "table", "tbody", "td", "template", "textarea", "tfoot", "th", "thead",
    "time", "title", "tr", "track", "u", "ul", "var", "video", "wbr"]

def svgElements : List String :=
  ["a", "altglyph", "altglyphdef", "altglyphitem", "animate", "animatecolor", "animatemotion",
    "animatetransform", "circle", "clippath", "color-profile", "cursor", "defs", "desc", "ellipse", "feblend",
    "fecolormatrix", "fecomponenttransfer", "fecomposite", "feconvolvematrix", "fediffuselighting",
    "fedisplacementmap", "fedistantlight", "feflood", "fefunca", "fefuncb", "fefuncg", "fefuncr",
    "fegaussianblur", "feimage", "femerge", "femergenode", "femorphology", "feoffset", "fepointlight",
    "fespecularlighting", "fespotlight", "fetile", "feturbulence", "filter", "font", "font-face",
    "font-face-format", "font-face-name", "font-face-src", "font-face-uri", "foreignobject", "g", "glyph",
    "glyphref", "hkern", "image", "line", "lineargradient", "marker", "mask", "metadata", "missing-glyph",
    "mpath", "path", "pattern", "polygon", "polyline", "radialgradient", "rect", "script", "set", "stop",
    "style", "svg", "switch", "symbol", "text", "textpath", "title", "tref", "tspan", "use", "view", "vkern"]

def mathElements : List String :=
  ["annotation", "annotation-xml", "maction", "math", "menclose", "merror", "mfenced", "mfrac", "mglyph",
    "mi", "mlabeledtr", "mmultiscripts", "mn", "mo", "mover", "mpadded", "mphantom", "mroot", "mrow", "ms",
    "mspace", "msqrt", "mstyle", "msub", "msubsup", "msup", "mtable", "mtd", "mtext", "mtr", "munder",
    "munderover", "semantics"]

end SelectorSyntax.Vocabulary
