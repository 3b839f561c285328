/-!
# Attribute names

The attributes that HTML5, SVG 1.1, MathML 3 and WAI-ARIA define, in lower case and spelled as in a selector: a
colon is escaped.
-/

namespace SelectorSyntax.Vocabulary

def htmlAttributes : List String :=
  ["accept", "accept-charset", "accesskey", "action", "align", "alt", "async", "autocomplete", "autofocus",
    "autoplay", "autosave", "bgcolor", "border", "buffered", "challenge", "charset", "checked", "cite",
    "class", "code", "codebase", "color", "cols", "colspan", "content", "contenteditable", "contextmenu",
    "controls", "coords", "data", "datetime", "default", "defer", "dir", "dirname", "disabled", "download",
    "draggable", "dropzone", "enctype", "for", "form", "formaction", "headers", "height", "hidden", "high",
    "href", "hreflang", "http-equiv", "icon", "id", "ismap", "itemprop", "keytype", "kind", "label", "lang",
    "language", "list", "loop", "low", "manifest", "max", "maxlength", "media", "method", "min", "multiple",
    "muted", "name", "novalidate", "open", "optimum", "pattern", "ping", "placeholder", "poster", "preload",
    "radiogroup", "readonly", "rel", "required", "reversed", "role", "rows", "rowspan", "sandbox", "scope",
    "scoped", "seamless", "selected", "shape", "size", "sizes", "span", "spellcheck", "src", "srcdoc",
    "srclang", "srcset", "start", "step", "style", "summary", "tabindex", "target", "title", "type", "usemap",
    "value", "width", "wrap"]

def svgAttributes : List String :=
  ["accent-height", "accumulate", "additive", "alignment-baseline", "allowreorder", "alphabetic", "amplitude",
    "arabic-form", "ascent", "attributename", "attributetype", "autoreverse", "azimuth", "basefrequency",
    "baseline-shift", "baseprofile", "bbox", "begin", "bias", "by", "calcmode", "cap-height", "class", "clip",
    "clippathunits", "clip-path", "clip-rule", "color", "color-interpolation", "color-interpolation-filters",
    "color-profile", "color-rendering", "contentscripttype", "contentstyletype", "cursor", "cx", "cy", "d",
    "decelerate", "descent", "diffuseconstant", "direction", "display", "divisor", "dominant-baseline", "dur",
    "dx", "dy", "edgemode", "elevation", "enable-background", "end", "exponent", "externalresourcesrequired",
    "fill", "fill-opacity", "fill-rule", "filter", "filterres", "filterunits", "flood-color", "flood-opacity",
    "font-family", "font-size", "font-size-adjust", "font-stretch", "font-style", "font-variant",
    "font-weight", "format", "from", "fx", "fy", "g1", "g2", "glyph-name", "glyph-orientation-horizontal",
    "glyph-orientation-vertical", "glyphref", "gradienttransform", "gradientunits", "hanging", "height",
    "horiz-adv-x", "horiz-origin-x", "id", "ideographic", "image-rendering", "in", "in2", "intercept", "k",
    "k1", "k2", "k3", "k4", "kernelmatrix", "kernelunitlength", "kerning", "keypoints", "keysplines",
    "keytimes", "lang", "lengthadjust", "letter-spacing", "lighting-color", "limitingconeangle", "local",
    "marker-end", "marker-mid", "marker-start", "markerheight", "markerunits", "markerwidth", "mask",
    "maskcontentunits", "maskunits", "mathematical", "max", "media", "method", "min", "mode", "name",
    "numoctaves", "offset", "onabort", "onactivate", "onbegin", "onclick", "onend", "onerror", "onfocusin",
    "onfocusout", "onload", "onmousedown", "onmousemove", "onmouseout", "onmouseover", "onmouseup",
    "onrepeat", "onresize", "onscroll", "onunload", "onzoom", "opacity", "operator", "order", "orient",
    "orientation", "origin", "overflow", "overline-position", "overline-thickness", "panose-1", "paint-order",
    "pathlength", "patterncontentunits", "patterntransform", "patternunits", "pointer-events", "points",
    "pointsatx", "pointsaty", "pointsatz", "preservealpha", "preserveaspectratio", "primitiveunits", "r",
    "radius", "refx", "refy", "rendering-intent", "repeatcount", "repeatdur", "requiredextensions",
    "requiredfeatures", "restart", "result", "rotate", "rx", "ry", "scale", "seed", "shape-rendering",
    "slope", "spacing", "specularconstant", "specularexponent", "speed", "spreadmethod", "startoffset",
    "stddeviation", "stemh", "stemv", "stitchtiles", "stop-color", "stop-opacity", "strikethrough-position",
    "strikethrough-thickness", "string", "stroke", "stroke-dasharray", "stroke-dashoffset", "stroke-linecap",
    "stroke-linejoin", "stroke-miterlimit", "stroke-opacity", "stroke-width", "style", "surfacescale",
    "systemlanguage", "tablevalues", "target", "targetx", "targety", "text-anchor", "text-decoration",
    "text-rendering", "textlength", "to", "transform", "type", "u1", "u2", "underline-position",
    "underline-thickness", "unicode", "unicode-bidi", "unicode-range", "units-per-em", "v-alphabetic",
    "v-hanging", "v-ideographic", "v-mathematical", "values", "version", "vert-adv-y", "vert-origin-x",
    "vert-origin-y", "viewbox", "viewtarget", "visibility", "width", "widths", "word-spacing", "writing-mode",
    "x", "x-height", "x1", "x2", "xchannelselector", "xlink\\:actuate", "xlink\\:arcrole", "xlink\\:href",
    "xlink\\:role", "xlink\\:show", "xlink\\:title", "xlink\\:type", "xml\\:base", "xml\\:lang",
    "xml\\:space", "y", "y1", "y2", "ychannelselector", "z", "zoomandpan"]

def mathAttributes : List String :=
  ["accent", "accentunder", "actiontype", "align", "alignmentscope", "altimg", "altimg-width",
    "altimg-height", "altimg-valign", "alttext", "bevelled", "charalign", "close", "columnalign",
    "columnlines", "columnspacing", "columnspan", "columnwidth", "crossout", "decimalpoint", "denomalign",
    "depth", "dir", "display", "displaystyle", "edge", "equalcolumns", "equalrows", "fence", "form", "frame",
    "framespacing", "groupalign", "height", "href", "id", "indentalign", "indentalignfirst",
    "indentalignlast", "indentshift", "indentshiftfirst", "indentshiftlast", "indenttarget",
    "infixlinebreakstyle", "largeop", "length", "linebreak", "linebreakmultchar", "linebreakstyle",
    "lineleading", "linethickness", "location", "longdivstyle", "lspace", "lquote", "mathbackground",
    "mathcolor", "mathsize", "mathvariant", "maxsize", "minlabelspacing", "minsize", "movablelimits",
    "notation", "numalign", "open", "overflow", "position", "rowalign", "rowlines", "rowspacing", "rowspan",
    "rspace", "rquote", "scriptlevel", "scriptminsize", "scriptsizemultiplier", "selection", "separator",
    "separators", "shift", "side", "src", "stackalign", "stretchy", "subscriptshift", "supscriptshift",
    "symmetric", "voffset", "width", "xlink\\:href", "xmlns"]

def ariaAttributes : List String :=
  ["aria-activedescendant", "aria-atomic", "aria-autocomplete", "aria-busy", "aria-checked", "aria-controls",
    "aria-describedby", "aria-disabled", "aria-dropeffect", "aria-expanded", "aria-flowto", "aria-grabbed",
    "aria-haspopup", "aria-hidden", "aria-invalid", "aria-label", "aria-labelledby", "aria-level",
    "aria-live", "aria-multiline", "aria-multiselect", "aria-orientation", "aria-owns", "aria-posinset",
    "aria-pressed", "aria-readonly", "aria-relevant", "aria-required", "aria-selected", "aria-setsize",
    "aria-sort", "aria-valuemax", "aria-valuemin", "aria-valuenow", "aria-valuetext"]

end SelectorSyntax.Vocabulary
