/-!
# Defaults

The factory that elements are made with, how deep templates may nest, and the properties whose
names differ from those of the attributes they stand for.
-/

namespace ElementMarkup.Defaults

/-- The factory that makes elements. -/
def factory : String := "React.createElement"

/-- How deep tags, blocks and included templates may nest. -/
def maxDepth : Nat := 64

/-- The names of attributes and of the properties they set. -/
def propertyNames : List (String × String) := [
  ("class", "className"), ("for", "htmlFor"), ("accept-charset", "acceptCharset"),
  ("accesskey", "accessKey"), ("allowfullscreen", "allowFullScreen"),
  ("autocapitalize", "autoCapitalize"), ("autocomplete", "autoComplete"),
  ("autocorrect", "autoCorrect"), ("autofocus", "autoFocus"), ("autoplay", "autoPlay"),
  ("cellpadding", "cellPadding"), ("cellspacing", "cellSpacing"), ("charset", "charSet"),
  ("classid", "classID"), ("colspan", "colSpan"), ("contenteditable", "contentEditable"),
  ("contextmenu", "contextMenu"), ("crossorigin", "crossOrigin"), ("datetime", "dateTime"),
  ("enctype", "encType"), ("formaction", "formAction"), ("formenctype", "formEncType"),
  ("formmethod", "formMethod"), ("formnovalidate", "formNoValidate"),
  ("formtarget", "formTarget"), ("frameborder", "frameBorder"), ("hreflang", "hrefLang"),
  ("http-equiv", "httpEquiv"), ("inputmode", "inputMode"), ("itemprop", "itemProp"),
  ("itemscope", "itemScope"), ("itemtype", "itemType"), ("marginheight", "marginHeight"),
  ("marginwidth", "marginWidth"), ("maxlength", "maxLength"), ("mediagroup", "mediaGroup"),
  ("minlength", "minLength"), ("novalidate", "noValidate"), ("radiogroup", "radioGroup"),
  ("readonly", "readOnly"), ("referrerpolicy", "referrerPolicy"), ("rowspan", "rowSpan"),
  ("spellcheck", "spellCheck"), ("srcdoc", "srcDoc"), ("srclang", "srcLang"),
  ("srcset", "srcSet"), ("tabindex", "tabIndex"), ("usemap", "useMap"), ("onblur", "onBlur"),
  ("onchange", "onChange"), ("onclick", "onClick"), ("oncontextmenu", "onContextMenu"),
  ("ondblclick", "onDoubleClick"), ("onfocus", "onFocus"), ("oninput", "onInput"),
  ("onkeydown", "onKeyDown"), ("onkeypress", "onKeyPress"), ("onkeyup", "onKeyUp"),
  ("onload", "onLoad"), ("onmousedown", "onMouseDown"), ("onmouseenter", "onMouseEnter"),
  ("onmouseleave", "onMouseLeave"), ("onmousemove", "onMouseMove"), ("onmouseout", "onMouseOut"),
  ("onmouseover", "onMouseOver"), ("onmouseup", "onMouseUp"), ("onscroll", "onScroll"),
  ("onsubmit", "onSubmit"), ("onwheel", "onWheel"), ("clip-path", "clipPath"),
  ("fill-opacity", "fillOpacity"), ("fill-rule", "fillRule"), ("font-family", "fontFamily"),
  ("font-size", "fontSize"), ("stop-color", "stopColor"), ("stroke-dasharray", "strokeDasharray"),
  ("stroke-linecap", "strokeLinecap"), ("stroke-linejoin", "strokeLinejoin"),
  ("stroke-width", "strokeWidth"), ("text-anchor", "textAnchor"), ("xlink:href", "xlinkHref"),
  ("xml:lang", "xmlLang")]

end ElementMarkup.Defaults
