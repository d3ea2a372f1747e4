import LinkGate.Markdown.Source

/-!
# Raw HTML

Tags, comments, declarations, processing instructions and character-data sections, as they are
recognised inside a line of text, and the beginnings of HTML blocks. Where a tag may run over
several lines, `newline` gives the position at which the text of the next line begins, past the
markers of the containers around it; where it may not, `newline` is absent.
-/

namespace LinkGate.Markdown

/-! ## Tags -/

abbrev LineBreak := Option (Nat → Nat)

namespace Source

def skipBlanksAcross (s : Source) (newline : LineBreak) (i : Nat) : Option Nat :=
  go (s.stop + 1) i
where
  go : Nat → Nat → Option Nat
    | 0, _ => none
    | fuel + 1, i =>
      let j := s.skipWhile isLineBlank i
      match s.get? j, s.lineEnd? j with
      | some _, some next => newline.bind fun resume => go fuel (resume next)
      | _, _ => some j

def quotedValueEnd? (s : Source) (newline : LineBreak) (quote : Char) (i : Nat) : Option Nat :=
  go (s.stop + 1) i
where
  go : Nat → Nat → Option Nat
    | 0, _ => none
    | fuel + 1, i =>
      match s.get? i with
      | none => none
      | some c =>
        if c = quote then some (i + 1)
        else match s.lineEnd? i with
          | some next => newline.bind fun resume => go fuel (resume next)
          | none => go fuel (i + 1)

def isPlainValueChar (c : Char) : Bool :=
  !(c == '\'' || c == '"' || c == ' ' || c == '=' || c == '>' || c == '<' || c == '\x60' ||
    c == '\n' || c == '\r')

def attributeValueEnd? (s : Source) (newline : LineBreak) (i : Nat) : Option Nat :=
  match s.get? i with
  | none => none
  | some c =>
    if c == '"' || c == '\'' then s.quotedValueEnd? newline c (i + 1)
    else if isPlainValueChar c then some (s.skipWhile isPlainValueChar i)
    else none

def attributeEnd? (s : Source) (newline : LineBreak) (i : Nat) : Option Nat :=
  if s.is i fun c => c.isAlpha || c == '_' || c == ':' then
    let nameEnd := s.skipWhile
      (fun c => c.isAlphanum || c == '_' || c == '.' || c == ':' || c == '-') (i + 1)
    (s.skipBlanksAcross newline nameEnd).bind fun j =>
      if s.get? j = some '=' then
        (s.skipBlanksAcross newline (j + 1)).bind fun k => s.attributeValueEnd? newline k
      else some j
  else none

/-- The position of the `/` or `>` that follows the attributes of an opening tag. -/
def attributesEnd? (s : Source) (newline : LineBreak) (i : Nat) : Option Nat :=
  go (s.stop + 1) i
where
  go : Nat → Nat → Option Nat
    | 0, _ => none
    | fuel + 1, i =>
      (s.skipBlanksAcross newline i).bind fun j =>
        if s.is j fun c => c == '/' || c == '>' then some j
        else if i = j then none
        else (s.attributeEnd? newline j).bind (go fuel)

def tagEnd? (s : Source) (newline : LineBreak) (i : Nat) : Option Nat :=
  let isClosing := s.get? (i + 1) == some '/'
  let nameStart := if isClosing then i + 2 else i + 1
  if s.is nameStart Char.isAlpha then
    let nameEnd := s.skipWhile isNameChar nameStart
    let finish := fun j =>
      let j := s.skipWhile isLineBlank j
      let j := if isClosing then j else s.skipChar '/' j
      if s.get? j = some '>' then some (j + 1) else none
    if isClosing then finish nameEnd
    else (s.attributesEnd? newline nameEnd).bind finish
  else none

/-! ## Comments, declarations and instructions -/

/-- The position after a comment whose `<!-` has been read: more hyphens, no `>` next, and then
text up to the first `--`, which a `>` must follow. -/
def commentEnd? (s : Source) (i : Nat) : Option Nat :=
  let j := s.skipWhile (· == '-') i
  if i = j || s.get? j = some '>' then none else go (s.stop + 1) j
where
  go : Nat → Nat → Option Nat
    | 0, _ => none
    | fuel + 1, i =>
      let j := s.skipWhile (· != '-') i
      if s.get? j = none then none
      else if s.get? (j + 1) = some '-' then
        if s.get? (j + 2) = some '>' then some (j + 3) else none
      else go fuel (j + 1)

/-- The position after a comment, a character-data section or a declaration whose `<!` has been
read. A character-data section ends at its first row of `]`, which a `>` must follow. -/
def markupDeclarationEnd? (s : Source) (i : Nat) : Option Nat :=
  match s.get? i with
  | some '-' => s.commentEnd? (i + 1)
  | some '[' =>
    if s.startsWith (i + 1) "CDATA[" then
      let j := s.skipWhile (· != ']') (i + 7)
      let k := s.skipWhile (· == ']') j
      if j < k && s.get? k = some '>' then some (k + 1) else none
    else none
  | some c =>
    if c.isUpper then
      let j := s.skipWhile Char.isUpper (i + 1)
      let k := s.skipWhile isBlank j
      if j = k then none
      else
        let l := s.skipWhile (· != '>') k
        if s.get? l = some '>' then some (l + 1) else none
    else none
  | none => none

def instructionEnd? (s : Source) (i : Nat) : Option Nat :=
  go (s.stop + 1) i
where
  go : Nat → Nat → Option Nat
    | 0, _ => none
    | fuel + 1, i =>
      let j := s.skipWhile (· != '?') i
      if s.get? j = none then none
      else if s.get? (j + 1) = some '>' then some (j + 2)
      else go fuel (j + 1)

def inlineHtmlEnd? (s : Source) (newline : LineBreak) (i : Nat) : Option Nat :=
  match s.get? i with
  | some '!' => s.markupDeclarationEnd? (i + 1)
  | some '?' => s.instructionEnd? (i + 1)
  | some _ => s.tagEnd? newline (i - 1)
  | none => none

/-! ## HTML blocks -/

def rawTextTags : List String := ["pre", "style", "script", "textarea"]

/-- After a `<`, the text that ends an HTML block which blank lines do not end. -/
def htmlBlockMark? (s : Source) (i : Nat) : Option String :=
  let rawText := rawTextTags.find? fun tag =>
    let j := i + tag.length
    s.startsWithCaseless i tag && (s.get? j).all fun c => isBlank c || c == '>'
  match rawText with
  | some tag => some ("</" ++ tag ++ ">")
  | none =>
    if s.startsWith i "!--" then some "-->"
    else if s.startsWith i "?" then some "?>"
    else if s.startsWith i "![CDATA[" then some "]]>"
    else if s.startsWith i "!" && s.is (i + 1) Char.isUpper then some ">"
    else none

/-- Tags that begin an HTML block which a blank line ends. -/
def blockTags : List String :=
  ["address", "article", "aside", "base", "basefont", "blockquote", "body", "caption", "center",
   "col", "colgroup", "dd", "details", "dialog", "dir", "div", "dl", "dt", "fieldset",
   "figcaption", "figure", "footer", "form", "frame", "frameset", "h1", "h2", "h3", "h4", "h5",
   "h6", "head", "header", "hr", "html", "iframe", "legend", "li", "link", "main", "menu",
   "menuitem", "nav", "noframes", "ol", "optgroup", "option", "p", "param", "section", "source",
   "summary", "table", "tbody", "td", "tfoot", "th", "thead", "title", "tr", "track", "ul"]

def startsBlockTag (s : Source) (i : Nat) : Bool :=
  let start := s.skipChar '/' i
  let stop := s.skipWhile Char.isAlphanum start
  blockTags.contains (s.slice start stop).toLower &&
    ((s.get? stop).all fun c => c == ' ' || c == '\t' || c == '\r' || c == '\n' || c == '>') ||
  blockTags.contains (s.slice start stop).toLower && s.startsWith stop "/>"

/-- Whether a complete tag stands alone on the line that begins with the `<` at `i`. -/
def isLoneTagLine (s : Source) (i : Nat) : Bool :=
  (s.tagEnd? none i).any fun j => (s.blankLine? j).isSome

def startsInterruptingHtml (s : Source) (i : Nat) : Bool :=
  s.get? i == some '<' && ((s.htmlBlockMark? (i + 1)).isSome || s.startsBlockTag (i + 1))

end Source

end LinkGate.Markdown
