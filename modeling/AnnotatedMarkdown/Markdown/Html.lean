import AnnotatedMarkdown.Markdown.Line

/-!
# HTML blocks

A line that starts with certain tags, comments or declarations opens an HTML block.
`HtmlKind.ofContent?` recognises the opening line, and `HtmlKind.closes` the line that
ends the block.  Tag names are compared without regard to case.
-/

namespace AnnotatedMarkdown.Markdown

/-- How an HTML block starts. -/
inductive HtmlKind where
  | verbatim
  | comment
  | instruction
  | declaration
  | characterData
  | blockTag
  | soleTag
  deriving DecidableEq

/-! ## Characters -/

/-- The lower-case form of a character for the comparison of tag names, which takes in
the characters beyond ASCII that are forms of ASCII letters. -/
def foldCase (c : Char) : Char :=
  if c == '\u0130' || c == '\u0131' then 'i'
  else if c == '\u017f' then 's'
  else if c == '\u212a' then 'k'
  else c.toLower

/-- What follows a given lower-case word at the front of a text, in any case. -/
def afterFolded? : List Char → Text → Option Text
  | [], t => some t
  | c :: word, .scalar d :: t => if foldCase d = c then afterFolded? word t else none
  | _, _ => none

/-- Whether a text contains a given lower-case word, in any case. -/
def includesFolded (word : List Char) : Text → Bool
  | [] => word.isEmpty
  | c :: t => (afterFolded? word (c :: t)).isSome || includesFolded word t

/-- Whether a tag name ends before a text. -/
def nameEnds : Text → Bool
  | [] => true
  | c :: _ => c.isBlank || c == .scalar '>'

/-! ## Names -/

/-- The tags whose content is kept as it is. -/
def verbatimNames : List String :=
  ["script", "pre", "style", "textarea"]

/-- The tags that start a block. -/
def blockNames : List String :=
  ["address", "article", "aside", "base", "basefont", "blockquote", "body", "caption", "center",
    "col", "colgroup", "dd", "details", "dialog", "dir", "div", "dl", "dt", "fieldset",
    "figcaption", "figure", "footer", "form", "frame", "frameset", "h1", "h2", "h3", "h4", "h5",
    "h6", "head", "header", "hr", "html", "iframe", "legend", "li", "link", "main", "menu",
    "menuitem", "nav", "noframes", "ol", "optgroup", "option", "p", "param", "search", "section",
    "summary", "table", "tbody", "td", "tfoot", "th", "thead", "title", "tr", "track", "ul"]

/-! ## A single tag -/

/-- What follows a tag name, which starts with a letter. -/
def afterTagName? : Text → Option Text
  | .scalar c :: t =>
    if c.isAlpha then some (t.dropWhile (·.satisfies fun d => d.isAlphanum || d == '-')) else none
  | _ => none

/-- Whether a text is blank after an optional slash and a closing bracket. -/
def tagEnds (slash : Bool) (t : Text) : Bool :=
  match t.trimStart with
  | .scalar '/' :: .scalar '>' :: rest => slash && Text.isBlank rest
  | .scalar '>' :: rest => Text.isBlank rest
  | _ => false

/-- Whether a character starts an attribute name. -/
def isAttributeStart (c : Char) : Bool :=
  c.isAlpha || c == '_' || c == ':'

/-- Whether a character belongs to an attribute name. -/
def isAttributeChar (c : Char) : Bool :=
  c.isAlphanum || c == '_' || c == ':' || c == '.' || c == '-'

/-- Whether a code point may stand in an attribute value without quotes. -/
def isUnquoted (c : CodePoint) : Bool :=
  32 < c.val && !c.satisfies fun d =>
    d == '"' || d == '\'' || d == '=' || d == '<' || d == '>' || d == '\x60'

/-- What may follow an attribute value without quotes: the value is not empty, and it may
end before any code point. -/
def afterUnquoted : Text → List Text
  | [] => []
  | c :: t => if isUnquoted c then afterUnquoted t ++ [t] else []

/-- What follows a closing quote. -/
def afterQuote (quote : Char) (t : Text) : List Text :=
  match t.dropWhile (· != .scalar quote) with
  | [] => []
  | _ :: rest => [rest]

/-- What may follow an attribute value. -/
def afterValue : Text → List Text
  | .scalar '\'' :: t => afterQuote '\'' t
  | .scalar '"' :: t => afterQuote '"' t
  | t => afterUnquoted t

/-- What may follow an attribute, which starts with blanks. -/
def afterAttribute (t : Text) : List Text :=
  match t, t.trimStart with
  | c :: _, .scalar d :: rest =>
    if c.isBlank && isAttributeStart d then
      let rest : Text := rest.dropWhile (·.satisfies isAttributeChar)
      match rest.trimStart with
      | .scalar '=' :: value => afterValue (Text.trimStart value) ++ [rest]
      | _ => [rest]
    else []
  | _, _ => []

/-- Whether attributes and the end of a tag are all that a text holds.  Every attribute
takes a code point. -/
def attributesEnd : (attributes : Nat) → Text → Bool
  | 0, t => tagEnds true t
  | n + 1, t => (afterAttribute t).any (attributesEnd n) || tagEnds true t

/-- Whether a text is one opening or closing tag, blanks after it aside. -/
def isSoleTag : Text → Bool
  | .scalar '<' :: .scalar '/' :: t => (afterTagName? t).any (tagEnds false)
  | .scalar '<' :: t => (afterTagName? t).any fun rest => attributesEnd rest.length rest
  | _ => false

/-! ## Kinds -/

/-- Whether a text starts with the name of a block. -/
def startsWithBlockName (t : Text) : Bool :=
  blockNames.any fun name =>
    (afterFolded? name.toList t).any fun rest =>
      nameEnds rest || (Text.after? "/>" rest).isSome

namespace HtmlKind

/-- The kind of the block that a content opens. -/
def ofContent? (t : Text) : Option HtmlKind :=
  match t with
  | .scalar '<' :: rest =>
    if verbatimNames.any fun name => (afterFolded? name.toList rest).any nameEnds then some verbatim
    else if (Text.after? "!--" rest).isSome then some comment
    else if (Text.after? "?" rest).isSome then some instruction
    else if (Text.after? "![CDATA[" rest).isSome then some characterData
    else if (Text.after? "!" rest).any (·.head?.any (·.satisfies Char.isAlpha)) then some declaration
    else if startsWithBlockName ((Text.after? "/" rest).getD rest) then some blockTag
    else if isSoleTag t then some soleTag
    else none
  | _ => none

/-- Whether a block of a kind ends a paragraph before it. -/
def interrupts : HtmlKind → Bool
  | soleTag => false
  | _ => true

/-- Whether a content is the last one of a block of a kind; an empty one is not part of
the block itself. -/
def closes (t : Text) : HtmlKind → Bool
  | verbatim => verbatimNames.any fun name => includesFolded ('<' :: '/' :: name.toList ++ ['>']) t
  | comment => Text.occursIn "-->" t
  | instruction => Text.occursIn "?>" t
  | declaration => Text.occursIn ">" t
  | characterData => Text.occursIn "]]>" t
  | blockTag => t.isEmpty
  | soleTag => t.isEmpty

end HtmlKind

end AnnotatedMarkdown.Markdown
