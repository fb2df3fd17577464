import LiterateTest.Markdown.Line

/-! Markup that Markdown takes over as it is: tags, comments and the like, and addresses in
angle brackets. Each function is given what follows a `<`. -/

namespace LiterateTest.Markdown.Html

/-! ## Tags -/

inductive TagState where
  | start | name | gap | key | afterKey | beforeValue | bareValue
  | quotedValue (quote : Char)
  | afterValue | slash | endStart | endName | endGap
  deriving DecidableEq, Repr

inductive TagStep where
  | next (state : TagState)
  | finished
  | noTag
  deriving DecidableEq, Repr

namespace TagState

def isNameChar (c : Char) : Bool := c.isAlphanum || c == '-'

def isKeyStart (c : Char) : Bool := c.isAlpha || c == '_' || c == ':'

def isKeyChar (c : Char) : Bool := isKeyStart c || c.isDigit || c == '.' || c == '-'

def close (c : Char) : TagStep :=
  if c = '>' then .finished
  else if c = '/' then .next slash
  else .noTag

def step : TagState → Char → TagStep
  | start, c =>
      if c.isAlpha then .next name
      else if c = '/' then .next endStart
      else .noTag
  | name, c =>
      if isNameChar c then .next name
      else if isSpaceOrBreak c then .next gap
      else close c
  | gap, c =>
      if isSpaceOrBreak c then .next gap
      else if isKeyStart c then .next key
      else close c
  | key, c =>
      if isKeyChar c then .next key
      else if isSpaceOrBreak c then .next afterKey
      else if c = '=' then .next beforeValue
      else close c
  | afterKey, c =>
      if isSpaceOrBreak c then .next afterKey
      else if c = '=' then .next beforeValue
      else if isKeyStart c then .next key
      else close c
  | beforeValue, c =>
      if isSpaceOrBreak c then .next beforeValue
      else if c = '"' ∨ c = '\'' then .next (quotedValue c)
      else if c = '=' ∨ c = '>' ∨ c = '<' ∨ c = '\x60' then .noTag
      else .next bareValue
  | bareValue, c =>
      if c = ' ' ∨ c = '\n' then .next gap
      else if c = '>' then .finished
      else if c = '"' ∨ c = '\'' ∨ c = '=' ∨ c = '<' ∨ c = '\x60' then .noTag
      else .next bareValue
  | quotedValue quote, c => if c = quote then .next afterValue else .next (quotedValue quote)
  | afterValue, c => if isSpaceOrBreak c then .next gap else close c
  | slash, c => if c = '>' then .finished else .noTag
  | endStart, c => if c.isAlpha then .next endName else .noTag
  | endName, c =>
      if isNameChar c then .next endName
      else if isLineBlank c then .next endGap
      else if c = '>' then .finished
      else .noTag
  | endGap, c =>
      if isLineBlank c then .next endGap
      else if c = '>' then .finished
      else .noTag

end TagState

def afterTag? : TagState → List Char → Option (List Char)
  | _, [] => none
  | state, c :: rest =>
      match state.step c with
      | .next next => afterTag? next rest
      | .finished => some rest
      | .noTag => none

example : afterTag? .start "a b='c'>d".toList = some ['d'] := by decide
example : afterTag? .start "a b'c'>d".toList = none := by decide

/-! ## Markup other than tags -/

def after? (mark : List Char) : List Char → Option (List Char)
  | [] => Text.stripLead? mark []
  | c :: rest => (Text.stripLead? mark (c :: rest)).orElse fun _ => after? mark rest

def beginsWith (lead : String) (text : List Char) : Bool :=
  lead.toList.isPrefixOf text

def afterInline? (text : List Char) : Option (List Char) :=
  match text with
  | '!' :: rest =>
      if beginsWith "--" rest then after? "-->".toList rest
      else if beginsWith "[CDATA[" rest then after? "]]>".toList (rest.drop 7)
      else if (rest.head?.map Char.isAlpha).getD false then after? ['>'] rest
      else none
  | '?' :: rest => after? "?>".toList rest
  | _ => afterTag? .start text

example : afterInline? "!--> b".toList = some " b".toList := by decide

/-! ## Blocks of markup -/

def blockTags : List String :=
  ["address", "article", "aside", "base", "basefont", "blockquote", "body", "caption",
    "center", "col", "colgroup", "dd", "details", "dialog", "dir", "div", "dl", "dt",
    "fieldset", "figcaption", "figure", "footer", "form", "frame", "frameset", "h1", "h2",
    "h3", "h4", "h5", "h6", "head", "header", "hr", "html", "iframe", "legend", "li", "link",
    "main", "menu", "menuitem", "nav", "noframes", "ol", "optgroup", "option", "p", "param",
    "search", "section", "summary", "table", "tbody", "td", "tfoot", "th", "thead", "title",
    "tr", "track", "ul"]

def rawTags : List String := ["pre", "style", "script", "textarea"]

def beginsBlockTag (text : List Char) : Bool :=
  let inside := match text with
    | '/' :: rest => rest
    | rest => rest
  let name := inside.takeWhile Char.isAlphanum
  blockTags.contains (Text.lowerAscii (String.ofList name))
    && match inside.drop name.length with
      | [] => true
      | '/' :: '>' :: _ => true
      | c :: _ => c == ' ' || c == '\t' || c == '>'

def rawEnd? (text : List Char) : Option (List Char) :=
  (rawTags.find? fun tag =>
      let size := tag.length
      Text.lowerAscii (String.ofList (text.take size)) == tag
        && match text.drop size with
          | [] => true
          | c :: _ => isSpaceOrBreak c || c == '>').map
    fun tag => "</".toList ++ tag.toList ++ ['>']

def blockEnd? (text : List Char) : Option (List Char) :=
  match rawEnd? text with
  | some mark => some mark
  | none =>
      if beginsWith "!--" text then some "-->".toList
      else if beginsWith "?" text then some "?>".toList
      else if beginsWith "![CDATA[" text then some "]]>".toList
      else
        match text with
        | '!' :: c :: _ => if c.isAlpha then some ['>'] else none
        | _ => none

def isLoneTag (text : List Char) : Bool :=
  match afterTag? .start text with
  | some rest => isBlankLine rest
  | none => false

/-! ## Addresses -/

def isSchemeChar (c : Char) : Bool := c.isAlphanum || c == '.' || c == '-' || c == '+'

def splitAddress? : List Char → Option (List Char × List Char)
  | [] => none
  | '>' :: rest => some ([], rest)
  | c :: rest =>
      if c ≤ ' ' || c == '<' then none
      else (splitAddress? rest).map fun (address, after) => (c :: address, after)

def webAddress? (text : List Char) : Option (List Char × List Char) :=
  let scheme := text.takeWhile isSchemeChar
  match text, text.drop scheme.length with
  | first :: _, ':' :: rest =>
      if first.isAlpha && 2 ≤ scheme.length && scheme.length ≤ 32 then
        (splitAddress? rest).map fun (address, after) => (scheme ++ ':' :: address, after)
      else none
  | _, _ => none

def isMailboxChar (c : Char) : Bool :=
  c.isAlphanum || ".!#$%&'*+/=?^_\x60\x7b|\x7d~-".toList.contains c

def isDomainLabel (label : List Char) : Bool :=
  !label.isEmpty && label.length ≤ 63 && label.all (fun c => c.isAlphanum || c == '-')
    && label.head? != some '-' && label.getLast? != some '-'

def mailAddress? (text : List Char) : Option (List Char × List Char) :=
  let mailbox := text.takeWhile isMailboxChar
  match text.drop mailbox.length with
  | '@' :: rest =>
      let domain := rest.takeWhile fun c => c.isAlphanum || c == '-' || c == '.'
      match rest.drop domain.length with
      | '>' :: after =>
          if !mailbox.isEmpty && (Text.splitChars ['.'] domain).all isDomainLabel then
            some (mailbox ++ '@' :: domain, after)
          else none
      | _ => none
  | _ => none

def address? (text : List Char) : Option (List Char × List Char) :=
  (webAddress? text).orElse fun _ => mailAddress? text

example : address? "http://a.b> c".toList = some ("http://a.b".toList, " c".toList) := by decide
example : address? "a@b.c>".toList = some ("a@b.c".toList, []) := by decide

end LiterateTest.Markdown.Html
