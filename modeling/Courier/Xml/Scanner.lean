import Courier.Text.Blank
import Courier.Text.Utf8

/-!
XML as a row of tokens: tags, texts and everything else, in the order of the document. Texts lose the
blanks at both ends, and blank texts are passed over. End tags must match start tags; at the first fault
the row ends.
-/
namespace Courier.Xml

inductive Fault where
  | unknownMarkup | unclosedTag | unclosedInstruction | unclosedComment | unclosedCdata
  | unclosedDoctype | doctypeWithoutName
  | mismatchedEnd (expected found : String)
  | unmatchedEnd (found : String)
  deriving DecidableEq, Repr

def Fault.message : Fault → String
  | unknownMarkup => "syntax error: unknown or missed symbol in markup"
  | unclosedTag => "syntax error: tag not closed: `>` not found before end of input"
  | unclosedInstruction =>
    "syntax error: processing instruction or xml declaration not closed: `?>` not found before end of input"
  | unclosedComment => "syntax error: comment not closed: `-->` not found before end of input"
  | unclosedCdata => "syntax error: CDATA not closed: `]]>` not found before end of input"
  | unclosedDoctype => "syntax error: DOCTYPE not closed: `>` not found before end of input"
  | doctypeWithoutName =>
    "ill-formed document: `<!DOCTYPE>` declaration does not contain a name of a document type"
  | mismatchedEnd expected found =>
    s!"ill-formed document: expected `</{expected}>`, but `</{found}>` was found"
  | unmatchedEnd found =>
    s!"ill-formed document: close tag `</{found}>` does not match any open tag"

inductive Token where
  | opening (name : Bytes)
  | closing
  /-- A text as it is written. -/
  | text (raw : Bytes)
  /-- A tag without content, a comment, a section, an instruction or a declaration. -/
  | other
  | broken (fault : Fault)
  deriving DecidableEq, Repr

/-- The quotes a tag is read in. -/
inductive Quote where
  | outside | single | double
  deriving DecidableEq, Repr

/-- Cuts a tag at its `>`; inside quotes a `>` does not end it. -/
def splitTag : Quote → Bytes → Option (Bytes × Bytes)
  | _, [] => none
  | quote, b :: rest =>
    if quote = .outside && b == 0x3e then some ([], rest)
    else
      let quote :=
        match quote with
        | .outside => if b == 0x27 then .single else if b == 0x22 then .double else .outside
        | .single => if b == 0x27 then .outside else .single
        | .double => if b == 0x22 then .outside else .double
      (splitTag quote rest).map fun (tag, rest) => (b :: tag, rest)

/-- Cuts at the first place where `stop` comes, both without `stop`. -/
def splitBefore (stop : Bytes) : Bytes → Option (Bytes × Bytes)
  | [] => none
  | b :: rest =>
    if stop.isPrefixOf (b :: rest) then some ([], (b :: rest).drop stop.length)
    else (splitBefore stop rest).map fun (before, rest) => (b :: before, rest)

/-- Cuts a document type at the `>` that belongs to its `<`. -/
def splitDoctype : (depth : Nat) → Bytes → Option (Bytes × Bytes)
  | _, [] => none
  | depth, b :: rest =>
    if b == 0x3e && depth = 0 then some ([], rest)
    else
      let depth := if b == 0x3c then depth + 1 else if b == 0x3e then depth - 1 else depth
      (splitDoctype depth rest).map fun (before, rest) => (b :: before, rest)

def ascii (text : String) : Bytes := text.toList.map fun c => UInt8.ofNat c.toNat

def trimEnd (bytes : Bytes) : Bytes :=
  (bytes.reverse.dropWhile Text.isMarkupBlank).reverse

def tagName (tag : Bytes) : Bytes := tag.takeWhile fun b => !Text.isMarkupBlank b

/-- The part of a name after its namespace. -/
def localName (name : Bytes) : Bytes :=
  match name.dropWhile (· != 0x3a) with
  | _ :: rest => rest
  | [] => name

/-- Bytes as a text for messages; what is not UTF-8 is left out as a whole. -/
def shown (bytes : Bytes) : String := (Text.ofUtf8? bytes).getD ""

/-- One step after `<!`: a comment, a section or a document type. -/
def scanBang (rest : Bytes) : Except Fault Bytes :=
  match rest with
  | 0x5b :: _ =>
    match splitBefore (ascii "]]>") rest with
    | some (_, after) =>
      if (ascii "[CDATA[").isPrefixOf rest then .ok after else .error .unclosedCdata
    | none => .error .unclosedCdata
  | 0x2d :: _ =>
    match splitBefore (ascii "-->") (rest.drop 2) with
    | some (_, after) =>
      if (ascii "--").isPrefixOf rest then .ok after else .error .unclosedComment
    | none => .error .unclosedComment
  | b :: _ =>
    if b == 0x44 || b == 0x64 then
      match splitDoctype 0 rest with
      | some (content, after) =>
        let word := (content.take 7).map fun b => if 0x61 ≤ b && b ≤ 0x7a then b - 0x20 else b
        if word != ascii "DOCTYPE" then .error .unclosedDoctype
        else if (content.drop 7).all Text.isMarkupBlank then .error .doctypeWithoutName
        else .ok after
      | none => .error .unclosedDoctype
    else .error .unknownMarkup
  | [] => .error .unknownMarkup

/-- One step after `<?`. -/
def scanInstruction (rest : Bytes) : Except Fault Bytes :=
  match rest with
  | 0x3e :: _ => .error .unclosedInstruction
  | _ =>
    match splitBefore (ascii "?>") rest with
    | some (_, after) => .ok after
    | none => .error .unclosedInstruction

/-- One step after `</`: the end tag of the element opened last. -/
def scanEnd (opened : List Bytes) (rest : Bytes) : Except Fault (List Bytes × Bytes) :=
  match splitTag .outside rest with
  | none => .error .unclosedTag
  | some (tag, after) =>
    let name := if tag.all Text.isMarkupBlank then tag else trimEnd tag
    match opened with
    | expected :: opened =>
      if name = expected then .ok (opened, after)
      else .error (.mismatchedEnd (shown expected) (shown name))
    | [] => .error (.unmatchedEnd (shown name))

/-- One step after `<` and before a name: whether the tag has content, its name, and the rest. -/
def scanStart (rest : Bytes) : Except Fault (Bool × Bytes × Bytes) :=
  match splitTag .outside rest with
  | none => .error .unclosedTag
  | some (tag, after) => .ok (tag.getLast? != some 0x2f, tagName tag, after)

/-- The tokens of what is left of a document, inside the elements `opened`, the innermost first; `fuel`
is more than the bytes left. -/
def scan : Nat → List Bytes → Bytes → List Token
  | 0, _, _ => []
  | fuel + 1, opened, bytes =>
    match bytes.dropWhile Text.isMarkupBlank with
    | [] => []
    | 0x3c :: rest =>
      match rest with
      | [] => [.broken .unclosedTag]
      | 0x21 :: rest =>
        match scanBang rest with
        | .ok after => .other :: scan fuel opened after
        | .error fault => [.broken fault]
      | 0x2f :: rest =>
        match scanEnd opened rest with
        | .ok (opened, after) => .closing :: scan fuel opened after
        | .error fault => [.broken fault]
      | 0x3f :: rest =>
        match scanInstruction rest with
        | .ok after => .other :: scan fuel opened after
        | .error fault => [.broken fault]
      | _ =>
        match scanStart rest with
        | .ok (true, name, after) => .opening name :: scan fuel (name :: opened) after
        | .ok (false, _, after) => .other :: scan fuel opened after
        | .error fault => [.broken fault]
    | text =>
      let raw := text.takeWhile (· != 0x3c)
      .text (trimEnd raw) :: scan fuel opened (text.drop raw.length)

/-- The tokens of a document; a byte order mark before it does not count. -/
def tokens (document : Bytes) : List Token :=
  match document with
  | 0xef :: 0xbb :: 0xbf :: rest => scan (rest.length + 1) [] rest
  | _ => scan (document.length + 1) [] document

end Courier.Xml
