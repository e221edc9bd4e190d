import CitationFile.Yaml.Cursor

namespace CitationFile.Yaml

inductive Defect where
  | anchorName
  | blockEntryPlace
  | blockEntryMissing
  | blockKeyMissing
  | blockScalarTab
  | commentOrBreakMissing
  | directiveName
  | directiveNameEnd
  | documentIndicator
  | documentStartMissing
  | duplicateTagDirective
  | duplicateVersionDirective
  | endOfStream
  | escapeCode
  | escapeCharacter
  | flowMappingMark
  | flowSequenceMark
  | hexadecimalNumber
  | incompatibleVersion
  | keyPlace
  | nodeContentMissing
  | plainScalarColon
  | plainScalarTab
  | simpleKeyColon
  | tagEnd
  | tagHandleMark
  | tagUri
  | tagUriEscape
  | tagUriLeadingOctet
  | tagUriTrailingOctet
  | tokenStart
  | undefinedTagHandle
  | unknownDirective
  | valuePlace
  | verbatimTagEnd
  | versionNumber
  | versionNumberLength
  | versionPoint
  | whitespaceMissing
  | zeroIndentation
deriving DecidableEq, Repr

def Defect.text : Defect → String
  | .anchorName => "did not find expected alphabetic or numeric character"
  | .blockEntryPlace => "block sequence entries are not allowed in this context"
  | .blockEntryMissing => "did not find expected '-' indicator"
  | .blockKeyMissing => "did not find expected key"
  | .blockScalarTab => "found a tab character where an indentation space is expected"
  | .commentOrBreakMissing => "did not find expected comment or line break"
  | .directiveName => "could not find expected directive name"
  | .directiveNameEnd => "found unexpected non-alphabetical character"
  | .documentIndicator => "found unexpected document indicator"
  | .documentStartMissing => "did not find expected <document start>"
  | .duplicateTagDirective => "found duplicate %TAG directive"
  | .duplicateVersionDirective => "found duplicate %YAML directive"
  | .endOfStream => "found unexpected end of stream"
  | .escapeCode => "found invalid Unicode character escape code"
  | .escapeCharacter => "found unknown escape character"
  | .flowMappingMark => "did not find expected ',' or '\x7d'"
  | .flowSequenceMark => "did not find expected ',' or ']'"
  | .hexadecimalNumber => "did not find expected hexdecimal number"
  | .incompatibleVersion => "found incompatible YAML document"
  | .keyPlace => "mapping keys are not allowed in this context"
  | .nodeContentMissing => "did not find expected node content"
  | .plainScalarColon => "found unexpected ':'"
  | .plainScalarTab => "found a tab character that violates indentation"
  | .simpleKeyColon => "could not find expected ':'"
  | .tagEnd => "did not find expected whitespace or line break"
  | .tagHandleMark => "did not find expected '!'"
  | .tagUri => "did not find expected tag URI"
  | .tagUriEscape => "did not find URI escaped octet"
  | .tagUriLeadingOctet => "found an incorrect leading UTF-8 octet"
  | .tagUriTrailingOctet => "found an incorrect trailing UTF-8 octet"
  | .tokenStart => "found character that cannot start any token"
  | .undefinedTagHandle => "found undefined tag handle"
  | .unknownDirective => "found unknown directive name"
  | .valuePlace => "mapping values are not allowed in this context"
  | .verbatimTagEnd => "did not find the expected '>'"
  | .versionNumber => "did not find expected version number"
  | .versionNumberLength => "found extremely long version number"
  | .versionPoint => "did not find expected digit or '.' character"
  | .whitespaceMissing => "did not find expected whitespace"
  | .zeroIndentation => "found an indentation indicator equal to 0"

inductive Activity where
  | aliasName
  | anchorName
  | blockCollection
  | blockMapping
  | blockNode
  | blockScalar
  | directive
  | escape
  | flowMapping
  | flowNode
  | flowSequence
  | nextToken
  | node
  | plainScalar
  | quotedScalar
  | simpleKey
  | tag
  | tagDirective
  | tagDirectiveHandle
  | tagDirectiveHandleEnd
  | tagDirectiveUri
  | tagUri
  | versionDirective
deriving DecidableEq, Repr

def Activity.text : Activity → String
  | .aliasName => "while scanning an alias"
  | .anchorName => "while scanning an anchor"
  | .blockCollection => "while parsing a block collection"
  | .blockMapping => "while parsing a block mapping"
  | .blockNode => "while parsing a block node"
  | .blockScalar => "while scanning a block scalar"
  | .directive => "while scanning a directive"
  | .escape => "while parsing a quoted scalar"
  | .flowMapping => "while parsing a flow mapping"
  | .flowNode => "while parsing a flow node"
  | .flowSequence => "while parsing a flow sequence"
  | .nextToken => "while scanning for the next token"
  | .node => "while parsing a node"
  | .plainScalar => "while scanning a plain scalar"
  | .quotedScalar => "while scanning a quoted scalar"
  | .simpleKey => "while scanning a simple key"
  | .tag => "while scanning a tag"
  | .tagDirective => "while scanning a %TAG directive"
  | .tagDirectiveHandle => "while scanning a tag directive"
  | .tagDirectiveHandleEnd => "while parsing a tag directive"
  | .tagDirectiveUri => "while parsing a %TAG directive"
  | .tagUri => "while parsing a tag"
  | .versionDirective => "while scanning a %YAML directive"

/-- A control character is found when the text is decoded, where only bytes are counted. -/
inductive Malformed where
  | controlCharacter (offset : Nat)
  | defect (defect : Defect) (mark : Mark) (context : Option (Activity × Mark))
deriving DecidableEq, Repr

namespace Malformed

def mark : Malformed → Mark
  | .controlCharacter _ => {}
  | .defect _ mark _ => mark

/-- The place of a context is told only where it differs from that of the defect. -/
def contextText (mark : Mark) : Option (Activity × Mark) → String
  | none => ""
  | some (activity, start) =>
      ", " ++ activity.text ++
        if start.isStart || (start.line = mark.line && start.column = mark.column) then ""
        else " at " ++ start.text

def text : Malformed → String
  | .controlCharacter offset =>
      "control characters are not allowed" ++
        if offset = 0 then "" else " at position " ++ offset.repr
  | .defect what mark context =>
      what.text ++ (if mark.isStart then "" else " at " ++ mark.text) ++
        contextText mark context

def during (defect : Defect) (mark : Mark) (activity : Activity) (start : Mark) :
    Except Malformed α :=
  .error (.defect defect mark (some (activity, start)))

end Malformed

/-- Decodes so many characters from the cursor on, as far as the text goes. -/
def Cursor.decode (cursor : Cursor) (count : Nat) : Except Malformed Unit :=
  match cursor.obstacle with
  | some obstacle =>
      if obstacle.portion < cursor.mark.index + count then
        .error (.controlCharacter obstacle.offset)
      else .ok ()
  | none => .ok ()

structure Reading (α : Type) where
  items : List α
  failure : Option Malformed
deriving Repr

end CitationFile.Yaml
