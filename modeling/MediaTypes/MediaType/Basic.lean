import MediaTypes.MediaType.Token
import MediaTypes.Text.Ascii

/-!
# Media types

A media type without parameters is a pair of tokens, `type/subtype`. The case of both is kept.

## Main definitions

- `MediaType` — a top-level type and a subtype
- `MediaType.parse` — the media type that a text writes, or the reason why it writes none
- `MediaType.isTopLevel` — the registered top-level types and the experimental ones
-/

namespace MediaTypes

/-- A top-level type and a subtype. -/
structure MediaType where
  /-- The name before the slash. -/
  topLevel : String
  /-- The name after the slash. -/
  subtype : String
  deriving DecidableEq, Inhabited

namespace MediaType

/-- A text, or a missing one, that is not a pair of tokens with a slash between them. -/
structure NotTokenPair where
  /-- The text as it was given. -/
  text : Option String
  deriving DecidableEq

/-- The wording of the error; a missing text is shown as `None`. -/
def NotTokenPair.message (e : NotTokenPair) : String :=
  "'" ++ e.text.getD "None" ++ "' is not a valid 'type/subtype' token pair"

/-- Reads `type/subtype`. A missing text is read like the empty one. -/
def parse (text : Option String) : Except NotTokenPair MediaType :=
  match (text.getD "").toList.splitOn '/' with
  | [top, sub] =>
    if isTokenChars top && isTokenChars sub then
      .ok ⟨String.ofList top, String.ofList sub⟩
    else .error ⟨text⟩
  | _ => .error ⟨text⟩

def toText (m : MediaType) : String :=
  m.topLevel ++ "/" ++ m.subtype

def registeredTopLevels : List String :=
  ["application", "audio", "example", "image", "message", "model", "multipart", "text", "video"]

/-- A top-level type is a registered one, or experimental: `x-` with something after it. The
case of ASCII letters does not matter. -/
def isTopLevel (s : String) : Bool :=
  let name := Text.lowerAscii s
  registeredTopLevels.contains name ||
    (2 < name.length && ['x', '-'].isPrefixOf name.toList)

end MediaType

end MediaTypes
