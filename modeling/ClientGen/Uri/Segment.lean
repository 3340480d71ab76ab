import ClientGen.Format
import ClientGen.Uri.Template

/-!
# Segments of a relative URI

A relative URI is cut before every dot and slash and before a media type placeholder that ends it.
A segment maps to a key of the resource tree if, after one leading dot or slash, it is one
placeholder, or a text that placeholders may follow back to back.
-/

namespace ClientGen.Uri

/-- The name of the parameter that holds a media type's file extension. -/
def mediaTypeParameter : String := "mediaTypeExtension"

/-- The placeholder that stands for a media type's file extension. -/
def mediaTypePlaceholder : String := "\x7bmediaTypeExtension\x7d"

/-- Whether a new segment starts at the characters given. -/
def startsSegment (cs : List Char) : Bool :=
  cs.head? == some '.' || cs.head? == some '/' || cs == mediaTypePlaceholder.toList

/-- The segments of a relative URI: what stands between two starts of segments. -/
def splitSegments : List Char → List (List Char)
  | [] => []
  | c :: rest =>
    match splitSegments rest with
    | [] => [[c]]
    | segment :: others =>
      if startsSegment rest then [c] :: segment :: others else (c :: segment) :: others

/-- The segments of a relative URI. -/
def segments (uri : String) : List String :=
  (splitSegments uri.toList).map String.ofList

/-- The segment without a leading dot or slash. -/
def dropSeparator : List Char → List Char
  | '.' :: rest => rest
  | '/' :: rest => rest
  | cs => cs

/-- Whether a piece is a placeholder. -/
def Piece.isPlaceholder : Piece → Bool
  | .text _ => false
  | .placeholder _ => true

/-- The name that a segment goes by: that of its only placeholder, or the text before its
placeholders. -/
def segmentName? (segment : List Char) : Option (List Char) :=
  match pieces (dropSeparator segment) with
  | [.placeholder name] => some name
  | .text cs :: rest =>
    if cs.all isNameChar && rest.all Piece.isPlaceholder then some cs else none
  | _ => none

/-- The key of a segment in the resource tree. -/
def segmentKey? (format : Format) (segment : String) : Option String :=
  (segmentName? segment.toList).map fun name => format.writeName (String.ofList name)

/-- A URI as the language writes it, without slashes at its end. -/
def sanitize (format : Format) (uri : String) : String :=
  dropTrailingSlashes (format.writeUri uri)

/-- The URI of a segment relative to its parent, with numbered placeholders. -/
def relativeUri (format : Format) (segment : String) : String :=
  sanitize format (indexed segment)

end ClientGen.Uri
