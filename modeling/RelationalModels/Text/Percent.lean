import RelationalModels.Text.Utf8
import RelationalModels.Text.Word

/-!
# Percent encoding

In an address a byte may be written as a percent sign and two hexadecimal digits, and a character
stands for its bytes in UTF-8. In a query a space may also be written as a plus sign. What is
decoded need not be well formed: a percent sign without digits stands for itself, and bytes that are
no text are replaced.
-/

namespace RelationalModels.Text.Percent

/-- The characters of an encoded text; `pending` holds the bytes just before it. -/
def decodeFrom (pending : List UInt8) : List Char → List Char
  | [] => Utf8.decodeLossy 0 pending
  | '%' :: a :: b :: rest =>
    match hexDigit? a, hexDigit? b with
    | some m, some n => decodeFrom (pending ++ [UInt8.ofNat (16 * m + n)]) rest
    | _, _ => Utf8.decodeLossy 0 pending ++ '%' :: decodeFrom [] (a :: b :: rest)
  | c :: rest => Utf8.decodeLossy 0 pending ++ c :: decodeFrom [] rest

def decode (cs : List Char) : String := String.ofList (decodeFrom [] cs)

def decodeQuery (cs : List Char) : String := decode (cs.map fun c => if c = '+' then ' ' else c)

def isUnreserved (c : Char) : Bool := isAsciiWord c || "-.~".toList.contains c

def encodeByte (b : UInt8) : List Char :=
  ['%', (hexDigit (b.toNat / 16)).toUpper, (hexDigit (b.toNat % 16)).toUpper]

def encode (kept s : String) : String :=
  String.ofList (s.toList.flatMap fun c =>
    if isUnreserved c || kept.toList.contains c then [c]
    else (String.utf8EncodeChar c).flatMap encodeByte)

def encodeQuery (s : String) : String :=
  String.ofList ((encode " " s).toList.map fun c => if c = ' ' then '+' else c)

end RelationalModels.Text.Percent
