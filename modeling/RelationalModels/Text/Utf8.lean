import RelationalModels.Text.Digit

/-!
# UTF-8

`Utf8.decode` reads a byte sequence as text. Where the bytes are not well formed it reports the
first offending sequence and what is wrong with it: a byte that starts no character, a sequence
that breaks off before the right number of continuation bytes, or the end of the data.
-/

namespace RelationalModels.Text.Utf8

inductive Fault where
  | invalidStart
  | invalidContinuation
  | unexpectedEnd
  deriving DecidableEq

def Fault.message : Fault → String
  | .invalidStart => "invalid start byte"
  | .invalidContinuation => "invalid continuation byte"
  | .unexpectedEnd => "unexpected end of data"

structure DecodeError where
  bytes : List UInt8
  first : Nat
  fault : Fault
  deriving DecidableEq

def hexByte (b : UInt8) : String :=
  String.ofList [hexDigit (b.toNat / 16), hexDigit (b.toNat % 16)]

def DecodeError.message (e : DecodeError) : String :=
  let start := "'utf-8' codec can't decode "
  let place :=
    match e.bytes with
    | [b] => "byte 0x" ++ hexByte b ++ " in position " ++ toString e.first
    | bs => "bytes in position " ++ toString e.first ++ "-" ++ toString (e.first + bs.length - 1)
  start ++ place ++ ": " ++ e.fault.message

def isContinuation (b : UInt8) : Bool := b.toNat / 64 == 2

structure Lead where
  count : Nat
  bits : Nat
  /-- The least second byte. -/
  least : Nat
  greatest : Nat

def lead? (b : UInt8) : Option Lead :=
  let n := b.toNat
  if n < 0x80 then some ⟨0, n, 0, 0⟩
  else if n < 0xC2 then none
  else if n < 0xE0 then some ⟨1, n - 0xC0, 0x80, 0xBF⟩
  else if n = 0xE0 then some ⟨2, 0, 0xA0, 0xBF⟩
  else if n = 0xED then some ⟨2, 13, 0x80, 0x9F⟩
  else if n < 0xF0 then some ⟨2, n - 0xE0, 0x80, 0xBF⟩
  else if n = 0xF0 then some ⟨3, 0, 0x90, 0xBF⟩
  else if n < 0xF4 then some ⟨3, n - 0xF0, 0x80, 0xBF⟩
  else if n = 0xF4 then some ⟨3, 4, 0x80, 0x8F⟩
  else none

/-- The longest run of bytes that can follow a first byte. -/
def continuation (l : Lead) : List UInt8 → List UInt8
  | [] => []
  | b :: rest =>
    if l.count = 0 then []
    else if l.least ≤ b.toNat ∧ b.toNat ≤ l.greatest then
      b :: (rest.take (l.count - 1)).takeWhile isContinuation
    else []

def decodeChar (first : Nat) (b : UInt8) (rest : List UInt8) : Except DecodeError (Char × Nat) :=
  match lead? b with
  | none => .error ⟨[b], first, .invalidStart⟩
  | some l =>
    let tail := continuation l rest
    if tail.length = l.count then
      .ok (Char.ofNat (tail.foldl (fun n c => 64 * n + c.toNat % 64) l.bits), l.count + 1)
    else if tail.length = rest.length then .error ⟨b :: tail, first, .unexpectedEnd⟩
    else .error ⟨b :: tail, first, .invalidContinuation⟩

/-- The characters of the bytes from position `first` on; `skip` bytes are already taken. -/
def decodeFrom : (first skip : Nat) → List UInt8 → Except DecodeError (List Char)
  | _, _, [] => .ok []
  | first, skip + 1, _ :: rest => decodeFrom (first + 1) skip rest
  | first, 0, b :: rest =>
    match decodeChar first b rest with
    | .error e => .error e
    | .ok (c, size) =>
      match decodeFrom (first + 1) (size - 1) rest with
      | .error e => .error e
      | .ok cs => .ok (c :: cs)

/--
The characters of the bytes, with a replacement character for every sequence that could not be
decoded; `skip` bytes are already taken.
-/
def decodeLossy : (skip : Nat) → List UInt8 → List Char
  | _, [] => []
  | skip + 1, _ :: rest => decodeLossy skip rest
  | 0, b :: rest =>
    match decodeChar 0 b rest with
    | .error e => Char.ofNat 0xFFFD :: decodeLossy (e.bytes.length - 1) rest
    | .ok (c, size) => c :: decodeLossy (size - 1) rest

def decode (bytes : List UInt8) : Except DecodeError String :=
  match decodeFrom 0 0 bytes with
  | .error e => .error e
  | .ok cs => .ok (String.ofList cs)

end RelationalModels.Text.Utf8
