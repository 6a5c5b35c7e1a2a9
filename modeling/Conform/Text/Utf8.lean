/-!
# UTF-8

Decoding bytes to text, with the place of the first fault. Only the shortest encoding of a code
point counts, and surrogates are no code points.

## Main definitions

- `Utf8.decode` — the characters, or how many bytes precede the first fault
- `Utf8.encode` — the bytes of a text
-/

namespace Conform.Utf8

/-- Whether a byte continues a character. -/
def isContinuation (b : UInt8) : Bool := b.toNat / 64 == 2

/-- The payload of a continuation byte. -/
def payload (b : UInt8) : Nat := b.toNat % 64

/-- The character of a code point that a two-, three- or four-byte form may encode: at least
    `least`, and no surrogate. -/
def character? (least n : Nat) : Option Char :=
  if h : least ≤ n ∧ n.isValidChar then some (Char.ofNatAux n h.2) else none

/-- Puts a character of `size` bytes before a decoded rest. -/
def prepend (c : Char) (size : Nat) : Except Nat (List Char) → Except Nat (List Char)
  | .ok cs => .ok (c :: cs)
  | .error n => .error (size + n)

/-- The characters that the bytes encode, or how many bytes precede the first fault. -/
def decode : List UInt8 → Except Nat (List Char)
  | [] => .ok []
  | a :: rest =>
    if a.toNat < 128 then prepend (Char.ofNat a.toNat) 1 (decode rest)
    else match rest with
      | [] => .error 0
      | b :: rest =>
        if !isContinuation b then .error 0
        else if a.toNat / 32 = 6 then
          match character? 128 (a.toNat % 32 * 64 + payload b) with
          | some c => prepend c 2 (decode rest)
          | none => .error 0
        else match rest with
          | [] => .error 0
          | d :: rest =>
            if !isContinuation d then .error 0
            else if a.toNat / 16 = 14 then
              match character? 2048 ((a.toNat % 16 * 64 + payload b) * 64 + payload d) with
              | some c => prepend c 3 (decode rest)
              | none => .error 0
            else match rest with
              | [] => .error 0
              | e :: rest =>
                if !isContinuation e then .error 0
                else if a.toNat / 8 = 30 then
                  match character? 65536
                    (((a.toNat % 8 * 64 + payload b) * 64 + payload d) * 64 + payload e) with
                  | some c => prepend c 4 (decode rest)
                  | none => .error 0
                else .error 0

/-- The bytes of a text. -/
def encode (s : String) : List UInt8 := s.toList.flatMap String.utf8EncodeChar

end Conform.Utf8
