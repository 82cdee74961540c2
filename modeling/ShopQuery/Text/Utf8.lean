/-!
# UTF-8

Octets and the characters they spell.

## Reading

`pieces` cuts a list of octets into characters and faulty stretches, from the left. A faulty
stretch is the longest run of octets that begins some character but cannot be continued by the
octet after it; it ends before that octet, so reading goes on there. `decode` accepts only texts
without faulty stretches and names the first one otherwise; `decodeLossy` writes U+FFFD for each.

## Writing

`encode` spells every character by its octets.
-/

namespace ShopQuery.Utf8

/-! ## 1. Pieces -/

/-- A part of an octet sequence. -/
inductive Piece where
  /-- A character, spelled in full. -/
  | char (c : Char)
  /-- Octets that no character begins with, whatever follows. -/
  | invalid (octets : Nat)
  /-- Octets that begin a character, at the end of the text. -/
  | unfinished
deriving DecidableEq, Repr

/-- An octet that continues a character. -/
def isTail (b : UInt8) : Bool := 0x80 ≤ b && b ≤ 0xBF

/-- How many octets follow a leading octet, and the least and greatest octet that may come next.
The bounds keep out overlong spellings, surrogates and values above U+10FFFF. -/
def shape (lead : UInt8) : Option (Nat × UInt8 × UInt8) :=
  if lead < 0xC2 then none
  else if lead ≤ 0xDF then some (1, 0x80, 0xBF)
  else if lead = 0xE0 then some (2, 0xA0, 0xBF)
  else if lead = 0xED then some (2, 0x80, 0x9F)
  else if lead ≤ 0xEF then some (2, 0x80, 0xBF)
  else if lead = 0xF0 then some (3, 0x90, 0xBF)
  else if lead ≤ 0xF3 then some (3, 0x80, 0xBF)
  else if lead = 0xF4 then some (3, 0x80, 0x8F)
  else none

/-- The six payload bits of a continuing octet. -/
def payload (b : UInt8) : Nat := b.toNat % 64

/-- Cuts octets into characters and faulty stretches. -/
def pieces : List UInt8 → List Piece
  | [] => []
  | a :: rest =>
    if a ≤ 0x7F then .char (Char.ofNat a.toNat) :: pieces rest
    else
      match shape a with
      | none => .invalid 1 :: pieces rest
      | some (more, least, greatest) =>
        match rest with
        | [] => [.unfinished]
        | b :: rest₁ =>
          if !(least ≤ b && b ≤ greatest) then .invalid 1 :: pieces (b :: rest₁)
          else if more = 1 then
            .char (Char.ofNat (a.toNat % 32 * 64 + payload b)) :: pieces rest₁
          else
            match rest₁ with
            | [] => [.unfinished]
            | c :: rest₂ =>
              if !isTail c then .invalid 2 :: pieces (c :: rest₂)
              else if more = 2 then
                .char (Char.ofNat ((a.toNat % 16 * 64 + payload b) * 64 + payload c)) ::
                  pieces rest₂
              else
                match rest₂ with
                | [] => [.unfinished]
                | d :: rest₃ =>
                  if !isTail d then .invalid 3 :: pieces (d :: rest₃)
                  else
                    .char (Char.ofNat
                      (((a.toNat % 8 * 64 + payload b) * 64 + payload c) * 64 + payload d)) ::
                      pieces rest₃

/-! ## 2. Texts -/

inductive Fault where
  /-- `octets` octets from position `index` on begin no character. -/
  | invalid (octets index : Nat)
  /-- The text ends inside the character that begins at position `index`. -/
  | unfinished (index : Nat)
deriving DecidableEq, Repr

def Fault.message : Fault → String
  | .invalid octets index =>
    s!"invalid utf-8 sequence of {octets} bytes from index {index}"
  | .unfinished index => s!"incomplete utf-8 byte sequence from index {index}"

/-- The characters of pieces that start at octet `index`, or the first fault. -/
def charsFrom (index : Nat) : List Piece → Except Fault (List Char)
  | [] => .ok []
  | .char c :: rest => (charsFrom (index + c.utf8Size) rest).map (c :: ·)
  | .invalid octets :: _ => .error (.invalid octets index)
  | .unfinished :: _ => .error (.unfinished index)

def decode (octets : List UInt8) : Except Fault String :=
  (charsFrom 0 (pieces octets)).map String.ofList

/-- The text that octets spell, with U+FFFD for every faulty stretch. -/
def decodeLossy (octets : List UInt8) : String :=
  String.ofList ((pieces octets).map fun
    | .char c => c
    | _ => '\uFFFD')

def encodeChars (cs : List Char) : List UInt8 := cs.flatMap String.utf8EncodeChar

def encode (text : String) : List UInt8 := encodeChars text.toList

end ShopQuery.Utf8
