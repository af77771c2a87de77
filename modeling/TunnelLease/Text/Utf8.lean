/-!
# UTF-8

Text arrives as bytes.  `front` looks at the first scalar of a byte list: it is
complete, or broken at a byte that cannot stand there, or cut off by the end.
A file is decoded in blocks of 8192 bytes, as it is read: what the end of one
block cuts off waits for the next, and the end of the file cuts for good.
A broken block gives no text at all, and the place of the flaw is counted from
the bytes that were waiting when the block was read.
-/

namespace TunnelLease

namespace Text

namespace Utf8

/-- What can be wrong with the bytes of a scalar. -/
inductive Flaw where
  /-- No scalar starts with this byte. -/
  | start
  /-- A byte inside the scalar cannot stand there. -/
  | continuation
  /-- The bytes end inside the scalar. -/
  | cut
deriving DecidableEq, Repr

inductive Front where
  | nothing
  | scalar (c : Char) (rest : List UInt8)
  /-- The first `length` bytes cannot be decoded. -/
  | broken (length : Nat) (flaw : Flaw)
  /-- All bytes so far can start a scalar that needs more of them. -/
  | short

/-- Whether a byte can follow the first byte of a scalar in general. -/
def isTail (byte : UInt8) : Bool :=
  0x80 ≤ byte && byte ≤ 0xBF

/-- Whether `second` can follow the first byte `lead` of a scalar of three or four
bytes: no longer spelling than needed, no surrogate, nothing above U+10FFFF. -/
def canFollow (lead second : UInt8) : Bool :=
  (if lead = 0xE0 then 0xA0 else if lead = 0xF0 then 0x90 else 0x80) ≤ second &&
    second ≤ (if lead = 0xED then 0x9F else if lead = 0xF4 then 0x8F else 0xBF)

/-- The scalar that a lead value and the low six bits of each tail byte spell. -/
def assemble (lead : Nat) (tails : List UInt8) : Char :=
  Char.ofNat (tails.foldl (fun code byte => code * 64 + (byte.toNat - 0x80)) lead)

/-- The scalar of two bytes whose first is `lead`. -/
def frontTwo (lead : UInt8) : List UInt8 → Front
  | [] => .short
  | second :: rest =>
      if isTail second then .scalar (assemble (lead.toNat - 0xC0) [second]) rest
      else .broken 1 .continuation

/-- The scalar of three bytes whose first is `lead`. -/
def frontThree (lead : UInt8) : List UInt8 → Front
  | [] => .short
  | second :: rest =>
      if canFollow lead second then
        match rest with
        | [] => .short
        | third :: rest =>
            if isTail third then
              .scalar (assemble (lead.toNat - 0xE0) [second, third]) rest
            else .broken 2 .continuation
      else .broken 1 .continuation

/-- The scalar of four bytes whose first is `lead`. -/
def frontFour (lead : UInt8) : List UInt8 → Front
  | [] => .short
  | second :: rest =>
      if canFollow lead second then
        match rest with
        | [] => .short
        | third :: rest =>
            if isTail third then
              match rest with
              | [] => .short
              | fourth :: rest =>
                  if isTail fourth then
                    .scalar (assemble (lead.toNat - 0xF0) [second, third, fourth]) rest
                  else .broken 3 .continuation
            else .broken 2 .continuation
      else .broken 1 .continuation

def front : List UInt8 → Front
  | [] => .nothing
  | lead :: rest =>
      if lead.toNat < 0x80 then .scalar (Char.ofNat lead.toNat) rest
      else if lead.toNat < 0xC2 then .broken 1 .start
      else if lead.toNat < 0xE0 then frontTwo lead rest
      else if lead.toNat < 0xF0 then frontThree lead rest
      else if lead.toNat < 0xF5 then frontFour lead rest
      else .broken 1 .start

theorem frontTwo_scalar_length {lead : UInt8} {bytes rest : List UInt8} {c : Char}
    (complete : frontTwo lead bytes = .scalar c rest) : rest.length ≤ bytes.length := by
  rcases bytes with _ | ⟨second, following⟩ <;> grind [frontTwo]

theorem frontThree_scalar_length {lead : UInt8} {bytes rest : List UInt8} {c : Char}
    (complete : frontThree lead bytes = .scalar c rest) : rest.length ≤ bytes.length := by
  rcases bytes with _ | ⟨second, _ | ⟨third, following⟩⟩ <;> grind [frontThree]

theorem frontFour_scalar_length {lead : UInt8} {bytes rest : List UInt8} {c : Char}
    (complete : frontFour lead bytes = .scalar c rest) : rest.length ≤ bytes.length := by
  rcases bytes with _ | ⟨second, _ | ⟨third, _ | ⟨fourth, following⟩⟩⟩ <;> grind [frontFour]

theorem front_scalar_length {bytes rest : List UInt8} {c : Char}
    (complete : front bytes = .scalar c rest) : rest.length < bytes.length := by
  rcases bytes with _ | ⟨lead, following⟩
  · cases complete
  · grind [front, → frontTwo_scalar_length, → frontThree_scalar_length,
      → frontFour_scalar_length]

/-- The first flaw of some bytes: the byte it starts at, its distance from where
counting started, and how many bytes it covers. -/
structure Fault where
  byte : UInt8
  position : Nat
  length : Nat
  flaw : Flaw
deriving DecidableEq, Repr

inductive Ending where
  /-- The bytes left over are the start of a scalar, or none. -/
  | waiting (bytes : List UInt8)
  | faulty (fault : Fault)

/-- The start of a surrogate, which a block that ends there leaves to the next. -/
def isSurrogateStart (bytes : List UInt8) : Bool :=
  match bytes with
  | [lead, second] => lead == 0xED && 0xA0 ≤ second && second ≤ 0xBF
  | _ => false

/-- Decodes a run of bytes; `final` says that no more will come. -/
def decodeFrom (final : Bool) (position : Nat) (bytes : List UInt8) : List Char × Ending :=
  match found : front bytes with
  | .nothing => ([], .waiting [])
  | .scalar c rest =>
      have := front_scalar_length found
      let decoded := decodeFrom final (position + (bytes.length - rest.length)) rest
      (c :: decoded.1, decoded.2)
  | .broken length flaw =>
      if !final && isSurrogateStart bytes then ([], .waiting bytes)
      else ([], .faulty ⟨bytes.headD 0, position, length, flaw⟩)
  | .short =>
      if final then ([], .faulty ⟨bytes.headD 0, position, bytes.length, .cut⟩)
      else ([], .waiting bytes)
termination_by bytes.length

/-- The text of the bytes, if all of them are UTF-8. -/
def decode? (bytes : List UInt8) : Option (List Char) :=
  match decodeFrom true 0 bytes with
  | (text, .waiting _) => some text
  | (_, .faulty _) => none

/-- How many bytes of a file are read at a time. -/
def blockSize : Nat := 8192

/-- Cuts bytes into blocks, all but the last of them full. -/
def blocks (bytes : List UInt8) : List (List UInt8) :=
  if bytes.length ≤ blockSize then [bytes]
  else bytes.take blockSize :: blocks (bytes.drop blockSize)
termination_by bytes.length
decreasing_by simp only [List.length_drop, blockSize] at *; omega

/-- The text of the blocks before the first faulty one, and that one's fault. -/
def decodeBlocks (waiting : List UInt8) : List (List UInt8) → List Char × Option Fault
  | [] =>
      match decodeFrom true 0 waiting with
      | (text, .waiting _) => (text, none)
      | (_, .faulty fault) => ([], some fault)
  | block :: later =>
      match decodeFrom false 0 (waiting ++ block) with
      | (text, .waiting left) =>
          let decoded := decodeBlocks left later
          (text ++ decoded.1, decoded.2)
      | (_, .faulty fault) => ([], some fault)

/-- The text of a file, up to the block with the first fault. -/
def decodeFile (bytes : List UInt8) : List Char × Option Fault :=
  decodeBlocks [] (blocks bytes)

def encode (text : List Char) : List UInt8 :=
  text.flatMap String.utf8EncodeChar

end Utf8

end Text

end TunnelLease
