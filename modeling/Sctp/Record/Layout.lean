import Sctp.Bytes

/-!
# Fixed layouts

A layout says how the values of a type lie in a fixed number of bytes. It is one description from
which both the writer `put` and the reader `get` follow: words, raw bytes and flags are the leaves,
`prod` puts two layouts side by side, `padded` leaves a hole behind one, and `map` changes the type
that is seen.
-/

namespace Sctp

/-- How values of `α` lie in `size` bytes. `get` looks at the first `size` bytes only. -/
structure Layout (α : Type) where
  size : Nat
  put : α → Bytes
  get : Bytes → α
  /-- Which bytes are written; the others are a hole. -/
  written : List Bool := List.replicate size true

namespace Layout

variable {α β : Type}

/-- A word of `size` bytes, lowest byte first. -/
def word (size : Nat) (toNat : α → Nat) (ofNat : Nat → α) : Layout α where
  size := size
  put x := Bytes.ofNat size (toNat x)
  get b := ofNat (Bytes.toNat (b.take size))

def uint8 : Layout UInt8 := word 1 UInt8.toNat UInt8.ofNat
def uint16 : Layout UInt16 := word 2 UInt16.toNat UInt16.ofNat
def uint32 : Layout UInt32 := word 4 UInt32.toNat UInt32.ofNat
def uint64 : Layout UInt64 := word 8 UInt64.toNat UInt64.ofNat

/-- A 16-bit word in network order, highest byte first. -/
def uint16BE : Layout UInt16 where
  size := 2
  put x := (uint16.put x).reverse
  get b := uint16.get (b.take 2).reverse

/-- Exactly `n` bytes taken as they are; a shorter value is filled up with zeros. -/
def raw (n : Nat) : Layout Bytes where
  size := n
  put x := (x ++ Bytes.zeros n).take n
  get b := b.take n

/-- The same bytes seen as another type. -/
def map (l : Layout α) (toNew : α → β) (ofNew : β → α) : Layout β where
  size := l.size
  put x := l.put (ofNew x)
  get b := toNew (l.get b)
  written := l.written

/-- Two layouts side by side. -/
def prod (l : Layout α) (r : Layout β) : Layout (α × β) where
  size := l.size + r.size
  put x := l.put x.1 ++ r.put x.2
  get b := (l.get b, r.get (b.drop l.size))
  written := l.written ++ r.written

/-- A layout followed by a hole of `n` bytes, which are zeros in a block of its own and are not read. -/
def padded (l : Layout α) (n : Nat) : Layout α where
  size := l.size + n
  put x := l.put x ++ Bytes.zeros n
  get := l.get
  written := l.written ++ List.replicate n false

/-- A two's complement 32-bit word. -/
def int32 : Layout Int32 := uint32.map Int32.ofUInt32 Int32.toUInt32

/-- One byte that is a truth value: written as 1 or 0, and true when it is not 0. -/
def flag : Layout Bool := uint8.map (· != 0) (fun on => if on then 1 else 0)

/-- Writes a value over the front of a buffer; holes and the rest of the buffer stay as they are. -/
def writeOver (l : Layout α) (x : α) (b : Bytes) : Bytes :=
  List.zipWith (fun (byte, written) old => if written then byte else old) ((l.put x).zip l.written) b ++ b.drop l.size

end Layout
end Sctp
