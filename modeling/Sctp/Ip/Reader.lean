import Sctp.Ip
import Sctp.Text.Digits
import Sctp.Text.Split

/-!
# Reading IP addresses

A dotted quad has four numbers of at most three digits, none with a leading zero and none above 255.
An IPv6 address has eight groups of at most four hexadecimal digits, of which one run of at least
one group may be left out as `::`; the last two groups may be written as a dotted quad, unless they
stand before the `::`.
-/

namespace Sctp

namespace Ipv4

/-- A number from 0 to 255 in at most three digits, without leading zeros. -/
def readOctet (cs : List Char) : Option UInt8 :=
  if 3 < cs.length ∨ (1 < cs.length ∧ cs.head? = some '0') then none
  else (Text.number 10 cs).bind fun n => if n < 256 then some (UInt8.ofNat n) else none

/-- Reads a dotted quad. -/
def read (cs : List Char) : Option Ipv4 :=
  match (Text.splitOn '.' cs).mapM readOctet with
  | some [a, b, c, d] => some ⟨a, b, c, d⟩
  | _ => none

end Ipv4

namespace Ipv6

/-- A group of one to four hexadecimal digits. -/
def readGroup (cs : List Char) : Option UInt16 :=
  if 4 < cs.length then none else (Text.number 16 cs).map UInt16.ofNat

/-- The pieces between colons as groups, where the last one may be a dotted quad. -/
def readPieces : List (List Char) → Option (List UInt16)
  | [] => some []
  | [last] =>
    match Ipv4.read last with
    | some x => some [joinBytes x.a x.b, joinBytes x.c x.d]
    | none => (readGroup last).map ([·])
  | piece :: pieces => (readGroup piece).bind fun g => (readPieces pieces).map (g :: ·)

/-- Groups between colons, none for the empty text, the last two possibly as a dotted quad. -/
def readTail (cs : List Char) : Option (List UInt16) :=
  if cs = [] then some [] else readPieces (Text.splitOn ':' cs)

/-- Groups between colons, none for the empty text. -/
def readHead (cs : List Char) : Option (List UInt16) :=
  if cs = [] then some [] else (Text.splitOn ':' cs).mapM readGroup

/-- What stands before and after the first `::`. -/
def cutGap : List Char → Option (List Char × List Char)
  | ':' :: ':' :: cs => some ([], cs)
  | c :: cs => (cutGap cs).map fun (l, r) => (c :: l, r)
  | [] => none

/-- An address of eight groups. -/
def ofGroups? (gs : List UInt16) : Option Ipv6 :=
  if h : gs.length = 8 then some ⟨gs, h⟩ else none

/-- Reads an IPv6 address. -/
def read (cs : List Char) : Option Ipv6 :=
  match cutGap cs with
  | none => (readTail cs).bind ofGroups?
  | some (before, after) =>
    (readHead before).bind fun head => (readTail after).bind fun tail =>
      if head.length + tail.length ≤ 7 then
        ofGroups? (head ++ List.replicate (8 - head.length - tail.length) 0 ++ tail)
      else none

end Ipv6

/-- Reads an address of either version. -/
def Ip.read (cs : List Char) : Option Ip :=
  ((Ipv4.read cs).map Ip.v4).or ((Ipv6.read cs).map Ip.v6)

end Sctp
