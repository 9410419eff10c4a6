import Sctp.Ip

/-!
# Words and addresses as bytes

A 16-bit word is its two bytes, and an address is the bytes that it is written as.
-/

namespace Sctp

/-- A word is joined from its two bytes, and tells them. -/
theorem joinBytes_highByte_lowByte (w : UInt16) : joinBytes (highByte w) (lowByte w) = w := by
  have bound := w.toNat_lt
  apply UInt16.toNat_inj.1
  simp only [joinBytes, highByte, lowByte, UInt8.toNat_ofNat', UInt16.toNat_ofNat']
  omega

theorem highByte_joinBytes (high low : UInt8) : highByte (joinBytes high low) = high := by
  have bound := high.toNat_lt
  have bound' := low.toNat_lt
  apply UInt8.toNat_inj.1
  simp only [joinBytes, highByte, UInt8.toNat_ofNat', UInt16.toNat_ofNat']
  omega

theorem lowByte_joinBytes (high low : UInt8) : lowByte (joinBytes high low) = low := by
  have bound := high.toNat_lt
  have bound' := low.toNat_lt
  apply UInt8.toNat_inj.1
  simp only [joinBytes, lowByte, UInt8.toNat_ofNat', UInt16.toNat_ofNat']
  omega

/-- An address that carries an IPv4 address is the one made of it. -/
theorem Ipv6.eq_mapped_of_toIpv4? {x : Ipv6} {v4 : Ipv4} (carries : x.toIpv4? = some v4) : x = v4.mapped := by
  obtain ⟨groups, length⟩ := x
  unfold toIpv4? at carries
  split at carries
  next g h same =>
    cases carries
    dsimp only at same
    subst same
    simp [Ipv4.mapped, joinBytes_highByte_lowByte]
  next => cases carries

/-- The address made of an IPv4 address carries it. -/
theorem Ipv4.toIpv4?_mapped (x : Ipv4) : x.mapped.toIpv4? = some x := by
  simp [Ipv6.toIpv4?, mapped, highByte_joinBytes, lowByte_joinBytes]

end Sctp
