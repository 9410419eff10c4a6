import Sctp.Proofs.Endpoint.Counted
import Sctp.Proofs.Notification.Decoding
import Sctp.Proofs.Program.Settings

/-!
# Addresses that the kernel tells

A connection and a listener ask for addresses in a block of 4096 bytes, and read what the kernel answers as counted
addresses. So an endpoint that the kernel packs into the block is what they give.
-/

namespace Sctp

open Kernel Endpoint

/-- On an open socket the operation asks once for an option, in a block of 4096 bytes with the association in front,
and for nothing else. If the kernel puts a header and behind it the records of the addresses that the header counts
into the block, the operation gives the endpoint. -/
def AsksFor (socket option : Nat) (associationId : Int32) (p : Attempt Endpoint) : Prop :=
  ∀ (env : Environment) (fd : Int), env [] (.descriptor socket) = fd → 0 ≤ fd →
    ∃ block answer, block.length = 4096 ∧ Record.decode block = .ok (⟨associationId, 0⟩ : AddressCount) ∧
      (p.run.against env []).2 =
        [⟨.descriptor socket, fd⟩, ⟨.call (.getsockopt fd levelSctp option block), answer⟩] ∧
      ∀ (n : Int) (header : AddressCount) (e : Endpoint), answer.result = .ok n →
        header.count = UInt32.ofNat e.addresses.length → (Record.encode header ++ e.pack).length ≤ 4096 →
        Record.encode header ++ e.pack <+: answer.block.take answer.length → (p.run.against env []).1 = .ok e

/-- What fits into the block is counted without loss. -/
theorem Endpoint.toNat_count {e : Endpoint} {header : AddressCount}
    (count : header.count = UInt32.ofNat e.addresses.length) (room : (Record.encode header ++ e.pack).length ≤ 4096) :
    header.count.toNat = e.addresses.length := by
  have each (xs : List Ip) : xs.length ≤ (xs.flatMap (Ip.pack e.port)).length := by
    induction xs with
    | nil => exact Nat.le_refl _
    | cons x xs ih =>
      have pos : 0 < (x.pack e.port).length := by
        rw [← AddressRecord.bytes_ofIp]
        exact List.length_pos_iff.2 (AddressRecord.bytes_ne_nil _)
      rw [List.flatMap_cons, List.length_append, List.length_cons]
      omega
  have few : e.addresses.length ≤ e.pack.length := each e.addresses
  rw [List.length_append] at room
  rw [count]
  exact UInt32.toNat_ofNat_of_lt' (Nat.lt_of_le_of_lt (by omega) (show 4096 < UInt32.size by decide))

theorem asksFor_addresses (socket option : Nat) (operation : String) (associationId : Int32) :
    AsksFor socket option associationId
      (Socket.descriptor socket operation >>= fun fd => Socket.addresses fd option associationId) := by
  intro env fd held natural
  obtain ⟨decoded, length, -⟩ := AddressCount.record_exact.writeTo ⟨associationId, 0⟩ (Bytes.zeros Socket.addressRoom)
    trivial (by rw [Bytes.length_zeros]; decide)
  rw [Bytes.length_zeros] at length
  rw [Socket.against_descriptor _ held natural]
  unfold Socket.addresses
  rw [List.nil_append, Attempt.against_call]
  generalize env [⟨.descriptor socket, fd⟩] (.call (.getsockopt fd levelSctp option
    (Record.writeTo (⟨associationId, 0⟩ : AddressCount) (Bytes.zeros Socket.addressRoom)))) = answer
  refine ⟨_, answer, length, decoded, ?_⟩
  cases succeeds : answer.result with
  | error errno => exact ⟨rfl, fun n _ _ impossible => nomatch impossible⟩
  | ok n =>
    refine ⟨?_, fun _ header e _ count room ⟨rest, same⟩ => ?_⟩
    · dsimp only
      cases Endpoint.ofCounted (answer.block.take answer.length) <;> rfl
    · have read := ofCounted_pack header (toNat_count count room) rest
      rw [← List.append_assoc, same] at read
      dsimp only
      rw [read]
      rfl

/-- The storage block of a path's change stands behind the header. -/
theorem Notification.address?_of_decode {b : Bytes} {n : Notification} (accepted : Notification.decode b = .ok n)
    (kind : n.kind = .pathChange) : n.body.address? = some (ofStorage ((b.drop 8).take 128)) := by
  obtain ⟨kind', -, -, -, rfl⟩ := decode_eq_ok_iff.1 accepted
  rw [kind_ofFixedPart] at kind
  subst kind
  rfl

/-- How addresses are read that are counted in front of them. -/
structure CountsAddresses : Prop where
  /-- How a buffer is read depends on the count and the buffer alone. -/
  read : ∀ (header : AddressCount) (b : Bytes) result,
    ofCounted (Record.encode header ++ b) = result ↔ CountedAs header.count.toNat b result
  accepts : ∀ (header : AddressCount) (b : Bytes) e, ofCounted (Record.encode header ++ b) = .ok e ↔
    ∃ (rs : List AddressRecord) (rest : Bytes), b = rs.flatMap AddressRecord.bytes ++ rest ∧
      rs.length = header.count.toNat ∧ unpack (rs.flatMap AddressRecord.bytes) = .ok e
  length : ∀ (header : AddressCount) (b : Bytes) e,
    ofCounted (Record.encode header ++ b) = .ok e → e.addresses.length = header.count.toNat
  /-- What follows the records that are counted makes no difference. -/
  continuation : ∀ (header : AddressCount) (rs : List AddressRecord), rs.length = header.count.toNat →
    ∀ rest rest' : Bytes, ofCounted (Record.encode header ++ (rs.flatMap AddressRecord.bytes ++ rest)) =
      ofCounted (Record.encode header ++ (rs.flatMap AddressRecord.bytes ++ rest'))
  /-- There are no more rounds than the buffer has room for, however many records are counted. -/
  rounds : ∀ limit b result, unpackRecords limit 0 b = result ↔
    ∃ rounds, rounds ≤ b.length / 16 + 1 ∧ RecordRounds limit b [] 0 rounds result
  /-- A storage block is read as if one record were counted in it. -/
  storage : ∀ (associationId : Int32) (b : Bytes),
    ofStorage b = ofCounted (Record.encode (⟨associationId, 1⟩ : AddressCount) ++ b)
  connection : ∀ c : Connection, AsksFor c.socket optLocalAddresses c.associationId c.localAddress ∧
    AsksFor c.socket optPeerAddresses c.associationId c.peerAddress
  listener : ∀ (l : Listener) (associationId : Int32), AsksFor l.socket optLocalAddresses 0 l.localAddress ∧
    AsksFor l.socket optPeerAddresses associationId (l.peerAddress associationId)
  /-- Storage blocks give back the one address that they start with. -/
  packed : ∀ (e : Endpoint) (rest : Bytes), e.addresses.length = 1 →
    (∀ p : PrimaryPath, p.storage = e.pack ++ rest → p.address = .ok e) ∧
    ∀ (b : Bytes) (n : Notification), Notification.decode b = .ok n → n.kind = .pathChange →
      (b.drop 8).take 128 = e.pack ++ rest → n.body.address? = some (.ok e)

/-- **Counted addresses.** How a buffer is read behind a header that counts its records depends on the count and the
buffer alone. It is read if the whole records at its front are as many as the header counts, as these records alone
are, and whatever follows them; and refused for the count 0, for its end between two records, or for the first bad
record. Reading ends after no more rounds than the buffer has room for, however many records are counted. A storage
block is read as if one record were counted in it. So connections and listeners give the endpoint that the kernel packs
as the answer to a question for addresses, and a primary path or the change of a path gives back the one address that
its storage block starts with. -/
theorem counted_addresses : CountsAddresses where
  read header b result := ofCounted_eq_iff
  accepts header b e := ofCounted_eq_iff.trans countedAs_ok_iff
  length header b e read := (ofCounted_eq_iff.1 read).length_addresses
  continuation header rs count rest rest' := ofCounted_continuation count rest rest'
  rounds := unpackRecords_eq_iff
  storage := ofStorage_eq_ofCounted
  connection c := ⟨asksFor_addresses c.socket optLocalAddresses "local_addr" c.associationId,
    asksFor_addresses c.socket optPeerAddresses "peer_addr" c.associationId⟩
  listener l associationId := ⟨asksFor_addresses l.socket optLocalAddresses "local_addr" 0,
    asksFor_addresses l.socket optPeerAddresses "peer_addr" associationId⟩
  packed e rest one := by
    have read : ofStorage (e.pack ++ rest) = .ok e := ofStorage_pack one rest
    constructor
    · intro p storage
      rw [PrimaryPath.address, storage, read]
    · intro b n accepted kind storage
      rw [Notification.address?_of_decode accepted kind, storage, read]

end Sctp
