import Mathlib.Data.List.Forall2
import Sctp.Proofs.Endpoint.Packed
import Sctp.Proofs.Endpoint.Segments
import Sctp.Proofs.Program.Exchanges

/-!
# Endpoints of one family

A network that admits one IP version reads addresses of one family, whatever the text: the wildcard is of the network's
family, and so is every literal that the network lets in. So the records of the endpoint all have the size and the tag
of that family, which is the domain of the network's sockets. To an IPv4 network it makes no difference whether an
address is written as such or as the IPv6 address that carries it.
-/

namespace Sctp

open Text

/-! ### Families -/

/-- The family of an address. -/
def Ip.family : Ip → Family
  | v4 _ => .inet
  | v6 _ => .inet6

/-- The family of a network's sockets. -/
def Network.family : Network → Family
  | v4Only => .inet
  | _ => .inet6

theorem Network.domain_eq (network : Network) : network.domain = network.family.tag.toNat := by
  cases network <;> rfl

/-- Making a socket is one system call, for the domain that is the tag of the network's family. -/
theorem Socket.create_asks {network : Network} {kind : SocketKind} {trace : List Exchange} {result : Except Error Int}
    (runs : (Socket.create network kind).run.Runs trace result) :
    ∃ answer, trace =
      [⟨.call (.socket network.family.tag.toNat kind.socketType Kernel.protocolSctp), answer⟩] := by
  rw [Socket.create, network.domain_eq] at runs
  obtain ⟨answer, ⟨_, -, rfl, -⟩ | ⟨_, _, -, rfl, ⟨⟩⟩⟩ := Attempt.runs_call.1 runs
  · exact ⟨answer, rfl⟩
  · exact ⟨answer, rfl⟩

namespace Endpoint

/-! ### Records of one family -/

theorem length_pack (port : UInt16) (x : Ip) : (x.pack port).length = x.family.recordSize := by
  rw [← AddressRecord.bytes_ofIp, AddressRecord.length_bytes]
  cases x <;> rfl

theorem tag_pack (port : UInt16) (x : Ip) : Layout.uint16.get (x.pack port) = x.family.tag := by
  rw [← AddressRecord.bytes_ofIp]
  cases x with
  | v4 x => exact Layout.uint16_get 2 0 _
  | v6 x => exact Layout.uint16_get 10 0 _

/-- Pieces of one length stand at the multiples of that length. -/
theorem take_drop_flatMap {α β : Type} {f : α → List β} {size : Nat} {xs : List α}
    (length : ∀ x ∈ xs, (f x).length = size) {i : Nat} {x : α} (here : xs[i]? = some x) :
    ((xs.flatMap f).drop (i * size)).take size = f x := by
  induction xs generalizing i with
  | nil => cases here
  | cons first rest ih =>
    have own : (f first).length = size := length first List.mem_cons_self
    rw [List.flatMap_cons]
    cases i with
    | zero =>
      cases here
      rw [Nat.zero_mul, List.drop_zero, List.take_left' own]
    | succ i =>
      rw [Nat.succ_mul, Nat.add_comm, ← List.drop_drop, List.drop_left' own]
      exact ih (fun x mem => length x (List.mem_cons_of_mem _ mem)) here

/-- All addresses of an endpoint are of one family, and each is packed in a record with the size and the tag of that
family. -/
structure OfFamily (e : Endpoint) (family : Family) : Prop where
  addresses : ∀ x ∈ e.addresses, x.family = family
  length : e.pack.length = e.addresses.length * family.recordSize
  records : ∀ i x, e.addresses[i]? = some x → ∃ record,
    record = (e.pack.drop (i * family.recordSize)).take family.recordSize ∧ record = x.pack e.port ∧
      record.length = family.recordSize ∧ Layout.uint16.get record = family.tag

theorem ofFamily {e : Endpoint} {family : Family} (same : ∀ x ∈ e.addresses, x.family = family) :
    e.OfFamily family := by
  have size : ∀ x ∈ e.addresses, (x.pack e.port).length = family.recordSize := by
    intro x mem
    rw [length_pack, same x mem]
  refine ⟨same, ?_, fun i x here => ⟨_, rfl, take_drop_flatMap size here, ?_, ?_⟩⟩
  · rw [pack, List.length_flatMap, List.map_congr_left size]
    simp
  · rw [pack, take_drop_flatMap size here]
    exact size x (List.mem_of_getElem? here)
  · rw [pack, take_drop_flatMap size here, tag_pack, same x (List.mem_of_getElem? here)]

/-! ### What a network reads -/

/-- A network that admits one IP version makes addresses of its own family of what it admits. -/
theorem family_of_admits {network : Network} {x y : Ip} (single : network ≠ .any) (admits : network.Admits x y) :
    y.family = network.family := by
  cases admits with
  | any => exact absurd rfl single
  | v4 | mapped | v6 => rfl

theorem family_of_mem_readHosts {network : Network} {hosts : List Char} {y : Ip} (single : network ≠ .any)
    (mem : y ∈ readHosts network hosts) : y.family = network.family := by
  obtain ⟨segment, -, found⟩ := List.mem_filterMap.1 mem
  have contributes := contributes_readHost network segment
  rw [found] at contributes
  cases contributes with
  | wildcard =>
    cases network with
    | any => exact absurd rfl single
    | v4Only | v6Only => rfl
  | bare literal admits => exact family_of_admits single admits
  | bracketed read admits => exact family_of_admits single admits

/-- An endpoint that was read on such a network is of the network's family. -/
theorem ofFamily_of_resolve {services : Option (List Char)} {network : Network} {text : List Char} {e : Endpoint}
    (single : network ≠ .any) (resolved : resolve services network text = .ok e) : e.OfFamily network.family := by
  have resolves := resolves_resolve services network text
  rw [resolved] at resolves
  cases resolves with
  | @endpoint hosts port n xs cut last known contributed ne =>
    obtain rfl := contributedBy_iff.1 contributed
    exact ofFamily fun x mem => family_of_mem_readHosts single mem

/-! ### IPv4 addresses written as IPv6 addresses -/

/-- A segment is a literal of an address, bare or in brackets. -/
inductive Spells (x : Ip) : List Char → Prop where
  | bare {literal : List Char} (read : Ip.read literal = some x) : Spells x literal
  | bracketed {literal : List Char} (read : Ip.read literal = some x) : Spells x ('[' :: literal ++ [']'])

theorem Spells.readHosts_eq {network : Network} {x : Ip} {segment : List Char} (spells : Spells x segment) :
    readHosts network segment = (network.accept x).toList := by
  cases spells with
  | bare read => rw [readHosts_segment (Ip.slash_not_mem_of_read read), readHost_of_read read]
  | @bracketed literal read =>
    have free : '/' ∉ '[' :: literal ++ [']'] := by simpa using Ip.slash_not_mem_of_read read
    rw [readHosts_segment free, readHost_bracketed, read, Option.bind_some]

/-- What is printed of an address spells it. -/
theorem spells_printHost (x : Ip) : Spells x (printHost x) := by
  cases x with
  | v4 x => exact .bare (Ip.read_print (.v4 x))
  | v6 x => exact .bracketed (Ip.read_print (.v6 x))

/-- A segment is left as it is, or its IPv4 address is written as the IPv6 address that carries it. -/
inductive Remapped : List Char → List Char → Prop where
  | same (segment : List Char) : Remapped segment segment
  | mapped {x : Ipv4} {segment segment' : List Char} (plain : Spells (.v4 x) segment)
    (carried : Spells (.v6 x.mapped) segment') : Remapped segment segment'

/-- Some segments of a text are written in the other way, and nothing else differs. -/
def RemappedText (text text' : List Char) : Prop :=
  ∃ segments segments' port, List.Forall₂ Remapped segments segments' ∧ ':' ∉ port ∧
    text = join '/' segments ++ ':' :: port ∧ text' = join '/' segments' ++ ':' :: port

theorem Remapped.readHosts_eq {segment segment' : List Char} (remapped : Remapped segment segment') :
    readHosts .v4Only segment' = readHosts .v4Only segment := by
  cases remapped with
  | same => rfl
  | @mapped x _ _ plain carried =>
    have carries : Network.v4Only.accept (.v6 x.mapped) = Network.v4Only.accept (.v4 x) :=
      Network.accept_eq_some_iff.2 (.mapped x)
    rw [plain.readHosts_eq, carried.readHosts_eq, carries]

theorem readHosts_remapped {segments segments' : List (List Char)} (all : List.Forall₂ Remapped segments segments') :
    readHosts .v4Only (join '/' segments') = readHosts .v4Only (join '/' segments) := by
  have flat : segments'.flatMap (readHosts .v4Only) = segments.flatMap (readHosts .v4Only) := by
    induction all with
    | nil => rfl
    | cons first rest ih => rw [List.flatMap_cons, List.flatMap_cons, first.readHosts_eq, ih]
  cases all with
  | nil => rfl
  | cons first rest =>
    rw [readHosts_pieces _ (List.cons_ne_nil _ _), readHosts_pieces _ (List.cons_ne_nil _ _)]
    exact flat

/-- How the addresses that texts come to fit the families of sockets, with these services. -/
structure FitsFamilies (services : Option (List Char)) : Prop where
  inet : ∀ text e, resolve services .v4Only text = .ok e → e.OfFamily .inet
  inet6 : ∀ text e, resolve services .v6Only text = .ok e → e.OfFamily .inet6
  /-- The records of a family have one size, and its tag is the domain of sockets. -/
  inet_record : Family.inet.recordSize = 16 ∧ Family.inet.tag.toNat = Kernel.domainInet
  inet6_record : Family.inet6.recordSize = 28 ∧ Family.inet6.tag.toNat = Kernel.domainInet6
  /-- A socket is created in the domain of its network. -/
  create : ∀ network kind trace result, (Socket.create network kind).run.Runs trace result → ∃ answer,
    trace = [⟨.call (.socket (if network = .v4Only then Family.inet else Family.inet6).tag.toNat kind.socketType
      Kernel.protocolSctp), answer⟩]
  /-- What is printed of an IPv4 address, and of the IPv6 address that carries it, spells it. -/
  spells : ∀ x : Ipv4, Spells (.v4 x) (printHost (.v4 x)) ∧ Spells (.v6 x.mapped) (printHost (.v6 x.mapped))
  /-- An IPv4 network does not tell the two from one another. -/
  remapped : ∀ text text', RemappedText text text' →
    resolve services .v4Only text' = (resolve services .v4Only text).mapError (·.about (String.ofList text'))

/-- **Endpoints fit the family of their sockets.** Whatever a text and the services are, what an IPv4 network reads has
IPv4 addresses only, packed in 16 bytes each under the tag that is the domain of the network's sockets; and what an
IPv6 network reads has IPv6 addresses only, packed in 28 bytes each under the tag that is the domain of all other
sockets. On an IPv4 network it makes no difference which IPv4 addresses are written as the IPv6 addresses that carry
them, and in which way: an error only repeats the text that it is about. -/
theorem resolve_families (services : Option (List Char)) : FitsFamilies services where
  inet text e := ofFamily_of_resolve (by decide)
  inet6 text e := ofFamily_of_resolve (by decide)
  inet_record := ⟨rfl, rfl⟩
  inet6_record := ⟨rfl, rfl⟩
  create network kind trace result runs := by
    have family : (if network = .v4Only then Family.inet else Family.inet6) = network.family := by cases network <;> rfl
    rw [family]
    exact Socket.create_asks runs
  spells x := ⟨spells_printHost _, spells_printHost _⟩
  remapped := by
    rintro _ _ ⟨segments, segments', port, all, last, rfl, rfl⟩
    exact resolve_congr services (readHosts_remapped all) last

end Endpoint
end Sctp
