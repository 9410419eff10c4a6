import Sctp.Endpoint.Reader
import Sctp.Proofs.Ip.RoundTrip

/-!
# Printed endpoints are read again

An endpoint's text is read under every network, whatever services there are: as the addresses that the
network admits, with the endpoint's port.
-/

namespace Sctp

open Text

/-! ### Addresses that a network admits -/

namespace Network

/-- What a network makes of an address that it admits. -/
inductive Admits : Network → Ip → Ip → Prop where
  | any (x : Ip) : Admits any x x
  | v4 (x : Ipv4) : Admits v4Only (.v4 x) (.v4 x)
  | mapped (x : Ipv4) : Admits v4Only (.v6 x.mapped) (.v4 x)
  | v6 (x : Ipv6) : Admits v6Only (.v6 x) (.v6 x)

theorem accept_eq_some_iff {network : Network} {x y : Ip} : network.accept x = some y ↔ network.Admits x y := by
  constructor
  · intro accepted
    cases network with
    | any => cases accepted; exact .any x
    | v4Only =>
      cases x with
      | v4 x => cases accepted; exact .v4 x
      | v6 x =>
        obtain ⟨v4, carries, rfl⟩ := Option.map_eq_some_iff.1 accepted
        rw [Ipv6.eq_mapped_of_toIpv4? carries]
        exact .mapped v4
    | v6Only =>
      cases x with
      | v4 x => cases accepted
      | v6 x => cases accepted; exact .v6 x
  · rintro (x | x | x | x)
    · rfl
    · rfl
    · simp [accept, Ipv4.toIpv4?_mapped]
    · rfl

/-- The addresses that a network admits of a list, in order. -/
inductive AdmitsOf (network : Network) : List Ip → List Ip → Prop where
  | nil : AdmitsOf network [] []
  | keep {x y : Ip} {xs ys : List Ip} (admits : network.Admits x y) (rest : AdmitsOf network xs ys) :
    AdmitsOf network (x :: xs) (y :: ys)
  | refuse {x : Ip} {xs ys : List Ip} (refuses : ∀ y, ¬ network.Admits x y) (rest : AdmitsOf network xs ys) :
    AdmitsOf network (x :: xs) ys

/-- The list that a network makes of another is the one of what it admits. -/
theorem admitsOf_filterMap (network : Network) (xs : List Ip) : network.AdmitsOf xs (xs.filterMap network.accept) := by
  induction xs with
  | nil => exact .nil
  | cons x xs ih =>
    cases accepted : network.accept x with
    | none =>
      rw [List.filterMap_cons_none accepted]
      refine .refuse (fun y admits => ?_) ih
      rw [accept_eq_some_iff.2 admits] at accepted
      cases accepted
    | some y =>
      rw [List.filterMap_cons_some accepted]
      exact .keep (accept_eq_some_iff.1 accepted) ih

end Network

/-! ### Ports and hosts -/

/-- The digits of a word are read as the word, as none of them is a sign. -/
theorem unsigned16_toDigits (n : UInt16) : unsigned16 (Nat.toDigits 10 n.toNat) = some n := by
  have plus : '+' ∉ Nat.toDigits 10 n.toNat := not_mem_toDigits (by decide) (by decide) rfl _
  have read : number 10 (Nat.toDigits 10 n.toNat) = some n.toNat := number_toDigits (by decide) (by decide) _
  unfold unsigned16
  split
  next signed => exact absurd (signed ▸ List.mem_cons_self) plus
  next =>
    dsimp only
    rw [read, Option.bind_some, if_pos n.toNat_lt]
    simp

/-- The digits of a port are read as the port, whatever services there are. -/
theorem Services.port_toDigits (file : Option (List Char)) (port : UInt16) :
    Services.port file (Nat.toDigits 10 port.toNat) = some port := by
  have read : number 10 (Nat.toDigits 10 port.toNat) = some port.toNat := number_toDigits (by decide) (by decide) _
  have digits : (Nat.toDigits 10 port.toNat).all isDecimal = true :=
    List.all_eq_true.2 fun c mem => isSome_digitValue_of_number read mem
  rw [Services.port, if_neg Nat.toDigits_ne_nil, if_pos digits, unsigned16_toDigits]

namespace Endpoint

theorem unbracket_printHost (x : Ip) : unbracket (printHost x) = x.print := by
  cases x with
  | v4 x =>
    show unbracket x.print = x.print
    unfold unbracket
    split
    next rest bracket =>
      rcases Ipv4.isDecimal_of_mem_print (x := x) (bracket ▸ List.mem_cons_self) with digit | dot
      · exact absurd digit (by decide)
      · exact absurd dot (by decide)
    next => rfl
  | v6 x => simp [unbracket, printHost, Ip.print]

theorem printHost_ne_nil (x : Ip) : printHost x ≠ [] := by
  cases x with
  | v4 x =>
    intro nothing
    have read := x.read_print
    rw [show x.print = [] from nothing, show Ipv4.read [] = none by decide] at read
    cases read
  | v6 x => exact List.cons_ne_nil _ _

/-- What is printed of an address is read as it, if the network admits it. -/
theorem readHost_printHost (network : Network) (x : Ip) : readHost network (printHost x) = network.accept x := by
  rw [readHost, if_neg (printHost_ne_nil x), unbracket_printHost, Ip.read_print, Option.bind_some]

theorem slash_not_mem_printHost (x : Ip) : '/' ∉ printHost x := by
  cases x with
  | v4 x => exact x.slash_not_mem_print
  | v6 x => simp [printHost, x.slash_not_mem_print]

/-- No slash stands in what is printed of an address, so that slashes part the addresses. -/
theorem readHosts_join (network : Network) {xs : List Ip} (ne : xs ≠ []) :
    readHosts network (join '/' (xs.map printHost)) = xs.filterMap network.accept := by
  have free : ∀ piece ∈ xs.map printHost, '/' ∉ piece := by
    intro piece found
    obtain ⟨x, _, rfl⟩ := List.mem_map.1 found
    exact slash_not_mem_printHost x
  have same : readHost network ∘ printHost = network.accept := funext (readHost_printHost network)
  rw [readHosts, splitOn_join (by simpa using ne) free, List.filterMap_map, same]

theorem resolve_print_eq (services : Option (List Char)) (network : Network) (e : Endpoint) :
    resolve services network e.print =
      if h : e.addresses.filterMap network.accept = [] then .error (.invalidAddress (String.ofList e.print))
      else .ok ⟨e.addresses.filterMap network.accept, e.port, h⟩ := by
  have colon : ':' ∉ Nat.toDigits 10 e.port.toNat := not_mem_toDigits (by decide) (by decide) rfl _
  have cut : cutLast ':' e.print = some (join '/' (e.addresses.map printHost), Nat.toDigits 10 e.port.toNat) :=
    cutLast_append _ colon
  unfold resolve
  rw [cut]
  simp only [Services.port_toDigits, readHosts_join network e.addresses_ne_nil]

/-- **Text round trip.** Under every network, with any services, an endpoint's text gives the addresses that
the network admits, with the endpoint's port; and it is refused if the network admits none. A network that
admits all gives the endpoint itself. -/
theorem resolve_print (services : Option (List Char)) (network : Network) (e : Endpoint) :
    (∃ admitted, network.AdmitsOf e.addresses admitted ∧
      resolve services network e.print =
        if h : admitted = [] then .error (.invalidAddress (String.ofList e.print)) else .ok ⟨admitted, e.port, h⟩) ∧
    resolve services .any e.print = .ok e := by
  refine ⟨⟨_, network.admitsOf_filterMap e.addresses, resolve_print_eq services network e⟩, ?_⟩
  have all : e.addresses.filterMap Network.any.accept = e.addresses := by
    rw [show Network.any.accept = some from rfl, List.filterMap_some]
  rw [resolve_print_eq]
  simp [all, e.addresses_ne_nil]

end Endpoint
end Sctp
