import Sctp.Proofs.Endpoint.RoundTrip
import Sctp.Proofs.Ip.Literals

/-!
# Endpoints segment by segment

A text is read as an endpoint in a fixed order: first its last colon is looked for, then its port is read, then its
hosts. The addresses are what the segments between slashes contribute, one after the other. `Resolves` says so
without the reader; so hosts may be put together with a slash, and an address may be put in brackets.
-/

namespace Sctp

open Text

/-! ### What a segment contributes -/

namespace Network

/-- What a segment contributes to an endpoint's addresses on a network. -/
inductive Contributes (network : Network) : List Char → List Ip → Prop where
  /-- An empty segment stands for the network's wildcard. -/
  | wildcard : Contributes network [] [network.wildcard]
  | bare {segment : List Char} {x y : Ip} (literal : Ip.read segment = some x) (admits : network.Admits x y) :
    Contributes network segment [y]
  | bracketed {literal : List Char} {x y : Ip} (read : Ip.read literal = some x) (admits : network.Admits x y) :
    Contributes network ('[' :: literal ++ [']']) [y]
  /-- A segment is passed over that is no address which the network admits, neither bare nor in brackets. -/
  | nothing {segment : List Char} (ne : segment ≠ [])
    (bare : ∀ x y, Ip.read segment = some x → ¬ network.Admits x y)
    (bracketed : ∀ literal x y, segment = '[' :: literal ++ [']'] → Ip.read literal = some x → ¬ network.Admits x y) :
    Contributes network segment []

/-- What one or more segments contribute, one after the other. -/
inductive ContributesAll (network : Network) : List (List Char) → List Ip → Prop where
  | last {segment : List Char} {xs : List Ip} (free : '/' ∉ segment) (contributes : network.Contributes segment xs) :
    ContributesAll network [segment] xs
  | more {segment : List Char} {segments : List (List Char)} {xs ys : List Ip} (free : '/' ∉ segment)
    (first : network.Contributes segment xs) (rest : ContributesAll network segments ys) :
    ContributesAll network (segment :: segments) (xs ++ ys)

/-- What hosts contribute, between whose segments there are slashes. -/
def ContributedBy (network : Network) (hosts : List Char) (xs : List Ip) : Prop :=
  ∃ segments, hosts = join '/' segments ∧ network.ContributesAll segments xs

end Network

/-- The same error about another text. -/
def AddressError.about (input : String) : AddressError → AddressError
  | unknownNetwork network => unknownNetwork network
  | missingPort _ => missingPort input
  | portLookup port _ => portLookup port input
  | invalidAddress _ => invalidAddress input

namespace Endpoint

variable {network : Network} {segment : List Char} {xs : List Ip}

/-- Brackets are taken off if there are both. -/
theorem unbracket_bracketed (literal : List Char) : unbracket ('[' :: literal ++ [']']) = literal := by
  simp [unbracket]

/-- A text is left as it is unless it is in brackets. -/
theorem unbracket_cases (host : List Char) :
    unbracket host = host ∨ ∃ literal, host = '[' :: literal ++ [']'] := by
  unfold unbracket
  split
  · next rest =>
    split
    · next closed =>
      obtain ⟨literal, rfl⟩ := List.getLast?_eq_some_iff.1 closed
      exact .inr ⟨literal, rfl⟩
    · exact .inl rfl
  · exact .inl rfl

theorem unbracket_of_read {x : Ip} (read : Ip.read segment = some x) : unbracket segment = segment := by
  rcases unbracket_cases segment with same | ⟨literal, rfl⟩
  · exact same
  · rw [List.cons_append, Ip.read_bracket] at read
    cases read

theorem readHost_of_read {x : Ip} (read : Ip.read segment = some x) : readHost network segment = network.accept x := by
  have ne : segment ≠ [] := by
    rintro rfl
    rw [Ip.read_nil] at read
    cases read
  rw [readHost, if_neg ne, unbracket_of_read read, read, Option.bind_some]

theorem readHost_bracketed {literal : List Char} :
    readHost network ('[' :: literal ++ [']']) = (Ip.read literal).bind network.accept := by
  rw [readHost, if_neg (by simp), unbracket_bracketed]

/-- A host contributes what is read of it. -/
theorem readHost_of_contributes (contributes : network.Contributes segment xs) :
    (readHost network segment).toList = xs := by
  cases contributes with
  | wildcard => rfl
  | bare literal admits => rw [readHost_of_read literal, Network.accept_eq_some_iff.2 admits]; rfl
  | bracketed read admits => rw [readHost_bracketed, read, Option.bind_some, Network.accept_eq_some_iff.2 admits]; rfl
  | nothing ne bare bracketed =>
    have refused {literal : List Char} (never : ∀ x y, Ip.read literal = some x → ¬ network.Admits x y) :
        (Ip.read literal).bind network.accept = none := by
      rw [Option.bind_eq_none_iff]
      intro x read
      exact Option.eq_none_iff_forall_ne_some.2 fun y accepted => never x y read (Network.accept_eq_some_iff.1 accepted)
    rcases unbracket_cases segment with same | ⟨literal, rfl⟩
    · rw [readHost, if_neg ne, same, refused bare]
      rfl
    · rw [readHost_bracketed, refused fun x y => bracketed literal x y rfl]
      rfl

theorem contributes_readHost (network : Network) (segment : List Char) :
    network.Contributes segment (readHost network segment).toList := by
  by_cases empty : segment = []
  · subst empty
    exact .wildcard
  cases found : readHost network segment with
  | some y =>
    rw [readHost, if_neg empty] at found
    obtain ⟨x, read, accepted⟩ := Option.bind_eq_some_iff.1 found
    have admits := Network.accept_eq_some_iff.1 accepted
    rcases unbracket_cases segment with same | ⟨literal, rfl⟩
    · exact .bare (same ▸ read) admits
    · rw [unbracket_bracketed] at read
      exact .bracketed read admits
  | none =>
    have never {x y : Ip} (accepted : network.accept x = none) : ¬ network.Admits x y := by
      intro admits
      rw [Network.accept_eq_some_iff.2 admits] at accepted
      cases accepted
    refine .nothing empty (fun x y read => never ?_) fun literal x y same read => never ?_
    · rw [← readHost_of_read read]
      exact found
    · subst same
      rw [readHost_bracketed, read] at found
      exact found

/-! ### Hosts -/

/-- Hosts on both sides of a slash are read for themselves. -/
theorem readHosts_append (network : Network) (hosts others : List Char) :
    readHosts network (hosts ++ '/' :: others) = readHosts network hosts ++ readHosts network others := by
  rw [readHosts, splitOn_cut, List.filterMap_append]
  rfl

/-- Hosts between slashes are read for themselves. -/
theorem readHosts_pieces (network : Network) {pieces : List (List Char)} (ne : pieces ≠ []) :
    readHosts network (join '/' pieces) = pieces.flatMap (readHosts network) := by
  induction pieces with
  | nil => exact absurd rfl ne
  | cons piece rest ih =>
    cases rest with
    | nil => simp [join]
    | cons next rest =>
      show readHosts network (piece ++ '/' :: join '/' (next :: rest)) = _
      rw [readHosts_append, ih (List.cons_ne_nil _ _)]
      rfl

theorem readHosts_segment (free : '/' ∉ segment) : readHosts network segment = (readHost network segment).toList := by
  rw [readHosts, splitOn_of_not_mem free]
  cases found : readHost network segment <;> simp [found]

theorem contributesAll_filterMap (network : Network) {segments : List (List Char)} (ne : segments ≠ [])
    (free : ∀ segment ∈ segments, '/' ∉ segment) :
    network.ContributesAll segments (segments.filterMap (readHost network)) := by
  induction segments with
  | nil => exact absurd rfl ne
  | cons segment rest ih =>
    have first := contributes_readHost network segment
    have free' := free segment List.mem_cons_self
    have split : (segment :: rest).filterMap (readHost network) =
        (readHost network segment).toList ++ rest.filterMap (readHost network) := by
      cases found : readHost network segment <;> simp [found]
    rw [split]
    cases rest with
    | nil => exact (List.append_nil _).symm ▸ .last free' first
    | cons next rest =>
      exact .more free' first (ih (List.cons_ne_nil _ _) fun other mem => free other (List.mem_cons_of_mem _ mem))

/-- Hosts contribute what is read of them. -/
theorem contributedBy_readHosts (network : Network) (hosts : List Char) :
    network.ContributedBy hosts (readHosts network hosts) :=
  ⟨splitOn '/' hosts, (join_splitOn '/' hosts).symm,
    contributesAll_filterMap network (splitOn_ne_nil '/' hosts) fun _ found => not_mem_of_mem_splitOn found⟩

theorem readHosts_of_contributesAll {segments : List (List Char)} (all : network.ContributesAll segments xs) :
    readHosts network (join '/' segments) = xs := by
  induction all with
  | last free contributes => exact (readHosts_segment free).trans (readHost_of_contributes contributes)
  | @more segment segments xs ys free first rest ih =>
    have ne : segments ≠ [] := by rintro rfl; cases rest
    rw [readHosts_pieces network (List.cons_ne_nil _ _), List.flatMap_cons, ← readHosts_pieces network ne, ih,
      readHosts_segment free, readHost_of_contributes first]

theorem contributedBy_iff {hosts : List Char} : network.ContributedBy hosts xs ↔ readHosts network hosts = xs := by
  constructor
  · rintro ⟨segments, rfl, all⟩
    exact readHosts_of_contributesAll all
  · rintro rfl
    exact contributedBy_readHosts network hosts

/-! ### Texts -/

variable {services : Option (List Char)} {text hosts port : List Char} {result : Except AddressError Endpoint}

/-- What a text with a known port is read as, whose hosts contribute these addresses. -/
def settle (text : List Char) (port : UInt16) (xs : List Ip) : Except AddressError Endpoint :=
  if h : xs = [] then .error (.invalidAddress (String.ofList text)) else .ok ⟨xs, port, h⟩

/-- What a text is read as, by its last colon, its port and its hosts. -/
inductive Resolves (services : Option (List Char)) (network : Network) (text : List Char) :
    Except AddressError Endpoint → Prop where
  | missingPort (free : ':' ∉ text) : Resolves services network text (.error (.missingPort (String.ofList text)))
  | portLookup {hosts port : List Char} (cut : text = hosts ++ ':' :: port) (last : ':' ∉ port)
    (unknown : Services.port services port = none) :
    Resolves services network text (.error (.portLookup (String.ofList port) (String.ofList text)))
  | invalidAddress {hosts port : List Char} {n : UInt16} (cut : text = hosts ++ ':' :: port) (last : ':' ∉ port)
    (known : Services.port services port = some n) (nothing : network.ContributedBy hosts []) :
    Resolves services network text (.error (.invalidAddress (String.ofList text)))
  | endpoint {hosts port : List Char} {n : UInt16} {xs : List Ip} (cut : text = hosts ++ ':' :: port) (last : ':' ∉ port)
    (known : Services.port services port = some n) (contributed : network.ContributedBy hosts xs) (ne : xs ≠ []) :
    Resolves services network text (.ok ⟨xs, n, ne⟩)

/-- The reading of a text with a colon. -/
theorem resolve_cut (services : Option (List Char)) (network : Network) (hosts : List Char) (last : ':' ∉ port) :
    resolve services network (hosts ++ ':' :: port) =
      match Services.port services port with
      | none => .error (.portLookup (String.ofList port) (String.ofList (hosts ++ ':' :: port)))
      | some n => settle (hosts ++ ':' :: port) n (readHosts network hosts) := by
  rw [resolve, cutLast_append hosts last]
  rfl

theorem resolve_of_not_mem (free : ':' ∉ text) :
    resolve services network text = .error (.missingPort (String.ofList text)) := by
  rw [resolve, cutLast_of_not_mem free]

theorem resolve_of_resolves (resolves : Resolves services network text result) :
    resolve services network text = result := by
  cases resolves with
  | missingPort free => exact resolve_of_not_mem free
  | portLookup cut last unknown => subst cut; rw [resolve_cut _ _ _ last, unknown]
  | invalidAddress cut last known nothing =>
    subst cut
    rw [resolve_cut _ _ _ last, known, contributedBy_iff.1 nothing]
    rfl
  | endpoint cut last known contributed ne =>
    subst cut
    rw [resolve_cut _ _ _ last, known, contributedBy_iff.1 contributed]
    exact dif_neg ne

theorem resolves_resolve (services : Option (List Char)) (network : Network) (text : List Char) :
    Resolves services network text (resolve services network text) := by
  by_cases colon : ':' ∈ text
  · obtain ⟨hosts, port, cut, last⟩ := exists_last_of_mem colon
    have contributed := contributedBy_readHosts network hosts
    rw [cut, resolve_cut _ _ _ last, ← cut]
    cases known : Services.port services port with
    | none => exact .portLookup cut last known
    | some n =>
      dsimp only [settle]
      split
      · next nothing => exact .invalidAddress cut last known (nothing ▸ contributed)
      · next ne => exact .endpoint cut last known contributed ne
  · rw [resolve_of_not_mem colon]
    exact .missingPort colon

/-- Hosts of which the same is read come to the same with any port: an error only repeats the text that it is
about. -/
theorem resolve_congr (services : Option (List Char)) {network : Network} {hosts hosts' : List Char}
    (same : readHosts network hosts' = readHosts network hosts) {port : List Char} (last : ':' ∉ port) :
    resolve services network (hosts' ++ ':' :: port) =
      (resolve services network (hosts ++ ':' :: port)).mapError (·.about (String.ofList (hosts' ++ ':' :: port))) := by
  rw [resolve_cut _ _ _ last, resolve_cut _ _ _ last, same]
  cases Services.port services port with
  | none => rfl
  | some n =>
    dsimp only [settle]
    split <;> rfl

/-! ### Slashes and brackets -/

/-- Hosts on both sides of a slash contribute what each of them contributes. -/
theorem resolve_slash (services : Option (List Char)) (network : Network) (hosts others : List Char)
    {port : List Char} (last : ':' ∉ port) {n : UInt16} (known : Services.port services port = some n) :
    ∃ xs ys, network.ContributedBy hosts xs ∧ network.ContributedBy others ys ∧
      resolve services network (hosts ++ ':' :: port) = settle (hosts ++ ':' :: port) n xs ∧
      resolve services network (others ++ ':' :: port) = settle (others ++ ':' :: port) n ys ∧
      resolve services network (hosts ++ '/' :: others ++ ':' :: port) =
        settle (hosts ++ '/' :: others ++ ':' :: port) n (xs ++ ys) := by
  refine ⟨_, _, contributedBy_readHosts network hosts, contributedBy_readHosts network others, ?_, ?_, ?_⟩
  · rw [resolve_cut _ _ _ last, known]
  · rw [resolve_cut _ _ _ last, known]
  · rw [resolve_cut _ _ _ last, known, readHosts_append]

/-- Brackets around an address change nothing of what is read, whatever stands around it. -/
theorem readHosts_bracketed (network : Network) {literal : List Char} {x : Ip} (read : Ip.read literal = some x)
    (before after : List (List Char)) :
    readHosts network (join '/' (before ++ ('[' :: literal ++ [']']) :: after)) =
      readHosts network (join '/' (before ++ literal :: after)) := by
  have free : '/' ∉ literal := Ip.slash_not_mem_of_read read
  have free' : '/' ∉ '[' :: literal ++ [']'] := by simpa using free
  have same : readHosts network ('[' :: literal ++ [']']) = readHosts network literal := by
    rw [readHosts_segment free, readHosts_segment free', readHost_bracketed, readHost_of_read read, read,
      Option.bind_some]
  have ne (segment : List Char) : before ++ segment :: after ≠ [] := by simp
  rw [readHosts_pieces network (ne _), readHosts_pieces network (ne _)]
  simp only [List.flatMap_append, List.flatMap_cons, same]

/-- An address in brackets is read as the address alone is, in any place and with any port: an error only repeats
the text that it is about. -/
theorem resolve_bracketed (services : Option (List Char)) (network : Network) {literal : List Char} {x : Ip}
    (read : Ip.read literal = some x) (before after : List (List Char)) {port : List Char} (last : ':' ∉ port)
    {text : List Char} (written : text = join '/' (before ++ ('[' :: literal ++ [']']) :: after) ++ ':' :: port) :
    resolve services network text =
      (resolve services network (join '/' (before ++ literal :: after) ++ ':' :: port)).mapError
        (·.about (String.ofList text)) := by
  subst written
  exact resolve_congr services (readHosts_bracketed network read before after) last

/-- An endpoint's text is read segment by segment, its errors come in a fixed order, what segments contribute adds up
from side to side of a slash, and brackets around an address change nothing. -/
theorem resolve_segments (services : Option (List Char)) (network : Network) :
    (∀ text result, resolve services network text = result ↔ Resolves services network text result) ∧
    (∀ hosts others port n, ':' ∉ port → Services.port services port = some n →
      ∃ xs ys, network.ContributedBy hosts xs ∧ network.ContributedBy others ys ∧
        resolve services network (hosts ++ ':' :: port) = settle (hosts ++ ':' :: port) n xs ∧
        resolve services network (others ++ ':' :: port) = settle (others ++ ':' :: port) n ys ∧
        resolve services network (hosts ++ '/' :: others ++ ':' :: port) =
          settle (hosts ++ '/' :: others ++ ':' :: port) n (xs ++ ys)) ∧
    ∀ literal x before after port text, Ip.read literal = some x → ':' ∉ port →
      text = join '/' (before ++ ('[' :: literal ++ [']']) :: after) ++ ':' :: port →
      resolve services network text =
        (resolve services network (join '/' (before ++ literal :: after) ++ ':' :: port)).mapError
          (·.about (String.ofList text)) := by
  refine ⟨fun text result => ⟨?_, resolve_of_resolves⟩, ?_, ?_⟩
  · rintro rfl
    exact resolves_resolve services network text
  · intro hosts others port n last known
    exact resolve_slash services network hosts others last known
  · intro literal x before after port text read last written
    exact resolve_bracketed services network read before after last written

end Endpoint
end Sctp
