import Sctp.Notification
import Sctp.Proofs.Endpoint.Packed
import Sctp.Proofs.Record.Options

/-!
# The fields of a notification

Each kind of notification has one layout for its fields, and `Body.read_eq` says that reading a body is
reading that layout. The layouts have laws, so that what a kind's fixed part holds, and which of its bytes
are padding, follows from the way in which the layout is put together.
-/

namespace Sctp

open Layout

namespace Layout

variable {α : Type} {l : Layout α} {b : Bytes} {x : α}

/-- Nothing at all. -/
def nothing : Layout Unit where
  size := 0
  put _ := []
  get _ := ()

/-- Reads a layout off the front of a buffer, if the buffer holds the whole of it. -/
def get? (l : Layout α) (b : Bytes) : Option α := if l.size ≤ b.length then some (l.get b) else none

theorem get?_eq_some_iff : l.get? b = some x ↔ l.size ≤ b.length ∧ l.get b = x := by
  rw [get?, Option.ite_none_right_eq_some, Option.some_inj]

def Law.nothing : Law Layout.nothing where
  uses := []
  Valid _ := True
  length_uses := rfl
  length_put _ := rfl
  get_put _ _ _ := rfl
  valid_get _ _ := trivial
  put_get _ _ := rfl

end Layout

/-! ### States -/

namespace AssociationState

/-- The number of a state. -/
def code : AssociationState → UInt16
  | up => 0
  | lost => 1
  | restarted => 2
  | shutdownComplete => 3
  | cannotStart => 4
  | other code => code

theorem code_ofCode (w : UInt16) : (ofCode w).code = w := by
  unfold ofCode
  grind [code]

/-- No two numbers mean the same state. -/
theorem ofCode_injective : Function.Injective ofCode := Function.LeftInverse.injective code_ofCode

end AssociationState

namespace PathState

/-- The number of a state. -/
def code : PathState → Int32
  | available => 0
  | unreachable => 1
  | removed => 2
  | added => 3
  | madePrimary => 4
  | confirmed => 5
  | other code => code

theorem code_ofCode (w : Int32) : (ofCode w).code = w := by
  unfold ofCode
  grind [code]

/-- No two numbers mean the same state. -/
theorem ofCode_injective : Function.Injective ofCode := Function.LeftInverse.injective code_ofCode

end PathState

namespace Notification

/-! ### One layout for each kind -/

/-- What stands behind the header, by kind. -/
def Kind.Fields : Kind → Type
  | dataIo => Unit
  | associationChange => UInt16 × UInt16 × UInt16 × UInt16 × Int32
  | pathChange => Bytes × Int32 × Int32 × Int32
  | sendFailed => UInt32 × MessageInfo × Int32
  | remoteError => UInt16 × Int32
  | shutdown | senderDry | streamReset => Int32
  | partialDelivery => UInt32 × Int32 × UInt32 × UInt32
  | adaptation => UInt32 × Int32
  | authentication => UInt16 × UInt16 × UInt32 × Int32
  | associationReset => Int32 × UInt32 × UInt32
  | streamChange => Int32 × UInt16 × UInt16

/-- How the fields of a kind lie behind the header. -/
def Kind.fields : (kind : Kind) → Layout kind.Fields
  | dataIo => nothing
  | associationChange => associationChangeFields
  | pathChange => pathChangeFields
  | sendFailed => sendFailedFields
  | remoteError => remoteErrorFields
  | shutdown | senderDry | streamReset => int32
  | partialDelivery => partialDeliveryFields
  | adaptation => adaptationFields
  | authentication => authenticationFields
  | associationReset => associationResetFields
  | streamChange => streamChangeFields

/-- The body with these fields. -/
def Body.ofFields : (kind : Kind) → kind.Fields → Body
  | .dataIo, _ => .dataIo
  | .associationChange, (state, error, outStreams, inStreams, id) =>
    .associationChange (AssociationState.ofCode state) error outStreams inStreams id
  | .pathChange, (storage, state, error, id) => .pathChange storage (PathState.ofCode state) error id
  | .sendFailed, (error, info, id) => .sendFailed error info id
  | .remoteError, (error, id) => .remoteError error id
  | .shutdown, id => .shutdown id
  | .partialDelivery, (indication, id, stream, sequence) => .partialDelivery indication id stream sequence
  | .adaptation, (indication, id) => .adaptation indication id
  | .authentication, (key, altKey, indication, id) => .authentication key altKey indication id
  | .senderDry, id => .senderDry id
  | .streamReset, id => .streamReset id
  | .associationReset, (id, localTsn, remoteTsn) => .associationReset id localTsn remoteTsn
  | .streamChange, (id, inStreams, outStreams) => .streamChange id inStreams outStreams

/-- A body is read by the layout of its kind. -/
theorem Body.read_eq (b : Bytes) (kind : Kind) : Body.read b kind = .ofFields kind (kind.fields.get b) := by
  cases kind <;> rfl

@[simp] theorem Body.kind_ofFields (kind : Kind) (fields : kind.Fields) : (ofFields kind fields).kind = kind := by
  cases kind <;> rfl

/-- Bodies name an association unless they have no fields. -/
theorem Body.associationId?_eq_none_iff (body : Body) : body.associationId? = none ↔ body.kind = .dataIo := by
  cases body <;> simp [associationId?, kind]

/-- A body tells all its fields: states keep their numbers apart, and the other fields stand as they are. -/
theorem Body.ofFields_injective (kind : Kind) : Function.Injective (ofFields kind) := by
  intro x y same
  cases kind with
  | associationChange =>
    obtain ⟨state, error, outStreams, inStreams, id⟩ := x
    obtain ⟨state', error', outStreams', inStreams', id'⟩ := y
    simp only [ofFields, associationChange.injEq] at same
    obtain ⟨states, rfl, rfl, rfl, rfl⟩ := same
    rw [AssociationState.ofCode_injective states]
  | pathChange =>
    obtain ⟨storage, state, error, id⟩ := x
    obtain ⟨storage', state', error', id'⟩ := y
    simp only [ofFields, pathChange.injEq] at same
    obtain ⟨rfl, states, rfl, rfl⟩ := same
    rw [PathState.ofCode_injective states]
  | dataIo => rfl
  | shutdown | senderDry | streamReset => injection same
  | remoteError | adaptation =>
    obtain ⟨_, _⟩ := x
    obtain ⟨_, _⟩ := y
    cases same
    rfl
  | sendFailed | associationReset | streamChange =>
    obtain ⟨_, _, _⟩ := x
    obtain ⟨_, _, _⟩ := y
    cases same
    rfl
  | partialDelivery | authentication =>
    obtain ⟨_, _, _, _⟩ := x
    obtain ⟨_, _, _, _⟩ := y
    cases same
    rfl

/-! ### Laws -/

def Header.law : Law (Record.layout : Layout Header) :=
  (Law.uint16.prod <| Law.uint16.prod Law.uint32).map (fun _ => rfl) fun _ => rfl

def Kind.fieldsLaw : (kind : Kind) → Law kind.fields
  | dataIo => Law.nothing
  | associationChange => Law.uint16.prod <| Law.uint16.prod <| Law.uint16.prod <| Law.uint16.prod Law.int32
  | pathChange => (Law.raw storageSize).prod <| Law.int32.prod <| Law.int32.prod Law.int32
  | sendFailed => Law.uint32.prod <| MessageInfo.law.prod Law.int32
  | remoteError => (Law.uint16BE.padded 2).prod Law.int32
  | shutdown | senderDry | streamReset => Law.int32
  | partialDelivery => Law.uint32.prod <| Law.int32.prod <| Law.uint32.prod Law.uint32
  | adaptation => Law.uint32.prod Law.int32
  | authentication => Law.uint16.prod <| Law.uint16.prod <| Law.uint32.prod Law.int32
  | associationReset => Law.int32.prod <| Law.uint32.prod Law.uint32
  | streamChange => Law.int32.prod <| Law.uint16.prod Law.uint16

/-- The fixed part of a kind: the header and the fields. -/
def Kind.fixedPart (kind : Kind) : Layout (Header × kind.Fields) := Layout.prod Record.layout kind.fields

def Kind.law (kind : Kind) : Law kind.fixedPart := Header.law.prod kind.fieldsLaw

/-- The layout of a kind takes just the bytes that the kind has. -/
theorem Kind.size_fixedPart (kind : Kind) : kind.fixedPart.size = kind.size := by cases kind <;> rfl

theorem Kind.size_eq (kind : Kind) : kind.size = 8 + kind.fields.size := by rw [← kind.size_fixedPart]; rfl

/-- The bytes of a fixed part that hold nothing. -/
def Kind.padding : Kind → List Nat
  | sendFailed => [18, 19]
  | remoteError => [10, 11]
  | _ => []

/-- A law's list of uses agrees with the padding, byte by byte. -/
theorem Kind.uses_law (kind : Kind) :
    kind.law.uses = (List.range kind.size).map fun i => if i ∈ kind.padding then .hole else .kept := by
  cases kind <;> rfl

/-- Every byte of a fixed part is read, but for the padding. -/
theorem Kind.kept_iff (kind : Kind) (i : Nat) :
    kind.law.uses[i]? = some .kept ↔ i < kind.size ∧ i ∉ kind.padding := by
  rw [kind.uses_law, List.getElem?_map]
  by_cases small : i < kind.size
  · rw [List.getElem?_range small]
    by_cases padded : i ∈ kind.padding <;> simp [small, padded]
  · rw [List.getElem?_eq_none (by simpa using small)]
    simp [small]

end Notification
end Sctp
