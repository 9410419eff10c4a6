import Sctp.Session.State

/-!
# What operations have in hand

While an operation runs it may have descriptors that no object owns yet, or no longer owns, shares of
epoll instances, and one thing begun with a poller that it must finish before anything else goes on.
`Hand` says what that is, `Hand.Permits` what may be asked for with a hand, and `Hand.after` what the
answer leaves in it. `Program.Follows` is the weakest precondition of a program under these rules:
whatever the answers are, the program asks only for what is permitted.
-/

namespace Sctp

open Kernel Session

/-- Whether a call asks for a descriptor of its own for an association. -/
def Syscall.peelsOff : Syscall → Bool
  | .getsockopt _ level option _ => level == levelSctp && (option == optPeelOff || option == optPeelOffFlags)
  | _ => false

/-- The descriptor that the kernel hands out with an answer: a new socket, an accepted one, an epoll
instance, or the one in the block of an association that was peeled off. -/
def Syscall.handedOut? (syscall : Syscall) (answer : Answer) : Option Int :=
  match answer.result with
  | .error _ => none
  | .ok value =>
    match syscall with
    | .socket .. | .accept .. | .epollCreate _ => some value
    | _ => if syscall.peelsOff then some (Record.layout.get answer.block : PeelOff).descriptor.toInt else none

/-- What an operation has begun with a poller and must finish next. -/
inductive Stage where
  | free
  /-- An epoll instance has just been made. -/
  | fresh (epoll : Epoll)
  /-- The instance was taken from the poller, the registrations are still there. -/
  | torn (poller : Nat)
  /-- The descriptor's registration was removed. -/
  | removed (poller : Nat) (fd : Int)
  /-- The same, and the poller has the instance, which may still watch the descriptor. -/
  | unwatching (poller : Nat) (fd : Int) (epoll : Epoll)
  /-- The instance has just begun to watch the descriptor. -/
  | watched (epoll : Epoll) (fd : Int)
  /-- The registration was entered. -/
  | entered (poller : Nat) (registration : Registration)
  /-- The same, but the poller has no longer the registration's instance. -/
  | stale (poller : Nat) (registration : Registration)
  deriving DecidableEq

/-- What a running operation has in hand. -/
structure Hand where
  descriptors : List Int := []
  shares : List Epoll := []
  stage : Stage := .free

namespace Hand

/-- What may be asked for with a hand, by an operation that works with the resources `inUse`. -/
def Permits (inUse : List Resource) (h : Hand) : Request → Prop
  | .call (.close fd) => h.stage = .free ∧ fd ∈ h.descriptors
  | .call (.epollAdd epoll fd events data) =>
    h.stage = .free ∧ epoll ∈ h.shares ∧ 0 ≤ fd ∧ events = epollIn ∧ data = UInt64.ofInt fd
  | .call (.epollDelete epoll fd) => ∃ p, h.stage = .unwatching p fd epoll
  | .call (.epollWait epoll ..) => h.stage = .free ∧ epoll ∈ h.shares
  | .adopt fd => h.stage = .free ∧ fd ∈ h.descriptors
  | .installed p => h.stage = .free ∨ ∃ r, h.stage = .entered p r
  | .hold p => h.stage = .free ∨ ∃ fd, h.stage = .removed p fd
  | .release epoll => h.stage = .free ∧ epoll ∈ h.shares
  | .install p epoll => h.stage = .fresh epoll ∧ epoll ∈ h.shares ∧ .poller p ∈ inUse
  | .clear p => h.stage = .torn p
  | .register p r => h.stage = .watched r.epoll r.descriptor ∧ .poller p ∈ inUse
  | .withdraw p r => h.stage = .stale p r
  | .requestStop p => h.stage = .free ∧ .poller p ∈ inUse
  | _ => h.stage = .free

/-- The hand while a call is under way: a descriptor that is being closed has left it. -/
def under (h : Hand) : Syscall → Hand
  | .close fd => { h with descriptors := h.descriptors.erase fd }
  | _ => h

/-- What is in hand once a request is answered. -/
def after (h : Hand) : (r : Request) → r.Result → Hand
  | .call syscall, answer =>
    { h.under syscall with
      descriptors := (syscall.handedOut? answer).toList ++ (h.under syscall).descriptors
      stage := match syscall, answer.result with
        | .epollAdd epoll fd _ _, .ok _ => .watched epoll fd
        | _, _ => .free }
  | .takeDescriptor _, fd => if 0 ≤ fd then { h with descriptors := fd :: h.descriptors } else h
  | .adopt fd, epoll =>
    { descriptors := h.descriptors.erase fd, shares := epoll :: h.shares, stage := .fresh epoll }
  | .installed _, epoll? =>
    match h.stage with
    | .entered p r => { h with stage := if epoll? = some r.epoll then .free else .stale p r }
    | _ => h
  | .hold _, epoll? =>
    { h with
      shares := epoll?.toList ++ h.shares
      stage := match h.stage, epoll? with
        | .removed p fd, some epoll => .unwatching p fd epoll
        | _, _ => .free }
  | .release epoll, _ => { h with shares := h.shares.erase epoll }
  | .install _ epoll, taken => { h with shares := if taken then h.shares.erase epoll else h.shares, stage := .free }
  | .uninstall p, epoll? =>
    { h with shares := epoll?.toList ++ h.shares, stage := if epoll?.isSome then .torn p else .free }
  | .clear _, _ | .withdraw _ _, _ => { h with stage := .free }
  | .register p r, _ => { h with stage := .entered p r }
  | .deregister p fd, existed => { h with stage := if existed then .removed p fd else .free }
  | _, _ => h

section
variable (h : Hand) (p : Nat) (fd : Int) (epoll : Epoll) (epoll? : Option Epoll) (registration : Registration) (done : Unit)

@[simp] theorem after_call (syscall : Syscall) (answer : Answer) : h.after (.call syscall) answer =
    { h.under syscall with
      descriptors := (syscall.handedOut? answer).toList ++ (h.under syscall).descriptors
      stage := match syscall, answer.result with
        | .epollAdd epoll fd _ _, .ok _ => .watched epoll fd
        | _, _ => .free } := by
  obtain ⟨result⟩ := answer
  cases syscall <;> cases result <;> rfl

@[simp] theorem after_takeDescriptor (socket : Nat) : h.after (.takeDescriptor socket) fd =
    if 0 ≤ fd then { h with descriptors := fd :: h.descriptors } else h := rfl

@[simp] theorem after_adopt : h.after (.adopt fd) epoll =
    { descriptors := h.descriptors.erase fd, shares := epoll :: h.shares, stage := .fresh epoll } := rfl

@[simp] theorem after_installed : h.after (.installed p) epoll? =
    match h.stage with
    | .entered p r => { h with stage := if epoll? = some r.epoll then .free else .stale p r }
    | _ => h := rfl

@[simp] theorem after_hold : h.after (.hold p) epoll? =
    { h with
      shares := epoll?.toList ++ h.shares
      stage := match h.stage, epoll? with
        | .removed p fd, some epoll => .unwatching p fd epoll
        | _, _ => .free } := by
  obtain ⟨descriptors, shares, stage⟩ := h
  cases stage <;> cases epoll? <;> rfl

@[simp] theorem after_release : h.after (.release epoll) done = { h with shares := h.shares.erase epoll } := rfl

@[simp] theorem after_install (taken : Bool) : h.after (.install p epoll) taken =
    { h with shares := if taken then h.shares.erase epoll else h.shares, stage := .free } := rfl

@[simp] theorem after_uninstall : h.after (.uninstall p) epoll? =
    { h with shares := epoll?.toList ++ h.shares, stage := if epoll?.isSome then .torn p else .free } := rfl

@[simp] theorem after_clear : h.after (.clear p) done = { h with stage := .free } := rfl

@[simp] theorem after_withdraw : h.after (.withdraw p registration) done = { h with stage := .free } := rfl

@[simp] theorem after_register : h.after (.register p registration) done =
    { h with stage := .entered p registration } := rfl

@[simp] theorem after_deregister (existed : Bool) : h.after (.deregister p fd) existed =
    { h with stage := if existed then .removed p fd else .free } := rfl

@[simp] theorem after_isRegistered (registered : Bool) : h.after (.isRegistered p fd) registered = h := rfl

@[simp] theorem after_takeStop (told : Bool) : h.after (.takeStop p) told = h := rfl

end

end Hand

/-- What every answer to a request satisfies: the block of a question keeps its length. -/
def Request.Sensible : (r : Request) → r.Result → Prop
  | .call (.getsockopt _ _ _ block), answer => answer.block.length = block.length
  | _, _ => True

namespace Program

variable {α β : Type} {inUse : List Resource} {h : Hand}

/-- Started with a hand, a program asks only for what is permitted, and ends as `post` says. -/
def Follows (inUse : List Resource) : Program α → Hand → (α → Hand → Prop) → Prop
  | .pure value, h, post => post value h
  | .ask r next, h, post =>
    h.Permits inUse r ∧ ∀ result, r.Sensible result → Follows inUse (next result) (h.after r result) post

theorem follows_pure {value : α} {post : α → Hand → Prop} :
    (Pure.pure value : Program α).Follows inUse h post ↔ post value h := Iff.rfl

/-- A request and what comes after it. -/
theorem follows_ask {r : Request} {next : r.Result → Program β} {post : β → Hand → Prop} :
    (request r >>= next).Follows inUse h post ↔
      h.Permits inUse r ∧ ∀ result, r.Sensible result → (next result).Follows inUse (h.after r result) post := Iff.rfl

/-- The same for a system call. -/
theorem follows_call {syscall : Syscall} {next : Answer → Program β} {post : β → Hand → Prop} :
    (call syscall >>= next).Follows inUse h post ↔
      h.Permits inUse (.call syscall) ∧ ∀ answer, (Request.call syscall).Sensible answer →
        (next answer).Follows inUse (h.after (.call syscall) answer) post := Iff.rfl

theorem follows_bind {p : Program α} {f : α → Program β} {post : β → Hand → Prop} :
    (p >>= f).Follows inUse h post ↔ p.Follows inUse h fun value h => (f value).Follows inUse h post := by
  show (p.bind f).Follows inUse h post ↔ _
  induction p generalizing h with
  | pure value => rfl
  | ask r next ih => simp only [bind, Follows, ih]

/-- The hand may be described in another way. -/
theorem Follows.of_eq {p : Program α} {post : α → Hand → Prop} (k : Hand) (same : h = k)
    (follows : p.Follows inUse k post) : p.Follows inUse h post := same ▸ follows

theorem Follows.imp {p : Program α} {post post' : α → Hand → Prop} (follows : p.Follows inUse h post)
    (weaker : ∀ value h, post value h → post' value h) : p.Follows inUse h post' := by
  induction p generalizing h with
  | pure value => exact weaker _ _ follows
  | ask r next ih => exact ⟨follows.1, fun result sensible => ih result (follows.2 result sensible)⟩

end Program
end Sctp
