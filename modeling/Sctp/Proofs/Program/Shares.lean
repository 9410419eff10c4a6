import Sctp.Proofs.Program.Discipline
import Sctp.Proofs.Program.Requests

/-!
# Shares of epoll instances

An operation has a share of an epoll instance from when it gets hold of it until it lets go. `Program.Frugal` says that at
every call a program has a share of the instance that the call is about and no other one, and that it has none when it
runs a callback. All operations on pollers are frugal, and those on sockets never have a share.
-/

namespace Sctp

open Session

/-- The epoll instance that a call is about. -/
def Syscall.instance? : Syscall → Option Epoll
  | epollAdd epoll .. | epollDelete epoll _ | epollWait epoll .. => some epoll
  | _ => none

/-- Whether a call waits for events. -/
def Syscall.isWait : Syscall → Bool
  | epollWait .. => true
  | _ => false

namespace Request

/-- The shares of an operation once a request is answered. -/
def sharesAfter (shares : List Epoll) : (r : Request) → r.Result → List Epoll
  | .adopt _, epoll => epoll :: shares
  | .hold _, epoll? => epoll?.toList ++ shares
  | .uninstall _, epoll? => epoll?.toList ++ shares
  | .release epoll, _ => shares.erase epoll
  | .install _ epoll, taken => if taken then shares.erase epoll else shares
  | _, _ => shares

/-- Whether the shares are those that a request needs: for a call that of its instance, and none for a callback. -/
def Fits (shares : List Epoll) : Request → Prop
  | .call syscall => shares = syscall.instance?.toList
  | .release epoll => shares = [epoll]
  | .dispatch .. => shares = []
  | _ => True

theorem sharesAfter_of_isOfSocket {r : Request} (socket : r.isOfSocket = true) (shares : List Epoll) (result : r.Result) :
    r.sharesAfter shares result = shares := by
  cases r <;> first | rfl | cases socket

theorem fits_of_isOfSocket {r : Request} (socket : r.isOfSocket = true) : r.Fits [] := by
  cases r with
  | call syscall => cases syscall <;> first | rfl | cases socket
  | _ => trivial

end Request

theorem Hand.shares_after (h : Hand) (r : Request) (result : r.Result) :
    (h.after r result).shares = r.sharesAfter h.shares result := by
  cases r with
  | call syscall => cases syscall <;> rfl
  | takeDescriptor socket =>
    show (if 0 ≤ result then _ else h : Hand).shares = h.shares
    split <;> rfl
  | installed p =>
    simp only [Hand.after_installed]
    split <;> rfl
  | _ => rfl

namespace Program

variable {α β : Type} {shares : List Epoll} {post : α → List Epoll → Prop} {post' : β → List Epoll → Prop}

/-- Started with some shares, the program asks for things only when its shares fit, and ends as `post` says. -/
def Frugal (shares : List Epoll) : Program α → (α → List Epoll → Prop) → Prop
  | .pure value, post => post value shares
  | .ask r next, post => r.Fits shares ∧ ∀ result, (next result).Frugal (r.sharesAfter shares result) post

/-- A request and what comes after it. -/
theorem frugal_ask {r : Request} {next : r.Result → Program α} : (request r >>= next).Frugal shares post ↔
    r.Fits shares ∧ ∀ result, (next result).Frugal (r.sharesAfter shares result) post := Iff.rfl

/-- The same for a system call, which leaves the shares alone. -/
theorem frugal_call {syscall : Syscall} {next : Answer → Program α} : (call syscall >>= next).Frugal shares post ↔
    shares = syscall.instance?.toList ∧ ∀ answer, (next answer).Frugal shares post := Iff.rfl

/-- The only share is given back. -/
theorem frugal_release {epoll : Epoll} {next : Unit → Program α} :
    (request (.release epoll) >>= next).Frugal [epoll] post ↔ (next ()).Frugal [] post := by
  have none : Request.sharesAfter [epoll] (.release epoll) () = [] := List.erase_cons_head ..
  rw [frugal_ask]
  constructor
  · intro released
    exact none ▸ released.2 ()
  · intro rest
    refine ⟨rfl, fun _ => ?_⟩
    rw [none]
    exact rest

theorem frugal_bind {p : Program α} {f : α → Program β} :
    (p >>= f).Frugal shares post' ↔ p.Frugal shares fun value shares => (f value).Frugal shares post' := by
  show (p.bind f).Frugal shares post' ↔ _
  induction p generalizing shares with
  | pure value => rfl
  | ask r next ih => simp only [bind, Frugal, ih]

theorem Frugal.imp {p : Program α} {weaker : α → List Epoll → Prop} (frugal : p.Frugal shares post)
    (implies : ∀ value shares, post value shares → weaker value shares) : p.Frugal shares weaker := by
  induction p generalizing shares with
  | pure value => exact implies _ _ frugal
  | ask r next ih => exact ⟨frugal.1, fun result => ih result (frugal.2 result)⟩

/-- The program begins and ends without shares. -/
abbrev LetsGo (p : Program α) : Prop := p.Frugal [] fun _ shares => shares = []

theorem LetsGo.bind {p : Program α} {f : α → Program β} (first : p.LetsGo) (next : ∀ value, (f value).LetsGo) :
    (p >>= f).LetsGo := by
  refine frugal_bind.2 (first.imp fun value shares none => ?_)
  rw [none]
  exact next value

/-- What is about sockets has nothing to do with epoll instances. -/
theorem StaysWithSockets.letsGo {p : Program α} (stays : p.StaysWithSockets) : p.LetsGo := by
  induction p with
  | pure value => rfl
  | ask r next ih =>
    refine ⟨r.fits_of_isOfSocket stays.1, fun result => ?_⟩
    rw [r.sharesAfter_of_isOfSocket stays.1]
    exact ih result (stays.2 result)

end Program

/-! ### Pollers -/

namespace Poller
open Program

variable (p : Nat)

theorem letsGo_init : (init p).LetsGo := by
  unfold init
  refine frugal_ask.2 ⟨trivial, fun installed => ?_⟩
  cases installed with
  | some _ => rfl
  | none =>
    refine frugal_call.2 ⟨rfl, fun answer => ?_⟩
    cases answer.result with
    | error errno => rfl
    | ok fd =>
      refine ⟨trivial, fun epoll => ⟨trivial, fun taken => ?_⟩⟩
      cases taken with
      | true => exact List.erase_cons_head ..
      | false => exact frugal_release.2 rfl

theorem letsGo_finalize : (finalize p).LetsGo := by
  refine ⟨trivial, fun installed => ?_⟩
  cases installed with
  | none => rfl
  | some epoll => exact frugal_ask.2 ⟨trivial, fun _ => frugal_release.2 rfl⟩

theorem letsGo_add (fd : Int) (callback : Nat) : (add p fd callback).LetsGo := by
  unfold add
  split
  · rfl
  refine frugal_ask.2 ⟨trivial, fun known => ?_⟩
  cases known with
  | true => rfl
  | false =>
    refine frugal_ask.2 ⟨trivial, fun held => ?_⟩
    cases held with
    | none => rfl
    | some epoll =>
      refine frugal_call.2 ⟨rfl, fun answer => ?_⟩
      cases answer.result with
      | error errno => exact frugal_release.2 rfl
      | ok value =>
        refine frugal_ask.2 ⟨trivial, fun _ => frugal_ask.2 ⟨trivial, fun installed => ?_⟩⟩
        split
        · exact frugal_release.2 rfl
        · exact frugal_ask.2 ⟨trivial, fun _ => frugal_release.2 rfl⟩

theorem letsGo_delete (fd : Int) : (delete p fd).LetsGo := by
  unfold delete
  refine frugal_ask.2 ⟨trivial, fun existed => ?_⟩
  cases existed with
  | false => rfl
  | true =>
    refine frugal_ask.2 ⟨trivial, fun held => ?_⟩
    cases held with
    | none => rfl
    | some epoll =>
      refine frugal_call.2 ⟨rfl, fun answer => frugal_release.2 ?_⟩
      cases answer.result <;> rfl

theorem letsGo_discard : (discard p).LetsGo := (letsGo_finalize p).bind fun _ => rfl

theorem letsGo_dispatchAll (events : List UInt64) : (dispatchAll p events).LetsGo := by
  induction events with
  | nil => rfl
  | cons event rest ih => exact ⟨rfl, fun _ => ih⟩

theorem letsGo_turns (settings : PollerSettings) (left : Nat) : (turns p settings left).LetsGo := by
  induction left with
  | zero => rfl
  | succ left ih =>
    unfold turns
    refine frugal_ask.2 ⟨trivial, fun asked => ?_⟩
    cases asked with
    | true => rfl
    | false =>
      refine frugal_ask.2 ⟨trivial, fun held => ?_⟩
      cases held with
      | none => rfl
      | some epoll =>
        refine frugal_call.2 ⟨rfl, fun answer => frugal_release.2 ?_⟩
        cases answer.result with
        | error errno =>
          dsimp only
          split
          · exact ih
          · rfl
        | ok value => exact (letsGo_dispatchAll p answer.events).bind fun _ => ih

theorem letsGo_run (settings : PollerSettings) (left : Nat) : (run p settings left).LetsGo := by
  refine ⟨trivial, fun installed => ?_⟩
  cases installed with
  | none => rfl
  | some _ => exact letsGo_turns p settings left

theorem Method.letsGo {α : Type} (m : Method α) : (m.program p).LetsGo := by
  cases m with
  | init => exact letsGo_init p
  | finalize => exact (letsGo_finalize p).bind fun _ => rfl
  | add fd callback => exact letsGo_add p fd callback
  | delete fd => exact letsGo_delete p fd
  | run settings turns => exact letsGo_run p settings turns
  | stop => exact ⟨trivial, fun _ => rfl⟩

end Poller

/-- No operation ends with a share of an instance. -/
theorem Operation.letsGo {α : Type} (op : Operation α) : op.program.LetsGo := by
  cases op with
  | dial network own? remote init => exact (Connection.staysWithSockets_dial network own? remote init).letsGo
  | listen network kind own init => exact (Listener.staysWithSockets_listen network kind own init).letsGo
  | connection c m => exact (m.staysWithSockets c).letsGo
  | listener l m => exact (m.staysWithSockets l).letsGo
  | poller p m => exact m.letsGo p

end Sctp
