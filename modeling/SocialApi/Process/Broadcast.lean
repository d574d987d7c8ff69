/-
Module: SocialApi.Process.Broadcast
Purpose: One receiver of a broadcast channel whose ring keeps the newest messages, and what a
  reader of it has seen.
Trusted boundary: human-reviewed model of the documented rules of tokio's broadcast channel
Main exports:
  Subscription, Subscription.Overrun, Subscription.send, Subscription.recv,
  Subscription.tryRecv, Subscription.receive_cases, KeepsUp, KeepsUp.received
-/
import Mathlib

namespace Process

/-- Why `recv` returns no message. -/
inductive RecvError where
  | closed
  | lagged (missed : Nat)
deriving DecidableEq

/-- Why `try_recv` returns no message. -/
inductive TryRecvError where
  | empty
  | closed
  | lagged (missed : Nat)
deriving DecidableEq

/-- A receiver and its channel: all that has been sent, of which the ring keeps the last
`capacity` messages, and the number of the message to be received next. -/
structure Subscription (α : Type) where
  capacity : Nat
  positive : 0 < capacity
  sent : List α
  closed : Bool
  next : Nat
  inside : next ≤ sent.length

namespace Subscription

variable {α : Type}

/-- The number of the oldest message that the ring keeps. -/
def oldest (receiver : Subscription α) : Nat := receiver.sent.length - receiver.capacity

/-- The message to be received next has been overwritten. -/
def Overrun (receiver : Subscription α) : Prop := receiver.next < receiver.oldest

instance (receiver : Subscription α) : Decidable receiver.Overrun :=
  inferInstanceAs (Decidable (_ < _))

/-- Every message sent has been received or skipped. -/
def Drained (receiver : Subscription α) : Prop := receiver.next = receiver.sent.length

/-- A receiver that subscribes after the given messages. -/
def subscribe (capacity : Nat) (positive : 0 < capacity) (past : List α) : Subscription α where
  capacity := capacity
  positive := positive
  sent := past
  closed := false
  next := past.length
  inside := le_rfl

def send (receiver : Subscription α) (message : α) : Subscription α :=
  { receiver with
    sent := receiver.sent ++ [message]
    inside := by
      rw [List.length_append]
      exact Nat.le_add_right_of_le receiver.inside }

/-- The last sender is gone. -/
def close (receiver : Subscription α) : Subscription α := { receiver with closed := true }

def moveTo (receiver : Subscription α) (next : Nat) (inside : next ≤ receiver.sent.length) :
    Subscription α :=
  { receiver with next := next, inside := inside }

/-- The next message, or the number of messages missed, if there is either: an overrun receiver
is moved to the oldest message that is kept. -/
def receive (receiver : Subscription α) : Option (Except Nat α × Subscription α) :=
  if receiver.Overrun then
    some (.error (receiver.oldest - receiver.next),
      receiver.moveTo receiver.oldest (Nat.sub_le _ _))
  else if available : receiver.next < receiver.sent.length then
    some (.ok receiver.sent[receiver.next], receiver.moveTo (receiver.next + 1) available)
  else none

/-- `none` while it waits. -/
def recv (receiver : Subscription α) : Option (Except RecvError α × Subscription α) :=
  match receiver.receive with
  | some (.ok message, after) => some (.ok message, after)
  | some (.error missed, after) => some (.error (.lagged missed), after)
  | none => if receiver.closed then some (.error .closed, receiver) else none

def tryRecv (receiver : Subscription α) : Except TryRecvError α × Subscription α :=
  match receiver.receive with
  | some (.ok message, after) => (.ok message, after)
  | some (.error missed, after) => (.error (.lagged missed), after)
  | none => (.error (if receiver.closed then .closed else .empty), receiver)

section Cases

variable {receiver : Subscription α}

@[simp] theorem send_sent (receiver : Subscription α) (message : α) :
    (receiver.send message).sent = receiver.sent ++ [message] := rfl

@[simp] theorem send_next (receiver : Subscription α) (message : α) :
    (receiver.send message).next = receiver.next := rfl

@[simp] theorem moveTo_sent (receiver : Subscription α) (next : Nat)
    (inside : next ≤ receiver.sent.length) :
    (receiver.moveTo next inside).sent = receiver.sent := rfl

@[simp] theorem moveTo_next (receiver : Subscription α) (next : Nat)
    (inside : next ≤ receiver.sent.length) : (receiver.moveTo next inside).next = next := rfl

/-- The ring keeps the newest message. -/
theorem Overrun.oldest_lt (overrun : receiver.Overrun) :
    receiver.oldest < receiver.sent.length := by
  have positive := receiver.positive
  unfold Overrun oldest at *
  omega

/-- What a receiver does: it is overrun and moves on, or it receives the next message, or all
is received. -/
theorem receive_cases (receiver : Subscription α) :
    (receiver.Overrun ∧ receiver.receive = some (.error (receiver.oldest - receiver.next),
      receiver.moveTo receiver.oldest (Nat.sub_le _ _))) ∨
    (¬ receiver.Overrun ∧ ∃ (available : receiver.next < receiver.sent.length),
      receiver.receive = some (.ok receiver.sent[receiver.next],
        receiver.moveTo (receiver.next + 1) available)) ∨
    (receiver.Drained ∧ receiver.receive = none) := by
  unfold receive
  by_cases overrun : receiver.Overrun
  · rw [if_pos overrun]
    exact .inl ⟨overrun, rfl⟩
  · rw [if_neg overrun]
    by_cases available : receiver.next < receiver.sent.length
    · rw [dif_pos available]
      exact .inr (.inl ⟨overrun, available, rfl⟩)
    · rw [dif_neg available]
      exact .inr (.inr ⟨le_antisymm receiver.inside (not_lt.mp available), rfl⟩)

theorem recv_cases {answer : Except RecvError α} {after : Subscription α}
    (received : receiver.recv = some (answer, after)) :
    (receiver.Overrun ∧ (∃ missed, answer = .error (.lagged missed)) ∧
      after = receiver.moveTo receiver.oldest (Nat.sub_le _ _)) ∨
    (∃ (available : receiver.next < receiver.sent.length),
      answer = .ok receiver.sent[receiver.next] ∧
        after = receiver.moveTo (receiver.next + 1) available) ∨
    (answer = .error .closed ∧ after = receiver) := by
  unfold recv at received
  rcases receiver.receive_cases with ⟨overrun, found⟩ | ⟨_, available, found⟩ | ⟨_, found⟩
  · rw [found] at received
    cases received
    exact .inl ⟨overrun, ⟨_, rfl⟩, rfl⟩
  · rw [found] at received
    cases received
    exact .inr (.inl ⟨available, rfl, rfl⟩)
  · rw [found] at received
    dsimp only at received
    split at received
    · cases received
      exact .inr (.inr ⟨rfl, rfl⟩)
    · cases received

theorem tryRecv_cases (receiver : Subscription α) :
    (receiver.Overrun ∧ ∃ missed, receiver.tryRecv =
      (.error (.lagged missed), receiver.moveTo receiver.oldest (Nat.sub_le _ _))) ∨
    (¬ receiver.Overrun ∧ ∃ (available : receiver.next < receiver.sent.length),
      receiver.tryRecv =
        (.ok receiver.sent[receiver.next], receiver.moveTo (receiver.next + 1) available)) ∨
    (receiver.Drained ∧ ∃ e, receiver.tryRecv = (.error e, receiver)) := by
  unfold tryRecv
  rcases receiver.receive_cases with ⟨overrun, found⟩ | ⟨inTime, available, found⟩ |
    ⟨drained, found⟩
  · rw [found]
    exact .inl ⟨overrun, _, rfl⟩
  · rw [found]
    exact .inr (.inl ⟨inTime, available, rfl⟩)
  · rw [found]
    exact .inr (.inr ⟨drained, _, rfl⟩)

end Cases

/-- What a reader passes from one message on, once it has received the next one. -/
theorem passed_succ {α : Type} {receiver : Subscription α} {first : Nat}
    (onward : first ≤ receiver.next) (available : receiver.next < receiver.sent.length) :
    (receiver.sent.take (receiver.next + 1)).drop first =
      (receiver.sent.take receiver.next).drop first ++ [receiver.sent[receiver.next]] := by
  rw [List.take_add_one, List.getElem?_eq_getElem available, Option.toList_some,
    List.drop_append_of_le_length]
  rw [List.length_take, min_eq_left receiver.inside]
  exact onward

end Subscription

/-! ### What a reader has seen -/

/-- What a reader that subscribed at message `first` has seen: messages from there on, each
at most once and in the order in which they were sent, and the newest of them when none is left
to receive. -/
structure KeepsUp {α : Type} (first : Nat) (seen : List α) (receiver : Subscription α) : Prop
    where
  first_le : first ≤ receiver.next
  ordered : seen.Sublist ((receiver.sent.take receiver.next).drop first)
  latest : receiver.Drained → seen.getLast? = (receiver.sent.drop first).getLast?

section KeepsUp

variable {α : Type} {first : Nat} {seen kept : List α} {receiver : Subscription α}

theorem keepsUp_start (capacity : Nat) (positive : 0 < capacity) (past : List α) :
    KeepsUp past.length [] (.subscribe capacity positive past) where
  first_le := le_rfl
  ordered := List.nil_sublist _
  latest := by simp [Subscription.subscribe]

theorem KeepsUp.send (follows : KeepsUp first seen receiver) (message : α) :
    KeepsUp first seen (receiver.send message) where
  first_le := follows.first_le
  ordered := by
    rw [Subscription.send_sent, Subscription.send_next,
      List.take_append_of_le_length receiver.inside]
    exact follows.ordered
  latest := by
    intro drained
    have inside := receiver.inside
    rw [Subscription.Drained, Subscription.send_sent, Subscription.send_next,
      List.length_append, List.length_singleton] at drained
    omega

/-- Being moved on, short of the newest message, does not change what has been seen. -/
theorem KeepsUp.skip (follows : KeepsUp first seen receiver) {next : Nat}
    (onward : receiver.next ≤ next) (before : next < receiver.sent.length) :
    KeepsUp first seen (receiver.moveTo next before.le) where
  first_le := follows.first_le.trans onward
  ordered := follows.ordered.trans ((List.take_sublist_take_left onward).drop first)
  latest := fun drained => absurd drained before.ne

/-- A reader that receives the next message may forget some of what it has seen. -/
theorem KeepsUp.received (follows : KeepsUp first seen receiver) (fewer : kept.Sublist seen)
    (available : receiver.next < receiver.sent.length) :
    KeepsUp first (kept ++ [receiver.sent[receiver.next]])
      (receiver.moveTo (receiver.next + 1) available) := by
  have grown := Subscription.passed_succ follows.first_le available
  constructor
  · exact follows.first_le.trans (Nat.le_succ _)
  · rw [Subscription.moveTo_sent, Subscription.moveTo_next, grown]
    exact (fewer.trans follows.ordered).append_right _
  · intro drained
    have all : receiver.sent.take (receiver.next + 1) = receiver.sent :=
      List.take_of_length_le (Nat.le_of_eq drained.symm)
    rw [all] at grown
    rw [Subscription.moveTo_sent, grown, List.getLast?_concat, List.getLast?_concat]

end KeepsUp

end Process
