import HtmlTemplate.Sink

/-!
# `HtmlTemplate.Proofs.Delivery`: writing all bytes to a sink

`Sink.deliver bytes` says in one step what an attempt to write `bytes`
comes to: the sink takes as many of them from the front as it has room
for, and the attempt fails if that is not all of them.

* `writeAll_eq_deliver`: the loop of single writes comes to this. It
  does not matter how many bytes the sink takes in one call.
* `deliver_bind`: one delivery after another is the delivery of the
  joined bytes. If the first one fails, nothing of the second one is
  written, and this is why a failure may cut a series of writes at any
  byte.

With the second fact, a program that only writes is a delivery of all
its bytes, in whatever pieces it writes them.
-/

set_option autoImplicit false

namespace HtmlTemplate

/-- The error that a full sink leads to. -/
def Refusal.failure : Refusal → WriteError
  | .error => .full
  | .nothing => .stalled

namespace Sink

/-- How many of `n` bytes the sink has room for. -/
def capacity (s : Sink) (n : Nat) : Nat :=
  match s.room with
  | none => n
  | some room => min n room

/-- Takes as many of the bytes as there is room for, and fails if that
is not all of them. -/
def deliver (bytes : List UInt8) : Writer Unit := fun s =>
  let after := s.push (bytes.take (s.capacity bytes.length))
  if s.capacity bytes.length = bytes.length then .ok () after
  else .error s.refusal.failure after

/-! ### Room -/

/-- A sink has no room for more than there is. -/
theorem capacity_le (s : Sink) (n : Nat) : s.capacity n ≤ n := by
  unfold capacity
  cases s.room with
  | none => exact Nat.le_refl n
  | some room => exact Nat.min_le_left n room

/-- It does not accept more in one call than it has room for. -/
theorem accepts_le_capacity (s : Sink) (n : Nat) : s.accepts n ≤ s.capacity n := by
  unfold accepts capacity
  cases s.room with
  | none => exact Nat.min_le_left _ _
  | some room =>
    show min (min n _) room ≤ min n room
    omega

/-- A call with something to offer takes nothing only if there is no
room at all. -/
theorem capacity_eq_zero_of_accepts {s : Sink} {n : Nat} (hn : 0 < n) (h : s.accepts n = 0) :
    s.capacity n = 0 := by
  unfold accepts at h
  unfold capacity
  cases hroom : s.room with
  | none =>
    rw [hroom] at h
    have hzero : min n (max 1 (s.portion s.written.size n)) = 0 := h
    omega
  | some room =>
    rw [hroom] at h
    have hzero : min (min n (max 1 (s.portion s.written.size n))) room = 0 := h
    show min n room = 0
    omega

/-- Bytes that were taken use up room. -/
theorem capacity_push (s : Sink) (bytes : List UInt8) (n : Nat) :
    (s.push bytes).capacity n = min n (s.capacity (bytes.length + n) - bytes.length) := by
  unfold capacity push
  cases s.room with
  | none =>
    show n = min n (bytes.length + n - bytes.length)
    omega
  | some room =>
    show min n (room - bytes.length) = min n (min (bytes.length + n) room - bytes.length)
    omega

/-! ### The bytes in the sink -/

/-- No bytes leave a sink as it is. -/
@[simp] theorem push_nil (s : Sink) : s.push [] = s := by
  obtain ⟨written, room, refusal, portion⟩ := s
  cases room with
  | none => simp [push]
  | some room => simp [push]

/-- Bytes after other bytes are the joined bytes. -/
@[simp] theorem push_push (s : Sink) (as bs : List UInt8) :
    (s.push as).push bs = s.push (as ++ bs) := by
  obtain ⟨written, room, refusal, portion⟩ := s
  cases room with
  | none => simp [push, ← Array.toList_inj]
  | some room => simp [push, ← Array.toList_inj, Nat.sub_add_eq]

/-- A sink refuses the same way, whatever is in it. -/
@[simp] theorem refusal_push (s : Sink) (bytes : List UInt8) :
    (s.push bytes).refusal = s.refusal := rfl

/-! ### The loop of single writes -/

/-- A call that takes nothing ends the loop with the failure of the
sink. -/
theorem writeAll_of_accepts_zero {s : Sink} {bytes : List UInt8} (hb : bytes ≠ [])
    (h : s.accepts bytes.length = 0) : writeAll bytes s = .error s.refusal.failure s := by
  rw [writeAll, dif_neg hb]
  show EStateM.bind (write bytes) _ s = _
  unfold EStateM.bind
  cases hr : s.refusal with
  | error =>
    -- The call itself fails.
    have hwrite : write bytes s = .error .full s := if_pos ⟨h, hb, hr⟩
    rw [hwrite]
    rfl
  | nothing =>
    -- The call succeeds with no bytes, and the loop gives up.
    have herr : ¬ (s.accepts bytes.length = 0 ∧ bytes ≠ [] ∧ s.refusal = .error) := by
      rintro ⟨-, -, herr⟩
      rw [hr] at herr
      cases herr
    have hwrite : write bytes s = .ok 0 s := by
      have hok : write bytes s = .ok (s.accepts bytes.length) (s.push (bytes.take _)) :=
        if_neg herr
      rw [hok, h, List.take_zero, push_nil]
    rw [hwrite]
    rfl

/-- A call that takes something leaves the rest to the loop. -/
theorem writeAll_of_accepts_pos {s : Sink} {bytes : List UInt8} (hb : bytes ≠ [])
    (h : 0 < s.accepts bytes.length) :
    writeAll bytes s = writeAll (bytes.drop (s.accepts bytes.length))
      (s.push (bytes.take (s.accepts bytes.length))) := by
  have hne : s.accepts bytes.length ≠ 0 := Nat.ne_of_gt h
  have hwrite : write bytes s
      = .ok (s.accepts bytes.length) (s.push (bytes.take (s.accepts bytes.length))) :=
    if_neg fun hand => hne hand.1
  rw [writeAll, dif_neg hb]
  show EStateM.bind (write bytes) _ s = _
  unfold EStateM.bind
  simp only [hwrite, dif_neg hne]

end Sink

open Sink

/-- The loop of single writes delivers the bytes. The induction is on
how many are left. In each round the sink takes some, or it is full. -/
theorem writeAll_eq_deliver (bytes : List UInt8) : writeAll bytes = deliver bytes := by
  funext s
  induction hlen : bytes.length using Nat.strongRecOn generalizing bytes s with
  | ind len ih =>
    by_cases hb : bytes = []
    · subst hb
      have hcap : s.capacity 0 = 0 := Nat.le_zero.mp (s.capacity_le 0)
      rw [writeAll, dif_pos rfl]
      simp [deliver, hcap, pure, EStateM.pure]
    · have hpos : 0 < bytes.length := List.length_pos_iff.mpr hb
      rcases Nat.eq_zero_or_pos (s.accepts bytes.length) with hz | htake
      · -- The sink is full, and there are bytes left.
        have hcap : s.capacity bytes.length = 0 := capacity_eq_zero_of_accepts hpos hz
        rw [writeAll_of_accepts_zero hb hz, deliver]
        simp only [hcap, if_neg (Nat.ne_of_lt hpos), List.take_zero, push_nil]
      · -- The sink takes `n` bytes. Its room for the others decides.
        rw [writeAll_of_accepts_pos hb htake]
        have hle := s.accepts_le_capacity bytes.length
        have hcap := s.capacity_le bytes.length
        generalize s.accepts bytes.length = n at htake hle
        have hrest : (bytes.drop n).length = bytes.length - n := List.length_drop
        have hfront : (bytes.take n).length = n := by
          rw [List.length_take]
          omega
        rw [ih (bytes.drop n).length (by omega) (bytes.drop n) _ rfl]
        have hroom : (s.push (bytes.take n)).capacity (bytes.length - n)
            = s.capacity bytes.length - n := by
          rw [capacity_push, hfront, Nat.add_sub_cancel' (by omega : n ≤ bytes.length)]
          omega
        have htaken : bytes.take n ++ (bytes.drop n).take (s.capacity bytes.length - n)
            = bytes.take (s.capacity bytes.length) := by
          rw [← List.take_add, Nat.add_sub_cancel' hle]
        simp only [deliver, hrest, hroom, push_push, htaken, refusal_push]
        by_cases hfits : s.capacity bytes.length = bytes.length
        · rw [if_pos hfits, if_pos (by omega)]
        · rw [if_neg hfits, if_neg (by omega)]

/-- Delivering nothing always succeeds. -/
theorem deliver_nil : deliver [] = pure () := by
  funext s
  have hcap : s.capacity 0 = 0 := Nat.le_zero.mp (s.capacity_le 0)
  simp [deliver, hcap, pure, EStateM.pure]

/-- A delivery after another one delivers the joined bytes. If the first
one does not fit, then neither do the joined bytes, and the same front
part of them is taken. -/
theorem deliver_bind (as bs : List UInt8) :
    (do deliver as; deliver bs) = deliver (as ++ bs) := by
  funext s
  show EStateM.bind (deliver as) (fun _ => deliver bs) s = deliver (as ++ bs) s
  have hle := s.capacity_le as.length
  -- Of the joined bytes, the sink takes as many of `as` as it takes of `as` alone.
  have hjoined : s.capacity as.length = min as.length (s.capacity (as ++ bs).length) := by
    rw [List.length_append]
    unfold capacity
    cases s.room with
    | none =>
      show as.length = min as.length (as.length + bs.length)
      omega
    | some room =>
      show min as.length room = min as.length (min (as.length + bs.length) room)
      omega
  by_cases hfits : s.capacity as.length = as.length
  · -- All of `as` fits, and what is left of the room is for `bs`.
    have hroom := s.capacity_push as bs.length
    have hall := s.capacity_le (as.length + bs.length)
    rw [List.length_append] at hjoined
    have hafter : (s.push as).capacity bs.length
        = s.capacity (as.length + bs.length) - as.length := by omega
    have htaken : (as ++ bs).take (s.capacity (as.length + bs.length))
        = as ++ bs.take (s.capacity (as.length + bs.length) - as.length) := by
      rw [List.take_append, List.take_of_length_le (by omega)]
    simp only [EStateM.bind, deliver, hfits, if_pos, List.take_length, List.length_append,
      hafter, push_push, htaken, refusal_push]
    by_cases hboth : s.capacity (as.length + bs.length) = as.length + bs.length
    · rw [if_pos hboth, if_pos (by omega)]
    · rw [if_neg hboth, if_neg (by omega)]
  · -- `as` does not fit, and `bs` is not even offered.
    have hall := s.capacity_le (as ++ bs).length
    have hsame : s.capacity (as ++ bs).length = s.capacity as.length := by omega
    have htaken : (as ++ bs).take (s.capacity as.length) = as.take (s.capacity as.length) :=
      List.take_append_of_le_length hle
    have hover : s.capacity as.length ≠ (as ++ bs).length := by
      rw [List.length_append]
      omega
    simp only [EStateM.bind, deliver, if_neg hfits, hsame, if_neg hover, htaken]

end HtmlTemplate
