import Mathlib

/-!
# First in, first out

Entries join a queue at its end. They are served from its front, or leave it unserved.
`Fifo` relates the entries that entered and the ones that were served, both in order, to
those that wait: the served ones followed by the waiting ones are a part of what entered,
in its order.

## Main results

* `Fifo.move`: some entries leave, new ones enter, and a part of the front is served.
* `Fifo.served_sublist`: entries are served in the order they entered.
-/

namespace StabilityPlatform.Lib

variable {α : Type*} {entered served queue : List α}

/-- What was served and then what waits is, in order, a part of what entered. -/
def Fifo (entered served queue : List α) : Prop := (served ++ queue).Sublist entered

/-- Nothing entered yet. -/
theorem Fifo.nil : Fifo ([] : List α) [] [] := List.Sublist.refl _

/-- **One move.** Entries that leave are dropped from the queue, new ones join at its end,
and a front part is served. -/
theorem Fifo.move (h : Fifo entered served queue) {stay new front queue' : List α}
    (hstay : stay.Sublist queue) (hmove : stay ++ new = front ++ queue') :
    Fifo (entered ++ new) (served ++ front) queue' := by
  have hleave : (served ++ stay).Sublist entered :=
    (List.Sublist.append_left hstay served).trans h
  have henter : (served ++ (stay ++ new)).Sublist (entered ++ new) := by
    rw [← List.append_assoc]
    exact List.Sublist.append_right hleave new
  rw [hmove, ← List.append_assoc] at henter
  exact henter

/-- Entries are served in the order they entered. -/
theorem Fifo.served_sublist (h : Fifo entered served queue) : served.Sublist entered :=
  (List.sublist_append_left served queue).trans h

end StabilityPlatform.Lib
