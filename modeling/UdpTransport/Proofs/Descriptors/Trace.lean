import Mathlib.Algebra.Order.Group.Multiset
import Mathlib.Tactic.Abel
import UdpTransport.Journal

/-!
# Descriptors along a trace

What a program does with its descriptors can be read off its journal. `Spends held events left` says
that someone who holds the descriptors `held` went through `events` and has `left`: each call was
about descriptors in hand, and whatever was closed is out of hand from then on.

That is a statement about each event alone. What one wants to know of a whole trace follows: nothing
is closed that was not held, and what was held is either left or closed (`Spends.balance`); if the
descriptors are distinct, no call is about one that was closed before (`Spends.quiet`).
-/

namespace UdpTransport

/-- The descriptors that a call is about. -/
def SystemCall.descriptors : SystemCall → List Int
  | .socket .. | .createInterestSet _ => []
  | .changeInterest set _ fd _ => [set, fd]
  | .close fd | .getFlags fd | .setFlags fd _ | .setOption fd .. | .getOption fd .. | .bind fd _
  | .connect fd _ | .socketName fd | .peerName fd | .receive fd .. | .receiveMessage fd ..
  | .sendMessage fd .. | .wait fd .. => [fd]

namespace Event

/-- The descriptors that an event is about. -/
def descriptors : Event → List Int
  | .call made _ => made.descriptors
  | _ => []

/-- The descriptor that was to be closed, whether or not that failed. -/
def closed? : Event → Option Int
  | .call (.close fd) _ => some fd
  | _ => none

theorem descriptors_of_closed {event : Event} {fd : Int} (h : event.closed? = some fd) :
    event.descriptors = [fd] := by
  unfold closed? at h
  split at h
  · cases h
    rfl
  · cases h

end Event

/-- The descriptors that were to be closed, in order. -/
def closings (events : List Event) : List Int := events.filterMap Event.closed?

theorem closings_eq_nil {events : List Event} (h : ∀ event ∈ events, event.closed? = none) :
    closings events = [] := List.filterMap_eq_nil_iff.mpr h

@[simp] theorem closings_append (first second : List Event) :
    closings (first ++ second) = closings first ++ closings second := List.filterMap_append

/-- Who holds some descriptors goes through events, and has others left. -/
inductive Spends : Multiset Int → List Event → Multiset Int → Prop
  | nil (held : Multiset Int) : Spends held [] held
  /-- Only descriptors in hand are used. -/
  | use {held left : Multiset Int} {event : Event} {events : List Event}
      (inHand : ∀ fd ∈ event.descriptors, fd ∈ held) (stays : event.closed? = none)
      (later : Spends held events left) : Spends held (event :: events) left
  /-- What is closed is given up. -/
  | close {held left : Multiset Int} {event : Event} {events : List Event} {fd : Int}
      (closed : event.closed? = some fd) (later : Spends held events left) :
      Spends (fd ::ₘ held) (event :: events) left

namespace Spends

variable {held middle left : Multiset Int} {events others : List Event}

/-- One trace after the other. -/
theorem append (first : Spends held events middle) (second : Spends middle others left) :
    Spends held (events ++ others) left := by
  induction first with
  | nil => exact second
  | use inHand stays _ ih => exact .use inHand stays (ih second)
  | close closed _ ih => exact .close closed (ih second)

/-- Descriptors that nobody touches are left as they are. -/
theorem frame (h : Spends held events left) (rest : Multiset Int) :
    Spends (held + rest) events (left + rest) := by
  induction h with
  | nil => exact .nil _
  | use inHand stays _ ih =>
    exact .use (fun fd hfd => Multiset.mem_add.mpr (.inl (inHand fd hfd))) stays ih
  | close closed _ ih =>
    rw [Multiset.cons_add]
    exact .close closed ih

/-- A trace that uses only what is in hand, and closes nothing. -/
theorem of_uses (h : ∀ event ∈ events, event.closed? = none ∧ ∀ fd ∈ event.descriptors, fd ∈ held) :
    Spends held events held := by
  induction events with
  | nil => exact .nil held
  | cons event events ih =>
    obtain ⟨⟨stays, inHand⟩, later⟩ := List.forall_mem_cons.mp h
    exact .use inHand stays (ih later)

/-- What was held is left or was closed. -/
theorem balance (h : Spends held events left) : held = left + (closings events : Multiset Int) := by
  induction h with
  | nil => exact (add_zero _).symm
  | use _ stays _ ih =>
    rw [closings, List.filterMap_cons_none stays]
    exact ih
  | close closed _ ih =>
    rw [closings, List.filterMap_cons_some closed, ← Multiset.cons_coe, Multiset.add_cons]
    exact congrArg _ ih

/-- No event is about a descriptor that was not held. -/
theorem concerned (h : Spends held events left) :
    ∀ event ∈ events, ∀ fd ∈ event.descriptors, fd ∈ held := by
  induction h with
  | nil => exact nofun
  | use inHand _ _ ih => exact List.forall_mem_cons.mpr ⟨inHand, ih⟩
  | @close held _ event _ fd closed _ ih =>
    refine List.forall_mem_cons.mpr ⟨fun used hused => ?_, fun event hevent used hused => ?_⟩
    · rw [Event.descriptors_of_closed closed] at hused
      exact List.mem_singleton.mp hused ▸ Multiset.mem_cons_self fd held
    · exact Multiset.mem_cons_of_mem (ih event hevent used hused)

/-- **Once closed, a descriptor is not used again**, if no descriptor was held twice. -/
theorem quiet (h : Spends held events left) (hdistinct : held.Nodup) :
    events.Pairwise fun earlier later => ∀ fd, earlier.closed? = some fd →
      fd ∉ later.descriptors := by
  induction h with
  | nil => exact .nil
  | use _ stays _ ih =>
    refine .cons (fun later _ fd hclosed => ?_) (ih hdistinct)
    rw [stays] at hclosed
    cases hclosed
  | @close held _ event _ fd closed hlater ih =>
    obtain ⟨hgone, hrest⟩ := Multiset.nodup_cons.mp hdistinct
    refine .cons (fun later hmem used hused hin => ?_) (ih hrest)
    rw [closed] at hused
    cases hused
    -- What is used later is still held then, and the descriptor is not.
    exact hgone (hlater.concerned later hmem fd hin)

/-- No descriptor is closed twice, nor closed and left, if none was held twice. -/
theorem distinct (h : Spends held events left) (hdistinct : held.Nodup) :
    left.Nodup ∧ (closings events).Nodup ∧ ∀ fd ∈ left, fd ∉ closings events := by
  rw [h.balance] at hdistinct
  obtain ⟨hleft, hclosings, hapart⟩ := Multiset.nodup_add.mp hdistinct
  refine ⟨hleft, Multiset.coe_nodup.mp hclosings, fun fd hfd hclosed => ?_⟩
  exact Multiset.disjoint_left.mp hapart hfd (Multiset.mem_coe.mpr hclosed)

end Spends

end UdpTransport
