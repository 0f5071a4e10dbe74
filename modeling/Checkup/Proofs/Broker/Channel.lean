import Mathlib.Logic.Relation
import Checkup.Broker

/-!
# The channel between the two sides of a round trip

While the message is published, the listener is at work beside the publisher and sends the leaf of each
of its steps into a channel with room for eight. Once the message is published the publisher takes leaves
out until the channel is empty and the listener gone; if it cannot be published, the listener is given
up. `Exchange.Step` says what either side can do next, so a run of it is one of the ways in which the two
can take turns; it ends where no step is possible.

Results:
* `Step.inv`: as long as nobody has given up, what was taken out, what is in the channel and what
  the listener has still to send are the report of the listener, in this order.
* `Step.left_lt`: every step brings the exchange nearer to its end.
* `relayed`: what holds of every run, as the structure `Relayed`.
-/
namespace Checkup.Broker

/-- The leaf that an event reports. -/
def ListenerEvent.leaf? : ListenerEvent → Option Node
  | .report leaf => some leaf
  | .call _ => none

/-- The leaves that are reported in some events. -/
def leavesIn (events : List ListenerEvent) : List Node := events.filterMap ListenerEvent.leaf?

@[simp] theorem leavesIn_nil : leavesIn [] = [] := rfl

@[simp] theorem leavesIn_call (c : ListenerCall) (rest : List ListenerEvent) :
    leavesIn (.call c :: rest) = leavesIn rest := rfl

@[simp] theorem leavesIn_report (leaf : Node) (rest : List ListenerEvent) :
    leavesIn (.report leaf :: rest) = leaf :: leavesIn rest := rfl

@[simp] theorem leavesIn_append (events events' : List ListenerEvent) :
    leavesIn (events ++ events') = leavesIn events ++ leavesIn events' :=
  List.filterMap_append

theorem reports_eq (calls : List (Nat × ListenerEvent)) :
    reports calls = leavesIn (calls.map Prod.snd) := by
  rw [leavesIn, List.filterMap_map]
  rfl

/-- The room in the channel. -/
def channelRoom : Nat := 8

inductive Phase where
  | publishing
  | collecting
  | done
  | givenUp
  deriving DecidableEq, Repr

structure Exchange where
  phase : Phase
  /-- What the listener has still to do. -/
  ahead : List ListenerEvent
  /-- Whether the listener is gone, and its end of the channel with it. -/
  gone : Bool
  channel : List Node
  collected : List Node

namespace Exchange

def start (events : List ListenerEvent) : Exchange := ⟨.publishing, events, false, [], []⟩

inductive Step : Exchange → Exchange → Prop where
  /-- The listener makes a call. -/
  | call {x : Exchange} {c : ListenerCall} {rest : List ListenerEvent} : x.ahead = .call c :: rest →
      Step x { x with ahead := rest }
  /-- The listener sends a leaf, if there is room for it. -/
  | send {x : Exchange} {leaf : Node} {rest : List ListenerEvent} : x.ahead = .report leaf :: rest →
      x.channel.length < channelRoom → Step x { x with ahead := rest, channel := x.channel ++ [leaf] }
  /-- The listener is done. -/
  | leave {x : Exchange} : x.ahead = [] → x.gone = false → Step x { x with gone := true }
  /-- The message is published. -/
  | published {x : Exchange} : x.phase = .publishing → Step x { x with phase := .collecting }
  /-- The message cannot be published. -/
  | refused {x : Exchange} : x.phase = .publishing → Step x { x with phase := .givenUp }
  /-- The listener is stopped, wherever it is. -/
  | stop {x : Exchange} : x.phase = .givenUp → x.gone = false →
      Step x { x with ahead := [], gone := true }
  /-- The publisher takes a leaf out. -/
  | take {x : Exchange} {leaf : Node} {rest : List Node} : x.phase = .collecting →
      x.channel = leaf :: rest → Step x { x with channel := rest, collected := x.collected ++ [leaf] }
  /-- The publisher finds the channel empty and the listener gone. -/
  | finish {x : Exchange} : x.phase = .collecting → x.channel = [] → x.gone = true →
      Step x { x with phase := .done }

/-- An exchange that a run from the start can come to. -/
def Reachable (events : List ListenerEvent) (x : Exchange) : Prop :=
  Relation.ReflTransGen Step (start events) x

def Over (x : Exchange) : Prop := (x.phase = .done ∨ x.phase = .givenUp) ∧ x.gone = true

structure Inv (events : List ListenerEvent) (x : Exchange) : Prop where
  /-- Unless the listener was given up, no leaf is lost, doubled or moved before another. -/
  conserved : x.phase ≠ .givenUp → x.collected ++ x.channel ++ leavesIn x.ahead = leavesIn events
  /-- The channel and what is still to be sent are together no longer than the report. -/
  bounded : x.channel.length + (leavesIn x.ahead).length ≤ (leavesIn events).length
  /-- Nothing is taken out before the message is published. -/
  untouched : x.phase = .publishing ∨ x.phase = .givenUp → x.collected = []
  emptied : x.phase = .done → x.channel = [] ∧ x.gone = true
  silent : x.gone = true → x.ahead = []

variable {events : List ListenerEvent} {x y : Exchange}

theorem inv_start (events : List ListenerEvent) : (start events).Inv events where
  conserved _ := rfl
  bounded := by simp [start]
  untouched _ := rfl
  emptied := nofun
  silent := nofun

theorem Step.inv (h : Step x y) (hx : x.Inv events) : y.Inv events := by
  obtain ⟨hconserved, hbounded, huntouched, hemptied, hsilent⟩ := hx
  cases h with
  | call hahead =>
    rw [hahead, leavesIn_call] at hconserved hbounded
    exact
      { conserved := hconserved
        bounded := hbounded
        untouched := huntouched
        emptied := hemptied
        silent := fun hg => by rw [hsilent hg] at hahead; cases hahead }
  | @send leaf rest hahead hroom =>
    -- The leaf moves from what is still to be sent into the channel.
    have hgone : x.gone ≠ true := fun hg => by rw [hsilent hg] at hahead; cases hahead
    rw [hahead, leavesIn_report] at hconserved hbounded
    exact
      { conserved := fun hp => by simpa using hconserved hp
        bounded := by simpa [Nat.add_assoc, Nat.add_comm 1] using hbounded
        untouched := huntouched
        emptied := fun hp => absurd (hemptied hp).2 hgone
        silent := fun hg => absurd hg hgone }
  | leave hahead hgone =>
    exact ⟨hconserved, hbounded, huntouched, fun hp => ⟨(hemptied hp).1, rfl⟩, fun _ => hahead⟩
  | published hphase =>
    exact
      { conserved := fun _ => hconserved (by rw [hphase]; nofun)
        bounded := hbounded
        untouched := nofun
        emptied := nofun
        silent := hsilent }
  | refused hphase =>
    exact ⟨fun hp => absurd rfl hp, hbounded, fun _ => huntouched (.inl hphase), nofun, hsilent⟩
  | stop hphase hgone =>
    exact
      { conserved := fun hp => absurd hphase hp
        bounded := Nat.le_trans (Nat.add_le_add_left (Nat.zero_le _) _) hbounded
        untouched := huntouched
        emptied := fun hp => by rw [hphase] at hp; cases hp
        silent := fun _ => rfl }
  | @take leaf rest hphase hchannel =>
    -- The leaf moves from the channel to what was taken out.
    rw [hchannel] at hconserved hbounded
    have hcollecting : ∀ p, x.phase = p → p = .collecting := fun p hp => hp.symm.trans hphase
    exact
      { conserved := fun hp => by simpa using hconserved hp
        bounded := by simp only [List.length_cons] at hbounded ⊢; omega
        untouched := by rintro (hp | hp) <;> cases hcollecting _ hp
        emptied := fun hp => by cases hcollecting _ hp
        silent := hsilent }
  | finish hphase hchannel hgone =>
    exact
      { conserved := fun _ => hconserved (by rw [hphase]; nofun)
        bounded := hbounded
        untouched := nofun
        emptied := fun _ => ⟨hchannel, hgone⟩
        silent := hsilent }

theorem Reachable.inv (h : Reachable events x) : x.Inv events := by
  induction h with
  | refl => exact inv_start events
  | tail _ hstep ih => exact hstep.inv ih

/-! ## Progress -/

/-- How many steps are left at most. -/
def left (x : Exchange) : Nat :=
  2 * x.ahead.length + x.channel.length + (if x.gone then 0 else 1) +
    match x.phase with
    | .publishing => 2
    | .collecting => 1
    | .done | .givenUp => 0

theorem Step.left_lt (h : Step x y) : y.left < x.left := by
  cases h <;> simp_all [left] <;> omega

/-- The room in the channel is enough for all that the listener has to send. -/
theorem Inv.room (hx : x.Inv events) (hroom : (leavesIn events).length ≤ channelRoom) {leaf : Node}
    {rest : List ListenerEvent} (hahead : x.ahead = .report leaf :: rest) :
    x.channel.length < channelRoom := by
  have hbounded := hx.bounded
  rw [hahead, leavesIn_report, List.length_cons] at hbounded
  omega

/-- Where neither side can do anything, both are through. -/
theorem Inv.over_or_step (hx : x.Inv events) (hroom : (leavesIn events).length ≤ channelRoom) :
    x.Over ∨ ∃ y, Step x y := by
  cases hahead : x.ahead with
  | cons event rest =>
    cases event with
    | call c => exact .inr ⟨_, .call hahead⟩
    | report leaf => exact .inr ⟨_, .send hahead (hx.room hroom hahead)⟩
  | nil =>
    cases hgone : x.gone with
    | false => exact .inr ⟨_, .leave hahead hgone⟩
    | true =>
      cases hphase : x.phase with
      | publishing => exact .inr ⟨_, .published hphase⟩
      | collecting =>
        cases hchannel : x.channel with
        | nil => exact .inr ⟨_, .finish hphase hchannel hgone⟩
        | cons leaf rest => exact .inr ⟨_, .take hphase hchannel⟩
      | done => exact .inl ⟨.inl hphase, hgone⟩
      | givenUp => exact .inl ⟨.inr hphase, hgone⟩

/-- What holds of every run of an exchange in which the listener has a report to send, whatever the two
sides do first. -/
structure Relayed (events : List ListenerEvent) (report : List Node) : Prop where
  /-- In the end the publisher has the whole report. -/
  complete : ∀ x, Reachable events x → x.phase = .done → x.collected = report
  /-- At any time it has a beginning of it. -/
  inOrder : ∀ x, Reachable events x → x.collected <+: report
  /-- If the message cannot be published it has none of it. -/
  dropped : ∀ x, Reachable events x → x.phase = .givenUp → x.collected = []
  /-- The listener never finds the channel full. -/
  unblocked : ∀ x leaf rest, Reachable events x → x.ahead = .report leaf :: rest →
    x.channel.length < channelRoom
  /-- One of the two can go on, until both are through. -/
  live : ∀ x, Reachable events x → x.Over ∨ ∃ y, Step x y
  /-- And they come to that point. -/
  ends : ∀ x y, Step x y → y.left < x.left

theorem relayed (hroom : (leavesIn events).length ≤ channelRoom) :
    Relayed events (leavesIn events) where
  complete x hx hdone := by
    have hinv := hx.inv
    have hconserved := hinv.conserved (by rw [hdone]; nofun)
    obtain ⟨hchannel, hgone⟩ := hinv.emptied hdone
    rw [← hconserved, hchannel, hinv.silent hgone]
    simp
  inOrder x hx := by
    by_cases hphase : x.phase = .givenUp
    · rw [hx.inv.untouched (.inr hphase)]
      exact List.nil_prefix
    · rw [← hx.inv.conserved hphase, List.append_assoc]
      exact List.prefix_append _ _
  dropped x hx hphase := hx.inv.untouched (.inr hphase)
  unblocked x leaf rest hx := hx.inv.room hroom
  live x hx := hx.inv.over_or_step hroom
  ends x y h := h.left_lt

end Exchange
end Checkup.Broker
