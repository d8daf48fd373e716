/-
This file shows that what a script has handed over does not depend on what it hands over later. A
host that refuses every value after the first few sees of a script what a host without that limit
sees, up to the first value that is refused, and if no value is, then both see the same script from
its beginning to its end. It does not matter where the cut falls: among the values of one
statement, inside of loops, after an error, or at the value that a script gives back last.

The hosts answer errors by a rule, which may look at everything that was handed over before. A
script that would go on for ever is cut like any other: the limit on the rounds of a loop decides
how far it is looked at, and a cut that is seen under one limit is the same under every larger one.
-/

import SlashScript.Proofs.Channel.Basic

namespace SlashScript

/-! ### Hosts with a rule for errors -/

namespace Event

/-- The value of an event, if it is not an error. -/
def value? : Event → Option Value
  | output value => some value
  | error _ => none

/-- The values among several events, in order. -/
def values (events : List Event) : List Value :=
  events.filterMap value?

theorem values_append (events later : List Event) :
    values (events ++ later) = values events ++ values later :=
  List.filterMap_append

end Event

/-- What is done about an error, after the events so far: the run goes on with this keeping, or it
is stopped. -/
abbrev ErrorRule : Type :=
  List Event → ErrorRecord → Option Keeping

namespace Host

/-- A host that takes every value and answers errors by a rule. It keeps the events in order. -/
def ruled (rule : ErrorRule) : Host (List Event) where
  isCancelled _ := false
  take value events := some (events ++ [.output value])
  judge record events :=
    (((rule events record).map Keeping.verdict).getD .stop, events ++ [.error record])

/-- The host, if it takes only so many values. -/
def upTo (count : Nat) (host : Host (List Event)) : Host (List Event) :=
  { host with
    take := fun value events =>
      if (Event.values events).length < count then host.take value events else none }

variable {rule : ErrorRule} {events : List Event} {record : ErrorRecord}

theorem judge_ruled_of_stop (answer : rule events record = none) :
    (ruled rule).judge record events = (.stop, events ++ [.error record]) := by
  show ((Option.map _ (rule events record)).getD _, _) = _
  rw [answer]
  rfl

theorem judge_ruled_of_keep {keeping : Keeping} (answer : rule events record = some keeping) :
    (ruled rule).judge record events = (keeping.verdict, events ++ [.error record]) := by
  show ((Option.map _ (rule events record)).getD _, _) = _
  rw [answer]
  rfl

end Host

/-! ### Runs that are cut -/

/-- The second of two ends is the first, or it is cut where the first had one value more. -/
inductive Ended.CutAfter {Result : Type} (count : Nat)
    (whole cut : Ended Workspace Result (List Event)) : Prop where
  | nowhere (few : (Event.values whole.outside).length ≤ count)
    (uncancelled : whole.ending ≠ .cancelled) (same : cut = whole)
  | before (value : Value) (later : List Event)
    (events : whole.outside = cut.outside ++ .output value :: later)
    (full : (Event.values cut.outside).length = count) (ending : cut.ending = .cancelled)

namespace Run

variable {Result : Type} {rule : ErrorRule}

/-- Events are only added to those that were there. -/
theorem serve_ruled_extends (run : Run Workspace Result) (events : List Event) :
    events <+: (run.serve (.ruled rule) events).outside := by
  refine run.serve_outside (fun after => events <+: after) ?_ ?_ (List.prefix_refl _)
  · rintro value before after taken earlier
    cases taken
    exact earlier.trans (List.prefix_append _ _)
  · intro record before earlier
    exact earlier.trans (List.prefix_append _ _)

/-- A run is cut where it has handed over as many values as are taken. -/
theorem serve_upTo (count : Nat) (run : Run Workspace Result) (events : List Event)
    (room : (Event.values events).length ≤ count) :
    (run.serve (.ruled rule) events).CutAfter count
      (run.serve (.upTo count (.ruled rule)) events) := by
  induction run generalizing events with
  | done result now => exact .nowhere room (fun cancelled => by cases cancelled) rfl
  | exhausted now => exact .nowhere room (fun cancelled => by cases cancelled) rfl
  | poll now next inductionHypothesis => exact inductionHypothesis () events room
  | emit value now next inductionHypothesis =>
    have taken : (Host.ruled rule).take value events = some (events ++ [.output value]) := rfl
    rw [serve_emit_of_take taken]
    by_cases more : (Event.values events).length < count
    · have takenToo : ((Host.ruled rule).upTo count).take value events =
          some (events ++ [.output value]) := if_pos more
      rw [serve_emit_of_take takenToo]
      refine inductionHypothesis () _ ?_
      rw [Event.values_append, List.length_append]
      exact more
    · have refused : ((Host.ruled rule).upTo count).take value events = none := if_neg more
      obtain ⟨later, extended⟩ := (next ()).serve_ruled_extends (events ++ [.output value])
      rw [serve, refused]
      refine .before value later ?_ (Nat.le_antisymm room (Nat.le_of_not_lt more)) rfl
      rw [← extended, List.append_assoc]
      rfl
  | raise record now next inductionHypothesis =>
    have noValue : Event.values (events ++ [.error record]) = Event.values events := by
      rw [Event.values_append]
      exact List.append_nil _
    have roomAfter : (Event.values (events ++ [.error record])).length ≤ count := by
      rw [noValue]
      exact room
    cases answer : rule events record with
    | none =>
      have stopped := Host.judge_ruled_of_stop answer
      have stoppedToo : ((Host.ruled rule).upTo count).judge record events = _ := stopped
      rw [serve_raise_of_stop stopped, serve_raise_of_stop stoppedToo]
      exact .nowhere roomAfter (fun cancelled => by cases cancelled) rfl
    | some keeping =>
      have kept := Host.judge_ruled_of_keep answer
      have keptToo : ((Host.ruled rule).upTo count).judge record events = _ := kept
      rw [serve_raise_of_keep kept, serve_raise_of_keep keptToo]
      exact inductionHypothesis keeping _ roomAfter

end Run

/-! ### Scripts that are cut -/

namespace Interpreter

/-- A script is run by two hosts that answer errors by the same rule, one of which takes only so
many values. It gets the first values of the other, as many as it takes, and the same errors in
between. It ends the run exactly if the other gets more values, and then it does so however long the
script would go on; otherwise the two runs are the same from beginning to end. -/
theorem runScript_causal (rule : ErrorRule) (count limit : Nat) (block : Block)
    (workspace : Workspace) :
    let whole := (runScript limit block workspace).serve (.ruled rule) []
    let cut := fun limit => (runScript limit block workspace).serve (.upTo count (.ruled rule)) []
    Event.values (cut limit).outside = (Event.values whole.outside).take count ∧
      (cut limit).outside <+: whole.outside ∧
      ((cut limit).ending = .cancelled ↔ count < (Event.values whole.outside).length) ∧
      (count < (Event.values whole.outside).length →
        ∀ limit', limit ≤ limit' → cut limit' = cut limit) ∧
      ((Event.values whole.outside).length ≤ count → cut limit = whole) := by
  intro whole cut
  have isCut : whole.CutAfter count (cut limit) :=
    Run.serve_upTo count (runScript limit block workspace) [] (Nat.zero_le count)
  cases isCut with
  | nowhere few uncancelled same =>
    refine ⟨?_, same ▸ List.prefix_rfl, ?_, fun more => absurd more (Nat.not_lt_of_le few),
      fun _ => same⟩
    · rw [same, List.take_of_length_le few]
    · rw [same]
      exact ⟨fun cancelled => absurd cancelled uncancelled,
        fun more => absurd more (Nat.not_lt_of_le few)⟩
  | before value later events full ending =>
    have handedOver : Event.values whole.outside =
        Event.values (cut limit).outside ++ value :: Event.values later := by
      rw [events, Event.values_append]
      rfl
    have more : count < (Event.values whole.outside).length := by
      rw [handedOver, List.length_append, full, List.length_cons]
      omega
    have ends : (cut limit).ending ≠ .exhausted := by
      rw [ending]
      nofun
    refine ⟨?_, ?_, ⟨fun _ => more, fun _ => ending⟩,
      fun _ limit' larger => runScript_settled ends larger,
      fun few => absurd more (Nat.not_lt_of_le few)⟩
    · rw [handedOver, List.take_append_of_le_length (Nat.le_of_eq full.symm), ← full,
        List.take_length]
    · rw [events]
      exact List.prefix_append _ _

/-- A loop that never ends is cut after three of its values. -/
theorem runScript_causal_endless :
    let ticking : Block := [.whileLoop (.literal (.integer 1)) [.echo ⟨[.literal "tick"]⟩]]
    let cut := (runScript Engine.standardRoundLimit ticking .initial).serve
      (.upTo 3 (.ruled fun _ _ => some .logged)) []
    cut.ending = .cancelled ∧
      Event.values cut.outside = [.text "tick", .text "tick", .text "tick"] := by
  intro ticking cut
  -- Four rounds are enough to see the value that is refused.
  obtain ⟨values, _, cancelled, settled, _⟩ :=
    runScript_causal (fun _ _ => some .logged) 3 4 ticking .initial
  have more : 3 < (Event.values ((runScript 4 ticking .initial).serve
      (.ruled fun _ _ => some .logged) []).outside).length := by decide
  have same := settled more Engine.standardRoundLimit (by decide)
  refine ⟨(congrArg Ended.ending same).trans (cancelled.mpr more), ?_⟩
  exact (congrArg (fun ended => Event.values ended.outside) same).trans (values.trans rfl)

end Interpreter

end SlashScript
