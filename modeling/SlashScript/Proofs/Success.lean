/-
This file says when a computation that may fail succeeds: each of its parts does, with the values
that the next ones go on from.
-/

import Mathlib.Logic.Basic

namespace SlashScript

variable {Reason Reason' Value Value' : Type}

theorem bind_eq_ok {computation : Except Reason Value} {next : Value → Except Reason Value'}
    {result : Value'} :
    (computation >>= next) = .ok result ↔
      ∃ value, computation = .ok value ∧ next value = .ok result := by
  cases computation with
  | error reason =>
    refine ⟨fun succeeds => ?_, fun ⟨_, succeeds, _⟩ => ?_⟩
    · cases succeeds
    · cases succeeds
  | ok value =>
    refine ⟨fun succeeds => ⟨value, rfl, succeeds⟩, ?_⟩
    rintro ⟨_, ⟨⟩, succeeds⟩
    exact succeeds

theorem map_eq_ok {computation : Except Reason Value} {change : Value → Value'}
    {result : Value'} :
    computation.map change = .ok result ↔
      ∃ value, computation = .ok value ∧ change value = result := by
  cases computation with
  | error reason =>
    refine ⟨fun succeeds => ?_, fun ⟨_, succeeds, _⟩ => ?_⟩
    · cases succeeds
    · cases succeeds
  | ok value =>
    refine ⟨fun succeeds => ⟨value, rfl, Except.ok.inj succeeds⟩, ?_⟩
    rintro ⟨_, ⟨⟩, rfl⟩
    rfl

theorem mapError_eq_ok {computation : Except Reason Value} {change : Reason → Reason'}
    {result : Value} : computation.mapError change = .ok result ↔ computation = .ok result := by
  cases computation with
  | error reason =>
    refine ⟨fun succeeds => ?_, fun succeeds => ?_⟩
    · cases succeeds
    · cases succeeds
  | ok value =>
    exact ⟨fun succeeds => congrArg Except.ok (Except.ok.inj succeeds),
      fun succeeds => congrArg Except.ok (Except.ok.inj succeeds)⟩

end SlashScript
