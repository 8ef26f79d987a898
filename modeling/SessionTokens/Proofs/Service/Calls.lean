import SessionTokens.Proofs.Store
import SessionTokens.Service.Interleaving

/-! # Calls and their steps

What a turn makes of the calls that share a deployment, and what a step of a call can make of the
record of a token: only a call to the store that revokes takes an active record.
-/

namespace SessionTokens

open Time

namespace CallStep

/-- A step revokes the active record of a token at the reading of the clock. -/
def Takes (step : CallStep) (token : RefreshToken) (record : Record) : Prop :=
  step.before.store.find? token = some record ∧ record.isActive = true ∧
    step.after.store.find? token = some (record.revoke step.before.clock.now)

variable {step : CallStep} {token : RefreshToken} {record : Record}

theorem not_takes_of_store_eq (h : step.after.store = step.before.store) :
    ¬ step.Takes token record := by
  rintro ⟨hbefore, hactive, hafter⟩
  rw [h, hbefore, Option.some.injEq] at hafter
  rw [hafter] at hactive
  cases hactive

theorem not_takes_of_push {added : Record} {hfresh : step.before.store.find? added.token = none}
    (h : step.after.store = step.before.store.push added hfresh) : ¬ step.Takes token record := by
  rintro ⟨hbefore, hactive, hafter⟩
  rw [h, Store.find?_push] at hafter
  split at hafter
  next heq =>
    rw [heq, hfresh] at hbefore
    cases hbefore
  next =>
    rw [hbefore, Option.some.injEq] at hafter
    rw [hafter] at hactive
    cases hactive

theorem not_takes_of_insert {lifetime : Duration} {now : Instant} {fresh : RefreshToken}
    {context : SecurityContext}
    (h : step.after.store = step.before.store.apply (.insert lifetime now fresh context)) :
    ¬ step.Takes token record := by
  simp only [Store.apply] at h
  rcases step.before.store.insert_cases lifetime now fresh context with
    ⟨added, hfresh, -, heq⟩ | ⟨failure, heq⟩
  · have hpush : step.after.store = step.before.store.push added hfresh := by rw [h, heq]
    exact not_takes_of_push hpush
  · rw [heq] at h
    exact not_takes_of_store_eq h

end CallStep

namespace Interleaving

variable {s : Interleaving} {index : Nat} {call : ServiceCall}

theorem calls_arrive {request : Request} :
    (s.take (.arrive request)).calls[index]? = some call ↔
      s.calls[index]? = some call ∨
        (index = s.calls.length ∧ call = ⟨request, request.script s.deployment.config⟩) := by
  simp only [take]
  rcases Nat.lt_trichotomy index s.calls.length with hlt | heq | hgt
  · rw [List.getElem?_append_left hlt]
    simp [Nat.ne_of_lt hlt]
  · subst heq
    simp [eq_comm]
  · rw [List.getElem?_eq_none (by simp; omega), List.getElem?_eq_none (by omega)]
    simp [Nat.ne_of_gt hgt]

theorem calls_advance {script : Script Deployment.Reply} {d : Deployment} {other : Nat}
    (hcall : s.calls[index]? = some call) :
    (s.advance index call script d).calls[other]? =
      if other = index then some { call with script } else s.calls[other]? := by
  obtain ⟨hlt, -⟩ := List.getElem?_eq_some_iff.mp hcall
  simp only [advance]
  split
  next heq => rw [heq, List.getElem?_set_self hlt]
  next hne => rw [List.getElem?_set_ne (Ne.symm hne)]

/-- What is true of the call that has arrived and of all others is true of every call. -/
theorem forall_calls_arrive {p : Nat → ServiceCall → Prop} {request : Request}
    (harrived : p s.calls.length ⟨request, request.script s.deployment.config⟩)
    (hrest : ∀ other found, s.calls[other]? = some found → p other found) :
    ∀ other found, (s.take (.arrive request)).calls[other]? = some found → p other found := by
  intro other found hfound
  rcases calls_arrive.mp hfound with hold | ⟨rfl, rfl⟩
  · exact hrest other found hold
  · exact harrived

/-- What is true of the call that has made a step and of all others is true of every call. -/
theorem forall_calls_advance {p : Nat → ServiceCall → Prop} {script : Script Deployment.Reply}
    {d : Deployment} (hcall : s.calls[index]? = some call) (hself : p index { call with script })
    (hrest : ∀ other found, other ≠ index → s.calls[other]? = some found → p other found) :
    ∀ other found, (s.advance index call script d).calls[other]? = some found →
      p other found := by
  intro other found hfound
  rw [calls_advance hcall] at hfound
  split at hfound
  next heq =>
    cases hfound
    rw [heq]
    exact hself
  next hne => exact hrest other found hne hfound

theorem reply?_eq_some_iff {reply : Deployment.Reply} :
    s.reply? index = some reply ↔
      ∃ call, s.calls[index]? = some call ∧ call.script = .done reply := by
  rw [reply?, Option.bind_eq_some_iff]
  refine exists_congr fun call => and_congr_right fun _ => ?_
  unfold ServiceCall.reply?
  split
  next found hscript => simp [hscript, eq_comm]
  next hscript =>
    constructor
    · intro h
      cases h
    · intro h
      exact absurd h (hscript reply)

end Interleaving

end SessionTokens
