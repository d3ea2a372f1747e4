import LinkGate.Check.Retry
import Mathlib.Data.Nat.Find

/-!
# One address alone

The answers of an address fix its outcome. All answers before the last one ask for another request,
and the last one does not; the outcome is the last answer with the number of requests up to it.
-/

namespace LinkGate

/-- The answers of an address up to `last`, each of which asks for another request, and a final
answer behind them. -/
structure RetryPolicy.EndsAt (policy : RetryPolicy) (ends : Nat → Status) (last : Nat) : Prop where
  again : ∀ k, k < last → policy.asksAgain (k + 1) (ends k) = true
  final : policy.asksAgain (last + 1) (ends last) = false

namespace RetryPolicy

theorem lt_budget_of_asksAgain {policy : RetryPolicy} {attempts : Nat} {status : Status}
    (again : policy.asksAgain attempts status = true) : attempts < policy.budget := by
  simp only [asksAgain, Bool.and_eq_true, decide_eq_true_eq] at again
  exact again.2

/-- After answers that all ask for another request, the budget allows one more. -/
theorem lt_budget_of_all_ask {policy : RetryPolicy} {ends : Nat → Status} {answered : Nat}
    (again : ∀ k, k < answered → policy.asksAgain (k + 1) (ends k) = true) :
    answered < policy.budget := by
  cases answered with
  | zero =>
      have positive : 1 ≤ policy.budget := Nat.le_max_left 1 policy.maxAttempts
      exact positive
  | succ k => exact lt_budget_of_asksAgain (again k (Nat.lt_succ_self k))

theorem EndsAt.lt_budget {policy : RetryPolicy} {ends : Nat → Status} {last : Nat}
    (ended : policy.EndsAt ends last) : last < policy.budget :=
  lt_budget_of_all_ask ended.again

/-- Some answer is final, whatever the answers are: the budget ends the requests if nothing else does. -/
theorem exists_endsAt (policy : RetryPolicy) (ends : Nat → Status) :
    ∃ last, policy.EndsAt ends last := by
  have stops : ∃ k, policy.asksAgain (k + 1) (ends k) = false := by
    refine ⟨policy.budget, ?_⟩
    rw [Bool.eq_false_iff]
    intro again
    have within := lt_budget_of_asksAgain again
    omega
  -- The first answer that ends the requests is the final one.
  refine ⟨Nat.find stops, ?_, Nat.find_spec stops⟩
  intro k earlier
  exact eq_true_of_ne_false (Nat.find_min stops earlier)

end RetryPolicy

/-- From any request up to the final one on, the search for the last status finds the final one. -/
theorem lastStatus_of_endsAt {policy : RetryPolicy} {ends : Nat → Status} {last : Nat}
    (ended : policy.EndsAt ends last) {allowed attempts : Nat}
    (reached : attempts ≤ last) (enough : last ≤ attempts + allowed) :
    lastStatus policy ends allowed attempts = (ends last, last + 1) := by
  induction allowed generalizing attempts with
  | zero =>
      have same : attempts = last := by omega
      rw [lastStatus, same]
  | succ allowed ih =>
      rcases Nat.eq_or_lt_of_le reached with same | before
      · rw [same, lastStatus, if_neg (by rw [ended.final]; exact Bool.false_ne_true)]
      · rw [lastStatus, if_pos (ended.again attempts before)]
        exact ih (by omega) (by omega)

theorem checkOne_of_endsAt {policy : RetryPolicy} {probe : Probe} {url : String} {last : Nat}
    (ended : policy.EndsAt (fun k => (probe url k).status) last) :
    checkOne policy probe url = ⟨url, (probe url last).status, last + 1⟩ := by
  have within : last ≤ 0 + policy.budget := by
    have bound := ended.lt_budget
    omega
  simp only [checkOne, lastStatus_of_endsAt ended (Nat.zero_le last) within]

/-- An address is asked for at least once, and not more often than the budget allows. -/
theorem attempts_checkOne (policy : RetryPolicy) (probe : Probe) (url : String) :
    1 ≤ (checkOne policy probe url).attempts ∧
      (checkOne policy probe url).attempts ≤ policy.budget := by
  obtain ⟨last, ended⟩ := policy.exists_endsAt fun k => (probe url k).status
  rw [checkOne_of_endsAt ended]
  constructor
  · exact Nat.le_add_left 1 last
  · exact ended.lt_budget

end LinkGate
