import Mathlib.Data.Prod.Lex
import GasCity.PoolCaps
import GasCity.SortKey

namespace GasCity

open List

def walkKey (r : SessionRequest) : Int ×ₗ Nat :=
  toLex (-r.beadPriority, if r.tier.isResumeLike then 0 else 1)

theorem notAfter_iff (r r' : SessionRequest) : notAfter r r' ↔ walkKey r ≤ walkKey r' := by
  unfold notAfter precedes walkKey
  rw [Prod.Lex.toLex_le_toLex]
  by_cases same : r'.beadPriority = r.beadPriority
  · rw [if_neg (by rw [same]; simp), same]
    by_cases tier : r'.tier = r.tier
    · simp [tier]
    · cases r.tier.isResumeLike <;> cases r'.tier.isResumeLike <;> simp [tier]
  · rw [if_pos (bne_iff_ne.mpr same), decide_eq_false_iff_not]
    simp only
    omega

section contention

variable (limits : NestedCapLimits) (requests : List SessionRequest)

/-- The requests accepted before the walk comes to the request at a place of its order. -/
def acceptedBefore (before : List SessionRequest) : Acceptance := acceptAll limits ([], {}) before

def TakesLastPlace (level : CapLevel) (r : SessionRequest) : Prop :=
  ∃ before after, requests.insertionSort notAfter = before ++ r :: after ∧
    (acceptedBefore limits before).2.canAccept limits r = true ∧ level ∈ limits.levels r.template ∧
    ∃ cap ∈ limits.quotas.cap level,
      limits.quotas.load (acceptedBefore limits before).1 level + 1 = cap

def RejectedAt (level : CapLevel) (r : SessionRequest) : Prop :=
  ∃ before after, requests.insertionSort notAfter = before ++ r :: after ∧
    (acceptedBefore limits before).2.isDuplicateSessionRequest r = false ∧
    level ∈ limits.levels r.template ∧
    limits.quotas.full (acceptedBefore limits before).1 level = true

variable {limits requests} {level : CapLevel} {winner loser : SessionRequest}

theorem walkKey_le (takes : TakesLastPlace limits requests level winner)
    (rejected : RejectedAt limits requests level loser) : walkKey winner ≤ walkKey loser := by
  have total := total_of_key walkKey notAfter_iff
  have trans := trans_of_key walkKey notAfter_iff
  have sorted := pairwise_insertionSort notAfter requests
  obtain ⟨before, after, order, -, -, cap, is, last⟩ := takes
  obtain ⟨before', after', order', -, -, full⟩ := rejected
  obtain ⟨cap', is', reached⟩ := Quotas.full_iff.mp full
  cases is.symm.trans is'
  unfold acceptedBefore at last reached
  rw [(acceptAll_eq_sweep .empty _).1] at last reached
  rw [order] at order' sorted
  rcases append_eq_append_iff.mp order' with ⟨mid, rfl, tail⟩ | ⟨mid, rfl, -⟩
  · cases mid with
    | nil =>
      rw [append_nil] at reached
      omega
    | cons r mid =>
      rw [cons_append] at tail
      obtain ⟨rfl, rfl⟩ := cons.inj tail
      have mem : loser ∈ mid ++ loser :: after' := mem_append_right _ mem_cons_self
      exact (notAfter_iff _ _).mp (rel_of_pairwise_cons (pairwise_append.mp sorted).2.1 mem)
  · have less : limits.quotas.load (limits.quotas.sweep [] before') level ≤
        limits.quotas.load (limits.quotas.sweep [] (before' ++ mid)) level := by
      rw [Quotas.sweep_append]
      exact Quotas.load_le_of_begins (Quotas.prefix_sweep _ _)
    omega

end contention

/-- Of two requests that contend for the last place of a cap, the accepted one's work bead does
not come after the other's in the ready queue exactly if their priorities are the same, or the
other's is missing and the accepted one's is at most the queue's default. -/
theorem scarce_capacity_by_urgency (city : PoolCity) (requests : List SessionRequest)
    (bead : SessionRequest → Bead)
    (prioritised : ∀ r ∈ requests, r.beadPriority = (bead r).priority.getD 0)
    (level : CapLevel) (winner loser : SessionRequest)
    (takes : TakesLastPlace (newNestedCapLimits city) requests level winner)
    (rejected : RejectedAt (newNestedCapLimits city) requests level loser) :
    readySortPriority (bead winner) ≤ readySortPriority (bead loser) ↔
      (bead winner).priority = (bead loser).priority ∨
        (bead loser).priority = none ∧ ∃ p ∈ (bead winner).priority, p ≤ 2 := by
  have order := walkKey_le takes rejected
  have mem : ∀ before after r, requests.insertionSort notAfter = before ++ r :: after → r ∈ requests :=
    fun before after r is => (mem_insertionSort notAfter).mp (is ▸ mem_append_right _ mem_cons_self)
  obtain ⟨before, after, is, -⟩ := takes
  obtain ⟨before', after', is', -⟩ := rejected
  have first := prioritised _ (mem _ _ _ is)
  have second := prioritised _ (mem _ _ _ is')
  have le : loser.beadPriority ≤ winner.beadPriority := by
    rcases Prod.Lex.toLex_le_toLex.mp order with less | ⟨same, -⟩
    · dsimp only at less
      omega
    · dsimp only at same
      omega
  rw [first, second] at le
  unfold readySortPriority
  generalize (bead winner).priority = p at le ⊢
  generalize (bead loser).priority = q at le ⊢
  cases p <;> cases q <;> simp at le ⊢ <;> omega

def oneSessionCity : PoolCity where
  agents := [{ name := "worker", maxActiveSessions := some 1 }]
  rigs := []
  names := ⟨SessionInfo.storedTemplate, id, fun name other => name == other, fun _ => false⟩
  agents_distinct := nodup_singleton _
  rigs_distinct := nodup_nil

def resumeOf (id : String) (priority : Int) : SessionRequest :=
  { template := "worker", beadPriority := priority, tier := .resume, sessionBeadID := id }

/-- A bead of the least urgency gets the only session, and one of the greatest is rejected. -/
theorem least_urgent_takes_last_place :
    TakesLastPlace (newNestedCapLimits oneSessionCity) [resumeOf "s1" 0, resumeOf "s2" 4]
        (.agent "worker") (resumeOf "s2" 4) ∧
      RejectedAt (newNestedCapLimits oneSessionCity) [resumeOf "s1" 0, resumeOf "s2" 4]
        (.agent "worker") (resumeOf "s1" 0) ∧
      readySortPriority { id := "w1", priority := some 0 } <
        readySortPriority { id := "w2", priority := some 4 } :=
  ⟨⟨[], [resumeOf "s1" 0], by decide, by decide, by decide, 1, by decide, by decide⟩,
    ⟨[resumeOf "s2" 4], [], by decide, by decide, by decide, by decide⟩, by decide⟩

def workOf (r : SessionRequest) : Bead :=
  if r.sessionBeadID = "s1" then { id := "w1", priority := some 1 } else { id := "w2" }

theorem scarce_capacity_by_urgency_missing :
    readySortPriority (workOf (resumeOf "s1" 1)) ≤ readySortPriority (workOf (resumeOf "s2" 0)) :=
  (scarce_capacity_by_urgency oneSessionCity [resumeOf "s1" 1, resumeOf "s2" 0] workOf (by decide)
    (.agent "worker") (resumeOf "s1" 1) (resumeOf "s2" 0)
    ⟨[], [resumeOf "s2" 0], by decide, by decide, by decide, 1, by decide, by decide⟩
    ⟨[resumeOf "s1" 1], [], by decide, by decide, by decide, by decide⟩).mpr
      (.inr ⟨rfl, 1, rfl, by decide⟩)

end GasCity
