import GasCity.DecisionTrail

namespace GasCity

open KeyedList

def DecisionState.requiresApproval : DecisionState → Bool
  | .approved => true
  | .admitted => true
  | .refusedAfterRace => true
  | .claimed => true
  | .outcomeRecorded => true
  | _ => false

/-- The record was never approved, and is in no state that takes an approval. -/
def DecisionRecord.Unsigned (m : Audits) (r : DecisionRecord) : Prop :=
  r.approval = none ∧ r.signature = none ∧
    (∀ n a, m.find (r.id, n) = some a → a.target ≠ .approved) ∧
    (r.isLocal = true ∨ r.state.requiresApproval = false)

/-- The buckets of a ledger agree: the index, the counts and the audits are those of the records. -/
structure Ledger.Consistent {F : Type} (accepted : ApprovalRule) (l : Ledger F) :
    Prop where
  whole : l.Whole
  indexed : ∀ k, (l.stateExpiry.find k).isSome = true ↔
    ∃ r, l.decisions.find k.decisionID = some r ∧ r.indexKey = k
  counted : ∀ state, l.stateCounts state = l.decisions.rows.countP fun r => decide (r.state = state)
  trails : ∀ id r, l.decisions.find id = some r → Trail l.transitions r
  owned : ∀ id n, l.decisions.find id = none → l.transitions.find (id, n) = none
  stamped : StampedApart l.transitions l.storeRevision
  approvals : ∀ id r, l.decisions.find id = some r →
    (r.isLocal = false ∧ r.Accepted accepted) ∨ r.Unsigned l.transitions

def Indexes (index : KeyedList fun k : IndexKey => k) (m : KeyedList DecisionRecord.id) : Prop :=
  ∀ k, (index.find k).isSome = true ↔ ∃ r, m.find k.decisionID = some r ∧ r.indexKey = k

def Counts (counts : DecisionState → Nat) (m : KeyedList DecisionRecord.id) : Prop :=
  ∀ state, counts state = m.rows.countP fun r => decide (r.state = state)

section

variable {index : KeyedList fun k : IndexKey => k} {m : KeyedList DecisionRecord.id}
  {counts : DecisionState → Nat} {r : DecisionRecord}

theorem Indexes.set (indexes : Indexes index m) (missing : m.find r.id = none) :
    Indexes (index.set r.indexKey) (m.set r) := by
  intro k
  rw [find_set, find_set]
  by_cases same : k = r.indexKey
  · subst same
    rw [if_pos rfl, if_pos (show r.indexKey.decisionID = r.id from rfl)]
    exact ⟨fun _ => ⟨r, rfl, rfl⟩, fun _ => rfl⟩
  · rw [if_neg same, indexes k]
    split
    next here =>
      rw [here, missing]
      constructor
      · rintro ⟨s, none, -⟩
        cases none
      · rintro ⟨s, eq, key⟩
        cases eq
        exact (same key.symm).elim
    next => rfl

theorem Indexes.erase (indexes : Indexes index m) (found : m.find r.id = some r) :
    Indexes (index.erase r.indexKey) (m.erase r.id) := by
  intro k
  rw [find_erase, find_erase]
  by_cases mine : k.decisionID = r.id
  · rw [if_pos mine]
    constructor
    · intro there
      split at there
      next => cases there
      next other =>
        obtain ⟨s, stored, key⟩ := (indexes k).mp there
        rw [mine, found] at stored
        cases stored
        exact (other key.symm).elim
    · rintro ⟨s, none, -⟩
      cases none
  · rw [if_neg mine, if_neg (fun eq => mine (by rw [eq]; rfl))]
    exact indexes k

theorem Counts.set (counted : Counts counts m) (missing : m.find r.id = none) :
    Counts (Function.update counts r.state (counts r.state + 1)) (m.set r) := by
  intro state
  show _ = (r :: (m.erase r.id).rows).countP _
  rw [erase_of_find_none missing, List.countP_cons, ← counted state]
  by_cases same : r.state = state
  · subst same
    simp
  · rw [Function.update_of_ne (Ne.symm same)]
    simp [same]

theorem Counts.erase (counted : Counts counts m) (found : m.find r.id = some r) :
    Counts (Function.update counts r.state (counts r.state - 1)) (m.erase r.id) := by
  intro state
  have split := (perm_cons_erase found).countP_eq fun s => decide (s.state = state)
  rw [← counted state] at split
  by_cases same : r.state = state
  · subst same
    rw [split]
    simp
  · rw [Function.update_of_ne (Ne.symm same), split]
    simp [same]

end

namespace Ledger.Consistent

variable {F : Type} {c : Crypto F} {accepted : ApprovalRule} {guarded : Prop} {l l' : Ledger F}

theorem isSome_index (ok : l.Consistent accepted) (k : IndexKey) :
    (l.stateExpiry.find k).isSome = true ↔ ∃ r ∈ l.decisions.rows, r.indexKey = k := by
  rw [ok.indexed k]
  constructor
  · rintro ⟨r, found, key⟩
    exact ⟨r, mem_of_find found, key⟩
  · rintro ⟨r, mem, rfl⟩
    exact ⟨r, find_key_of_mem mem, rfl⟩

theorem empty : Ledger.Consistent accepted ({} : Ledger F) := by
  have none (id : String) (r : DecisionRecord) :
      ¬ (KeyedList.empty : KeyedList DecisionRecord.id).find id = some r := by simp
  have bare (a : TransitionAudit) : a ∉ (KeyedList.empty : Audits).rows := List.not_mem_nil
  refine ⟨fun r mem => (List.not_mem_nil mem).elim, fun k => by simp, fun _ => rfl,
    fun id r found => (none id r found).elim, fun _ _ _ => rfl, ⟨?_, ?_, ?_⟩,
    fun id r found => (none id r found).elim⟩
  all_goals exact fun a mem => (bare a mem).elim

variable {r new old : DecisionRecord} {m : Audits} {reason : String} {time : ZonedTime}

variable (ok : l.Consistent accepted)

include ok

theorem revision_le {id : String} (found : l.decisions.find id = some r) :
    1 ≤ r.storeRevision ∧ r.storeRevision ≤ l.storeRevision := by
  have trail := ok.trails id r found
  have there := (trail.numbered r.recordRevision).mpr ⟨trail.started, Nat.le_refl _⟩
  obtain ⟨a, audit⟩ := Option.isSome_iff_exists.mp there
  rw [← (trail.ends a audit).2]
  have mem := mem_of_find audit
  exact ⟨ok.stamped.positive a mem, ok.stamped.bounded a mem⟩

variable (others : ∀ id n, id ≠ r.id → m.find (id, n) = l.transitions.find (id, n))

include others

theorem trails_set (ofRecord : Trail m r) (id : String) (s : DecisionRecord) (found : (l.decisions.set r).find id = some s) : Trail m s := by
  rw [find_set] at found
  split at found
  next =>
    cases found
    exact ofRecord
  next other =>
    have key : s.id = id := key_of_find found
    exact (ok.trails id s found).congr fun n => others _ n (key ▸ other)

theorem owned_set (id : String) (n : Nat) (missing : (l.decisions.set r).find id = none) :
    m.find (id, n) = none := by
  rw [find_set] at missing
  split at missing
  next => cases missing
  next other => rw [others id n other, ok.owned id n missing]

theorem approvals_set (ofRecord : (r.isLocal = false ∧ r.Accepted accepted) ∨ r.Unsigned m) (id : String)
    (s : DecisionRecord) (found : (l.decisions.set r).find id = some s) :
    (s.isLocal = false ∧ s.Accepted accepted) ∨ s.Unsigned m := by
  rw [find_set] at found
  split at found
  next =>
    cases found
    exact ofRecord
  next other =>
    have key : s.id = id := key_of_find found
    refine (ok.approvals id s found).imp_right fun kept =>
      ⟨kept.1, kept.2.1, fun n a there => kept.2.2.1 n a ?_, kept.2.2.2⟩
    rw [← others _ n (key ▸ other)]
    exact there

omit ok others

theorem find_set_other {a : TransitionAudit} {id : String} (n : Nat) (other : id ≠ a.decisionID) :
    (m.set a).find (id, n) = m.find (id, n) := by
  rw [find_set, if_neg]
  exact fun same => other (congrArg Prod.fst same)

include ok

theorem enter (missing : l.decisions.find r.id = none)
    (whole : r.WholeMinutes) (state : r.state = .proposed) (first : r.recordRevision = 1)
    (stamp : r.storeRevision = l.storeRevision + 1)
    (unsigned : r.approval = none ∧ r.signature = none) :
    (l.enter r (r.opening time reason r.storeRevision)).Consistent accepted := by
  have others (id : String) (n : Nat) (other : id ≠ r.id) :
      (l.transitions.set (r.opening time reason r.storeRevision)).find (id, n) =
        l.transitions.find (id, n) := find_set_other n other
  have trail : Trail (l.transitions.set (r.opening time reason r.storeRevision)) r :=
    Trail.start (fun n => ok.owned r.id n missing) state first rfl rfl rfl rfl rfl
  refine ⟨forall_mem_set ok.whole whole, Indexes.set ok.indexed missing, Counts.set ok.counted missing,
    ok.trails_set others trail, ok.owned_set others, ok.stamped.set stamp,
    ok.approvals_set others (.inr ⟨unsigned.1, unsigned.2, fun n a there => ?_, .inr ?_⟩)⟩
  · have number := (trail.numbered n).mp (Option.isSome_iff_exists.mpr ⟨a, there⟩)
    have one : n = 1 := by omega
    subst one
    rw [(trail.opened a there).2]
    exact nofun
  · rw [state]
    rfl

theorem enterApproved {opening : String}
    (missing : l.decisions.find r.id = none) (whole : r.WholeMinutes) (state : r.state = .approved)
    (second : r.recordRevision = 2) (stamp : r.storeRevision = l.storeRevision + 2)
    (approved : r.Accepted accepted) (lane : r.isLocal = false) :
    (l.enterApproved r (r.opening time opening (l.storeRevision + 1))
      (r.leaving .proposed time reason)).Consistent accepted := by
  have others (id : String) (n : Nat) (other : id ≠ r.id) :
      ((l.transitions.set (r.opening time opening (l.storeRevision + 1))).set
        (r.leaving .proposed time reason)).find (id, n) = l.transitions.find (id, n) :=
    (find_set_other n other).trans (find_set_other n other)
  have proposed : Trail (l.transitions.set (r.opening time opening (l.storeRevision + 1)))
      { r with state := .proposed, recordRevision := 1, storeRevision := l.storeRevision + 1 } :=
    Trail.start (r := { r with state := .proposed, recordRevision := 1, storeRevision := _ }) (fun n => ok.owned r.id n missing) rfl rfl rfl rfl rfl rfl rfl
  have trail : Trail ((l.transitions.set (r.opening time opening (l.storeRevision + 1))).set
      (r.leaving .proposed time reason)) r :=
    proposed.advance (show r.id = r.id from rfl) rfl second (show l.storeRevision + 1 < r.storeRevision by omega)
      (.inl (by rw [state]; rfl)) time reason
  exact ⟨forall_mem_set ok.whole whole, Indexes.set ok.indexed missing, Counts.set ok.counted missing,
    ok.trails_set others trail, ok.owned_set others, (ok.stamped.set rfl).set stamp,
    ok.approvals_set others (.inl ⟨lane, approved⟩)⟩

theorem replace (found : l.decisions.find old.id = some old)
    (payload : new.payload = old.payload) (lane : new.isLocal = old.isLocal) (whole : new.WholeMinutes)
    (next : new.recordRevision = old.recordRevision + 1)
    (stamp : new.storeRevision = l.storeRevision + 1) (mayMove : old.MayMove new.state)
    (approvals : (new.isLocal = false ∧ new.Accepted accepted) ∨
      new.Unsigned (l.transitions.set (new.leaving old.state time reason))) :
    (l.replace old new (new.leaving old.state time reason)).Consistent accepted := by
  have same : new.id = old.id := congrArg DecisionPayload.decisionID payload
  have others (id : String) (n : Nat) (other : id ≠ new.id) :
      (l.transitions.set (new.leaving old.state time reason)).find (id, n) =
        l.transitions.find (id, n) := find_set_other n other
  have later : old.storeRevision < new.storeRevision := by
    have := (ok.revision_le found).2
    omega
  -- a record is replaced as if it was taken out and entered anew
  have away : (l.decisions.erase old.id).find new.id = none := by simp [same]
  have indexed := (Indexes.erase ok.indexed found).set away
  have counted := (Counts.erase ok.counted found).set away
  rw [set_erase same] at indexed counted
  exact ⟨forall_mem_set ok.whole whole, indexed, counted,
    ok.trails_set others ((ok.trails _ _ found).advance same lane next later mayMove time reason),
    ok.owned_set others, ok.stamped.set stamp, ok.approvals_set others approvals⟩

omit ok

theorem unsigned_leave (unsigned : old.Unsigned m) (same : new.id = old.id)
    (approval : new.approval = old.approval) (signature : new.signature = old.signature)
    (other : new.state ≠ .approved) (still : new.isLocal = true ∨ new.state.requiresApproval = false) :
    new.Unsigned (m.set (new.leaving old.state time reason)) := by
  refine ⟨approval.trans unsigned.1, signature.trans unsigned.2.1, fun n a audit => ?_, still⟩
  rw [find_set] at audit
  split at audit
  next =>
    cases audit
    exact other
  next =>
    rw [same] at audit
    exact unsigned.2.2.1 n a audit

theorem admitted (ok : l.Consistent accepted) {state : DecisionState} {opening : String}
    (missing : l.decisions.find r.id = none) (whole : r.WholeMinutes) (proposed : r.state = .proposed)
    (first : r.recordRevision = 1) (stamp : r.storeRevision = l.storeRevision + 1)
    (unsigned : r.approval = none ∧ r.signature = none) (lane : r.isLocal = true)
    (answer : state = .admitted ∨ state = .refusedAfterRace) :
    ((l.enter r (r.opening time opening r.storeRevision)).replace r
      (r.next state (l.storeRevision + 2))
      ((r.next state (l.storeRevision + 2)).leaving r.state time reason)).Consistent accepted := by
  have entered : (l.enter r (r.opening time opening r.storeRevision)).Consistent accepted :=
    ok.enter missing whole proposed first stamp unsigned
  have found : (l.decisions.set r).find r.id = some r :=
    (find_set _ _ _).trans (if_pos rfl)
  have other : state ≠ .approved := by rcases answer with rfl | rfl <;> exact nofun
  refine entered.replace found rfl rfl ⟨whole.1, whole.2⟩ rfl rfl
    (.inr ⟨lane, first, proposed, answer⟩) (.inr (unsigned_leave ?_ rfl rfl rfl other (.inl lane)))
  rcases entered.approvals _ _ found with ⟨isSigned, -⟩ | unsigned
  · rw [lane] at isSigned
    cases isSigned
  · exact unsigned

theorem move (ok : l.Consistent accepted) (moves : DecisionRecord.Moves accepted l old new)
    (settled : old.isLocal = true → old.state ≠ .proposed) :
    (l.replace old new (new.leaving old.state time reason)).Consistent accepted := by
  obtain ⟨found, payload, lane, whole, next, stamp, allowed, approval⟩ := moves
  refine ok.replace found payload lane whole next stamp (.inl allowed) ?_
  rcases approval with ⟨approving, approved⟩ | ⟨other, approval, signature⟩
  · refine .inl ⟨Bool.eq_false_iff.mpr fun isLocal => settled (lane ▸ isLocal) ?_, approved⟩
    rw [approving] at allowed
    cases state : old.state <;> rw [state] at allowed <;> first | rfl | cases allowed
  · rcases ok.approvals _ _ found with ⟨isSigned, a, s, given, signed, good⟩ | unsigned
    · refine .inl ⟨lane.trans isSigned, a, s, approval.trans given, signature.trans signed, ?_⟩
      rw [payload]
      exact good
    · refine .inr (unsigned_leave unsigned (congrArg DecisionPayload.decisionID payload) approval
        signature other ?_)
      rcases unsigned.2.2.2 with isLocal | early
      · exact .inl (lane.trans isLocal)
      · right
        cases state : old.state <;> rw [state] at allowed early <;> cases early <;>
          cases target : new.state <;> rw [target] at allowed other <;>
          first | rfl | exact (other rfl).elim | cases allowed

theorem find_transitions_remove (r : DecisionRecord) (id : String) (n : Nat) :
    (l.remove c r).transitions.find (id, n) =
      if id = r.id then none else l.transitions.find (id, n) := by
  show (l.transitions.keep _).find (id, n) = _
  rw [find_keep]
  cases there : l.transitions.find (id, n) with
  | none => simp
  | some a =>
    have key : a.decisionID = id := congrArg Prod.fst (key_of_find there)
    by_cases mine : id = r.id <;> simp [key, mine, Option.filter]

theorem remove (ok : l.Consistent accepted) (found : l.decisions.find r.id = some r) :
    (l.remove c r).Consistent accepted := by
  have others (id : String) (s : DecisionRecord) (there : (l.remove c r).decisions.find id = some s) :
      l.decisions.find id = some s ∧ s.id ≠ r.id := by
    have erased : (l.decisions.erase r.id).find id = some s := there
    rw [find_erase] at erased
    split at erased
    next => cases erased
    next other => exact ⟨erased, (key_of_find erased).trans_ne other⟩
  refine ⟨fun s mem => ok.whole s (List.mem_of_mem_filter mem), Indexes.erase ok.indexed found,
    Counts.erase ok.counted found, ?_, fun id n missing => ?_, ok.stamped.keep _, ?_⟩
  · intro id s there
    obtain ⟨stored, other⟩ := others id s there
    exact (ok.trails id s stored).congr fun n => (find_transitions_remove r s.id n).trans (if_neg other)
  · rw [find_transitions_remove]
    split
    next => rfl
    next other =>
      refine ok.owned id n ?_
      have erased : (l.decisions.erase r.id).find id = none := missing
      rwa [find_erase, if_neg other] at erased
  · intro id s there
    obtain ⟨stored, other⟩ := others id s there
    refine (ok.approvals id s stored).imp_right fun kept =>
      ⟨kept.1, kept.2.1, fun n a audit => kept.2.2.1 n a ?_, kept.2.2.2⟩
    rw [find_transitions_remove, if_neg other] at audit
    exact audit

end Ledger.Consistent

end GasCity
