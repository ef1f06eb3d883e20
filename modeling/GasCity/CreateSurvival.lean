import GasCity.CreateOverlap

namespace GasCity

inductive Party where
  | creator
  | pass
  deriving DecidableEq

namespace OverlapCall

def returned : OverlapCall → Prop
  | .created _ => True
  | _ => False

def stored : OverlapCall → Prop
  | .committed .. | .created _ => True
  | _ => False

def sequence (c : CachingStore) : OverlapCall → Nat
  | .create _ => c.mutationSeq + 1
  | .reserved _ sequence | .committed _ _ sequence | .created sequence => sequence
  | _ => 0

def creatorAt (want : CreateRequest) (c : CachingStore) (m : MemStore) : OverlapCall → Prop
  | .create w => w = want ∧ m.beads.find want.row.id = none
  | .reserved w sequence =>
    w = want ∧ m.beads.find want.row.id = none ∧ sequence ≤ c.mutationSeq ∧ sequence ≠ 0
  | .committed row _ sequence =>
    row.id = want.row.id ∧ row.status = "open" ∧ m.beads.find want.row.id = some row ∧
      sequence ≤ c.mutationSeq ∧ sequence ≠ 0
  | .created sequence =>
    (∃ row, m.beads.find want.row.id = some row ∧ row.status = "open") ∧
      sequence ≤ c.mutationSeq ∧ sequence ≠ 0
  | _ => False

variable (id : String) (c : CachingStore)

/-- Before the merge the cache holds the new row exactly when the create has returned. -/
def cachedAt : OverlapCall → Prop
  | .created sequence =>
    ∃ row, c.beads.find id = some row ∧ row.status ≠ "closed" ∧ c.beadSeqOf id = sequence
  | _ => c.beads.find id = none

def passAt (creator : OverlapCall) : OverlapCall → Prop
  | .reconcile | .started _ | .listed .. | .ready .. | .listFailed | .passFailed =>
    creator.cachedAt id c
  | .recovering _ _ _ candidates =>
    creator.cachedAt id c ∧ ((∃ b ∈ candidates, b.id = id) → creator.returned)
  | .merged res =>
    ∀ n ∈ res.notifications, n.eventType = .beadClosed → n.bead.id = id →
      creator.returned ∧ c.beads.find id = none
  | _ => False

def secured (creator : OverlapCall) : OverlapCall → Prop
  | .started startSeq => startSeq < creator.sequence c
  | .listed startSeq fresh => startSeq < creator.sequence c ∨ (fresh.find id).isSome
  | .recovering startSeq fresh _ candidates =>
    startSeq < creator.sequence c ∨ (fresh.find id).isSome ∨ ∃ b ∈ candidates, b.id = id
  | .ready startSeq snap => startSeq < creator.sequence c ∨ (snap.freshByID.find id).isSome
  | .merged _ => ¬ creator.returned ∨ (c.beads.find id).isSome
  | .listFailed | .passFailed => True
  | _ => False

/-- A step of the pass that secures the new row: it starts before the reservation, lists after the
backing has the row or fails to list, looks for missing rows after the create has returned, or
merges before that, within five seconds of it, or while a reservation is in flight. -/
def secures (input : StepInput) (c : CachingStore) (creator : OverlapCall) :
    OverlapCall → Prop
  | .reconcile => ∃ want, creator = .create want
  | .started _ => input.fails = true ∨ creator.stored
  | .listed .. => creator.returned
  | .ready .. =>
    ¬ creator.returned ∨ recentLocalMutation (c.localBeadAtOf id) input.now = true ∨
      0 < c.reservedMutations
  | _ => False

end OverlapCall

open OverlapCall CachingStore

/-- One deterministic create of a new bead beside one reconcile pass. -/
structure Overlap (want : CreateRequest) (c : CachingStore) (m : MemStore)
    (creator pass : OverlapCall) : Prop where
  creating : creator.creatorAt want c m
  mutated : c.beadSeqOf want.row.id ≤ creator.sequence c
  deleted : c.deletedSeqOf want.row.id ≤ creator.sequence c
  passing : passAt want.row.id c creator pass

namespace Overlap

variable {want : CreateRequest} {c : CachingStore} {m : MemStore} {creator pass : OverlapCall}
  {c' : CachingStore}

theorem passAt_of_cachedAt {creator' : OverlapCall} {id : String} (before : passAt id c creator pass)
    (cached : creator.cachedAt id c → creator'.cachedAt id c')
    (returned : creator.returned → creator'.returned)
    (evicted : creator.returned → c.beads.find id = none → c'.beads.find id = none) :
    passAt id c' creator' pass := by
  cases pass with
  | merged res =>
    intro n noted closed own
    obtain ⟨back, gone⟩ := before n noted closed own
    exact ⟨returned back, evicted back gone⟩
  | recovering startSeq fresh closed candidates =>
    exact ⟨cached before.1, fun h => returned (before.2 h)⟩
  | reconcile | started | listed | ready | listFailed | passFailed => exact cached before
  | create | reserved | committed | created | refused | createFailed => exact before

theorem secured_iff_of_sequence {creator' : OverlapCall} {id : String}
    (same : creator'.sequence c' = creator.sequence c)
    (kept : ¬ creator'.returned ∨ (c'.beads.find id).isSome ↔
      ¬ creator.returned ∨ (c.beads.find id).isSome) :
    secured id c' creator' pass ↔ secured id c creator pass := by
  cases pass with
  | merged res => exact kept
  | started | listed | recovering | ready =>
    unfold secured
    rw [same]
  | _ => exact Iff.rfl

theorem creator_step {input : StepInput} (overlap : Overlap want c m creator pass)
    (succeeds : input.fails = false) :
    let r := creator.next input (c, m)
    Overlap want r.1.1 r.1.2 r.2 pass ∧
      (secured want.row.id r.1.1 r.2 pass ↔ secured want.row.id c creator pass) := by
  obtain ⟨creating, mutated, deleted, passing⟩ := overlap
  cases creator with
  | create w =>
    obtain ⟨rfl, unused⟩ := creating
    exact ⟨⟨⟨rfl, unused, Nat.le_refl _, Nat.succ_ne_zero _⟩, mutated, deleted,
      passAt_of_cachedAt passing id id fun _ => id⟩, secured_iff_of_sequence rfl Iff.rfl⟩
  | reserved w sequence =>
    obtain ⟨rfl, unused, bounded, positive⟩ := creating
    obtain ⟨row, m', made, own, opened, found⟩ := m.createDeterministic_new input.now unused
    have moved : (OverlapCall.reserved w sequence).next input (c, m) =
        ((c, m'), .committed row true sequence) := by
      simp [next, succeeds, made]
    rw [moved]
    exact ⟨⟨⟨own, opened, found, bounded, positive⟩, mutated, deleted,
      passAt_of_cachedAt passing id id fun _ => id⟩, secured_iff_of_sequence rfl Iff.rfl⟩
  | committed row inserted sequence =>
    obtain ⟨own, opened, found, bounded, positive⟩ := creating
    rw [← own] at mutated deleted
    obtain ⟨⟨b, cached, status⟩, fence, undeleted, counted⟩ :=
      absorbOrdered_spec inserted input.now mutated deleted
    rw [own] at cached fence undeleted
    refine ⟨⟨⟨⟨row, found, opened⟩, ?_, positive⟩, ?_, ?_, ?_⟩, ?_⟩
    · exact bounded.trans counted.ge
    · exact fence.le
    · exact undeleted.le.trans (Nat.zero_le sequence)
    · refine passAt_of_cachedAt passing (fun _ => ⟨b, cached, ?_, fence⟩) (fun _ => trivial)
        (fun h => h.elim)
      rw [status, opened]
      decide
    · exact secured_iff_of_sequence rfl
        ⟨fun _ => .inl id, fun _ => .inr (Option.isSome_of_eq_some cached)⟩
  | created sequence => exact ⟨⟨creating, mutated, deleted, passing⟩, Iff.rfl⟩
  | _ => exact creating.elim

theorem stored_iff (creating : creator.creatorAt want c m) :
    creator.stored ↔ ∃ row, m.beads.find want.row.id = some row ∧ row.status ≠ "closed" := by
  cases creator with
  | create | reserved =>
    have unused : m.beads.find want.row.id = none := by
      first | exact creating.2 | exact creating.2.1
    simp [stored, unused]
  | committed row =>
    obtain ⟨-, opened, found, -⟩ := creating
    exact iff_of_true trivial ⟨row, found, by rw [opened]; decide⟩
  | created =>
    obtain ⟨⟨row, found, opened⟩, -⟩ := creating
    exact iff_of_true trivial ⟨row, found, by rw [opened]; decide⟩
  | _ => exact creating.elim

theorem returned_iff {id : String} (cached : creator.cachedAt id c) :
    creator.returned ↔ ∃ row, c.beads.find id = some row ∧ row.status ≠ "closed" := by
  cases creator with
  | created =>
    obtain ⟨row, found, opened, -⟩ := cached
    exact iff_of_true trivial ⟨row, found, opened⟩
  | _ =>
    have absent : c.beads.find id = none := cached
    simp [returned, absent]

theorem unreserved_iff (creating : creator.creatorAt want c m) :
    (∃ want, creator = .create want) ↔ c.mutationSeq < creator.sequence c := by
  cases creator with
  | create w => exact iff_of_true ⟨w, rfl⟩ (Nat.lt_succ_self _)
  | reserved => exact iff_of_false (by simp) (Nat.not_lt.mpr creating.2.2.1)
  | committed => exact iff_of_false (by simp) (Nat.not_lt.mpr creating.2.2.2.1)
  | created => exact iff_of_false (by simp) (Nat.not_lt.mpr creating.2.1)
  | _ => exact creating.elim

/-- A section of the pass that reserves nothing and raises no fence keeps what the create relies
on. -/
theorem of_counted {pass' : OverlapCall} (overlap : Overlap want c m creator pass)
    (counted : c'.mutationSeq = c.mutationSeq)
    (mutated : c'.beadSeqOf want.row.id ≤ c.beadSeqOf want.row.id)
    (deleted : c'.deletedSeqOf want.row.id ≤ c.deletedSeqOf want.row.id)
    (passing : passAt want.row.id c' creator pass') : Overlap want c' m creator pass' := by
  have same : creator.sequence c' = creator.sequence c := by
    cases creator <;> simp [OverlapCall.sequence, counted]
  refine ⟨?_, ?_, ?_, passing⟩
  · have creating := overlap.creating
    cases creator with
    | reserved | committed | created =>
      unfold creatorAt at creating ⊢
      rw [counted]
      exact creating
    | create => exact creating
    | _ => exact creating.elim
  · rw [same]
    exact mutated.trans overlap.mutated
  · rw [same]
    exact deleted.trans overlap.deleted

theorem merge_secured {startSeq : Nat} {snap : Snapshot} {input : StepInput}
    (overlap : Overlap want c m creator (.ready startSeq snap)) :
    let r := c.mergeSnapshotLocked snap startSeq input.now
    Overlap want r.1 m creator (.merged r.2) ∧
      (secured want.row.id r.1 creator (.merged r.2) ↔
        secured want.row.id c creator (.ready startSeq snap) ∨
          secures want.row.id input c creator (.ready startSeq snap)) := by
  have cached : creator.cachedAt want.row.id c := overlap.passing
  obtain ⟨mutated, deleted⟩ := c.merge_fences_le snap startSeq input.now want.row.id
  have counted := congrArg Globals.mutationSeq (c.mergeSnapshotLocked_globals snap startSeq input.now)
  refine ⟨overlap.of_counted counted mutated deleted ?_, ?_⟩
  · intro n noted closed own
    obtain ⟨present, gone⟩ := c.evicted_of_closed_note snap startSeq input.now noted closed
    rw [own] at present gone
    refine ⟨?_, gone⟩
    cases creator with
    | created => trivial
    | _ =>
      have absent : c.beads.find want.row.id = none := cached
      simp [absent] at present
  · cases creator with
    | created sequence =>
      obtain ⟨row, found, opened, fence⟩ := cached
      obtain ⟨-, -, positive⟩ := overlap.creating
      have kept := c.merge_keeps_iff snap startSeq input.now found opened (by rw [fence]; exact positive)
        (by rw [fence]; exact overlap.deleted)
      rw [fence] at kept
      show ¬ True ∨ _ ↔ (startSeq < sequence ∨ _) ∨ ¬ True ∨ _
      rw [kept, or_assoc]
      simp
    | _ =>
      exact iff_of_true (.inl id) (.inr (.inl id))

end Overlap

end GasCity
