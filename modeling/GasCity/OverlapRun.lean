import GasCity.CreateSurvival

namespace GasCity

open OverlapCall CachingStore KeyedList

namespace Overlap

variable {want : CreateRequest} {c : CachingStore} {m : MemStore} {creator : OverlapCall}
  {input : StepInput} {startSeq : Nat}

theorem list_secured (overlap : Overlap want c m creator (.started startSeq)) :
    let r := (OverlapCall.started startSeq).next input (c, m)
    Overlap want r.1.1 r.1.2 creator r.2 ∧
      (secured want.row.id r.1.1 creator r.2 ↔
        secured want.row.id c creator (.started startSeq) ∨
          secures want.row.id input c creator (.started startSeq)) := by
  obtain ⟨creating, mutated, deleted, passing⟩ := overlap
  cases failing : input.fails with
  | true =>
    have moved : (OverlapCall.started startSeq).next input (c, m) = ((c, m), .listFailed) := by
      simp [next, failing]
    rw [moved]
    exact ⟨⟨creating, mutated, deleted, passing⟩, iff_of_true trivial (.inr (.inl failing))⟩
  | false =>
    obtain ⟨rows, scanned, listed⟩ := listed_iff m input.verdicts want.row.id
    have moved : (OverlapCall.started startSeq).next input (c, m) = ((c, m), .listed startSeq
        (ofRows (rows.map (withVerdict input.verdicts)))) := by
      simp [next, failing, scanned]
    rw [moved]
    refine ⟨⟨creating, mutated, deleted, passing⟩, ?_⟩
    show startSeq < _ ∨ _ ↔ startSeq < _ ∨ (input.fails = true ∨ creator.stored)
    rw [listed, failing, stored_iff creating]
    simp

theorem candidates_secured {fresh : BeadMap}
    (overlap : Overlap want c m creator (.listed startSeq fresh)) :
    let r := (OverlapCall.listed startSeq fresh).next input (c, m)
    Overlap want r.1.1 r.1.2 creator r.2 ∧
      (secured want.row.id r.1.1 creator r.2 ↔
        secured want.row.id c creator (.listed startSeq fresh) ∨
          secures want.row.id input c creator (.listed startSeq fresh)) := by
  obtain ⟨creating, mutated, deleted, passing⟩ := overlap
  have cached : creator.cachedAt want.row.id c := passing
  have back := returned_iff cached
  refine ⟨⟨creating, mutated, deleted, cached, ?_⟩, ?_⟩
  · rintro ⟨b, mem, own⟩
    obtain ⟨found, -, opened⟩ := mem_recoveryCandidates.mp mem
    rw [own] at found
    exact back.mpr ⟨b, found, opened⟩
  · show startSeq < _ ∨ _ ∨ _ ↔ (startSeq < _ ∨ _) ∨ creator.returned
    rw [or_assoc]
    refine or_congr_right ?_
    cases listed : fresh.find want.row.id with
    | some b => simp
    | none =>
      simp only [Option.isSome_none, Bool.false_eq_true, false_or]
      rw [back]
      constructor
      · rintro ⟨b, mem, own⟩
        obtain ⟨found, -, opened⟩ := mem_recoveryCandidates.mp mem
        rw [own] at found
        exact ⟨b, found, opened⟩
      · rintro ⟨b, found, opened⟩
        have own : b.id = want.row.id := key_of_find found
        rw [← own] at found listed ⊢
        exact ⟨b, mem_recoveryCandidates.mpr ⟨found, listed, opened⟩, rfl⟩

theorem recover_secured (input : StepInput) {fresh closed : BeadMap} {candidates : List Bead}
    (overlap : Overlap want c m creator (.recovering startSeq fresh closed candidates)) :
    let r := (OverlapCall.recovering startSeq fresh closed candidates).next input (c, m)
    Overlap want r.1.1 r.1.2 creator r.2 ∧
      (secured want.row.id r.1.1 creator r.2 ↔
        secured want.row.id c creator (.recovering startSeq fresh closed candidates)) := by
  obtain ⟨creating, mutated, deleted, cached, back⟩ := overlap
  cases candidates with
  | nil =>
    refine ⟨⟨creating, mutated, deleted, cached⟩, ?_⟩
    show startSeq < creator.sequence c ∨ _ ↔ startSeq < creator.sequence c ∨ _ ∨ ∃ b ∈ [], _
    simp
  | cons candidate candidates =>
    refine ⟨⟨creating, mutated, deleted, cached, ?_⟩, ?_⟩
    · rintro ⟨b, mem, own⟩
      exact back ⟨b, List.mem_cons_of_mem candidate mem, own⟩
    · refine or_congr_right ?_
      by_cases own : candidate.id = want.row.id
      · have returned := back ⟨candidate, List.mem_cons_self, own⟩
        have kept : creator.stored := by
          cases creator <;> trivial
        obtain ⟨row, found, opened⟩ := (stored_iff creating).mp kept
        have same : row.id = candidate.id := (key_of_find found).trans own.symm
        refine iff_of_true (.inl ?_) (.inr ⟨candidate, List.mem_cons_self, own⟩)
        rw [← own] at found ⊢
        refine recoverItem_own same opened ?_
        simp only [found]
        cases input.fails <;> simp
      · rw [recoverItem_other own]
        simp [own]

theorem listFailed_secured (overlap : Overlap want c m creator .listFailed) :
    Overlap want (c.reconcileListFailed input.partialResult) m creator .passFailed := by
  have frame : (c.reconcileListFailed input.partialResult).beads = c.beads ∧
      (c.reconcileListFailed input.partialResult).beadSeq = c.beadSeq ∧
      (c.reconcileListFailed input.partialResult).deletedSeq = c.deletedSeq ∧
      (c.reconcileListFailed input.partialResult).mutationSeq = c.mutationSeq := by
    unfold reconcileListFailed
    dsimp only
    split <;> exact ⟨rfl, rfl, rfl, rfl⟩
  obtain ⟨beads, mutated, deleted, counted⟩ := frame
  refine overlap.of_counted counted ?_ ?_ ?_
  · unfold beadSeqOf
    rw [mutated]
  · unfold deletedSeqOf
    rw [deleted]
  · have cached : creator.cachedAt want.row.id c := overlap.passing
    show creator.cachedAt want.row.id _
    unfold cachedAt beadSeqOf at cached ⊢
    rw [beads, mutated]
    exact cached

theorem pass_step (input : StepInput) {pass : OverlapCall} (overlap : Overlap want c m creator pass) :
    let r := pass.next input (c, m)
    Overlap want r.1.1 r.1.2 creator r.2 ∧
      (secured want.row.id r.1.1 creator r.2 ↔
        secured want.row.id c creator pass ∨ secures want.row.id input c creator pass) := by
  cases pass with
  | reconcile =>
    obtain ⟨creating, mutated, deleted, passing⟩ := overlap
    refine ⟨⟨creating, mutated, deleted, passing⟩, ?_⟩
    show c.mutationSeq < creator.sequence c ↔ False ∨ ∃ want, creator = .create want
    rw [unreserved_iff creating, false_or]
  | started startSeq => exact list_secured overlap
  | listed startSeq fresh => exact candidates_secured overlap
  | recovering startSeq fresh closed candidates =>
    obtain ⟨kept, same⟩ := recover_secured input overlap
    exact ⟨kept, same.trans (or_iff_left id).symm⟩
  | ready startSeq snap => exact merge_secured overlap
  | merged | passFailed => exact ⟨overlap, (or_iff_left id).symm⟩
  | listFailed => exact ⟨listFailed_secured overlap, (or_iff_left id).symm⟩
  | create | reserved | committed | created | refused | createFailed => exact overlap.passing.elim

end Overlap

def CachingStore.FencesCounted (c : CachingStore) (id : String) : Prop :=
  c.beadSeqOf id ≤ c.mutationSeq ∧ c.deletedSeqOf id ≤ c.mutationSeq

abbrev OverlapState := Threads Party (CachingStore × MemStore) OverlapCall

def overlapStart (want : CreateRequest) (c : CachingStore) (m : MemStore) : OverlapState where
  shared := (c, m)
  calls
    | .creator => .create want
    | .pass => .reconcile

def OverlapCall.passed : OverlapCall → Prop
  | .merged _ | .passFailed => True
  | _ => False

/-- The cache holds the bead, and the pass has not announced it closed. -/
def Survives (id : String) (s : OverlapState) : Prop :=
  (s.shared.1.beads.find id).isSome ∧
    ∀ res, s.calls .pass = .merged res →
      ∀ n ∈ res.notifications, n.eventType = .beadClosed → n.bead.id ≠ id

def SecuringStep (id : String) (s : OverlapState) (e : Party × StepInput) : Prop :=
  e.1 = .pass ∧ secures id e.2 s.shared.1 (s.calls .creator) (s.calls .pass)

def OverlapIn (want : CreateRequest) (s : OverlapState) : Prop :=
  Overlap want s.shared.1 s.shared.2 (s.calls .creator) (s.calls .pass)

def SecuredIn (id : String) (s : OverlapState) : Prop :=
  secured id s.shared.1 (s.calls .creator) (s.calls .pass)

theorem OverlapIn.step {want : CreateRequest} {s : OverlapState} {e : Party × StepInput}
    (overlap : OverlapIn want s) (succeeds : e.1 = .creator → e.2.fails = false) :
    OverlapIn want (s.step next e) ∧
      (SecuredIn want.row.id (s.step next e) ↔
        SecuredIn want.row.id s ∨ SecuringStep want.row.id s e) := by
  obtain ⟨party, input⟩ := e
  cases party with
  | creator =>
    obtain ⟨kept, same⟩ := Overlap.creator_step overlap (succeeds rfl)
    refine ⟨kept, same.trans (or_iff_left ?_).symm⟩
    intro securing
    cases securing.1
  | pass =>
    obtain ⟨kept, reaches⟩ := Overlap.pass_step input overlap
    exact ⟨kept, reaches.trans (or_congr_right (and_iff_right rfl).symm)⟩

theorem survives_iff_secured {want : CreateRequest} {s : OverlapState} (overlap : OverlapIn want s)
    (created : (s.calls .creator).returned) (finished : (s.calls .pass).passed) :
    Survives want.row.id s ↔ SecuredIn want.row.id s := by
  have passing := overlap.passing
  unfold Survives SecuredIn
  cases phase : s.calls .pass with
  | merged res =>
    rw [phase] at passing
    constructor
    · intro survives
      exact .inr survives.1
    · intro secured
      have kept := secured.resolve_left (not_not.mpr created)
      refine ⟨kept, ?_⟩
      intro res' same n noted closed own
      cases same
      obtain ⟨-, gone⟩ := passing n noted closed own
      simp [gone] at kept
  | passFailed =>
    rw [phase] at passing
    obtain ⟨row, found, -⟩ := (Overlap.returned_iff passing).mp created
    refine iff_of_true ⟨Option.isSome_of_eq_some found, ?_⟩ trivial
    intro res same
    cases same
  | _ =>
    rw [phase] at finished
    exact finished.elim

/-- Over every interleaving of a create of a new bead with a reconcile pass, the bead survives
exactly when some step of the pass secures it. -/
theorem create_survives_pass_iff (want : CreateRequest) (c : CachingStore) (m : MemStore)
    (fences : c.FencesCounted want.row.id) (uncached : c.beads.find want.row.id = none)
    (unused : m.beads.find want.row.id = none) (schedule : List (Party × StepInput))
    (succeeds : ∀ e ∈ schedule, e.1 = .creator → e.2.fails = false)
    (created : (((overlapStart want c m).run next schedule).calls .creator).returned)
    (finished : (((overlapStart want c m).run next schedule).calls .pass).passed) :
    Survives want.row.id ((overlapStart want c m).run next schedule) ↔
      Sometime (Threads.step next) (SecuringStep want.row.id) (overlapStart want c m) schedule := by
  have start : OverlapIn want (overlapStart want c m) :=
    ⟨⟨rfl, unused⟩, Nat.le_succ_of_le fences.1, Nat.le_succ_of_le fences.2, uncached⟩
  obtain ⟨overlap, reaches⟩ := Sometime.reached_iff (SecuringStep want.row.id) (OverlapIn want)
    (SecuredIn want.row.id) (fun _ _ h good => (h.step good).1) (fun _ _ h good => (h.step good).2)
    start succeeds
  have unsecured : ¬ SecuredIn want.row.id (overlapStart want c m) := fun h => h
  exact (survives_iff_secured overlap created finished).trans
    (reaches.trans (or_iff_right unsecured))

def newBead : CreateRequest where
  row := { id := "gc-1", status := "open" }
  unpadded := by decide
  named := by decide

theorem emptyCache_fences : CachingStore.FencesCounted {} newBead.row.id :=
  ⟨Nat.le_refl 0, Nat.le_refl 0⟩

def createThenPass : List (Party × StepInput) :=
  [(.creator, { now := 1 }), (.creator, { now := 2 }), (.creator, { now := 3 }),
    (.pass, { now := 4 }), (.pass, { now := 5 }), (.pass, { now := 6 }), (.pass, { now := 7 }),
    (.pass, { now := 9000000000 })]

theorem createThenPass_survives :
    Survives "gc-1" ((overlapStart newBead {} {}).run next createThenPass) := by
  refine (create_survives_pass_iff newBead {} {} emptyCache_fences rfl rfl createThenPass
    (by decide) trivial trivial).mpr ?_
  exact .inr (.inr (.inr (.inr (.inl ⟨rfl, .inr trivial⟩))))

/-- A pass that starts after the reservation, lists before the commit and looks for missing rows
before the create returns evicts the new row when it merges more than five seconds later. -/
theorem create_is_evicted_by_slow_pass :
    ¬ ∀ (want : CreateRequest) (c : CachingStore) (m : MemStore)
        (schedule : List (Party × StepInput)), c.FencesCounted want.row.id →
        c.beads.find want.row.id = none → m.beads.find want.row.id = none →
        (∀ e ∈ schedule, e.2.fails = false) →
        (((overlapStart want c m).run next schedule).calls .creator).returned →
        (((overlapStart want c m).run next schedule).calls .pass).passed →
        Survives want.row.id ((overlapStart want c m).run next schedule) := by
  intro survives
  have kept := (survives newBead {} {}
    [(.creator, { now := 1 }), (.pass, { now := 2 }), (.pass, { now := 3 }), (.pass, { now := 4 }),
      (.pass, { now := 5 }), (.creator, { now := 6 }), (.creator, { now := 7 }),
      (.pass, { now := 5000000008 })]
    emptyCache_fences rfl rfl (by decide) trivial trivial).1
  cases kept

end GasCity
