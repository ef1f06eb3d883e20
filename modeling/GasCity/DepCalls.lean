import GasCity.CacheWrites
import GasCity.EventRow
import GasCity.Interleave
import GasCity.MemStore

namespace GasCity

open CachingStore

/-- What the dependency calls use of a backing: a write touches the edges of its own bead only. -/
structure DepBacking (β : Type) where
  Get : β → String → Option Bead
  DepList : β → String → List Dep
  write : DepWrite → β → β
  id_of_get : ∀ {b id fresh}, Get b id = some fresh → fresh.id = id
  depList_write : ∀ {b w id}, id ≠ w.issueID → DepList (write w b) id = DepList b id

namespace MemStore

theorem depList_DepAdd (m : MemStore) {issueID dependsOnID depType id : String}
    (other : id ≠ issueID) :
    (m.DepAdd issueID dependsOnID depType).DepList id .down = m.DepList id .down := by
  show (depAddLoop issueID dependsOnID depType m.deps).filter (fun d => d.issueID == id) =
    m.deps.filter (fun d => d.issueID == id)
  have foreign : (issueID == id) = false := by simpa using other.symm
  induction m.deps with
  | nil => simp [depAddLoop, foreign]
  | cons d deps ih =>
    unfold depAddLoop
    split
    next => rfl
    next =>
      split
      next h =>
        obtain ⟨own, _⟩ := h
        simp [own, foreign]
      next => rw [List.filter_cons, List.filter_cons, ih]

theorem depList_DepRemove (m : MemStore) {issueID dependsOnID id : String} (other : id ≠ issueID) :
    (m.DepRemove issueID dependsOnID).DepList id .down = m.DepList id .down := by
  show (m.deps.eraseP (fun d => d.issueID == issueID && d.dependsOnID == dependsOnID)).filter
    (fun d => d.issueID == id) = m.deps.filter (fun d => d.issueID == id)
  induction m.deps with
  | nil => simp
  | cons d deps ih =>
    rw [List.eraseP_cons]
    cases hit : d.issueID == issueID && d.dependsOnID == dependsOnID with
    | true =>
      have own : d.issueID = issueID := by
        have both := (Bool.and_eq_true _ _).mp hit
        exact beq_iff_eq.mp both.1
      have foreign : (d.issueID == id) = false := by simpa [own] using other.symm
      simp [foreign]
    | false =>
      show (d :: _).filter _ = _
      rw [List.filter_cons, List.filter_cons, ih]

def depBacking : DepBacking MemStore where
  Get m id := m.beads.find id
  DepList m id := m.DepList id .down
  write w m := match w with
    | .add issueID dependsOnID depType => m.DepAdd issueID dependsOnID depType
    | .remove issueID dependsOnID => m.DepRemove issueID dependsOnID
  id_of_get := KeyedList.key_of_find
  depList_write := by
    intro m w id other
    cases w with
    | add issueID dependsOnID depType => exact m.depList_DepAdd other
    | remove issueID dependsOnID => exact m.depList_DepRemove other

end MemStore

/-- Where a call of `DepList`, `DepAdd` or `DepRemove` stands between its locked sections and its
calls of the backing. -/
inductive DepCall where
  | list (id : String)
  | listMissed (id : String)
  | listRead (id : String) (deps : List Dep)
  | write (w : DepWrite)
  | written (w : DepWrite)
  | refreshed (w : DepWrite) (fresh : Bead)
  | ready (w : DepWrite) (read : Option (Bead × List Dep))
  | done

namespace DepCall

variable {β : Type} (k : DepBacking β)

/-- One step of a call over the cache and the backing, at a time; the flag says that the call of
the backing made in this step fails. -/
def next (moment : Time × Bool) (s : CachingStore × β) : DepCall → (CachingStore × β) × DepCall
  | .list id =>
    if s.1.state = .cacheLive ∧ s.1.depsComplete ∧ (s.1.deps.lookup id).isNone then
      (s, .listMissed id)
    else (s, .done)
  | .listMissed id => if moment.2 then (s, .done) else (s, .listRead id (k.DepList s.2 id))
  | .listRead id deps => ((s.1.setDeps id deps, s.2), .done)
  | .write w => if moment.2 then (s, .done) else ((s.1, k.write w s.2), .written w)
  | .written w =>
    if moment.2 then (s, .ready w none)
    else
      match k.Get s.2 w.issueID with
      | some fresh => (s, .refreshed w fresh)
      | none => (s, .ready w none)
  | .refreshed w fresh =>
    if moment.2 then
      let deps := depsFromBeadFields fresh
      (s, .ready w (some ({ fresh with dependencies := deps }, deps)))
    else
      let deps := k.DepList s.2 w.issueID
      (s, .ready w (some (withDeps fresh deps, deps)))
  | .ready w read => (((s.1.depWriteCommit w read moment.1).1, s.2), .done)
  | .done => (s, .done)

def owes (id : String) : DepCall → Prop
  | .written w | .refreshed w _ | .ready w _ => w.issueID = id
  | _ => False

def ownRow : DepCall → Prop
  | .refreshed w fresh | .ready w (some (fresh, _)) => fresh.id = w.issueID
  | _ => True

/-- The call has read the edges of the bead and is about to install them. -/
def holds (id : String) : DepCall → Prop
  | .listRead id' _ => id' = id
  | .ready w _ => w.issueID = id
  | _ => False

def idle : DepCall → Prop
  | .list _ | .write _ | .done => True
  | _ => False

end DepCall

end GasCity
