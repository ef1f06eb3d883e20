import GasCity.CachePrime
import GasCity.CacheReady
import GasCity.DepCalls

namespace GasCity

open CachingStore

/-- What the rows a store returns carry of their dependencies, by store and id. -/
abbrev RowFields := MemStore → String → List String × List Dep

namespace MemStore

variable (fields : RowFields) (m : MemStore)

/-- A stored row as `Get` and `List` return it: its dependency fields are those of the store, and
it has no verdict. -/
def returned (b : Bead) : Bead :=
  { b with
    needs := (fields m b.id).1
    dependencies := (fields m b.id).2
    isBlocked := none }

def returnedRow (id : String) : Option Bead := (m.beads.find id).map (returned fields m)

def returnedGet (id : String) : Except GetError Bead :=
  match m.returnedRow fields id with
  | some b => .ok b
  | none => .error .notFound

def returnedList (query : ListQuery) : List Bead :=
  (applyListQuery m.beads.rows query).map (returned fields m)

def ownFields : RowFields := fun m id =>
  match m.beads.find id with
  | some b => (b.needs, b.dependencies)
  | none => ([], [])

def fetchDepsForIDs (ids : List String) : FinMap String (List Dep) :=
  ids.foldl (fun depMap id => depMap.insert id (m.DepList id .down)) ∅

def primeRead : PrimeRead where
  rows := m.returnedList fields cacheFullScanQuery
  depMap := m.fetchDepsForIDs ((m.returnedList fields cacheFullScanQuery).map Bead.id)
  depsComplete := true

def returnedWithDeps (id : String) : Option (Bead × List Dep) :=
  (m.returnedRow fields id).map (fun b => (withDeps b (m.DepList id .down), m.DepList id .down))

end MemStore

inductive TxOp where
  | create (b : Bead)
  | update (id : String) (opts : UpdateOpts)
  | setMetadataBatch (id : String) (kvs : StringMap)
  | close (id : String)

/-- The ids a transaction has touched, in order, and those it has closed. -/
structure TxTouched where
  ids : List String := []
  closed : List String := []

def TxTouched.touch (t : TxTouched) (id : String) : TxTouched :=
  if id = "" ∨ id ∈ t.ids then t else { t with ids := t.ids ++ [id] }

namespace TxOp

/-- The operation on the backing, and the id it touches. An empty batch touches nothing. -/
def write (now : Time) (m : MemStore) : TxOp → MemResult String
  | .create b => ((m.Create b now).1.map Bead.id, (m.Create b now).2)
  | .update id opts => ((m.Update id opts now).1.map (fun _ => id), (m.Update id opts now).2)
  | .setMetadataBatch id kvs =>
    if kvs.entries.length = 0 then (.ok "", m)
    else
      ((m.SetMetadataBatch id kvs now).1.map (fun _ => id), (m.SetMetadataBatch id kvs now).2)
  | .close id => ((m.Close id now).1.map (fun _ => id), (m.Close id now).2)

def closes : TxOp → List String
  | .close id => [id]
  | _ => []

def Named : TxOp → Prop
  | .create _ => True
  | .update id _ | .setMetadataBatch id _ | .close id => id ≠ ""

/-- The operations of a transaction one after the other, up to the first that fails. -/
def runSequentialTx (now : Time) : List TxOp → MemStore → TxTouched →
    MemResult TxTouched
  | [], m, t => (.ok t, m)
  | op :: ops, m, t =>
    match op.write now m with
    | (.ok id, m') =>
      runSequentialTx now ops m' { t.touch id with closed := t.closed ++ op.closes }
    | (.error err, m') => (.error err, m')

end TxOp

inductive CacheOp where
  | prime
  | create (b : Bead)
  | update (id : String) (opts : UpdateOpts)
  | setMetadata (id key value : String)
  | setMetadataBatch (id : String) (kvs : StringMap)
  | releaseIfCurrent (id expectedAssignee : String)
  | close (id : String)
  | reopen (id : String)
  | tx (ops : List TxOp)
  | depWrite (w : DepWrite)
  | get (id : String)
  | list (query : ListQuery)

namespace CacheOp

variable (fields : RowFields)

def touchedBeads (m : MemStore) (t : TxTouched) : List TouchedBead :=
  t.ids.map (fun id => ⟨id, t.closed.contains id, m.returnedGet fields id⟩)

/-- The cache and the backing after a call. A call whose backing write fails changes neither,
apart from a metadata batch, which leaves its row dirty, and a transaction, which leaves what it
has written. -/
def next (s : CachingStore × MemStore) (call : CacheOp × Time) : CachingStore × MemStore :=
  let (c, m) := s
  let now := call.2
  match call.1 with
  | .prime => (c.primeCommit (m.primeRead fields) c.mutationSeq now, m)
  | .create b =>
    match m.Create b now with
    | (.ok created, m') =>
      let row := (m'.returnedRow fields created.id).getD created
      ((c.absorbAuthoritativeCreated row true now).1, m')
    | (.error _, _) => (c, m)
  | .update id opts =>
    if c.updateMatchesCached id opts then (c, m)
    else
      match m.Update id opts now with
      | (.ok _, m') => ((c.updateCommit id opts (m'.returnedGet fields id) now).1, m')
      | (.error _, _) => (c, m)
  | .setMetadata id key value =>
    let kvs := AList.insert key value ∅
    if c.metadataAlreadyMatchesCached id kvs then (c, m)
    else
      match m.SetMetadata id key value now with
      | (.ok _, m') => ((c.setMetadataCommit id kvs (m'.returnedRow fields id) now).1, m')
      | (.error _, _) => (c, m)
  | .setMetadataBatch id kvs =>
    if kvs.entries.length = 0 then (c, m)
    else if c.metadataAlreadyMatchesCached id kvs then (c, m)
    else
      match m.SetMetadataBatch id kvs now with
      | (.ok _, m') => ((c.setMetadataCommit id kvs (m'.returnedRow fields id) now).1, m')
      | (.error _, _) => (c.setMetadataBatchFailed id, m)
  | .releaseIfCurrent id expectedAssignee =>
    match m.ReleaseIfCurrent id expectedAssignee now with
    | (.ok true, m') => ((c.releaseCommit id (m'.returnedRow fields id) now).1, m')
    | (_, _) => (c, m)
  | .close id =>
    if c.closeAlreadyMatchesCached id then (c, m)
    else
      match m.Close id now with
      | (.ok _, m') => ((c.closeCommit id (m'.returnedRow fields id) now).1, m')
      | (.error _, _) => (c, m)
  | .reopen id =>
    match m.Reopen id now with
    | (.ok _, m') => ((c.reopenCommit id (m'.returnedRow fields id) now).1, m')
    | (.error _, _) => (c, m)
  | .tx ops =>
    match TxOp.runSequentialTx now ops m {} with
    | (.ok t, m') => ((c.refreshTxTouchedBeads (touchedBeads fields m' t) now).1, m')
    | (.error _, m') => (c, m')
  | .depWrite w =>
    let m' := MemStore.depBacking.write w m
    ((c.depWriteCommit w (m'.returnedWithDeps fields w.issueID) now).1, m')
  | .get id =>
    match c.getRoute id, m.returnedRow fields id with
    | .refetch startSeq, some fresh => (c.getDirtyCommit fresh startSeq now, m)
    | _, _ => (c, m)
  | .list query =>
    if !query.HasFilter && !query.allowScan then (c, m)
    else if query.live ∨ query.parentID ≠ "" then
      ((c.refreshCachedBeads (m.returnedGet fields) query (m.returnedList fields query) now).1, m)
    else
      ((c.readCacheWithOverlay cacheServableLocked (m.returnedGet fields)
        (fun id => some (m.DepList id .down)) now).1, m)

end CacheOp

def servedReady (fields : RowFields) (s : CachingStore × MemStore) (now : Time) :
    Option (List Bead) :=
  (s.1.Ready (s.2.returnedGet fields) (fun id => some (s.2.DepList id .down)) now).2

end GasCity
