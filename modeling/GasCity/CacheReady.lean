import GasCity.CacheReads

namespace GasCity

/-- Readiness of one cached row: its verdict where it has one, else no blocking dependency on a
cached row that is not closed. -/
def cachedBeadReady (b : Bead) (statusByID : String → Option String) (deps : List Dep) : Bool :=
  match b.isBlocked with
  | some blocked => !blocked
  | none =>
    deps.all (fun dep =>
      !(isReadyBlockingDependencyType dep.type &&
        (statusByID dep.dependsOnID).any (fun status => status != "closed")))

def updateMatches (opts : UpdateOpts) (b : Bead) : Bool :=
  opts.title.all (· == b.title) && opts.status.all (· == b.status) &&
    opts.type.all (· == b.type) && opts.priority.all (b.priority == some ·) &&
    opts.description.all (· == b.description) && opts.parentID.all (· == b.parentID) &&
    opts.assignee.all (· == b.assignee) && matchesMetadata b opts.metadata &&
    opts.labels.all b.labels.contains && opts.removeLabels.all (fun l => !b.labels.contains l)

namespace CachingStore

variable (c : CachingStore) (id : String)

def primedRow : Option Bead :=
  if id = "" ∨ c.eventServable = false ∨ (c.dirty.lookup id).isSome then none else c.beads.find id

def updateMatchesCached (opts : UpdateOpts) : Bool :=
  (c.primedRow id).any (updateMatches opts)

def closeAlreadyMatchesCached : Bool :=
  (c.primedRow id).any (fun b => b.status == "closed")

def metadataAlreadyMatchesCached (kvs : StringMap) : Bool :=
  (c.primedRow id).any (fun b => matchesMetadata b kvs)

variable (suppressed : List String)

def statusByID (id : String) : Option String :=
  if suppressed.contains id then none else (c.beads.find id).map Bead.status

def readyCandidates (now : Time) : List Bead :=
  c.beads.rows.filter (fun b => !suppressed.contains b.id && isReadyCandidate b now)

def readyScan (now : Time) : Option (List Bead) :=
  let candidates := c.readyCandidates suppressed now
  if candidates.any (fun b => c.readyProjectionUnknownLocked b.id) then none
  else
    some (sortBeadsReadyOrder (candidates.filter (fun b =>
      cachedBeadReady b (c.statusByID suppressed) (c.depsOf b.id))))

def readyGate : Bool :=
  c.state == .cacheLive && c.depsComplete && c.primePartialErr == none && !c.readyProjectionDegraded

/-- `Ready` without a query: the cache it leaves, and its answer when the cache gives it. -/
def Ready (get : BackingGet)
    (depList : String → Option (List Dep)) (now : Time) : CachingStore × Option (List Bead) :=
  match c.readCacheWithOverlay readyGate get depList now with
  | (c, some suppressed) => (c, c.readyScan suppressed now)
  | (c, none) => (c, none)

def CachedReady (now : Time) : Option (List Bead) :=
  if c.eventServable = false then none
  else if c.primePartialErr ≠ none ∨ c.dirty.keys.length > 0 ∨ c.readyProjectionDegraded then none
  else if c.depsComplete = false ∧
      (c.readyCandidates [] now).any (fun b => (c.deps.lookup b.id).isNone) then none
  else c.readyScan [] now

end CachingStore

end GasCity
