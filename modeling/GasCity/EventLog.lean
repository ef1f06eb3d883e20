import GasCity.Interleave
import GasCity.KeyedList

namespace GasCity

open Function KeyedList

structure LogEntry where
  seq : Nat
  text : String
  deriving DecidableEq

/-- What the name of a rotated file tells: a timestamp and a window of sequence numbers. -/
structure Window where
  ts : Nat
  first : Nat
  last : Nat
  deriving DecidableEq

def lastSeq (lines : List LogEntry) : Nat := (lines.getLast?.map (fun e => e.seq)).getD 0

def numberFrom (latest : Nat) : List String → List LogEntry
  | [] => []
  | text :: texts => { seq := latest + 1, text } :: numberFrom (latest + 1) texts

/-- The directory of the log. `active` is the inode under the path of the log, `locked` tells the
inodes whose advisory lock is taken, `pending` the rotated files that wait for compression, and
`written` every line whose write succeeded, in the order of the writes. -/
structure LogDir where
  contents : Nat → List LogEntry := fun _ => []
  inodes : Nat := 0
  active : Option Nat := none
  rotating : KeyedList (fun f : Window × Nat => f.1) := empty
  partials : KeyedList (fun f : Window × List LogEntry => f.1) := empty
  archives : KeyedList (fun f : Window × List LogEntry => f.1) := empty
  locked : Nat → Bool := fun _ => false
  pending : List Window := []
  written : List LogEntry := []

namespace LogDir

variable (d : LogDir)

def activeLines : List LogEntry := (d.active.map d.contents).getD []

def readLatestActiveSeq : Nat := lastSeq d.activeLines

/-- The archives contribute the last sequence number of their names. -/
def archivedSeq : Nat := (d.archives.rows.map fun f => f.1.last).foldl max 0

def openActive : Nat × LogDir :=
  match d.active with
  | some i => (i, d)
  | none => (d.inodes, { d with
      active := some d.inodes
      inodes := d.inodes + 1
      contents := update d.contents d.inodes [] })

def write (i : Nat) (lines : List LogEntry) : LogDir :=
  { d with
    contents := update d.contents i (d.contents i ++ lines)
    written := d.written ++ lines }

def setLock (i : Nat) (taken : Bool) : LogDir :=
  { d with locked := update d.locked i taken }

def rename (i : Nat) (w : Window) : LogDir :=
  { d with active := none, rotating := d.rotating.set (w, i) }

variable (w : Window)

def enqueue : LogDir := { d with pending := w :: d.pending }

def dequeue : LogDir := { d with pending := d.pending.erase w }

def copy (i : Nat) (w : Window) : LogDir :=
  { d with partials := d.partials.set (w, d.contents i) }

def discard : LogDir := { d with partials := d.partials.erase w }

def archive (lines : List LogEntry) : LogDir :=
  { d with archives := d.archives.set (w, lines), partials := d.partials.erase w }

/-- Remove a rotated file, or set it aside under a name that no reader looks at. -/
def remove : LogDir := { d with rotating := d.rotating.erase w }

/-- The start-up sweep meets a rotated file: an empty one is removed, another one compressed. -/
def sweep : LogDir :=
  match d.rotating.find w with
  | none => d
  | some f => if d.contents f.2 = [] then d.remove w else d.enqueue w

end LogDir

/-- A recorder or a compression between two of its steps. `file` is the inode of the open
descriptor and `seq` the cached sequence number. -/
inductive LogThread where
  | unopened
  | tailRead (seq : Nat)
  | listed (seq : Nat)
  | idle (file seq : Nat)
  | waiting (file seq : Nat) (texts : List String)
  | holding (file seq : Nat) (texts : List String)
  | numbered (file seq : Nat) (lines : List LogEntry)
  | wrote (file seq : Nat)
  | sized (file seq ts : Nat)
  | scanned (file seq : Nat) (w : Window)
  | renamed (seq : Nat) (w : Window)
  | reopened (file seq : Nat) (w : Window)
  | anchored (file seq : Nat) (w : Window) (anchor : LogEntry)
  | closed
  | resting
  | copying (w : Window)
  | copied (w : Window)
  | archived (w : Window)

/-- What a thread does next. `record` stands for `Record` with one event and for `AppendBatch`; a
size check that rotates is a rotation before it. -/
inductive LogChoice where
  | go
  | openLog
  | record (texts : List String)
  | rotate (ts : Nat)
  | close
  | timeout
  | sweep (w : Window)
  | discard (w : Window)
  | take (w : Window)
  deriving DecidableEq

/-- One step of `NewFileRecorder`, `Record`, `AppendBatch`, `rotateLocked`, `Close` or
`gzipAndArchive`. The sweep of an open hands its files to the compressions. -/
def LogThread.step (c : LogChoice) (d : LogDir) : LogThread → LogDir × LogThread
  | .unopened =>
    match c with
    | .openLog => (d, .tailRead d.readLatestActiveSeq)
    | .sweep w => (d.sweep w, .unopened)
    | .discard w => (d.discard w, .unopened)
    | _ => (d, .unopened)
  | .tailRead seq => (d, .listed (max seq d.archivedSeq))
  | .listed seq => (d.openActive.2, .idle d.openActive.1 seq)
  | .idle file seq =>
    match c with
    | .record texts => (d, if texts = [] then .idle file seq else .waiting file seq texts)
    | .rotate ts => (d, if d.contents file = [] then .idle file seq else .sized file seq ts)
    | .close => (d, .closed)
    | _ => (d, .idle file seq)
  | .waiting file seq texts =>
    if c = .timeout then (d, .idle file seq)
    else if d.locked file then (d, .waiting file seq texts)
    else (d.setLock file true, .holding file seq texts)
  | .holding file seq texts =>
    let latest := max seq d.readLatestActiveSeq
    (d, .numbered file (latest + texts.length) (numberFrom latest texts))
  | .numbered file seq lines => (d.write file lines, .wrote file seq)
  | .wrote file seq => (d.setLock file false, .idle file seq)
  | .sized file seq ts =>
    match d.activeLines with
    | [] => (d, .idle file seq)
    | e :: es => (d, .scanned file seq ⟨ts, e.seq, max (lastSeq (e :: es)) e.seq⟩)
  | .scanned _ seq w =>
    match d.active with
    | none => (d.openActive.2, .idle d.openActive.1 seq)
    | some i => (d.rename i w, .renamed seq w)
  | .renamed seq w => (d.openActive.2, .reopened d.openActive.1 seq w)
  | .reopened file seq w =>
    let latest := max seq d.readLatestActiveSeq
    (d, .anchored file (latest + 1) w ⟨latest + 1, "events.rotated"⟩)
  | .anchored file seq w anchor => ((d.write file [anchor]).enqueue w, .idle file seq)
  | .closed => (d, .closed)
  | .resting =>
    match c with
    | .take w => if w ∈ d.pending then (d.dequeue w, .copying w) else (d, .resting)
    | _ => (d, .resting)
  | .copying w =>
    match d.archives.find w, d.rotating.find w with
    | some _, _ => (d.remove w, .resting)
    | none, none => (d, .resting)
    | none, some f => (d.copy f.2 w, .copied w)
  | .copied w =>
    match d.partials.find w with
    | none => (d, .resting)
    | some f => (d.archive w f.2, .archived w)
  | .archived w => (d.remove w, .resting)

abbrev EventLog := Threads Nat LogDir LogThread

namespace EventLog

def next (s : EventLog) (e : Nat × LogChoice) : EventLog := s.step LogThread.step e

def fresh (roles : Nat → Bool) : EventLog where
  shared := {}
  calls j := if roles j then .unopened else .resting

end EventLog

end GasCity
