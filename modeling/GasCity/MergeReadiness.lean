import GasCity.MergeFrame

namespace GasCity.CachingStore

open KeyedList RowState

variable {c : CachingStore} {snap : Snapshot} {startSeq : Nat} {now : Time} {fresh : Bead}

end GasCity.CachingStore
