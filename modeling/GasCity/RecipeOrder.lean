import GasCity.LeastOrder

namespace GasCity

open List hiding beq_eq_decide

structure RecipeStep (α : Type) where
  id : String
  body : α

structure RecipeDep where
  stepID : String
  dependsOnID : String
  type : String

namespace Recipe

variable {α : Type}

def ids (steps : List (RecipeStep α)) : List String := steps.map RecipeStep.id

def orderedIDs (rootID : String) (steps : List (RecipeStep α)) : List String :=
  (ids steps).filter fun id => id ≠ rootID

def counted (rootID : String) (steps : List (RecipeStep α)) (deps : List RecipeDep) : List RecipeDep :=
  deps.filter fun dep => !(dep.type = "parent-child" || dep.stepID = rootID) &&
    dep.stepID ∈ orderedIDs rootID steps && dep.dependsOnID ∈ orderedIDs rootID steps

structure OrderState where
  inDegree : String → Int
  ready : List String
  emitted : List String

namespace OrderState

def release (s : OrderState) (next : String) : OrderState :=
  let degree := s.inDegree next - 1
  { s with
    inDegree := fun id => if id = next then degree else s.inDegree id
    ready := if degree = 0 then s.ready ++ [next] else s.ready }

def emit (deps : List RecipeDep) (s : OrderState) (id : String) : OrderState :=
  ((deps.filter fun dep => dep.dependsOnID = id).map RecipeDep.stepID).foldl release
    { s with ready := s.ready.erase id, emitted := s.emitted ++ [id] }

def best (order : String → Nat) (first : String) (rest : List String) : String :=
  rest.foldl (fun best id => if order id < order best then id else best) first

/-- Each turn emits a step, so that there are no more turns than steps. -/
def loop (order : String → Nat) (deps : List RecipeDep) : Nat → OrderState → OrderState
  | 0, s => s
  | n + 1, s =>
    match s.ready with
    | [] => s
    | first :: rest => loop order deps n (s.emit deps (best order first rest))

end OrderState

def start (nodes : List String) (deps : List RecipeDep) : OrderState where
  inDegree := fun id => (deps.map RecipeDep.stepID).count id
  ready := nodes.filter fun id => (deps.map RecipeDep.stepID).count id = 0
  emitted := []

/-- The error is that the dependencies contain a cycle. Of steps that share an id the source takes the
last one: here ids are distinct. -/
def orderGraphRecipeSteps (rootID : String) (steps : List (RecipeStep α)) (deps : List RecipeDep) :
    Except Unit (List (RecipeStep α)) :=
  if steps.length ≤ 2 then .ok steps
  else
    let deps := counted rootID steps deps
    let final := OrderState.loop (fun id => (ids steps).idxOf id) deps steps.length
      (start (orderedIDs rootID steps) deps)
    let root := (steps.find? fun step => step.id = rootID) <|> steps.head?
    let result := root.toList ++ final.emitted.filterMap fun id => steps.find? fun step => step.id = id
    if result.length ≠ steps.length then .error () else .ok result

section Loop

variable {nodes : List String} {deps : List RecipeDep} {order : String → Nat} {s : OrderState}

variable (deps) in
def needs (x y : String) : Prop := ∃ dep ∈ deps, dep.stepID = x ∧ dep.dependsOnID = y

variable (deps) in
def openDeps (emitted : List String) (x : String) : List RecipeDep :=
  deps.filter fun dep => dep.stepID = x && !emitted.contains dep.dependsOnID

theorem openDeps_eq_nil_iff {emitted : List String} {x : String} :
    openDeps deps emitted x = [] ↔ ∀ y, needs deps x y → y ∈ emitted := by
  simp only [openDeps, filter_eq_nil_iff, needs]
  constructor
  · rintro none y ⟨dep, mem, rfl, rfl⟩
    simpa using none dep mem
  · intro met dep mem
    by_cases mine : dep.stepID = x
    · simp [mine, met _ ⟨dep, mem, mine, rfl⟩]
    · simp [mine]

theorem openDeps_emit {emitted : List String} {b x : String} (new : b ∉ emitted) :
    (openDeps deps (emitted ++ [b]) x).length +
      ((deps.filter fun dep => dep.dependsOnID = b).map RecipeDep.stepID).count x =
        (openDeps deps emitted x).length := by
  induction deps with
  | nil => rfl
  | cons dep deps ih =>
    unfold openDeps at ih ⊢
    simp only [filter_cons]
    by_cases mine : dep.stepID = x <;> by_cases there : dep.dependsOnID = b <;>
      by_cases done : dep.dependsOnID ∈ emitted <;> simp_all <;> omega

variable (nodes deps) in
/-- Degrees count the open dependencies, and ready is what is free. -/
structure Sound (s : OrderState) : Prop where
  degree : ∀ x, s.inDegree x = (openDeps deps s.emitted x).length
  apart : s.ready.Nodup
  ready : ∀ x, x ∈ s.ready ↔ Free (needs deps) nodes s.emitted x
  done : ∀ x ∈ s.emitted, openDeps deps s.emitted x = []

theorem sound_start (apart : nodes.Nodup) : Sound nodes deps (start nodes deps) := by
  have all (x : String) : (openDeps deps [] x).length = (deps.map RecipeDep.stepID).count x := by
    rw [count_eq_length_filter, filter_map, length_map]
    congr 1
    exact filter_congr fun dep _ => by simp [beq_eq_decide]
  refine ⟨fun x => by rw [start, all], apart.filter _, fun x => ?_, fun x mem => (not_mem_nil mem).elim⟩
  rw [start, mem_filter, decide_eq_true_eq, ← all, length_eq_zero_iff, openDeps_eq_nil_iff]
  exact ⟨fun ⟨mem, met⟩ => ⟨mem, not_mem_nil, met⟩, fun free => ⟨free.mem, free.met⟩⟩

theorem foldl_release (es : List String) (bounded : ∀ x, (es.count x : Int) ≤ s.inDegree x) :
    (es.foldl OrderState.release s).emitted = s.emitted ∧
      (∀ x, (es.foldl OrderState.release s).inDegree x = s.inDegree x - es.count x) ∧
      ∃ added, (es.foldl OrderState.release s).ready = s.ready ++ added ∧ added.Nodup ∧
        ∀ x, x ∈ added ↔ x ∈ es ∧ s.inDegree x = es.count x := by
  induction es generalizing s with
  | nil => exact ⟨rfl, by simp, [], by simp⟩
  | cons y es ih =>
    have count (x : String) : ((y :: es).count x : Int) = es.count x + if x = y then 1 else 0 := by
      rw [count_cons]
      by_cases is : x = y
      · simp [is]
      · simp [is, Ne.symm is]
    have degree (x : String) : (s.release y).inDegree x = s.inDegree x - if x = y then 1 else 0 := by
      by_cases is : x = y <;> simp [OrderState.release, is]
    have bounded' (x : String) : (es.count x : Int) ≤ (s.release y).inDegree x := by
      have le := bounded x
      rw [count] at le
      rw [degree]
      omega
    obtain ⟨emitted, degrees, added, ready, apart, mem⟩ := ih bounded'
    refine ⟨emitted, fun x => ?_, ?_⟩
    · rw [foldl_cons, degrees, degree, count]
      omega
    · have here := bounded' y
      rw [degree, if_pos rfl] at here
      have found : y ∈ es ↔ 0 < es.count y := count_pos_iff.symm
      have member (x : String) : x ∈ added ∨ x = y ∧ s.inDegree y - 1 = 0 ↔
          x ∈ y :: es ∧ s.inDegree x = (y :: es).count x := by
        rw [mem, mem_cons, degree, count]
        by_cases is : x = y
        · subst is
          simp only [found, if_true, true_and, true_or]
          omega
        · simp [is]
      rw [foldl_cons, ready]
      by_cases last : s.inDegree y - 1 = 0
      · have fresh : y ∉ added := fun there => by
          have there := found.mp ((mem y).mp there).1
          omega
        refine ⟨y :: added, by simp [OrderState.release, last], nodup_cons.mpr ⟨fresh, apart⟩, fun x => ?_⟩
        rw [← member, mem_cons, or_comm, and_iff_left last]
      · refine ⟨added, by simp [OrderState.release, last], apart, fun x => ?_⟩
        rw [← member, or_iff_left fun both => last both.2]

theorem Sound.emit (sound : Sound nodes deps s) (inside : ∀ dep ∈ deps, dep.stepID ∈ nodes) {b : String}
    (mem : b ∈ s.ready) : Sound nodes deps (s.emit deps b) ∧ (s.emit deps b).emitted = s.emitted ++ [b] := by
  have free := (sound.ready b).mp mem
  have split (x : String) := @openDeps_emit deps s.emitted b x free.new
  generalize edges : (deps.filter fun dep => dep.dependsOnID = b).map RecipeDep.stepID = es at split
  have needed {x : String} (there : x ∈ es) : needs deps x b := by
    rw [← edges] at there
    obtain ⟨dep, mem, rfl⟩ := mem_map.mp there
    exact ⟨dep, (mem_filter.mp mem).1, rfl, of_decide_eq_true (mem_filter.mp mem).2⟩
  obtain ⟨emitted, degree, added, ready, apart, member⟩ :=
    @foldl_release { s with ready := s.ready.erase b, emitted := s.emitted ++ [b] } es fun x => by
      have sum := split x
      rw [sound.degree]
      omega
  have after : s.emit deps b = es.foldl OrderState.release
      { s with ready := s.ready.erase b, emitted := s.emitted ++ [b] } := by rw [OrderState.emit, edges]
  rw [after]
  have unmet {x : String} (there : x ∈ es) : openDeps deps s.emitted x ≠ [] := fun none =>
    free.new (openDeps_eq_nil_iff.mp none b (needed there))
  have added_iff (x : String) : x ∈ added ↔ x ∈ es ∧ openDeps deps (s.emitted ++ [b]) x = [] := by
    rw [member, ← length_eq_zero_iff]
    refine and_congr_right fun _ => ?_
    rw [sound.degree, ← split x]
    omega
  refine ⟨⟨fun x => ?_, ?_, fun x => ?_, fun x there => ?_⟩, emitted⟩
  · rw [degree, emitted]
    show s.inDegree x - _ = ((openDeps deps (s.emitted ++ [b]) x).length : Int)
    rw [sound.degree, ← split x]
    omega
  · rw [ready]
    refine nodup_append.mpr ⟨sound.apart.erase b, apart, fun x there y new => ?_⟩
    rintro rfl
    have free := (sound.ready x).mp (mem_of_mem_erase there)
    exact unmet ((added_iff x).mp new).1 (openDeps_eq_nil_iff.mpr free.met)
  · rw [ready, emitted, mem_append, sound.apart.mem_erase_iff, sound.ready, added_iff]
    constructor
    · rintro (⟨other, free⟩ | ⟨there, none⟩)
      · refine ⟨free.mem, fun is => ?_, fun y need => mem_append_left _ (free.met y need)⟩
        rcases mem_append.mp is with old | is
        · exact free.new old
        · exact other (mem_singleton.mp is)
      · obtain ⟨dep, known, rfl, -⟩ := needed there
        refine ⟨inside dep known, fun is => unmet there ?_, openDeps_eq_nil_iff.mp none⟩
        rcases mem_append.mp is with old | is
        · exact sound.done _ old
        · rw [mem_singleton.mp is]
          exact openDeps_eq_nil_iff.mpr free.met
    · intro next
      have none := openDeps_eq_nil_iff.mpr next.met
      by_cases there : x ∈ es
      · exact .inr ⟨there, none⟩
      · refine .inl ⟨fun is => next.new (is ▸ by simp), next.mem, fun old => next.new (by simp [old]), ?_⟩
        rw [← openDeps_eq_nil_iff, ← length_eq_zero_iff, ← split x, none, count_eq_zero.mpr there]
        rfl
  · rw [emitted] at there ⊢
    have none : openDeps deps s.emitted x = [] := by
      rcases mem_append.mp there with old | is
      · exact sound.done x old
      · rw [mem_singleton.mp is]
        exact openDeps_eq_nil_iff.mpr free.met
    rw [openDeps_eq_nil_iff] at none ⊢
    exact fun y need => mem_append_left _ (none y need)

theorem best_spec (first : String) (rest : List String) :
    OrderState.best order first rest ∈ first :: rest ∧
      ∀ y ∈ first :: rest, order (OrderState.best order first rest) ≤ order y := by
  induction rest generalizing first with
  | nil => simp [OrderState.best]
  | cons x rest ih =>
    obtain ⟨mem, least⟩ := ih (if order x < order first then x else first)
    have step : OrderState.best order first (x :: rest) =
        OrderState.best order (if order x < order first then x else first) rest := rfl
    rw [step]
    by_cases lower : order x < order first
    · rw [if_pos lower] at mem least ⊢
      refine ⟨mem_cons_of_mem _ mem, fun y there => ?_⟩
      rcases mem_cons.mp there with rfl | there
      · exact (least x mem_cons_self).trans lower.le
      · exact least y there
    · rw [if_neg lower] at mem least ⊢
      refine ⟨cons_subset_cons _ (subset_cons_self _ _) mem, fun y there => ?_⟩
      rcases mem_cons.mp there with rfl | there
      · exact least _ mem_cons_self
      · rcases mem_cons.mp there with rfl | there
        · exact (least first mem_cons_self).trans (not_lt.mp lower)
        · exact least y (mem_cons_of_mem _ there)

theorem loop_least (inside : ∀ dep ∈ deps, dep.stepID ∈ nodes) (n : Nat) (sound : Sound nodes deps s)
    (apart : s.emitted.Nodup) (sub : s.emitted ⊆ nodes) (turns : nodes.length ≤ n + s.emitted.length) :
    ∃ rest, (OrderState.loop order deps n s).emitted = s.emitted ++ rest ∧
      Least (needs deps) nodes order s.emitted rest := by
  induction n generalizing s with
  | zero =>
    refine ⟨[], by simp [OrderState.loop], fun x free => free.new ?_⟩
    have all := apart.subperm sub |>.perm_of_length_le (by omega)
    exact all.mem_iff.mpr free.mem
  | succ n ih =>
    cases ready : s.ready with
    | nil =>
      refine ⟨[], by simp [OrderState.loop, ready], fun x free => ?_⟩
      have there := (sound.ready x).mpr free
      rw [ready] at there
      cases there
    | cons first others =>
      obtain ⟨mem, least⟩ := @best_spec order first others
      rw [← ready] at mem least
      obtain ⟨next, emitted⟩ := sound.emit inside mem
      have free := (sound.ready _).mp mem
      obtain ⟨rest, final, run⟩ := ih next
        (by
          rw [emitted]
          exact nodup_append.mpr ⟨apart, nodup_singleton _, fun x there y is => by
            rintro rfl
            exact free.new (mem_singleton.mp is ▸ there)⟩)
        (by rw [emitted]; exact append_subset.mpr ⟨sub, by simpa using free.mem⟩)
        (by rw [emitted, length_append, length_singleton]; omega)
      refine ⟨OrderState.best order first others :: rest, ?_, free, fun y there => least y ((sound.ready y).mpr there), ?_⟩
      · rw [OrderState.loop, ready]
        rw [final, emitted, append_assoc]
        rfl
      · rwa [emitted] at run

end Loop

variable {rootID : String} {steps : List (RecipeStep α)} {deps : List RecipeDep}

variable (rootID steps deps) in
structure Topological (l : List (RecipeStep α)) : Prop where
  perm : l.Perm steps
  first : (ids l).head? = some rootID
  after : ∀ dep ∈ counted rootID steps deps, (ids l).idxOf dep.dependsOnID < (ids l).idxOf dep.stepID

variable (steps) in
def positions (l : List (RecipeStep α)) : List Nat := l.map fun step => (ids steps).idxOf step.id

theorem ids_filterMap_find {l : List String} (sub : l ⊆ ids steps) :
    ids (l.filterMap fun id => steps.find? fun step => step.id = id) = l := by
  induction l with
  | nil => rfl
  | cons id l ih =>
    obtain ⟨step, mem, is⟩ := mem_map.mp (sub mem_cons_self)
    have some : (steps.find? fun step => step.id = id).isSome = true :=
      find?_isSome.mpr ⟨step, mem, decide_eq_true is⟩
    obtain ⟨found, there⟩ := Option.isSome_iff_exists.mp some
    have same : found.id = id := by simpa using find?_some there
    have rest := ih fun x mem => sub (mem_cons_of_mem id mem)
    rw [filterMap_cons]
    simp only [there]
    rw [ids, map_cons, same]
    exact congrArg _ rest

theorem perm_of_ids {l : List (RecipeStep α)} (distinct : (ids steps).Nodup) (sub : ∀ step ∈ l, step ∈ steps)
    (perm : (ids l).Perm (ids steps)) : l.Perm steps := by
  have apart : l.Nodup := List.Nodup.of_map _ (perm.nodup_iff.mpr distinct)
  refine (apart.subperm sub).perm_of_length_le ?_
  have size := perm.length_eq
  rw [ids, ids, length_map, length_map] at size
  exact size.ge

theorem positions_eq (l : List (RecipeStep α)) : positions steps l = (ids l).map ((ids steps).idxOf ·) :=
  (map_map (f := RecipeStep.id) (g := fun id => (ids steps).idxOf id)).symm

theorem mem_orderedIDs_of_counted {dep : RecipeDep} (mem : dep ∈ counted rootID steps deps) :
    dep.stepID ∈ orderedIDs rootID steps ∧ dep.dependsOnID ∈ orderedIDs rootID steps := by
  have kept := (mem_filter.mp mem).2
  simp only [Bool.and_eq_true, decide_eq_true_eq] at kept
  exact ⟨kept.1.2, kept.2⟩

theorem root_ne_of_mem {id : String} (mem : id ∈ orderedIDs rootID steps) : rootID ≠ id := by
  rintro rfl
  simpa using (mem_filter.mp mem).2

theorem ids_perm (distinct : (ids steps).Nodup) (root : rootID ∈ ids steps) :
    (ids steps).Perm (rootID :: orderedIDs rootID steps) := by
  have rest : orderedIDs rootID steps = (ids steps).erase rootID := by
    rw [distinct.erase_eq_filter]
    exact filter_congr fun id _ => by simp [bne, beq_eq_decide]
  exact rest ▸ perm_cons_erase root

section Emitted

variable {emitted tail : List String} (distinct : (ids steps).Nodup)

/-- The order of the nodes and the places in the list of steps differ by the root. -/
theorem idxOf_root_cons {dep : RecipeDep} (mem : dep ∈ counted rootID steps deps) :
    (rootID :: tail).idxOf dep.dependsOnID < (rootID :: tail).idxOf dep.stepID ↔
      tail.idxOf dep.dependsOnID < tail.idxOf dep.stepID := by
  obtain ⟨dependent, target⟩ := mem_orderedIDs_of_counted mem
  rw [idxOf_cons_ne _ (root_ne_of_mem dependent), idxOf_cons_ne _ (root_ne_of_mem target)]
  exact Nat.succ_lt_succ_iff

include distinct

theorem topological_of_ordered {l : List (RecipeStep α)} (root : rootID ∈ ids steps)
    (ordered : Ordered (needs (counted rootID steps deps)) (orderedIDs rootID steps) [] emitted)
    (all : emitted.Perm (orderedIDs rootID steps)) (sub : ∀ step ∈ l, step ∈ steps)
    (names : ids l = rootID :: emitted) : Topological rootID steps deps l where
  perm := perm_of_ids distinct sub (by rw [names]; exact (all.cons rootID).trans (ids_perm distinct root).symm)
  first := by rw [names]; rfl
  after dep mem := by
    rw [names, idxOf_root_cons mem]
    exact ordered.precedes (all.mem_iff.mpr (mem_orderedIDs_of_counted mem).1) ⟨dep, mem, rfl, rfl⟩

theorem Topological.ordered {l : List (RecipeStep α)} (topological : Topological rootID steps deps l)
    (root : rootID ∈ ids steps) : ∃ tail, ids l = rootID :: tail ∧ tail.Perm (orderedIDs rootID steps) ∧
      Ordered (needs (counted rootID steps deps)) (orderedIDs rootID steps) [] tail := by
  obtain ⟨tail, names⟩ := head?_eq_some_iff.mp topological.first
  have all : tail.Perm (orderedIDs rootID steps) := by
    have perm := (topological.perm.map RecipeStep.id).trans (ids_perm distinct root)
    rw [show l.map RecipeStep.id = rootID :: tail from names] at perm
    exact List.Perm.cons_inv perm
  refine ⟨tail, names, all, ordered_of_precedes (fun x mem => all.mem_iff.mp mem)
    (all.nodup_iff.mpr (distinct.filter _)) ?_⟩
  rintro x y - ⟨dep, mem, rfl, rfl⟩
  have after := topological.after dep mem
  rwa [names, idxOf_root_cons mem] at after

end Emitted

/-- The steps come in the least of their topological orders, and there is none only for a cycle. -/
theorem orderGraphRecipeSteps_least (distinct : (ids steps).Nodup) (root : rootID ∈ ids steps) :
    (steps.length ≤ 2 → orderGraphRecipeSteps rootID steps deps = .ok steps) ∧
    (2 < steps.length →
      (orderGraphRecipeSteps rootID steps deps = .error () ↔
        ∃ x, Relation.TransGen (needs (counted rootID steps deps)) x x) ∧
      ∀ ordered, orderGraphRecipeSteps rootID steps deps = .ok ordered →
        Topological rootID steps deps ordered ∧ ∀ other, Topological rootID steps deps other →
          ¬ positions steps other < positions steps ordered) := by
  refine ⟨fun few => if_pos few, fun many => ?_⟩
  set nodes := orderedIDs rootID steps
  set edges := counted rootID steps deps
  have apart : nodes.Nodup := distinct.filter _
  have whole : (ids steps).Perm (rootID :: nodes) := ids_perm distinct root
  have size : steps.length = nodes.length + 1 := by
    have size := whole.length_eq
    rwa [ids, length_map] at size
  obtain ⟨emitted, final, least⟩ := @loop_least nodes edges
    (fun id => (ids steps).idxOf id) (start nodes edges)
    (fun dep mem => (mem_orderedIDs_of_counted mem).1) steps.length (sound_start apart) nodup_nil
    (nil_subset _) (by omega)
  have ordered := least.ordered
  have sub : emitted ⊆ nodes := fun x mem => ordered.mem mem
  have once : emitted.Nodup := ordered.nodup nodup_nil
  obtain ⟨step, there, is⟩ := mem_map.mp root
  have some : (steps.find? fun step => step.id = rootID).isSome = true :=
    find?_isSome.mpr ⟨step, there, decide_eq_true is⟩
  obtain ⟨first, found⟩ := Option.isSome_iff_exists.mp some
  generalize taken : emitted.filterMap (fun id => steps.find? fun step => step.id = id) = rest
  have names : ids rest = emitted := by
    rw [← taken]
    exact ids_filterMap_find fun x mem => (mem_filter.mp (sub mem)).1
  have rest_size : rest.length = emitted.length := by rw [← names, ids, length_map]
  have result : orderGraphRecipeSteps rootID steps deps =
      if emitted.length + 1 ≠ steps.length then .error () else .ok (first :: rest) := by
    unfold orderGraphRecipeSteps
    rw [if_neg (by omega)]
    dsimp only
    have final : (OrderState.loop (fun id => (ids steps).idxOf id) (counted rootID steps deps) steps.length
      (start (orderedIDs rootID steps) (counted rootID steps deps))).emitted = emitted := final
    rw [final, found, taken]
    show (if rest.length + 1 ≠ steps.length then _ else _) = _
    rw [rest_size]
    rfl
  rw [result]
  by_cases short : emitted.length + 1 = steps.length
  · have all : emitted.Perm nodes := (once.subperm sub).perm_of_length_le (by omega)
    have head : first.id = rootID := by simpa using find?_some found
    have result_ids : ids (first :: rest) = rootID :: emitted := by rw [ids, map_cons, head, ← names]; rfl
    rw [if_neg (not_not.mpr short)]
    refine ⟨⟨nofun, fun ⟨x, cycle⟩ => ?_⟩, ?_⟩
    · refine (ordered.acyclic (fun x mem => all.mem_iff.mpr mem) ?_ x cycle).elim
      rintro x y ⟨dep, mem, rfl, -⟩
      exact (mem_orderedIDs_of_counted mem).1
    · rintro _ ⟨⟩
      refine ⟨topological_of_ordered distinct root ordered all (fun step mem => ?_) result_ids,
        fun other topological lower => ?_⟩
      · rcases mem_cons.mp mem with rfl | mem
        · exact mem_of_find?_eq_some found
        · rw [← taken] at mem
          obtain ⟨id, -, is⟩ := mem_filterMap.mp mem
          exact mem_of_find?_eq_some is
      · obtain ⟨tail, other_ids, tail_all, tail_ordered⟩ := topological.ordered distinct root
        rw [positions_eq, positions_eq, other_ids, result_ids] at lower
        rcases cons_lt_cons_iff.mp lower with lower | ⟨-, lower⟩
        · exact lower.false
        · refine least.le tail_ordered (fun x mem y _ is => ?_) (fun x mem => tail_all.mem_iff.mpr mem) lower
          exact idxOf_inj (whole.mem_iff.mpr (mem_cons_of_mem _ mem)) |>.mp is
  · rw [if_pos short]
    refine ⟨⟨fun _ => ?_, fun _ => rfl⟩, fun _ is => by cases is⟩
    have missing : ∃ x ∈ nodes, x ∉ emitted := by
      by_contra none
      push Not at none
      have all := (apart.subperm none).length_le
      have some := (once.subperm sub).length_le
      omega
    obtain ⟨x, mem, left⟩ := missing
    refine least.cyclic ?_ mem left
    rintro x y ⟨dep, mem, -, rfl⟩
    exact (mem_orderedIDs_of_counted mem).2

theorem orderGraphRecipeSteps_least_backwards :
    let steps := [⟨"r", ()⟩, ⟨"b", ()⟩, ⟨"a", ()⟩]
    (ids steps).Nodup ∧ "r" ∈ ids steps ∧ 2 < steps.length ∧ ∀ ordered,
      orderGraphRecipeSteps "r" steps [⟨"b", "a", "blocks"⟩] = .ok ordered →
      Topological "r" steps [⟨"b", "a", "blocks"⟩] ordered := by
  refine ⟨by decide, by decide, by decide, fun ordered ran => ?_⟩
  exact (((orderGraphRecipeSteps_least (by decide) (by decide)).2 (by decide)).2 ordered ran).1

end Recipe

end GasCity
