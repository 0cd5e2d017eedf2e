import TableReach.Proofs.Run.Preparation
import Mathlib.Data.List.Basic

/-!
# Statements prepared side by side

Workers prepare the statements of a run side by side, one worker a statement, on
one cache.  A worker touches the cache in two atomic steps: it looks its text up,
and if the text was not there it classifies it and keeps the result.  Between the
two any other worker may take its turn.  A schedule says who moves next and, each
time room has to be made in the cache, which entries go.

No schedule can be seen in a report.  The invariant `Pool.Sound` says that the
cache is coherent and that a worker that is done has the outcome it would have
alone; a turn keeps it, hence every schedule does.
-/

namespace TableReach

/-- How far the preparation of a statement has come. -/
inductive Progress where
  /-- It has not begun. -/
  | waiting
  /-- The cache did not hold the text, which is being classified. -/
  | missed (text : String)
  /-- It has come to an end. -/
  | done (outcome : Except Failure Mapping)

/-- A worker that prepares one statement. -/
structure Worker where
  /-- The statement. -/
  mapping : Mapping
  /-- How far its preparation has come. -/
  progress : Progress

namespace Worker

/-- A worker that has not begun. -/
def start (mapping : Mapping) : Worker :=
  { mapping := mapping, progress := .waiting }

/-- What a worker knows after it has looked at the cache. -/
def lookUp
    (cache : Cache)
    (mapping : Mapping) : Progress :=
  if mapping.needsClassification then
    match mapping.rawText with
    | none => .done (.error .absentStatement)
    | some text =>
        if Text.allBlank text.toList then
          .done (.ok (mapping.complete Classification.ofBlank).namedTables)
        else
          match cache.find? text with
          | some found => .done (.ok (mapping.complete found).namedTables)
          | none => .missed text
  else .done (.ok mapping.namedTables)

/-- One atomic step of a worker on the shared cache. -/
def step
    (evict : Eviction)
    (dialect : Sql.Dialect)
    (cache : Cache)
    (worker : Worker) : Worker × Cache :=
  match worker.progress with
  | .waiting => ({ worker with progress := lookUp cache worker.mapping }, cache)
  | .missed text =>
      let found := (Classification.ofText dialect text.toList).value
      ({ worker with progress := .done (.ok (worker.mapping.complete found).namedTables) },
        cache.insert evict text found)
  | .done _ => (worker, cache)

/-- The outcome of a worker that is done. -/
def outcome? (worker : Worker) : Option (Except Failure Mapping) :=
  match worker.progress with
  | .done outcome => some outcome
  | _ => none

end Worker

/-- The workers of a run and the cache that they share. -/
structure Pool where
  /-- The dialect of the texts. -/
  dialect : Sql.Dialect
  /-- The shared cache. -/
  cache : Cache
  /-- The workers, in the order of their statements. -/
  workers : List Worker

/-- Which worker moves, and which entries go if it has to make room in the cache. -/
structure Turn where
  /-- The number of the worker. -/
  worker : Nat
  /-- The choice of entries. -/
  evict : Eviction

namespace Pool

/-- One worker moves. -/
def take (pool : Pool) (turn : Turn) : Pool :=
  match pool.workers[turn.worker]? with
  | none => pool
  | some worker =>
      let moved := worker.step turn.evict pool.dialect pool.cache
      { pool with cache := moved.2, workers := pool.workers.set turn.worker moved.1 }

/-- Workers move in the given order. -/
def play (pool : Pool) (turns : List Turn) : Pool :=
  turns.foldl take pool

/-- Two turns for each of `count` workers from number `first` on, one worker after the other. -/
def inOrder (evict : Eviction) (first count : Nat) : List Turn :=
  (List.range' first count).flatMap fun index => [⟨index, evict⟩, ⟨index, evict⟩]

end Pool

/-- An order in which workers move.  Those that are not done after the given turns come to their
end one after the other. -/
structure Schedule where
  /-- The turns. -/
  turns : List Turn
  /-- The choice of entries in the turns after them. -/
  last : Eviction

namespace Engine

/-- The workers of a run before the first turn. -/
def pool (engine : Engine) (facts : Facts) : Pool where
  dialect := engine.classifier.dialect
  cache := engine.classifier.cache
  workers := facts.mappings.map Worker.start

/-- Analyse facts, with the statements prepared side by side. -/
def runInterleaved
    (engine : Engine)
    (schedule : Schedule)
    (facts : Facts) : Report × Engine :=
  let pool := (engine.pool facts).play
    (schedule.turns ++ Pool.inOrder schedule.last 0 facts.mappings.length)
  (engine.reportOf facts (pool.workers.filterMap Worker.outcome?),
    { engine with classifier := { engine.classifier with cache := pool.cache } })

/-- The engine after some runs. -/
def after
    (engine : Engine)
    (runs : List (Schedule × Facts)) : Engine :=
  runs.foldl (fun current run => (current.runInterleaved run.1 run.2).2) engine

/-- The engine with nothing in its cache. -/
def cleared (engine : Engine) : Engine :=
  { engine with
    classifier := Classifier.fresh engine.classifier.dialect engine.classifier.cache.capacity }

end Engine

namespace Worker

/-- What a worker knows is right: a text that it missed is the one it has to classify, and an
outcome is the one that its statement has. -/
def Sound
    (dialect : Sql.Dialect)
    (worker : Worker) : Prop :=
  match worker.progress with
  | .waiting => True
  | .missed text =>
      worker.mapping.needsClassification = true ∧ worker.mapping.rawText = some text ∧
        Text.allBlank text.toList = false
  | .done outcome => outcome = worker.mapping.outcome dialect

@[simp] theorem mapping_step
    (evict : Eviction)
    (dialect : Sql.Dialect)
    (cache : Cache)
    (worker : Worker) :
    (worker.step evict dialect cache).1.mapping = worker.mapping := by
  unfold step
  split <;> rfl

/-- What a worker learns from a coherent cache is right. -/
theorem sound_lookUp
    {dialect : Sql.Dialect}
    {cache : Cache}
    (coherent : cache.Coherent dialect)
    (mapping : Mapping) :
    Sound dialect { mapping := mapping, progress := lookUp cache mapping } := by
  unfold lookUp
  split
  · next needed =>
      cases raw : mapping.rawText with
      | none => simp [Sound, Mapping.outcome, needed, raw]
      | some text =>
          by_cases blank : Text.allBlank text.toList
          · simp [Sound, Mapping.outcome, Classification.ofRaw, needed, raw, blank]
          · cases hit : cache.find? text with
            | none => simp [Sound, needed, raw, blank, hit]
            | some found =>
                have known := coherent.of_find? hit
                simp [Sound, Mapping.outcome, Classification.ofRaw, needed, raw, blank, hit, known]
  · next given => simp [Sound, Mapping.outcome, given]

/-- A step keeps what a worker knows right. -/
theorem Sound.step
    {dialect : Sql.Dialect}
    {cache : Cache}
    {worker : Worker}
    (sound : worker.Sound dialect)
    (coherent : cache.Coherent dialect)
    (evict : Eviction) : (worker.step evict dialect cache).1.Sound dialect := by
  obtain ⟨mapping, progress⟩ := worker
  cases progress with
  | waiting => exact sound_lookUp coherent mapping
  | missed text =>
      obtain ⟨needed, raw, filled⟩ := sound
      simp only at needed raw filled
      simp [Worker.step, Sound, Mapping.outcome, Classification.ofRaw, needed, raw, filled]
  | done outcome => exact sound

/-- A step keeps the cache coherent. -/
theorem coherent_step
    {dialect : Sql.Dialect}
    {cache : Cache}
    (coherent : cache.Coherent dialect)
    (evict : Eviction)
    (worker : Worker) : (worker.step evict dialect cache).2.Coherent dialect := by
  unfold step
  split
  · exact coherent
  · exact coherent.insert evict _
  · exact coherent

/-- A worker that has looked at the cache has begun. -/
theorem lookUp_ne_waiting (cache : Cache) (mapping : Mapping) :
    lookUp cache mapping ≠ .waiting := by
  unfold lookUp
  split
  · cases mapping.rawText with
    | none => simp
    | some text =>
        simp only
        split
        · simp
        · cases cache.find? text <;> simp
  · simp

/-- Two steps bring a worker to its end, whatever happens between them. -/
theorem isSome_outcome?_step_step
    (worker : Worker)
    (evict later : Eviction)
    (dialect laterDialect : Sql.Dialect)
    (cache laterCache : Cache) :
    ((worker.step evict dialect cache).1.step later laterDialect laterCache).1.outcome?.isSome := by
  obtain ⟨mapping, progress⟩ := worker
  cases progress with
  | waiting =>
      cases learnt : lookUp cache mapping with
      | waiting => exact absurd learnt (lookUp_ne_waiting cache mapping)
      | missed text => simp [step, learnt, outcome?]
      | done outcome => simp [step, learnt, outcome?]
  | missed text => rfl
  | done outcome => rfl

end Worker

namespace Pool

/-- The cache is coherent, and the workers prepare these statements and know what is right. -/
structure Sound
    (dialect : Sql.Dialect)
    (mappings : List Mapping)
    (pool : Pool) : Prop where
  /-- The texts are of this dialect. -/
  dialect_eq : pool.dialect = dialect
  /-- The cache is coherent. -/
  coherent : pool.cache.Coherent dialect
  /-- The workers prepare these statements, in order. -/
  mappings_eq : pool.workers.map Worker.mapping = mappings
  /-- What the workers know is right. -/
  sound : ∀ worker ∈ pool.workers, worker.Sound dialect

namespace Sound

variable
  {dialect : Sql.Dialect}
  {mappings : List Mapping}
  {pool : Pool}

/-- A turn keeps a pool sound. -/
theorem take
    (sound : pool.Sound dialect mappings)
    (turn : Turn) : (pool.take turn).Sound dialect mappings := by
  unfold Pool.take
  split
  · exact sound
  · next worker present =>
      have workerSound := sound.sound worker (List.mem_of_getElem? present)
      refine ⟨sound.dialect_eq, ?_, ?_, ?_⟩
      · simp only [sound.dialect_eq]
        exact Worker.coherent_step sound.coherent turn.evict worker
      · have position : mappings[turn.worker]? = some worker.mapping := by
          rw [← sound.mappings_eq, List.getElem?_map, present, Option.map_some]
        obtain ⟨inside, equal⟩ := List.getElem?_eq_some_iff.mp position
        simp only [List.map_set, Worker.mapping_step, sound.mappings_eq]
        rw [← equal, List.set_getElem_self]
      · intro other otherPresent
        rcases List.mem_or_eq_of_mem_set otherPresent with old | rfl
        · exact sound.sound other old
        · simp only [sound.dialect_eq]
          exact workerSound.step sound.coherent turn.evict

theorem play
    (sound : pool.Sound dialect mappings)
    (turns : List Turn) : (pool.play turns).Sound dialect mappings := by
  induction turns generalizing pool with
  | nil => exact sound
  | cons turn others inductionHypothesis => exact inductionHypothesis (sound.take turn)

/-- The outcomes of workers that are all done are those of their statements. -/
theorem outcomes_eq
    (sound : pool.Sound dialect mappings)
    (finished : ∀ worker ∈ pool.workers, worker.outcome?.isSome) :
    pool.workers.filterMap Worker.outcome? = mappings.map (Mapping.outcome dialect) := by
  have each (worker : Worker) (present : worker ∈ pool.workers) :
      worker.outcome? = some (worker.mapping.outcome dialect) := by
    have workerSound := sound.sound worker present
    have workerFinished := finished worker present
    obtain ⟨mapping, progress⟩ := worker
    cases progress with
    | waiting => simp [Worker.outcome?] at workerFinished
    | missed text => simp [Worker.outcome?] at workerFinished
    | done outcome => exact congrArg some workerSound
  rw [← sound.mappings_eq, List.map_map, List.filterMap_congr each]
  change pool.workers.filterMap (some ∘ (Mapping.outcome dialect ∘ Worker.mapping)) = _
  rw [List.filterMap_eq_map]

end Sound

/-- Worker number `index` is done. -/
def IsDone (pool : Pool) (index : Nat) : Prop :=
  ∃ worker, pool.workers[index]? = some worker ∧ worker.outcome?.isSome

@[simp] theorem length_workers_take (pool : Pool) (turn : Turn) :
    (pool.take turn).workers.length = pool.workers.length := by
  unfold take
  split
  · rfl
  · rw [List.length_set]

/-- A worker that is done stays done. -/
theorem IsDone.take
    {pool : Pool}
    {index : Nat}
    (finished : pool.IsDone index)
    (turn : Turn) : (pool.take turn).IsDone index := by
  obtain ⟨worker, present, outcome⟩ := finished
  unfold Pool.take
  split
  · exact ⟨worker, present, outcome⟩
  · next moving movingPresent =>
      by_cases same : turn.worker = index
      · subst same
        obtain rfl : moving = worker := Option.some_inj.mp (movingPresent.symm.trans present)
        obtain ⟨inside, _⟩ := List.getElem?_eq_some_iff.mp present
        refine ⟨_, List.getElem?_set_self inside, ?_⟩
        obtain ⟨mapping, progress⟩ := moving
        cases progress with
        | waiting => simp [Worker.outcome?] at outcome
        | missed text => simp [Worker.outcome?] at outcome
        | done result => exact outcome
      · exact ⟨worker, by rw [List.getElem?_set_ne same]; exact present, outcome⟩

/-- A worker that is done stays done in any number of turns. -/
theorem IsDone.play
    {pool : Pool}
    {index : Nat}
    (finished : pool.IsDone index)
    (turns : List Turn) : (pool.play turns).IsDone index := by
  induction turns generalizing pool with
  | nil => exact finished
  | cons turn others inductionHypothesis => exact inductionHypothesis (finished.take turn)

/-- Two turns bring a worker to its end. -/
theorem isDone_take_take
    {pool : Pool}
    {index : Nat}
    (inside : index < pool.workers.length)
    (evict : Eviction) :
    ((pool.take ⟨index, evict⟩).take ⟨index, evict⟩).IsDone index := by
  obtain ⟨worker, first⟩ : ∃ worker, pool.workers[index]? = some worker :=
    ⟨_, List.getElem?_eq_getElem inside⟩
  have moved : (pool.take ⟨index, evict⟩).workers[index]? =
      some (worker.step evict pool.dialect pool.cache).1 := by
    rw [take, first]
    exact List.getElem?_set_self inside
  have movedInside : index < (pool.take ⟨index, evict⟩).workers.length := by
    rw [length_workers_take]
    exact inside
  rw [take, moved]
  exact ⟨_, List.getElem?_set_self movedInside, worker.isSome_outcome?_step_step _ _ _ _ _ _⟩

theorem play_append (pool : Pool) (first second : List Turn) :
    pool.play (first ++ second) = (pool.play first).play second :=
  List.foldl_append

theorem inOrder_succ (evict : Eviction) (first count : Nat) :
    inOrder evict first (count + 1) =
      ⟨first, evict⟩ :: ⟨first, evict⟩ :: inOrder evict (first + 1) count := by
  simp [inOrder, List.range'_succ]

/-- Turns in order bring each of these workers to its end. -/
theorem isDone_play_inOrder
    {pool : Pool}
    {first count index : Nat}
    (evict : Eviction)
    (inside : first + count ≤ pool.workers.length)
    (lower : first ≤ index)
    (upper : index < first + count) : (pool.play (inOrder evict first count)).IsDone index := by
  induction count generalizing pool first with
  | zero => omega
  | succ count inductionHypothesis =>
      rw [inOrder_succ]
      change (((pool.take ⟨first, evict⟩).take ⟨first, evict⟩).play
        (inOrder evict (first + 1) count)).IsDone index
      rcases Nat.eq_or_lt_of_le lower with equal | less
      · subst equal
        exact (isDone_take_take (by omega) evict).play _
      · apply inductionHypothesis
        · rw [length_workers_take, length_workers_take]
          omega
        · exact less
        · omega

theorem take_middle
    (dialect : Sql.Dialect)
    (cache : Cache)
    (before : List Worker)
    (worker : Worker)
    (others : List Worker)
    (evict : Eviction) :
    (Pool.mk dialect cache (before ++ worker :: others)).take ⟨before.length, evict⟩ =
      { dialect := dialect
        cache := (worker.step evict dialect cache).2
        workers := before ++ (worker.step evict dialect cache).1 :: others } := by
  simp [take]

end Pool

namespace Worker

/-- The two steps of a worker, one right behind the other, are the preparation of its statement. -/
theorem step_step_start
    (evict : Eviction)
    (classifier : Classifier)
    (mapping : Mapping) :
    ((start mapping).step evict classifier.dialect classifier.cache).1.step evict
        classifier.dialect ((start mapping).step evict classifier.dialect classifier.cache).2 =
      ({ mapping := mapping, progress := .done (mapping.prepare evict classifier).value.1 },
        (mapping.prepare evict classifier).value.2.cache) := by
  unfold Mapping.prepare
  by_cases needed : mapping.needsClassification
  · cases raw : mapping.rawText with
    | none => simp [start, step, lookUp, needed, raw, Classifier.classify, Except.map]
    | some text =>
        by_cases blank : Text.allBlank text.toList
        · simp [start, step, lookUp, needed, raw, blank, Classifier.classify,
            Classifier.classifyText, Except.map]
        · cases hit : classifier.cache.find? text <;>
            simp [start, step, lookUp, needed, raw, blank, hit, Classifier.classify,
              Classifier.classifyText, Except.map]
  · simp [start, step, lookUp, needed]

end Worker

/-- The outcomes of workers that are done. -/
theorem Worker.filterMap_outcome?_done
    {mappings : List Mapping}
    {results : List (Except Failure Mapping)}
    (same : results.length = mappings.length) :
    (List.zipWith (fun mapping outcome => Worker.mk mapping (.done outcome))
      mappings results).filterMap outcome? = results := by
  induction mappings generalizing results with
  | nil => simpa using (List.eq_nil_of_length_eq_zero same).symm
  | cons mapping others inductionHypothesis =>
      cases results with
      | nil => simp at same
      | cons result rest =>
          simp only [List.zipWith_cons_cons, List.filterMap_cons, outcome?]
          rw [inductionHypothesis (by simpa using same)]

/-- Workers that have all their turns one after the other do what preparing the statements one
after the other does. -/
theorem Pool.play_inOrder_start
    (evict : Eviction)
    (classifier : Classifier)
    (before : List Worker)
    (mappings : List Mapping) :
    (Pool.mk classifier.dialect classifier.cache (before ++ mappings.map Worker.start)).play
        (inOrder evict before.length mappings.length) =
      { dialect := classifier.dialect
        cache := (Mapping.prepareAll evict classifier mappings).value.2.cache
        workers := before ++ List.zipWith
          (fun mapping outcome => { mapping := mapping, progress := .done outcome })
          mappings (Mapping.prepareAll evict classifier mappings).value.1 } := by
  induction mappings generalizing before classifier with
  | nil => simp [inOrder, play, Mapping.prepareAll]
  | cons mapping others inductionHypothesis =>
      rw [List.length_cons, inOrder_succ, List.map_cons]
      change (((Pool.mk classifier.dialect classifier.cache
        (before ++ Worker.start mapping :: others.map Worker.start)).take
          ⟨before.length, evict⟩).take ⟨before.length, evict⟩).play _ = _
      rw [take_middle, take_middle, Worker.step_step_start]
      have later := inductionHypothesis (mapping.prepare evict classifier).value.2
        (before ++ [{ mapping := mapping
                      progress := .done (mapping.prepare evict classifier).value.1 }])
      rw [Mapping.dialect_prepare, List.length_append, List.length_singleton,
        List.append_assoc, List.singleton_append] at later
      rw [later]
      simp [Mapping.prepareAll]

namespace Engine

/-- A schedule without turns is a run that prepares the statements one after the other. -/
theorem runInterleaved_nil
    (engine : Engine)
    (evict : Eviction)
    (facts : Facts) :
    engine.runInterleaved { turns := [], last := evict } facts =
      (engine.run evict facts).value := by
  have played := Pool.play_inOrder_start evict engine.classifier [] facts.mappings
  rw [List.nil_append, List.length_nil, List.nil_append] at played
  have lengths :
      (Mapping.prepareAll evict engine.classifier facts.mappings).value.1.length =
        facts.mappings.length :=
    Mapping.length_prepareAll evict engine.classifier facts.mappings
  have dialect := Mapping.dialect_prepareAll evict engine.classifier facts.mappings
  unfold runInterleaved pool
  simp only [List.nil_append, played, Worker.filterMap_outcome?_done lengths]
  simp only [run, Preparation.run, Logged.value_bind, Logged.value_pure, reportOf, ← dialect]

/-- The workers of a coherent engine are sound before the first turn. -/
theorem sound_pool
    {engine : Engine}
    (coherent : engine.classifier.Coherent)
    (facts : Facts) :
    (engine.pool facts).Sound engine.classifier.dialect facts.mappings where
  dialect_eq := rfl
  coherent := coherent
  mappings_eq := by simp [pool, Worker.start, Function.comp_def]
  sound := by
    intro worker present
    obtain ⟨mapping, _, rfl⟩ := List.mem_map.mp present
    trivial

/-- Whatever the schedule, a coherent engine gives the report of an engine that has classified
nothing. -/
theorem runInterleaved_fst
    {engine : Engine}
    (coherent : engine.classifier.Coherent)
    (schedule : Schedule)
    (facts : Facts) :
    (engine.runInterleaved schedule facts).1 = engine.plainReport facts := by
  have sound := (sound_pool coherent facts).play
    (schedule.turns ++ Pool.inOrder schedule.last 0 facts.mappings.length)
  have length := congrArg List.length ((sound_pool coherent facts).play schedule.turns).mappings_eq
  rw [List.length_map] at length
  have finished : ∀ worker ∈ ((engine.pool facts).play
      (schedule.turns ++ Pool.inOrder schedule.last 0 facts.mappings.length)).workers,
      worker.outcome?.isSome := by
    intro worker present
    obtain ⟨index, position⟩ := List.mem_iff_getElem?.mp present
    obtain ⟨inside, _⟩ := List.getElem?_eq_some_iff.mp position
    have total := congrArg List.length sound.mappings_eq
    rw [List.length_map] at total
    have ended : (((engine.pool facts).play schedule.turns).play
        (Pool.inOrder schedule.last 0 facts.mappings.length)).IsDone index :=
      Pool.isDone_play_inOrder schedule.last (by omega) (Nat.zero_le index) (by omega)
    rw [← Pool.play_append] at ended
    obtain ⟨other, otherPosition, outcome⟩ := ended
    obtain rfl : other = worker := Option.some_inj.mp (otherPosition.symm.trans position)
    exact outcome
  simp only [runInterleaved, plainReport, sound.outcomes_eq finished]

/-- Whatever the schedule, a run keeps an engine coherent. -/
theorem coherent_runInterleaved
    {engine : Engine}
    (coherent : engine.classifier.Coherent)
    (schedule : Schedule)
    (facts : Facts) : (engine.runInterleaved schedule facts).2.classifier.Coherent :=
  ((sound_pool coherent facts).play _).coherent

/-- After any runs an engine is coherent and differs from what it was in its cache alone. -/
theorem after_eq
    {engine : Engine}
    (coherent : engine.classifier.Coherent)
    (runs : List (Schedule × Facts)) :
    ∃ cache : Cache, cache.Coherent engine.classifier.dialect ∧
      engine.after runs =
        { engine with classifier := { engine.classifier with cache := cache } } := by
  induction runs generalizing engine with
  | nil => exact ⟨engine.classifier.cache, coherent, rfl⟩
  | cons run others inductionHypothesis =>
      obtain ⟨cache, cacheCoherent, equal⟩ :=
        inductionHypothesis (coherent_runInterleaved coherent run.1 run.2)
      exact ⟨cache, cacheCoherent, equal⟩

/-- Neither the runs before nor the order in which workers move can be seen in a report.  For
every engine, every capacity of its cache, every sequence of earlier runs, every schedule of this
run and every choice of evicted entries, the report is the one that a fresh engine gives when it
prepares the statements one after the other.  At every moment of every run, each entry of the
cache is what its text is classified as. -/
theorem report_independent_of_schedule
    (engine : Engine)
    (history : List (Schedule × Facts))
    (schedule : Schedule)
    (evict freshEvict : Eviction)
    (facts : Facts) :
    let fresh := engine.cleared
    let used := fresh.after history
    (used.runInterleaved schedule facts).1 = (fresh.run freshEvict facts).value.1 ∧
      (used.run evict facts).value.1 = (fresh.run freshEvict facts).value.1 ∧
      ∀ entry ∈ ((used.pool facts).play schedule.turns).cache.entries,
        entry.2 = (Classification.ofText engine.classifier.dialect entry.1.toList).value := by
  intro fresh used
  have freshCoherent : fresh.classifier.Coherent :=
    Classifier.Coherent.fresh _ _
  obtain ⟨cache, coherent, usedEqual⟩ := after_eq freshCoherent history
  have usedCoherent : used.classifier.Coherent := by
    rw [show used = _ from usedEqual]
    exact coherent
  have same : used.plainReport facts = fresh.plainReport facts := by
    rw [show used = _ from usedEqual]
    exact reportOf_classifier fresh _ facts _
  refine ⟨?_, ?_, ?_⟩
  · rw [runInterleaved_fst usedCoherent, run_fst freshCoherent, same]
  · rw [run_fst usedCoherent, run_fst freshCoherent, same]
  · have sound := (sound_pool usedCoherent facts).play schedule.turns
    have dialect : used.classifier.dialect = engine.classifier.dialect := by
      rw [show used = _ from usedEqual]
      rfl
    rw [← dialect]
    exact sound.coherent

end Engine
end TableReach
